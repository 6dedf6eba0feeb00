import EditWatch.Document.Basic

/-!
# EditWatch.Document.Walk -- walks over a document

Upward walks follow parent links, downward walks keep a stack of nodes still to visit. Each walk
is bounded by a number of steps that a document whose links form a forest never exhausts.
-/

namespace EditWatch.Document

/-! ## Upwards -/

/-- A node and its ancestors, at most `fuel` of them, the node itself first. -/
def lineageFrom (d : Document) : Nat → NodeId → List NodeId
  | 0, _ => []
  | fuel + 1, id => id :: match d.parent? id with
    | some p => lineageFrom d fuel p
    | none => []

/-- The node and its ancestors, the node itself first; nothing if the node does not exist. -/
def lineage (d : Document) (id : NodeId) : List NodeId :=
  if d.contains id then d.lineageFrom d.size id else []

/-- The nearest node of the lineage with the token in its class. -/
def closestWithClass (d : Document) (id : NodeId) (token : String) : Option NodeId :=
  (d.lineage id).find? fun a => d.hasClass a token

/-- Whether the root is in the lineage of the node. -/
def isAttached (d : Document) (id : NodeId) : Bool :=
  match d.root with
  | some r => (d.lineage id).contains r
  | none => false

/-! ## Downwards -/

/-- What a node contributes to a text of its own: its data if it is a text node, a line feed if
it is a line break. -/
def Node.ownText (n : Node) : String :=
  match n.kind with
  | .text => n.data.getD ""
  | .element => if n.tag = some "br" then "\n" else ""

/-- The nodes that a walk visits next: the children of an element. -/
def Node.below (n : Node) : List NodeId :=
  match n.kind with
  | .text => []
  | .element => n.children

/-- The text of the nodes on the stack behind what was gathered before; `none` if the steps do
not suffice. -/
def textFrom (d : Document) : Nat → List NodeId → String → Option String
  | _, [], acc => some acc
  | 0, _ :: _, _ => none
  | fuel + 1, id :: stack, acc =>
    match d.node? id with
    | none => textFrom d fuel stack acc
    | some n => textFrom d fuel (n.below ++ stack) (acc ++ n.ownText)

/-- The text of a node: the data of all text nodes below it in document order, and a line feed
for each line break. -/
def innerText (d : Document) (id : NodeId) : Option String :=
  if d.contains id then d.textFrom (d.size + 1) [id] "" else none

/-- The first node with the token among those on the stack and below them, in document order, if
there is one; `none` if the steps do not suffice. -/
def findFrom (d : Document) (token : String) : Nat → List NodeId → Option (Option NodeId)
  | _, [] => some none
  | 0, _ :: _ => none
  | fuel + 1, id :: stack =>
    match d.node? id with
    | none => findFrom d token fuel stack
    | some n =>
      if n.hasClass token then some (some id) else findFrom d token fuel (n.children ++ stack)

/-- The first node below the root, in document order, with the token in its class. -/
def findByClass (d : Document) (token : String) : Option NodeId :=
  match d.root with
  | some r => (d.findFrom token (d.size + 1) [r]).join
  | none => none

/-- All nodes on the stack and below them that were not seen before, together with those. -/
def reachFrom (d : Document) : Nat → List NodeId → Std.ExtTreeSet NodeId → Std.ExtTreeSet NodeId
  | 0, _, seen => seen
  | _, [], seen => seen
  | fuel + 1, id :: stack, seen =>
    if seen.contains id then reachFrom d fuel stack seen
    else match d.node? id with
      | some n => reachFrom d fuel (n.children ++ stack) (seen.insert id)
      | none => reachFrom d fuel stack (seen.insert id)

/-- The number of child links of all nodes. -/
def linkCount (d : Document) : Nat :=
  d.nodes.foldl (fun n _ node => n + node.children.length) 0

/-- The nodes that child links reach from the given one. -/
def reachable (d : Document) (id : NodeId) : Std.ExtTreeSet NodeId :=
  d.reachFrom (d.linkCount + 2) [id] ∅

/-- The document without the nodes that the root does not reach, and the number of these. Without
a root all nodes are dropped. -/
def prune (d : Document) : Document × Nat :=
  match d.root with
  | none => ({ d with nodes := ∅ }, d.size)
  | some r =>
    let kept := d.reachable r
    let nodes := d.nodes.filter fun id _ => kept.contains id
    ({ d with nodes := nodes }, d.size - nodes.size)

end EditWatch.Document
