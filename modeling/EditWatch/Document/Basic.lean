import EditWatch.Document.Node
import Std.Data.ExtTreeSet

/-!
# EditWatch.Document.Basic -- documents

A document holds every node the page has reported, by number. The parent of a node and the
children of a node are both written down, so each change of the tree touches two nodes. A subtree
that was taken out stays readable, without a parent, until `prune` drops what the root no longer
reaches. Each change answers with its outcome and with the document after the attempt, so that one
left half done would show.
-/

namespace EditWatch

open Document

/-- A page: its nodes by number, and the number of the root once there is one. -/
structure Document where
  nodes : Std.ExtTreeMap NodeId Node
  root : Option NodeId

namespace Document

/-- Why a document refuses a change. -/
inductive Fault where
  | duplicateNode (id : NodeId)
  | unknownNode (id : NodeId)
  | notAChild (child parent : NodeId)
  | notText (id : NodeId)
  | textWithChildren (id : NodeId)
  deriving Repr, DecidableEq

/-- The fault in words. -/
def Fault.message : Fault → String
  | .duplicateNode id => "node " ++ nodeName id ++ " already exists"
  | .unknownNode id => "unknown node " ++ nodeName id
  | .notAChild child parent => "node " ++ nodeName child ++ " is not a child of " ++ nodeName parent
  | .notText id => "node " ++ nodeName id ++ " is not a text node"
  | .textWithChildren id => "text nodes cannot have children (node " ++ nodeName id ++ ")"

/-- The document without nodes. -/
def empty : Document := ⟨∅, none⟩

/-! ## Looking up -/

def node? (d : Document) (id : NodeId) : Option Node := d.nodes[id]?

def contains (d : Document) (id : NodeId) : Bool := (d.node? id).isSome

/-- The number of nodes, the ones taken out included. -/
def size (d : Document) : Nat := d.nodes.size

def isEmpty (d : Document) : Bool := d.nodes.isEmpty

def parent? (d : Document) (id : NodeId) : Option NodeId := (d.node? id).bind Node.parent

/-- The class string of a node, if the node exists and has one. -/
def className? (d : Document) (id : NodeId) : Option String := (d.node? id).bind Node.className?

/-- Whether the class of a node has the token; a node that does not exist has none. -/
def hasClass (d : Document) (id : NodeId) (token : String) : Bool :=
  match d.node? id with
  | some n => n.hasClass token
  | none => false

/-- The character data of a node. -/
def data? (d : Document) (id : NodeId) : Option String := (d.node? id).bind Node.data

/-- The value of the attribute `id` of a node. -/
def idAttr? (d : Document) (id : NodeId) : Option String :=
  (d.node? id).bind fun n => n.attrs["id"]?

def isText (d : Document) (id : NodeId) : Bool :=
  match d.node? id with
  | some n => n.isText
  | none => false

/-! ## Changing one node -/

/-- The document with one node replaced by its image; without the node nothing changes. -/
def modify (d : Document) (id : NodeId) (f : Node → Node) : Document :=
  match d.node? id with
  | some n => { d with nodes := d.nodes.insert id (f n) }
  | none => d

/-- The document with the nodes written into it. -/
def write (d : Document) (rows : List Node) : Document :=
  { d with nodes := rows.foldl (fun nodes n => nodes.insert n.id n) d.nodes }

/-! ## Inserting -/

/-- The first descriptor that cannot be added, in the order of the list: its number is taken, in
the document or by an earlier descriptor, or it is a text node with children. -/
def firstFault (d : Document) (seen : Std.ExtTreeSet NodeId) : List Descriptor → Option Fault
  | [] => none
  | x :: xs =>
    if d.contains x.id || seen.contains x.id then some (.duplicateNode x.id)
    else if x.isTextWithChildren then some (.textWithChildren x.id)
    else firstFault d (seen.insert x.id) xs

/-- The first descriptor in document order that keeps the subtrees from being added. -/
def descriptorFault (d : Document) (added : List Descriptor) : Option Fault :=
  d.firstFault ∅ (Descriptor.preorderAll added)

/-- What keeps subtrees from being added under a parent. Their numbers have to be different from
all in the document and from each other. -/
def insertFault (d : Document) (parent : NodeId) (added : List Descriptor) : Option Fault :=
  match d.node? parent with
  | none => some (.unknownNode parent)
  | some p =>
    if p.isText && !added.isEmpty then some (.textWithChildren parent)
    else d.descriptorFault added

/-- A subtree added behind the other children of `parent`, or standing on its own without one: the
number of its top or the reason why it is refused, and the document afterwards. The whole subtree is
checked before the first of its nodes is written. -/
def insert (d : Document) (parent : Option NodeId) (x : Descriptor) :
    Except Fault NodeId × Document :=
  let fault := match parent with
    | some p => d.insertFault p [x]
    | none => d.descriptorFault [x]
  match fault with
  | some f => (.error f, d)
  | none =>
    let d := d.write (x.rows parent)
    (.ok x.id, match parent with
      | some p => d.modify p fun n => { n with children := n.children ++ [x.id] }
      | none => d)

/-- The document that consists of one subtree. -/
def ofRoot (x : Descriptor) : Except Fault Document :=
  match empty.insert none x with
  | (.error f, _) => .error f
  | (.ok id, d) => .ok { d with root := some id }

/-! ## Taking out -/

/-- `child` taken out of the children of `parent`: whether it could be, and the document
afterwards, in which the subtree of `child` stays readable. -/
def detach (d : Document) (parent child : NodeId) : Except Fault Unit × Document :=
  match d.node? child, d.node? parent with
  | none, _ => (.error (.unknownNode child), d)
  | _, none => (.error (.unknownNode parent), d)
  | some _, some p =>
    if p.children.contains child then
      let d := d.modify parent fun n => { n with children := n.children.erase child }
      (.ok (), d.modify child fun n => { n with parent := none })
    else (.error (.notAChild child parent), d)

/-- New character data for a text node: whether it was taken, and the document afterwards. -/
def setText (d : Document) (id : NodeId) (data : String) : Except Fault Unit × Document :=
  match d.node? id with
  | none => (.error (.unknownNode id), d)
  | some n =>
    if n.isText then (.ok (), d.modify id fun n => { n with data := some data })
    else (.error (.notText id), d)

end Document

end EditWatch
