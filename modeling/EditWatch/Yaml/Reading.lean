import EditWatch.Yaml.Basic
import EditWatch.Yaml.Scan

/-!
# EditWatch.Yaml.Reading -- documents out of a text

A text holds documents, each with one node. A node that has an anchor may be named again by an
alias, also from inside. A node may be left out before a colon, a comma or a bracket, and at the
end of a block.
-/

namespace EditWatch.Yaml

/-- The tokens that are still to be read, and what anchors and tag handles of the document stand
for. -/
structure Reading where
  tokens : List Token
  /-- The numbers of the anchors, the latest first. -/
  anchors : List (String × Nat)
  /-- The numbers of the nodes that have an anchor, the node that begins last first. -/
  begun : List Nat
  /-- The nodes that have an anchor, by how many such nodes begin before them. -/
  complete : List (Nat × Node)
  handles : List (String × String)

/-- A reader of part of the tokens; it fails where they make no sense. -/
abbrev Reader := StateT Reading Option

namespace Reader

/-- The next token. -/
def peek : Reader (Option Token) := return (← get).tokens.head?

/-- The next token passed. -/
def drop : Reader Unit := modify fun r => { r with tokens := r.tokens.drop 1 }

/-- The next token passed if it is the given one. -/
def take? (t : Token) : Reader Bool := do
  if (← peek) = some t then
    drop
    return true
  else return false

/-- Whether the next token is one of the given ones. -/
def isAny (ts : List Token) : Reader Bool := return (← peek).any ts.contains

/-- The value of a look-up by name. -/
def named (name : String) (entries : List (String × α)) : Option α :=
  (entries.find? fun e => e.1 == name).map Prod.snd

/-- The tag that a handle and a suffix make. -/
def tagOf (handle suffix : String) : Reader Tag := do
  match handle, named handle (← get).handles with
  | "", _ => return ⟨"", suffix⟩
  | _, some start => return ⟨start, suffix⟩
  | "!", none => return ⟨"!", suffix⟩
  | "!!", none => return ⟨coreTag, suffix⟩
  | _, none => failure

/-- The anchor and the tag of a node, in either order. -/
def properties : Nat → Option String → Option Tag → Reader (Option String × Option Tag)
  | 0, anchor, tag => return (anchor, tag)
  | fuel + 1, anchor, tag => do
    match ← peek, anchor, tag with
    | some (.anchor name), none, _ =>
      drop
      properties fuel (some name) tag
    | some (.tag handle suffix), _, none =>
      let tag ← tagOf handle suffix
      drop
      properties fuel anchor (some tag)
    | _, _, _ => return (anchor, tag)

/-- The names, each once. -/
def distinct (entries : List (String × Nat)) : List String := (entries.map Prod.fst).eraseDups

/-- A node with an anchor begins: the anchor is numbered by how many different names came before
it. Tells how many nodes with an anchor begin before this one. -/
def begin? (anchor : Option String) : Reader (Option Nat) := do
  match anchor with
  | none => return none
  | some name =>
    let r ← get
    let number := (distinct r.anchors).length
    set { r with anchors := (name, number) :: r.anchors, begun := number :: r.begun }
    return some r.begun.length

/-- The node that is complete now, kept if it has an anchor. -/
def keep (place : Option Nat) (n : Node) : Reader Node := do
  match place with
  | some k => modify fun r => { r with complete := (k, n) :: r.complete }
  | none => pure ()
  return n

/-- The nodes by the numbers of their anchors. Of two with one number the one that begins later
comes first. -/
def numbered (begun : List Nat) (complete : List (Nat × Node)) : List (Nat × Node) :=
  match begun with
  | [] => []
  | number :: before =>
    match complete.find? fun e => e.1 == before.length with
    | some e => (number, e.2) :: numbered before complete
    | none => numbered before complete

mutual

/-- A node. Outside of brackets it may be a block; as a value it may be a list whose items stand
in the column of its key. -/
def node : Nat → Bool → Bool → Reader Node
  | 0, _, _ => failure
  | fuel + 1, block, value => do
    match ← peek with
    | some (.alias name) =>
      match named name (← get).anchors with
      | some number =>
        drop
        return .alias number
      | none => failure
    | _ =>
      let (anchor, tag) ← properties 2 none none
      let place ← begin? anchor
      match ← peek with
      | some (.scalar plain text) =>
        drop
        keep place (.scalar (tag.filter (· ≠ ⟨"", "!"⟩)) plain text)
      | some .flowListStart =>
        drop
        keep place (.list (← flowItems fuel true))
      | some .flowMappingStart =>
        drop
        keep place (.mapping (← flowEntries fuel true))
      | some .blockListStart =>
        if block then
          drop
          keep place (.list (← blockItems fuel))
        else failure
      | some .blockMappingStart =>
        if block then
          drop
          keep place (.mapping (← blockEntries fuel))
        else failure
      | some .blockItem =>
        if value then keep place (.list (← valueItems fuel))
        else if anchor.isSome || tag.isSome then keep place (.scalar tag true "")
        else failure
      | _ =>
        if anchor.isSome || tag.isSome then keep place (.scalar tag true "") else failure

/-- A node, unless one of the given tokens comes next. -/
def nodeUnless : Nat → Bool → Bool → List Token → Reader Node
  | 0, _, _, _ => failure
  | fuel + 1, block, value, ends => do
    if ← isAny ends then return .absent else node fuel block value

/-- The items of a block up to its end. -/
def blockItems : Nat → Reader (List Node)
  | 0 => failure
  | fuel + 1 => do
    if ← take? .blockItem then
      let n ← nodeUnless fuel true false [.blockItem, .blockEnd]
      return n :: (← blockItems fuel)
    else if ← take? .blockEnd then return []
    else failure

/-- The items of a list in the column of its key. -/
def valueItems : Nat → Reader (List Node)
  | 0 => failure
  | fuel + 1 => do
    if ← take? .blockItem then
      let n ← nodeUnless fuel true false [.blockItem, .key, .value, .blockEnd]
      return n :: (← valueItems fuel)
    else return []

/-- The entries of a block up to its end. -/
def blockEntries : Nat → Reader (List (Node × Node))
  | 0 => failure
  | fuel + 1 => do
    if ← take? .blockEnd then return []
    else if ← take? .key then
      let k ← nodeUnless fuel true true [.key, .value, .blockEnd]
      let v ← if ← take? .value then nodeUnless fuel true true [.key, .value, .blockEnd]
        else pure Node.absent
      return (k, v) :: (← blockEntries fuel)
    else failure

/-- The value of an entry in brackets, if there is one. -/
def flowValue : Nat → Token → Reader Node
  | 0, _ => failure
  | fuel + 1, close => do
    if ← take? .value then nodeUnless fuel false false [.flowItem, close] else return .absent

/-- The items of a list in brackets up to its end; an entry among them is a mapping of its own.
The mark behind a key that is left out is taken with it. -/
def flowItems : Nat → Bool → Reader (List Node)
  | 0, _ => failure
  | fuel + 1, first => do
    if ← take? .flowListEnd then return []
    else
      let separated ← if first then pure true else take? .flowItem
      if !separated then failure
      else if ← take? .flowListEnd then return []
      else
        let n ← if ← take? .key then
            let k ← if ← isAny [.value, .flowItem, .flowListEnd] then
                drop
                pure Node.absent
              else node fuel false false
            let v ← flowValue fuel .flowListEnd
            pure (Node.mapping [(k, v)])
          else node fuel false false
        return n :: (← flowItems fuel false)

/-- The entries of a mapping in brackets up to its end. -/
def flowEntries : Nat → Bool → Reader (List (Node × Node))
  | 0, _ => failure
  | fuel + 1, first => do
    if ← take? .flowMappingEnd then return []
    else
      let separated ← if first then pure true else take? .flowItem
      if !separated then failure
      else if ← take? .flowMappingEnd then return []
      else
        let entry ← if ← take? .key then
            let k ← nodeUnless fuel false false [.value, .flowItem, .flowMappingEnd]
            let v ← flowValue fuel .flowMappingEnd
            pure (k, v)
          else do
            let k ← node fuel false false
            pure (k, Node.absent)
        return entry :: (← flowEntries fuel false)

end

/-! ## Documents -/

/-- The directives before a document: one version at most, and each handle once. Tells whether
there are any. -/
def directives : Nat → (versioned directed : Bool) → Reader Bool
  | 0, _, directed => return directed
  | fuel + 1, versioned, directed => do
    match ← peek with
    | some (.version major minor) =>
      if major = 1 ∧ (minor = 1 ∨ minor = 2) ∧ !versioned then
        drop
        directives fuel true true
      else failure
    | some (.handle name start) =>
      if (named name (← get).handles).isSome then failure
      else
        drop
        modify fun r => { r with handles := (name, start) :: r.handles }
        directives fuel versioned true
    | _ => return directed

/-- Whether the next token is one that stands between documents. -/
def atBoundary : Reader Bool := do
  match ← peek with
  | none | some .documentStart | some .documentEnd | some (.version ..) | some (.handle ..) =>
    return true
  | _ => return false

/-- The documents from here on; only the first one may begin without a mark. -/
def documents : Nat → Bool → Reader (List Document)
  | 0, _ => failure
  | fuel + 1, first => do
    if ← (if first then pure false else take? .documentEnd) then documents fuel false
    else if (← peek).isNone then return []
    else
      modify fun r => ⟨r.tokens, [], [], [], []⟩
      let directed ← directives fuel false false
      let marked ← take? .documentStart
      if !marked && (directed || !first) then failure
      else
        let n ← if ← (if marked then atBoundary else pure false) then pure Node.absent
          else node fuel true false
        let r ← get
        return ⟨n, numbered r.begun r.complete⟩ :: (← documents fuel false)

end Reader

/-- The documents that a text holds. -/
def documents? (text : String) : Option (List Document) := do
  let tokens ← tokens? text.toList
  let fuel := 4 * tokens.length + 4
  let (documents, r) ← (Reader.documents fuel true).run ⟨tokens, [], [], [], []⟩
  if r.tokens.isEmpty then some documents else none

end EditWatch.Yaml
