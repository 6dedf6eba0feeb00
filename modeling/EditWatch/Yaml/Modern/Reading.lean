import EditWatch.Yaml.Basic
import EditWatch.Yaml.Modern.Scan

/-!
# EditWatch.Yaml.Modern.Reading -- documents by version 1.2

A node that is left out is nothing, so that it reads like a tilde. An alias stands for a node that
is complete before it. A key may be left out before its colon, and a document may begin without a
mark behind the end of another.
-/

namespace EditWatch.Yaml.Modern

/-- The tokens that are still to be read, and what anchors and tag handles of the document stand
for. -/
structure Reading where
  tokens : List Token
  /-- The numbers of the anchors, the latest first. -/
  anchors : List (String × Nat)
  /-- How many nodes with an anchor have begun. -/
  begun : Nat
  /-- The nodes with an anchor that are complete, by their numbers. -/
  complete : List (Nat × Node)
  handles : List (String × String)

/-- A reader of part of the tokens; it fails where they make no sense. -/
abbrev Reader := StateT Reading Option

/-- The scalar that stands where a node is left out. -/
def absent : Node := .scalar none true "~"

namespace Reader

/-- The next token. -/
def peek : Reader (Option Token) := return (← get).tokens.head?

/-- The next token passed. -/
def drop : Reader Unit := modify fun r => { r with tokens := r.tokens.drop 1 }

/-- The next token passed if it is the given one. -/
def take? (t : Token) : Reader Bool := do
  if (← peek) = some t then
    drop
    return true
  else return false

/-- Whether the next token is one of the given ones. -/
def isAny (ts : List Token) : Reader Bool := return (← peek).any ts.contains

/-- The value of a look-up. -/
def find? [BEq κ] (key : κ) (entries : List (κ × α)) : Option α :=
  (entries.find? fun e => e.1 == key).map Prod.snd

/-- The tag that a handle and a suffix make. A handle with a name has to be declared. -/
def tagOf (handle suffix : String) : Reader Tag := do
  match find? handle (← get).handles with
  | some start => return ⟨start, suffix⟩
  | none =>
    if handle = "!!" then return ⟨coreTag, suffix⟩
    else if handle = "" ∨ handle = "!" then return ⟨handle, suffix⟩
    else failure

/-- A node with an anchor begins. -/
def begin (name : String) : Reader Nat := do
  let r ← get
  set { r with anchors := (name, r.begun) :: r.anchors, begun := r.begun + 1 }
  return r.begun

/-- The number of the anchor and the tag of a node, in either order. -/
def properties : Nat → Option Nat → Option Tag → Reader (Option Nat × Option Tag)
  | 0, number, tag => return (number, tag)
  | fuel + 1, number, tag => do
    match ← peek, number, tag with
    | some (.anchor name), none, _ =>
      drop
      properties fuel (some (← begin name)) tag
    | some (.tag handle suffix), _, none =>
      drop
      properties fuel number (some (← tagOf handle suffix))
    | _, _, _ => return (number, tag)

/-- The node that is complete now, kept if it has an anchor. -/
def keep (number : Option Nat) (n : Node) : Reader Node := do
  match number with
  | some k => modify fun r => { r with complete := (k, n) :: r.complete }
  | none => pure ()
  return n

/-- The node that an alias stands for. -/
def named (name : String) : Reader Node := do
  let r ← get
  match find? name r.anchors with
  | some k => return (find? k r.complete).getD (.alias k)
  | none => failure

mutual

/-- A node. Outside of brackets it may be a block; as a value it may be a list whose items stand
in the column of its key. -/
def node : Nat → Bool → Bool → Reader Node
  | 0, _, _ => failure
  | fuel + 1, block, value => do
    match ← peek with
    | some (.alias name) =>
      drop
      named name
    | _ =>
      let (number, tag) ← properties 2 none none
      let next ← peek
      match next with
      | some (.scalar plain text) =>
        drop
        keep number (.scalar tag plain text)
      | some .flowListStart =>
        drop
        keep number (.list (← flowItems fuel true))
      | some .flowMappingStart =>
        drop
        keep number (.mapping (← flowEntries fuel true))
      | _ =>
        if value && next = some .blockItem then keep number (.list (← valueItems fuel))
        else if block && next = some .blockListStart then
          drop
          keep number (.list (← blockItems fuel))
        else if block && next = some .blockMappingStart then
          drop
          keep number (.mapping (← blockEntries fuel))
        else if number.isSome || tag.isSome then keep number (.scalar tag true "")
        else failure

/-- A node, unless one of the given tokens comes next. -/
def nodeUnless : Nat → Bool → Bool → List Token → Reader Node
  | 0, _, _, _ => failure
  | fuel + 1, block, value, ends => do
    if ← isAny ends then return absent else node fuel block value

/-- The items of a block up to its end. -/
def blockItems : Nat → Reader (List Node)
  | 0 => failure
  | fuel + 1 => do
    if ← take? .blockItem then
      let n ← nodeUnless fuel true false [.blockItem, .blockEnd]
      return n :: (← blockItems fuel)
    else if ← take? .blockEnd then return []
    else failure

/-- The items of a list in the column of its key. -/
def valueItems : Nat → Reader (List Node)
  | 0 => failure
  | fuel + 1 => do
    if ← take? .blockItem then
      let n ← nodeUnless fuel true false [.blockItem, .key, .value, .blockEnd]
      return n :: (← valueItems fuel)
    else return []

/-- The entries of a block up to its end. -/
def blockEntries : Nat → Reader (List (Node × Node))
  | 0 => failure
  | fuel + 1 => do
    if ← take? .blockEnd then return []
    else
      let k ← if ← take? .key then nodeUnless fuel true true [.key, .value, .blockEnd]
        else if ← isAny [.value] then pure absent
        else failure
      let v ← if ← take? .value then nodeUnless fuel true true [.key, .value, .blockEnd]
        else pure absent
      return (k, v) :: (← blockEntries fuel)

/-- The value of an entry in brackets, if there is one. -/
def flowValue : Nat → Token → Reader Node
  | 0, _ => failure
  | fuel + 1, close => do
    if ← take? .value then nodeUnless fuel false false [.flowItem, close] else return absent

/-- The items of a list in brackets up to its end; an entry with a marked key among them is a
mapping of its own. The mark behind a key that is left out is taken with it. -/
def flowItems : Nat → Bool → Reader (List Node)
  | 0, _ => failure
  | fuel + 1, first => do
    if ← take? .flowListEnd then return []
    else
      let separated ← if first then pure true else take? .flowItem
      if !separated then failure
      else if ← take? .flowListEnd then return []
      else
        let n ← if ← take? .key then
            let k ← if ← isAny [.value, .flowItem, .flowListEnd] then
                drop
                pure absent
              else node fuel false false
            let v ← flowValue fuel .flowListEnd
            pure (Node.mapping [(k, v)])
          else node fuel false false
        return n :: (← flowItems fuel false)

/-- The entries of a mapping in brackets up to its end. -/
def flowEntries : Nat → Bool → Reader (List (Node × Node))
  | 0, _ => failure
  | fuel + 1, first => do
    if ← take? .flowMappingEnd then return []
    else
      let separated ← if first then pure true else take? .flowItem
      if !separated then failure
      else if ← take? .flowMappingEnd then return []
      else
        let entry ← if ← take? .key then
            let k ← nodeUnless fuel false false [.value, .flowItem, .flowMappingEnd]
            let v ← flowValue fuel .flowMappingEnd
            pure (k, v)
          else if ← isAny [.value] then do
            let v ← flowValue fuel .flowMappingEnd
            pure (absent, v)
          else do
            let k ← node fuel false false
            pure (k, absent)
        return entry :: (← flowEntries fuel false)

end

/-! ## Documents -/

/-- The directives before a document: one version at most. Only the last one can declare a
handle. -/
def directives : Nat → (versioned : Bool) → Reader Unit
  | 0, _ => return
  | fuel + 1, versioned => do
    match ← peek with
    | some (.version ..) =>
      if versioned then failure
      else
        modify fun r => { r with handles := [] }
        drop
        directives fuel true
    | some (.handle name start) =>
      modify fun r => { r with handles := [(name, start)] }
      drop
      directives fuel versioned
    | _ => return

/-- Whether the next token is a directive. -/
def atDirective : Reader Bool := do
  match ← peek with
  | some (.version ..) | some (.handle ..) => return true
  | _ => return false

/-- The node of a document behind its mark. -/
def marked (fuel : Nat) : Reader Node := do
  if !(← take? .documentStart) then failure
  else if (← peek).isNone || (← atDirective) || (← isAny [.documentStart, .documentEnd]) then
    return absent
  else node fuel true false

/-- The marks of the end of a document passed. -/
def dropEnds : Nat → Reader Unit
  | 0 => return
  | fuel + 1 => do
    if ← take? .documentEnd then dropEnds fuel else return

/-- The documents from here on; the flag tells whether the next one may begin without a mark. -/
def documents : Nat → Bool → Reader (List Document)
  | 0, _ => failure
  | fuel + 1, bare => do
    dropEnds fuel
    if (← peek).isNone then return []
    else
      modify fun r => { r with anchors := [], handles := [] }
      let directed ← atDirective
      directives fuel false
      let n ← if bare && !directed && !(← isAny [.documentStart]) then node fuel true false
        else marked fuel
      let ended ← take? .documentEnd
      if !ended && (← atDirective) then failure
      else return ⟨n, []⟩ :: (← documents fuel ended)

end Reader

/-- The documents that a text holds. -/
def documents? (text : String) : Option (List Document) := do
  let tokens ← tokens? text.toList
  let fuel := 4 * tokens.length + 4
  let (documents, r) ← (Reader.documents fuel true).run ⟨tokens, [], 0, [], []⟩
  if r.tokens.isEmpty then some documents else none

end EditWatch.Yaml.Modern
