import EditWatch.Json.Basic
import EditWatch.Text.Blank
import EditWatch.Text.Numeral

/-!
# EditWatch.Document.Path -- property paths

A path such as `target.parentNode.className` or `addedNodes[0].id` names a place inside a JSON
value. Its parts stand between dots; a part is a field name, or index groups, or a name with
groups behind it. Following a path never fails: a missing field, an index out of range, a step
into the wrong kind of value and a `null` anywhere on the way all make the place absent.
-/

namespace EditWatch.Document

/-- One step into a value. -/
inductive Segment where
  | field (name : String)
  | index (n : UInt64)
  deriving Repr, DecidableEq

/-- Why a text is no path. -/
inductive PathFault where
  | emptyPath
  | emptySegment
  | textAfterIndex
  | unterminatedIndex
  | indexNotANumber
  deriving Repr, DecidableEq

/-- The fault in words. -/
def PathFault.reason : PathFault → String
  | .emptyPath => "empty path"
  | .emptySegment => "empty segment"
  | .textAfterIndex => "unexpected text after index"
  | .unterminatedIndex => "unterminated index"
  | .indexNotANumber => "index is not a number"

/-- The message for a text that is no path. -/
def PathFault.message (fault : PathFault) (path : String) : String :=
  "invalid property path `" ++ path ++ "`: " ++ fault.reason

/-- A property path: its text and the steps the text spells. -/
structure Path where
  raw : String
  segments : List Segment
  deriving Repr, DecidableEq

namespace Path

mutual

/-- The index groups that a text consists of. -/
def groups : List Char → Except PathFault (List Segment)
  | [] => .ok []
  | '[' :: rest => group [] rest
  | _ => .error .textAfterIndex

/-- The rest of a group and the groups behind it; `seen` holds the characters of the group read
so far, the last one first. -/
def group (seen : List Char) : List Char → Except PathFault (List Segment)
  | [] => .error .unterminatedIndex
  | ']' :: rest =>
    match Text.readBounded? 0x10000000000000000 seen.reverse with
    | none => .error .indexNotANumber
    | some n => (groups rest).map (.index (UInt64.ofNat n) :: ·)
  | c :: rest => group (c :: seen) rest

end

/-- The steps of one part between dots. -/
def part (cs : List Char) : Except PathFault (List Segment) :=
  if cs.isEmpty then .error .emptySegment
  else
    let name := cs.takeWhile (· ≠ '[')
    (groups (cs.dropWhile (· ≠ '['))).map fun steps =>
      if name.isEmpty then steps else .field (String.ofList name) :: steps

/-- The steps of several parts, one part after the other. -/
def parts : List (List Char) → Except PathFault (List Segment)
  | [] => .ok []
  | p :: ps => do
    let steps ← part p
    let others ← parts ps
    return steps ++ others

/-- The steps a text spells. -/
def segments? (raw : String) : Except PathFault (List Segment) :=
  if raw.isEmpty then .error .emptyPath
  else parts (Text.pieces (· == '.') raw.toList)

/-- The path a text spells. -/
def parse (raw : String) : Except PathFault Path :=
  (segments? raw).map fun segments => ⟨raw, segments⟩

/-- A path keeps the text that it was read from. -/
theorem raw_of_parse {raw : String} {path : Path} (h : parse raw = .ok path) : path.raw = raw := by
  rw [parse] at h
  cases hsegments : segments? raw with
  | error fault =>
      rw [hsegments] at h
      exact nomatch h
  | ok segments =>
      rw [hsegments] at h
      exact (congrArg Path.raw (Except.ok.inj h)).symm

/-- The value one step further, unless it is absent. -/
def step (j : Json) : Segment → Option Json
  | .field name => match j with
    | .obj members => Json.member? name members
    | _ => none
  | .index n => match j with
    | .arr items => items[n.toNat]?
    | _ => none

/-- The value at the end of the steps. A `null` counts as absent. -/
def follow (j : Json) : List Segment → Option Json
  | [] => some j
  | s :: rest => match step j s with
    | none => none
    | some .null => none
    | some v => follow v rest

/-- The value that the path names inside `root`. -/
def resolve (path : Path) (root : Json) : Option Json := follow root path.segments

/-- The value that a text names inside `root`; a text that is no path names none. -/
def extract (root : Json) (raw : String) : Option Json :=
  match parse raw with
  | .ok path => path.resolve root
  | .error _ => none

/-! ## Canonical text -/

/-- One step as text, with a dot before a field unless it is the first step. -/
def renderStep (first : Bool) : Segment → List Char
  | .field name => (if first then [] else ['.']) ++ name.toList
  | .index n => '[' :: (Text.decimal n.toNat ++ [']'])

/-- Steps behind the first one. -/
def renderRest : List Segment → List Char
  | [] => []
  | s :: rest => renderStep false s ++ renderRest rest

/-- The canonical text of a list of steps. -/
def render : List Segment → String
  | [] => ""
  | s :: rest => String.ofList (renderStep true s ++ renderRest rest)

/-! ## JSON -/

def ofJson? : Json → Option Path
  | .str raw => (parse raw).toOption
  | _ => none

def toJson (path : Path) : Json := .str path.raw

end Path

end EditWatch.Document
