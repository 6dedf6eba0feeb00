import EditWatch.Config.Layer
import EditWatch.Yaml.Modern.Reading

/-!
# EditWatch.Config.Yaml -- settings in YAML

The type of a scalar without quotes follows from its text, or from its tag if it has one. A scalar
that does not fit its tag is void: as a value it is nothing, and as a key it is passed over, so
that the node behind it becomes the key. A key is a text or an integer, and no key may come twice
in a mapping, at any depth.
-/

namespace EditWatch.Config

open EditWatch.Number EditWatch.Text
open EditWatch.Yaml (Node)

/-! ## Scalars -/

/-- A node with the types of its scalars. A double is its text, which need not spell one. -/
inductive Typed where
  | void
  | nothing
  | flag (b : Bool)
  | whole (n : Int)
  | real (text : String)
  | text (s : String)
  | list (items : List Typed)
  | mapping (entries : List (Typed × Typed))
  deriving Repr, BEq

/-- The integer of 64 bits that digits of a base spell, with or without sign. -/
def readBased? (base : Nat) (cs : List Char) : Option Int :=
  let (minus, ds) := Double.splitSign cs
  let digits? := ds.mapM hexValue?
  match digits? with
  | some (d :: rest) =>
    if (d :: rest).all (· < base) then
      let size : Nat := (d :: rest).foldl (fun n d => base * n + d) 0
      let n : Int := if minus then -(size : Int) else size
      if -0x8000000000000000 ≤ n ∧ n < 0x8000000000000000 then some n else none
    else none
  | _ => none

/-- The integer that a scalar spells, by the mark before its digits. -/
def readMarked? (cs : List Char) : Option Int :=
  match cs with
  | '0' :: 'x' :: rest => readBased? 16 rest
  | '0' :: 'o' :: rest => readBased? 8 rest
  | '+' :: rest => readSigned64? rest
  | _ => none

/-- The words for infinite values and for no number that count as doubles and spell none. -/
def dottedWords : List String :=
  [".inf", ".Inf", ".INF", "+.inf", "+.Inf", "+.INF", "-.inf", "-.Inf", "-.INF", ".nan", ".NAN"]

/-- Whether a scalar counts as a double. -/
def isReal (s : String) : Bool := dottedWords.contains s || (Double.read? s.toList).isSome

namespace Typed

/-- The truth value that a word spells. -/
def ofFlag (s : String) (otherwise : Typed) : Typed :=
  if s = "true" then .flag true else if s = "false" then .flag false else otherwise

/-- A scalar without quotes and tag. -/
def ofPlain (s : String) : Typed :=
  match (readMarked? s.toList).or (readSigned64? s.toList) with
  | some n => .whole n
  | none =>
    if s = "~" ∨ s = "null" then .nothing
    else ofFlag s (if isReal s then .real s else .text s)

/-- A scalar with a tag of the language. -/
def ofTagged (name s : String) : Typed :=
  match name with
  | "bool" => ofFlag s .void
  | "int" => ((readSigned64? s.toList).map .whole).getD .void
  | "float" => if isReal s then .real s else .void
  | "null" => if s = "~" ∨ s = "null" then .nothing else .void
  | _ => .text s

/-- A scalar. -/
def ofScalar (tag : Option Yaml.Tag) (plain : Bool) (s : String) : Typed :=
  if !plain then .text s
  else match tag with
    | none => ofPlain s
    | some t => if t.start = Yaml.coreTag then ofTagged t.name s else .text s

/-! ## Mappings -/

/-- The entries of a mapping out of its nodes in a row. A key without a value is dropped. -/
def paired : List Typed → List (Typed × Typed)
  | .void :: rest => paired rest
  | k :: v :: rest => (k, v) :: paired rest
  | _ => []

/-- Whether no two of the keys are the same. -/
def areDistinct : List Typed → Bool
  | [] => true
  | k :: ks => !ks.contains k && areDistinct ks

mutual

/-- A node with types. -/
def ofNode? : Node → Option Typed
  | .scalar tag plain s => some (ofScalar tag plain s)
  | .alias _ => some .void
  | .list items => (ofNodes? items).map .list
  | .mapping es => (ofEntries? es).bind fun row =>
    let entries := paired row
    if areDistinct (entries.map Prod.fst) then some (.mapping entries) else none

/-- Nodes with types. -/
def ofNodes? : List Node → Option (List Typed)
  | [] => some []
  | n :: ns =>
    match ofNode? n, ofNodes? ns with
    | some t, some ts => some (t :: ts)
    | _, _ => none

/-- The keys and values of entries in a row. -/
def ofEntries? : List (Node × Node) → Option (List Typed)
  | [] => some []
  | (k, v) :: es =>
    match ofNode? k, ofNode? v, ofEntries? es with
    | some k, some v, some row => some (k :: v :: row)
    | _, _, _ => none

end

/-- A key as a text. -/
def keyText? : Typed → Option String
  | .text s => some s
  | .whole n => some (String.ofList (Json.renderInt n))
  | _ => none

mutual

/-- The value of a node, if every double in it spells a number and every key is one. -/
def value? : Typed → Option Value
  | .void | .nothing => some .nothing
  | .flag b => some (.flag b)
  | .whole n => some (.whole n)
  | .real s => (Double.read? s.toList).map .real
  | .text s => some (.text s)
  | .list items => (values? items).map fun _ => .compound
  | .mapping es => (members? es).map fun _ => .compound

/-- The values of nodes. -/
def values? : List Typed → Option (List Value)
  | [] => some []
  | t :: ts =>
    match value? t, values? ts with
    | some v, some vs => some (v :: vs)
    | _, _ => none

/-- The values of entries by their keys. -/
def members? : List (Typed × Typed) → Option (List (String × Value))
  | [] => some []
  | (k, t) :: es =>
    match keyText? k, value? t, members? es with
    | some k, some v, some vs => some ((k, v) :: vs)
    | _, _, _ => none

end

end Typed

/-! ## Texts -/

/-- The layer of a YAML text: of its only document, which has to be a mapping, or empty if there
is none. -/
def Layer.ofYamlText? (text : String) : Option Layer :=
  match Yaml.Modern.documents? text with
  | some [] => some []
  | some [d] => match Typed.ofNode? d.root with
    | some (.mapping es) => (Typed.members? es).map ofEntries
    | _ => none
  | _ => none

end EditWatch.Config
