import EditWatch.Number.Double
import Std.Data.ExtTreeMap

/-!
# EditWatch.Json.Basic -- JSON values

An object keeps its members in the order in which a text gives them, repeats included, because a
record refuses a repeated field while a free value lets the last one win. A free value is in
canonical form: the members of every object stand in the order of their names, each name once.
-/

namespace EditWatch

/-- An integer that a 64-bit word can hold, signed or unsigned. -/
structure WordInt where
  val : Int
  lower : -0x8000000000000000 ≤ val
  upper : val < 0x10000000000000000
  deriving Repr, DecidableEq

/-- A number is an integer of at most 64 bits, or else a finite double. -/
inductive Json.Number where
  | int (n : WordInt)
  | real (x : Number.Double)
  deriving Repr, DecidableEq

/-- A JSON value. `unreadable` stands for a part of a text that has the form of a value but
names none: a number beyond the range of doubles, a string with half of a surrogate pair, or a
container that is nested too deep. Who skips the part does not mind it, who needs its value
refuses it. -/
inductive Json where
  | null
  | bool (b : Bool)
  | num (n : Json.Number)
  | str (s : String)
  | arr (items : List Json)
  | obj (members : List (String × Json))
  | unreadable
  deriving Repr, Inhabited

namespace Json

/-- The integer `n`, for a word `n`. -/
def ofUInt64 (n : UInt64) : Json :=
  .num (.int ⟨n.toNat, by omega, by have := n.toNat_lt; omega⟩)

/-- A natural number as a JSON number; one that no word can hold has no value. -/
def ofNat (n : Nat) : Json :=
  if h : (n : Int) < 0x10000000000000000 then .num (.int ⟨n, by omega, h⟩) else .unreadable

/-- The text, or nothing. -/
def ofString? : Option String → Json
  | some s => .str s
  | none => .null

mutual

/-- How deep containers are nested; a value that is no container has depth 0. -/
def depth : Json → Nat
  | .arr items => depthItems items + 1
  | .obj members => depthMembers members + 1
  | _ => 0

/-- The greatest depth among the items of an array. -/
def depthItems : List Json → Nat
  | [] => 0
  | j :: js => max j.depth (depthItems js)

/-- The greatest depth among the members of an object. -/
def depthMembers : List (String × Json) → Nat
  | [] => 0
  | (_, j) :: ms => max j.depth (depthMembers ms)

end

mutual

/-- No part of the value is unreadable. -/
def readable : Json → Bool
  | .arr items => readableItems items
  | .obj members => readableMembers members
  | .unreadable => false
  | _ => true

def readableItems : List Json → Bool
  | [] => true
  | j :: js => j.readable && readableItems js

def readableMembers : List (String × Json) → Bool
  | [] => true
  | (_, j) :: ms => j.readable && readableMembers ms

end

/-- Members in the order of their names. Of two members with one name the later wins. -/
def sortMembers (ms : List (String × Json)) : List (String × Json) :=
  (ms.foldl (fun map m => map.insert m.1 m.2) (∅ : Std.ExtTreeMap String Json)).toList

mutual

/-- The value with the members of every object sorted by name and the last of each name kept. -/
def canonical : Json → Json
  | .arr items => .arr (canonicalItems items)
  | .obj members => .obj (sortMembers (canonicalMembers members))
  | j => j

def canonicalItems : List Json → List Json
  | [] => []
  | j :: js => j.canonical :: canonicalItems js

def canonicalMembers : List (String × Json) → List (String × Json)
  | [] => []
  | (k, j) :: ms => (k, j.canonical) :: canonicalMembers ms

end

mutual

/-- Every object lists its members in strictly increasing order of their names. -/
def IsCanonical : Json → Prop
  | .arr items => IsCanonicalItems items
  | .obj members => (members.map Prod.fst).Pairwise (· < ·) ∧ IsCanonicalMembers members
  | _ => True

def IsCanonicalItems : List Json → Prop
  | [] => True
  | j :: js => j.IsCanonical ∧ IsCanonicalItems js

def IsCanonicalMembers : List (String × Json) → Prop
  | [] => True
  | (_, j) :: ms => j.IsCanonical ∧ IsCanonicalMembers ms

end

/-- The value of the first member with the name. -/
def member? (name : String) : List (String × Json) → Option Json
  | [] => none
  | (k, j) :: ms => if k = name then some j else member? name ms

/-! ## Reading simple values -/

def string? : Json → Option String
  | .str s => some s
  | _ => none

/-- The integer below `bound`, if the value is one and is not negative. -/
def nat? (bound : Nat) : Json → Option Nat
  | .num (.int n) => if 0 ≤ n.val ∧ n.val < bound then some n.val.toNat else none
  | _ => none

def uint64? (j : Json) : Option UInt64 := (j.nat? 0x10000000000000000).map UInt64.ofNat

def uint32? (j : Json) : Option UInt32 := (j.nat? 0x100000000).map UInt32.ofNat

def uint16? (j : Json) : Option UInt16 := (j.nat? 0x10000).map UInt16.ofNat

/-- A list, each item of which is read by `item?`. -/
def list? {α : Type} (item? : Json → Option α) : Json → Option (List α)
  | .arr items => items.mapM item?
  | _ => none

/-- Nothing for `null`, else what `value?` reads. -/
def optional? {α : Type} (value? : Json → Option α) : Json → Option (Option α)
  | .null => some none
  | j => (value? j).map some

/-- A free value, in canonical form. -/
def free? (j : Json) : Option Json :=
  if j.readable then some j.canonical else none

end Json

end EditWatch
