import EditWatch.Text.Blank
import EditWatch.Text.Numeral

/-!
# EditWatch.Text.Ranges -- sets and maps of code points

A set of code points is a row of closed ranges in ascending order. It is written as text, in
hexadecimal: `41-5A 5F` are the capital letters of ASCII and the low line. A map is a row of code
points in ascending order with what each is mapped to: `C0=41.300,41.301` maps two code points to
two others each, `41-5A=61` those of a range to as many from `61` on, and `100-12E/=101` every
second one of a range. Look-up halves a row with every comparison.
-/

namespace EditWatch.Text

/-- The hexadecimal number that a text spells, and zero for any other text. -/
def codeOf (cs : List Char) : Nat := (readHex? cs).getD 0

/-- The text before the first of a character, and the text behind it if there is one. -/
def splitAt (mark : Char) (cs : List Char) : List Char × Option (List Char) :=
  match cs.dropWhile (· ≠ mark) with
  | [] => (cs, none)
  | _ :: behind => (cs.takeWhile (· ≠ mark), some behind)

/-- A place in a row for a number: one where the comparison gives `eq`. The number goes before a
place where it gives `lt` and behind one where it gives `gt`. -/
def search (compare : Nat → Ordering) : Nat → Nat → Nat → Option Nat
  | 0, _, _ => none
  | fuel + 1, low, high =>
    if high ≤ low then none
    else
      let middle := (low + high) / 2
      match compare middle with
      | .lt => search compare fuel low middle
      | .gt => search compare fuel (middle + 1) high
      | .eq => some middle

/-! ## Sets -/

/-- Closed ranges in ascending order. -/
structure Ranges where
  bounds : Array (Nat × Nat)
  deriving Repr

namespace Ranges

/-- A range or a single code point. -/
def ofWord (w : List Char) : Nat × Nat :=
  match splitAt '-' w with
  | (first, some last) => (codeOf first, codeOf last)
  | (only, none) => (codeOf only, codeOf only)

/-- The set that the words of a text spell. -/
def ofText (s : String) : Ranges := ⟨((words s).map fun w => ofWord w.toList).toArray⟩

/-- How a number lies to the range at a place. -/
def compareAt (r : Ranges) (n place : Nat) : Ordering :=
  match r.bounds[place]? with
  | some (first, last) => if n < first then .lt else if last < n then .gt else .eq
  | none => .lt

/-- Whether a number is in the set. -/
def contains (r : Ranges) (n : Nat) : Bool :=
  (search (r.compareAt n) (r.bounds.size + 1) 0 r.bounds.size).isSome

end Ranges

/-! ## Maps -/

/-- Code points in ascending order with what each is mapped to. -/
structure CodeMap where
  entries : Array (Nat × List Nat)
  deriving Repr

namespace CodeMap

/-- The entries of a range of code points, a given step apart. -/
def ofRange (first last step target : Nat) : List (Nat × List Nat) :=
  (List.range ((last - first) / step + 1)).map fun i =>
    (first + i * step, [target + i * step])

/-- The entries of code points in a row. -/
def ofTargets (first : Nat) (targets : List (List Char)) : List (Nat × List Nat) :=
  targets.mapIdx fun i t => (first + i, (pieces (· == '.') t).map codeOf)

/-- The entries that a word spells. -/
def ofWord (w : List Char) : List (Nat × List Nat) :=
  let (keys, targets) := splitAt '=' w
  let targets := targets.getD []
  match splitAt '-' keys with
  | (first, none) => ofTargets (codeOf first) (pieces (· == ',') targets)
  | (first, some last) =>
    match splitAt '/' last with
    | (last, none) => ofRange (codeOf first) (codeOf last) 1 (codeOf targets)
    | (last, some _) => ofRange (codeOf first) (codeOf last) 2 (codeOf targets)

/-- The map that the words of a text spell. -/
def ofText (s : String) : CodeMap := ⟨((words s).flatMap fun w => ofWord w.toList).toArray⟩

/-- How a number lies to the entry at a place. -/
def compareAt (m : CodeMap) (n place : Nat) : Ordering :=
  match m.entries[place]? with
  | some (key, _) => if n < key then .lt else if key < n then .gt else .eq
  | none => .lt

/-- What a code point is mapped to. -/
def find? (m : CodeMap) (n : Nat) : Option (List Nat) :=
  ((search (m.compareAt n) (m.entries.size + 1) 0 m.entries.size).bind fun place =>
    m.entries[place]?).map Prod.snd

end CodeMap

example : (Ranges.ofText "41-5A 5F").contains 0x5F = true := by decide +kernel

example : (CodeMap.ofText "41-5A=61 100-12E/=101").find? 0x102 = some [0x103] := by
  decide +kernel

end EditWatch.Text
