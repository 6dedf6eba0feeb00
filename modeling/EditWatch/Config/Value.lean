import EditWatch.Json.Numeral
import EditWatch.Number.Reading

/-!
# EditWatch.Config.Value -- values of settings

A source of settings gives values with a type of their own. A setting that is a text takes any
simple value in its plainest spelling; a setting that is a number takes a text, a number or a
truth value that stands for one.
-/

namespace EditWatch.Config

open EditWatch.Number EditWatch.Text

/-- What a source gives for a setting. Nothing is made of the inside of a list or a table. -/
inductive Value where
  | nothing
  | flag (b : Bool)
  | whole (n : Int)
  | real (x : Double)
  | text (s : String)
  | compound
  deriving Repr, DecidableEq

namespace Value

/-- Doubles are written with all their digits and without a point after the last whole one. -/
def realLayout : Json.RealLayout where
  tie := .up
  leastPoint := -400
  greatestPoint := 400
  plusMark := ['e']
  minusMark := ['e', '-']
  wholeEnd := []

/-- The spelling of a double. -/
def realText (x : Double) : String :=
  match x with
  | .nan => "NaN"
  | .infinite false => "inf"
  | .infinite true => "-inf"
  | .finite .. => String.ofList (Json.renderReal realLayout x)

/-- The text that a value stands for. -/
def text? : Value → Option String
  | .flag true => some "true"
  | .flag false => some "false"
  | .whole n => some (String.ofList (Json.renderInt n))
  | .real x => some (realText x)
  | .text s => some s
  | .nothing | .compound => none

/-- A text in small letters. -/
def lower (s : String) : String := String.ofList (s.toList.map Char.toLower)

/-- The words that stand for one and for zero. -/
def wordNumber? (s : String) : Option Nat :=
  if ["true", "on", "yes"].contains (lower s) then some 1
  else if ["false", "off", "no"].contains (lower s) then some 0
  else none

/-- The number that a value stands for, if it is below `2 ^ 64`. A double is rounded, and kept
within the bounds. -/
def number? : Value → Option Nat
  | .flag b => some b.toNat
  | .whole n => if 0 ≤ n ∧ n < 0x10000000000000000 then some n.toNat else none
  | .real x => some (x.roundWithin 0xFFFFFFFFFFFFFFFF)
  | .text s => (wordNumber? s).or (readBounded? 0x10000000000000000 s.toList)
  | .nothing | .compound => none

/-- The value of a text whose type has to be guessed: a truth value in letters of either case, an
integer of 64 bits, a double, or else the text itself. -/
def guess (s : String) : Value :=
  match lower s with
  | "true" => .flag true
  | "false" => .flag false
  | _ =>
    match readSigned64? s.toList, Double.read? s.toList with
    | some n, _ => .whole n
    | none, some x => .real x
    | none, none => .text s

end Value

end EditWatch.Config
