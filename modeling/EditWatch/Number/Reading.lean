import EditWatch.Number.Double
import EditWatch.Text.Numeral

/-!
# EditWatch.Number.Reading -- doubles out of text

A text names a double if it is a decimal, with or without sign, point and exponent, or one of the
words for infinity and for what is no number, in letters of either case. The point may stand at
the beginning or at the end of the digits.
-/

namespace EditWatch.Number.Double

open EditWatch.Text

/-- The text without its sign, and whether that was a minus. -/
def splitSign (cs : List Char) : Bool × List Char :=
  match cs with
  | '-' :: rest => (true, rest)
  | '+' :: rest => (false, rest)
  | _ => (false, cs)

/-- The double that a word names. -/
def ofWord? (negative : Bool) (cs : List Char) : Option Double :=
  match String.ofList (cs.map Char.toLower) with
  | "inf" | "infinity" => some (.infinite negative)
  | "nan" => some .nan
  | _ => none

/-- The exponent behind its mark; zero if there is none. -/
def readExponent? (cs : List Char) : Option Int :=
  match cs with
  | [] => some 0
  | c :: rest =>
    if c == 'e' || c == 'E' then
      let (minus, ds) := splitSign rest
      (readDecimal? ds).map fun n => if minus then -(n : Int) else n
    else none

/-- An exponent beyond which every double is zero or infinite, whatever its digits. -/
def exponentLimit (digits : Nat) : Int := digits + 400

/-- The double of digits with the point before the last `places` of them, times a power of ten. -/
def ofDigits (negative : Bool) (digits : List Char) (places : Nat) (e : Int) : Double :=
  let limit := exponentLimit digits.length
  ofDecimal negative (decimalValue digits) (max (-limit) (min limit (e - places)))

/-- The double that a text names. -/
def read? (cs : List Char) : Option Double :=
  let (negative, cs) := splitSign cs
  match ofWord? negative cs with
  | some x => some x
  | none =>
    let whole := cs.takeWhile Char.isDigit
    let rest := cs.dropWhile Char.isDigit
    let (fraction, rest) := match rest with
      | '.' :: rest => (rest.takeWhile Char.isDigit, rest.dropWhile Char.isDigit)
      | _ => ([], rest)
    let digits := whole ++ fraction
    if digits.isEmpty then none
    else (readExponent? rest).map (ofDigits negative digits fraction.length)

end EditWatch.Number.Double
