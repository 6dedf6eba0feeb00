import EditWatch.Json.Basic
import EditWatch.Number.Shortest
import EditWatch.Text.Numeral

/-!
# EditWatch.Json.Numeral -- how numbers are spelled

A numeral is a sign, integer digits, and optionally a fraction and an exponent. Without fraction
and exponent it names an integer if a 64-bit word can hold it. Everything else names a double,
found in two roundings: as many digits as fit an unsigned word of 64 bits are taken as an
integer and rounded, and the result is multiplied or divided by a rounded power of ten. Minus
zero is a double.
-/

namespace EditWatch.Json

open EditWatch.Text EditWatch.Number

/-- A numeral taken apart. -/
structure Numeral where
  negative : Bool
  whole : List Char
  fraction : Option (List Char)
  exponent : Option (Bool × List Char)
  deriving Repr, DecidableEq

namespace Numeral

/-! ## Form -/

/-- A run of at least one digit, and what follows it. -/
def digits? (cs : List Char) : Option (List Char × List Char) :=
  match cs.takeWhile Char.isDigit with
  | [] => none
  | ds => some (ds, cs.dropWhile Char.isDigit)

/-- Digits of an integer: no zero in front of another digit. -/
def whole? (cs : List Char) : Option (List Char × List Char) :=
  match digits? cs with
  | some ('0' :: _ :: _, _) => none
  | r => r

/-- A point and at least one digit, or nothing. -/
def fraction? (cs : List Char) : Option (Option (List Char) × List Char) :=
  match cs with
  | '.' :: rest => (digits? rest).map fun p => (some p.1, p.2)
  | _ => some (none, cs)

/-- The mark of an exponent, an optional sign and at least one digit, or nothing. The flag tells
a minus sign. -/
def exponent? (cs : List Char) : Option (Option (Bool × List Char) × List Char) :=
  let signed (rest : List Char) : Option (Option (Bool × List Char) × List Char) :=
    match rest with
    | '+' :: rest => (digits? rest).map fun p => (some (false, p.1), p.2)
    | '-' :: rest => (digits? rest).map fun p => (some (true, p.1), p.2)
    | _ => (digits? rest).map fun p => (some (false, p.1), p.2)
  match cs with
  | 'e' :: rest => signed rest
  | 'E' :: rest => signed rest
  | _ => some (none, cs)

/-- The numeral at the head of a text, and what follows it. -/
def read? (cs : List Char) : Option (Numeral × List Char) :=
  let (negative, cs) := match cs with
    | '-' :: rest => (true, rest)
    | _ => (false, cs)
  match whole? cs with
  | none => none
  | some (whole, cs) =>
    match fraction? cs with
    | none => none
    | some (fraction, cs) =>
      match exponent? cs with
      | none => none
      | some (exponent, cs) => some (⟨negative, whole, fraction, exponent⟩, cs)

/-! ## Value -/

/-- The largest unsigned word of 64 bits. -/
def maxWord : Nat := 0xFFFFFFFFFFFFFFFF

/-- Digits are appended to `acc` as long as the result fits a word. The second component counts
the digits left over. -/
def gather (acc : Nat) : List Char → Nat × Nat
  | [] => (acc, 0)
  | d :: ds =>
    let next := 10 * acc + (d.toNat - 48)
    if next ≤ maxWord then gather next ds else (acc, ds.length + 1)

/-- The greatest and the least exponent of ten that are told apart from what lies beyond. -/
def exponentBound : Int := 0x7FFFFFFF

/-- The largest power of ten that a double holds. -/
def maxPower : Nat := 308

/-- A double times a power of ten. Powers that no double holds are applied in several steps if
they are negative; a positive one is out of range unless the double is zero. -/
def scale : Nat → Double → Int → Option Double
  | 0, _, _ => none
  | fuel + 1, x, e =>
    if e.natAbs ≤ maxPower then
      if 0 ≤ e then
        let y := x.mul (Double.tenTo e.natAbs)
        if y.isFinite then some y else none
      else some (x.div (Double.tenTo e.natAbs))
    else if x.isZero then some x
    else if 0 ≤ e then none
    else scale fuel (x.div (Double.tenTo maxPower)) (e + maxPower)

/-- The double that digits, with the point moved by `e` places, name. -/
def double (negative : Bool) (significand : Nat) (e : Int) : Option Double :=
  (scale (e.natAbs / maxPower + 2) (Double.ofNat significand) e).map fun x =>
    if negative then x.neg else x

/-- The exponent that the digits after the mark spell, `none` if it is beyond the bound. -/
def exponentValue? (ds : List Char) : Option Int :=
  let n : Int := decimalValue ds
  if n ≤ exponentBound then some n else none

/-- The sum, kept within the bound. -/
def clampExponent (e : Int) : Int := max (-exponentBound - 1) (min e exponentBound)

/-- The double a numeral names, `none` if it is too large. -/
def toDouble? (n : Numeral) : Option Double :=
  let (significand, left) := gather 0 n.whole
  let fraction := n.fraction.getD []
  let (significand, unused) := gather significand fraction
  let start : Int := (left : Int) - ((fraction.length : Int) - unused)
  match n.exponent with
  | none => double n.negative significand start
  | some (minus, ds) =>
    match exponentValue? ds with
    | some e =>
      double n.negative significand (clampExponent (if minus then start - e else start + e))
    | none => if significand ≠ 0 ∧ !minus then none else some (Double.zero n.negative)

/-- The integer a numeral names, if it has neither fraction nor exponent, is not minus zero and
fits a word. -/
def toInt? (n : Numeral) : Option WordInt :=
  if n.fraction.isSome ∨ n.exponent.isSome then none
  else
    let m : Nat := decimalValue n.whole
    if n.negative then
      if h : 0 < m ∧ (m : Int) ≤ 0x8000000000000000 then some ⟨-m, by omega, by omega⟩ else none
    else if h : (m : Int) < 0x10000000000000000 then some ⟨m, by omega, h⟩
    else none

/-- The value of a numeral. -/
def toJson (n : Numeral) : Json :=
  match n.toInt? with
  | some i => .num (.int i)
  | none => match n.toDouble? with
    | some x => .num (.real x)
    | none => .unreadable

end Numeral

/-! ## Writing -/

/-- How a double is laid out. -/
structure RealLayout where
  /-- Which of two equally near decimals is written. -/
  tie : Shortest.Tie
  /-- The least place of the decimal point that is written without an exponent. -/
  leastPoint : Int
  /-- The greatest such place. -/
  greatestPoint : Int
  /-- The mark of a positive exponent, and of a negative one. -/
  plusMark : List Char
  minusMark : List Char
  /-- What a number without fraction digits ends in, when no exponent follows. -/
  wholeEnd : List Char

/-- Doubles from `1e-5` up to `1e16` are written with all their digits and at least one after
the point; the exponent of others carries its sign. -/
def realLayout : RealLayout where
  tie := .toEven
  leastPoint := -4
  greatestPoint := 16
  plusMark := ['e', '+']
  minusMark := ['e', '-']
  wholeEnd := ['.', '0']

/-- Digits with the point at the given place, in full. -/
def positional (wholeEnd : List Char) (ds : List Char) (point : Int) : List Char :=
  match point with
  | .negSucc k => '0' :: '.' :: (List.replicate (k + 1) '0' ++ ds)
  | .ofNat 0 => '0' :: '.' :: ds
  | .ofNat k =>
    if ds.length ≤ k then ds ++ List.replicate (k - ds.length) '0' ++ wholeEnd
    else ds.take k ++ '.' :: ds.drop k

/-- One digit before the point, the others behind it, then the exponent. -/
def scientific (l : RealLayout) (ds : List Char) (point : Int) : List Char :=
  let mantissa := match ds with
    | [] => []
    | [d] => [d]
    | d :: rest => d :: '.' :: rest
  let e := point - 1
  mantissa ++ (if e < 0 then l.minusMark else l.plusMark) ++ decimal e.natAbs

/-- A double in its shortest form. -/
def renderReal (l : RealLayout) : Double → List Char
  | .finite negative m e =>
    let sign := if negative then ['-'] else []
    if m = 0 then sign ++ '0' :: l.wholeEnd
    else
      let d := Shortest.decimal l.tie m e
      let ds := decimal d.digits
      sign ++ (if l.leastPoint ≤ d.point ∧ d.point ≤ l.greatestPoint then
        positional l.wholeEnd ds d.point
      else scientific l ds d.point)
  | _ => "null".toList

/-- An integer in decimal. -/
def renderInt (n : Int) : List Char :=
  if n < 0 then '-' :: decimal n.natAbs else decimal n.natAbs

/-- A number as it is written. -/
def Number.render : Number → List Char
  | .int n => renderInt n.val
  | .real x => renderReal realLayout x

end EditWatch.Json
