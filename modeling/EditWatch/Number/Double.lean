/-!
# EditWatch.Number.Double -- double-precision numbers in exact arithmetic

A finite double is a sign and a magnitude `mantissa * 2 ^ exponent`, held as integers, so that
every operation is a computation on `Nat` and equality of numbers is equality of values.
Rounding is to the nearest double, a half goes to the even mantissa, and what lies beyond the
largest double becomes infinite.
-/

namespace EditWatch.Number

/-- A double-precision number. A finite value built by `ofRatio` has a mantissa below `2 ^ 53`,
and one of at least `2 ^ 52` unless the exponent is the least one. -/
inductive Double where
  | finite (negative : Bool) (mantissa : Nat) (exponent : Int)
  | infinite (negative : Bool)
  | nan
  deriving Repr, DecidableEq, Inhabited

/-- The quotient rounded to the nearest integer, a half to the even one. -/
def divRoundEven (num den : Nat) : Nat :=
  let q := num / den
  let r := num % den
  if 2 * r > den ∨ (2 * r = den ∧ q % 2 = 1) then q + 1 else q

/-- The value `num * 2 ^ e` over `den`, as one pair of natural numbers. -/
def scaleByTwo (num den : Nat) (e : Int) : Nat × Nat :=
  match e with
  | .ofNat k => (num * Nat.pow 2 k, den)
  | .negSucc k => (num, den * Nat.pow 2 (k + 1))

namespace Double

/-- The exponent of the least positive double. -/
def minExponent : Int := -1074

/-- The exponent of the largest finite doubles. -/
def maxExponent : Int := 971

/-- The zero of the given sign. -/
def zero (negative : Bool) : Double := .finite negative 0 minExponent

/-- The greatest `e` with `2 ^ e ≤ num / den`, for positive arguments. -/
def floorLog2 (num den : Nat) : Int :=
  let guess : Int := (num.log2 : Int) - den.log2
  let (n, d) := scaleByTwo num den (-guess)
  if n < d then guess - 1 else guess

/-- The double nearest to `num / den`; `den` is positive. -/
def ofRatio (negative : Bool) (num den : Nat) : Double :=
  if num = 0 then zero negative
  else
    let e := max (floorLog2 num den - 52) minExponent
    let (n, d) := scaleByTwo num den (-e)
    let m := divRoundEven n d
    let (m, e) := if m = 0x20000000000000 then (0x10000000000000, e + 1) else (m, e)
    if e > maxExponent then .infinite negative else .finite negative m e

/-- The double nearest to a natural number. -/
def ofNat (n : Nat) : Double := ofRatio false n 1

/-- The double nearest to `digits * 10 ^ exponent`. -/
def ofDecimal (negative : Bool) (digits : Nat) : Int → Double
  | .ofNat k => ofRatio negative (digits * Nat.pow 10 k) 1
  | .negSucc k => ofRatio negative digits (Nat.pow 10 (k + 1))

/-- The double nearest to the power of ten. -/
def tenTo (k : Nat) : Double := ofRatio false (Nat.pow 10 k) 1

/-- The sign turned round. -/
def neg : Double → Double
  | .finite s m e => .finite (!s) m e
  | .infinite s => .infinite (!s)
  | .nan => .nan

def isZero : Double → Bool
  | .finite _ m _ => m == 0
  | _ => false

def isFinite : Double → Bool
  | .finite .. => true
  | _ => false

/-- The product of two finite doubles, rounded; anything else has no product here. -/
def mul : Double → Double → Double
  | .finite s m e, .finite t n f =>
    let (p, q) := scaleByTwo (m * n) 1 (e + f)
    ofRatio (s != t) p q
  | _, _ => .nan

/-- The quotient of two finite doubles, rounded; a zero divisor has no quotient here. -/
def div : Double → Double → Double
  | .finite s m e, .finite t n f =>
    if n = 0 then .nan
    else
      let (p, q) := scaleByTwo m n (e - f)
      ofRatio (s != t) p q
  | _, _ => .nan

/-- The integer nearest to the magnitude, a half going away from zero, kept within `0` and
`bound`. A negative number and one without value give `0`. -/
def roundWithin (bound : Nat) : Double → Nat
  | .finite s m e =>
    let (p, q) := scaleByTwo m 1 e
    let n := (2 * p + q) / (2 * q)
    if s then 0 else min n bound
  | .infinite s => if s then 0 else bound
  | .nan => 0

end Double

end EditWatch.Number
