import EditWatch.Number.Double

/-!
# EditWatch.Number.Shortest -- the fewest digits that name a double

Every real number strictly between the midpoints to the two neighbouring doubles reads back as
the double in the middle, and so do the midpoints themselves when its mantissa is even. Of the
decimals in that interval the ones with the fewest digits are the candidates, and the nearest of
them is taken. On the grid of decimals with `n` digits only the two neighbours of the value need
a look: if any point of the grid lies in the interval, so does one of these.
-/

namespace EditWatch.Number

/-- A positive decimal `0.d₁d₂… * 10 ^ point`, with `digits` read as one natural number. -/
structure Decimal where
  digits : Nat
  point : Int
  deriving Repr, DecidableEq, Inhabited

namespace Shortest

/-- Which of two equally near decimals is taken. -/
inductive Tie where
  | toEven
  | up
  deriving Repr, DecidableEq

/-- A closed or open interval of rationals over one denominator, with a value inside. -/
structure Interval where
  low : Nat
  value : Nat
  high : Nat
  den : Nat
  closed : Bool
  deriving Repr

/-- The reals that read back as `mantissa * 2 ^ exponent`. Below a power of two the gap to the
next smaller double is half as wide. -/
def Interval.ofDouble (mantissa : Nat) (exponent : Int) : Interval :=
  let low :=
    if mantissa = 0x10000000000000 ∧ exponent > Double.minExponent then 4 * mantissa - 1
    else 4 * mantissa - 2
  let (scale, den) := scaleByTwo 1 1 (exponent - 2)
  { low := low * scale
    value := 4 * mantissa * scale
    high := (4 * mantissa + 2) * scale
    den := den
    closed := mantissa % 2 == 0 }

/-- The pair `num / den` scaled by a power of ten. -/
def scaleByTen (num den : Nat) (e : Int) : Nat × Nat :=
  match e with
  | .ofNat k => (num * Nat.pow 10 k, den)
  | .negSucc k => (num, den * Nat.pow 10 (k + 1))

/-- Whether the grid point `c * 10 ^ e` lies in the interval. -/
def Interval.holds (i : Interval) (c : Nat) (e : Int) : Bool :=
  let (p, q) := scaleByTen c 1 e
  let p := p * i.den
  if i.closed then i.low * q ≤ p && p ≤ i.high * q
  else i.low * q < p && p < i.high * q

/-- The nearest point with `n` digits that lies in the interval, if there is one. `point` is the
decimal point's place: the value lies between `10 ^ (point - 1)` and `10 ^ point`. -/
def Interval.nearest? (tie : Tie) (i : Interval) (point : Int) (n : Nat) : Option Nat :=
  let e := point - n
  let (p, q) := scaleByTen i.value i.den (-e)
  let c := p / q
  let r := p % q
  match i.holds c e, i.holds (c + 1) e with
  | true, true =>
    if 2 * r < q then some c
    else if 2 * r > q then some (c + 1)
    else match tie with
      | .toEven => if c % 2 = 0 then some c else some (c + 1)
      | .up => some (c + 1)
  | true, false => some c
  | false, true => some (c + 1)
  | false, false => none

/-- The least `p` with `num / den < 10 ^ p`, searched upwards from `p` for `fuel` steps. -/
def pointFrom (num den : Nat) : Nat → Int → Int
  | 0, p => p
  | fuel + 1, p =>
    let (n, d) := scaleByTen num den (-p)
    if n < d then p else pointFrom num den fuel (p + 1)

/-- The place of the decimal point of `num / den`. The binary logarithm gives it up to a few
steps: `2 ^ e` has at least `e * 30103 / 100000` digits before the point, less one. -/
def pointOf (num den : Nat) : Int :=
  let e := Double.floorLog2 num den
  pointFrom num den 8 (e * 30103 / 100000 - 1)

/-- The digits without the zeros at their end. -/
def dropTrailingZeros : Nat → Nat → Nat
  | 0, n => n
  | fuel + 1, n => if n ≠ 0 ∧ n % 10 = 0 then dropTrailingZeros fuel (n / 10) else n

/-- The first grid that holds a point of the interval, from `n` digits on. -/
def search (tie : Tie) (i : Interval) (point : Int) : Nat → Nat → Nat × Nat
  | 0, n => (i.value / i.den, n)
  | fuel + 1, n =>
    match i.nearest? tie point n with
    | some c => (c, n)
    | none => search tie i point fuel (n + 1)

/-- The shortest decimal of a positive double, nearest to it among the shortest. -/
def decimal (tie : Tie) (mantissa : Nat) (exponent : Int) : Decimal :=
  let i := Interval.ofDouble mantissa exponent
  let point := pointOf i.value i.den
  let (c, n) := search tie i point 17 1
  { digits := dropTrailingZeros 20 c
    point := if c = Nat.pow 10 n then point + 1 else point }

end Shortest

end EditWatch.Number
