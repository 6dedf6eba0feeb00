/-!
# EditWatch.Url.Punycode -- labels in Punycode

A label of a domain name that holds characters beyond ASCII is written in ASCII: the characters of
ASCII first, then, behind the last hyphen, where the others go. Each of those is told by one
number in a base that changes from digit to digit. This module reads the written form.
-/

namespace EditWatch.Url.Punycode

/-- The value of a digit, of either case. -/
def digitValue? (c : Char) : Option Nat :=
  if 'a' ≤ c ∧ c ≤ 'z' then some (c.toNat - 97)
  else if 'A' ≤ c ∧ c ≤ 'Z' then some (c.toNat - 65)
  else if '0' ≤ c ∧ c ≤ '9' then some (c.toNat - 22)
  else none

/-- The threshold below which a digit ends a number; `k` grows by 36 with every digit. -/
def threshold (k bias : Nat) : Nat :=
  if k ≤ bias then 1 else if bias + 26 ≤ k then 26 else k - bias

/-- Divides by 35 until at most 455 is left; counts 36 for every division. -/
def shrink (delta k : Nat) : Nat × Nat :=
  if 455 < delta then shrink (delta / 35) (k + 36) else (delta, k)
termination_by delta
decreasing_by exact Nat.div_lt_self (by omega) (by omega)

/-- The bias after a number `delta` that brought the count of characters to `count`. -/
def adapt (delta count : Nat) (first : Bool) : Nat :=
  let damped := if first then delta / 700 else delta / 2
  let (d, k) := shrink (damped + damped / count) 0
  k + 36 * d / (d + 38)

/-- The largest number that is read: one of 32 bits. -/
def largest : Nat := 0xFFFFFFFF

/-- One number: added to `i` it is returned with the rest of the text. -/
def readNumber? (bias : Nat) : List Char → Nat → Nat → Nat → Option (Nat × List Char)
  | [], _, _, _ => none
  | c :: rest, k, weight, i =>
    match digitValue? c with
    | none => none
    | some d =>
      let t := threshold k bias
      if largest < i + d * weight then none
      else if d < t then some (i + d * weight, rest)
      else if largest < weight * (36 - t) then none
      else readNumber? bias rest (k + 36) (weight * (36 - t)) (i + d * weight)

/-- What the characters beyond ASCII have been read to. -/
structure Progress where
  code : Nat
  index : Nat
  bias : Nat
  read : List Char

/-- The characters with those that the rest of the text tells; the fuel is the length of it. -/
def insertAll? : Nat → Progress → List Char → Option (List Char)
  | _, p, [] => some p.read
  | 0, _, _ :: _ => none
  | fuel + 1, p, cs =>
    match readNumber? p.bias cs 36 1 p.index with
    | none => none
    | some (i, rest) =>
      let count := p.read.length + 1
      let code := p.code + i / count
      if code.isValidChar then
        let place := i % count
        insertAll? fuel
          { code := code
            index := place + 1
            bias := adapt (i - p.index) count (p.index == 0)
            read := p.read.take place ++ Char.ofNat code :: p.read.drop place } rest
      else none

/-- The text before the last hyphen and the text behind it. A hyphen with nothing before it parts
nothing, and then all of the text is behind. -/
def splitLast (cs : List Char) : List Char × List Char :=
  let behind := (cs.reverse.takeWhile (· ≠ '-')).reverse
  match cs.take (cs.length - behind.length - 1) with
  | [] => ([], cs)
  | before => (before, behind)

/-- The label that a text behind the mark `xn--` stands for. -/
def decode? (cs : List Char) : Option (List Char) :=
  let (ascii, behind) := splitLast cs
  insertAll? behind.length ⟨128, 0, 72, ascii⟩ behind

example : decode? "mnchen-3ya".toList = some "münchen".toList := by decide +kernel

end EditWatch.Url.Punycode
