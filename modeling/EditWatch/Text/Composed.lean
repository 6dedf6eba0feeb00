import EditWatch.Text.Canonical

/-!
# EditWatch.Text.Composed -- the composed form of a text

Texts that look alike may be spelled with different code points. The composed form is the one
spelling of them all: every character is taken apart, the marks behind a character are put in the
order of their classes, and what can be put together is put together. The syllables of Hangul are
made of two or three letters by arithmetic.
-/

namespace EditWatch.Text

/-! ## Taking apart -/

/-- The first syllable of Hangul. -/
def syllableBase : Nat := 0xAC00

/-- How many vowels there are, and how many last letters together with none. -/
def vowelCount : Nat := 21
def lastCount : Nat := 28

/-- How many syllables there are, and how many of them begin with the same letter. -/
def syllableCount : Nat := 11172
def syllablesOfFirst : Nat := vowelCount * lastCount

/-- The code points before the first letters, the vowels and the last letters. -/
def firstBase : Nat := 0x1100
def vowelBase : Nat := 0x1161
def lastBase : Nat := 0x11A7

/-- The letters of the syllable of a number. -/
def syllableLetters (i : Nat) : List Nat :=
  let first := firstBase + i / syllablesOfFirst
  let vowel := vowelBase + i % syllablesOfFirst / lastCount
  if i % lastCount = 0 then [first, vowel] else [first, vowel, lastBase + i % lastCount]

/-- A code point taken apart, over so many steps at most. -/
def takenApart : Nat → Nat → List Nat
  | 0, n => [n]
  | fuel + 1, n =>
    if syllableBase ≤ n ∧ n < syllableBase + syllableCount then syllableLetters (n - syllableBase)
    else match decompositions.find? n with
      | some parts => parts.flatMap (takenApart fuel)
      | none => [n]

/-- No character is taken apart in more steps. -/
def decompositionSteps : Nat := 4

/-! ## The order of marks -/

/-- A code point with its combining class, put behind others, which are given last one first: a
mark goes before the marks of higher classes. -/
def place (n : Nat × Nat) : List (Nat × Nat) → List (Nat × Nat)
  | [] => [n]
  | m :: before =>
    if n.2 ≠ 0 ∧ n.2 < m.2 then m :: place n before else n :: m :: before

/-- Code points with their classes, the marks in order. -/
def ordered (ns : List Nat) : List (Nat × Nat) :=
  (ns.foldl (fun before n => place (n, combiningClass n) before) []).reverse

/-! ## Putting together -/

/-- The pairs that are put together, with what they make. -/
def compositions : Array (Nat × List Nat) :=
  decompositions.entries.filter fun e => e.2.length == 2 && !unmade.contains e.1

/-- The syllable that two parts of one make. -/
def syllable? (a b : Nat) : Option Nat :=
  if firstBase ≤ a ∧ a < firstBase + syllableCount / syllablesOfFirst ∧ vowelBase ≤ b ∧
      b < vowelBase + vowelCount then
    some (syllableBase + (a - firstBase) * syllablesOfFirst + (b - vowelBase) * lastCount)
  else if syllableBase ≤ a ∧ a < syllableBase + syllableCount ∧
      (a - syllableBase) % lastCount = 0 ∧ lastBase < b ∧ b < lastBase + lastCount then
    some (a + (b - lastBase))
  else none

/-- The code point that two others make. -/
def pair? (a b : Nat) : Option Nat :=
  (syllable? a b).or ((compositions.find? fun e => e.2 == [a, b]).map Prod.fst)

/-- Code points put together behind `base` and the marks `passed` that stay behind it, the last
one first. A mark cannot pass one of its own class. -/
def putTogether (base : Nat) (passed : List (Nat × Nat)) : List (Nat × Nat) → List Nat
  | [] => base :: passed.reverse.map Prod.fst
  | n :: rest =>
    let made := if passed.head?.any fun m => n.2 ≤ m.2 then none else pair? base n.1
    match made with
    | some c => putTogether c passed rest
    | none =>
      if n.2 = 0 then base :: (passed.reverse.map Prod.fst ++ putTogether n.1 [] rest)
      else putTogether base (n :: passed) rest

/-- The composed form of a text. -/
def composed (cs : List Char) : List Char :=
  let apart := cs.flatMap fun c => takenApart decompositionSteps c.toNat
  match ordered apart with
  | [] => []
  | n :: rest => (putTogether n.1 [] rest).map Char.ofNat

end EditWatch.Text
