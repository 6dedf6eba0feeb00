/-!
# EditWatch.Text.Numeral -- natural numbers in decimal and hexadecimal

Writing is `Nat.toDigits`; this module reads. A bounded numeral is the form in which a word of a
given width is spelled: an optional plus sign, at least one decimal digit, leading zeros allowed,
and a value below the bound.
-/

namespace EditWatch.Text

/-- The decimal digits of a number, without leading zeros. -/
def decimal (n : Nat) : List Char := Nat.toDigits 10 n

/-- The value of a run of decimal digits. -/
def decimalValue (ds : List Char) : Nat := Nat.ofDigitChars 10 ds 0

/-- The number spelled by one or more decimal digits and nothing else. -/
def readDecimal? (cs : List Char) : Option Nat :=
  if cs ≠ [] ∧ cs.all Char.isDigit then some (decimalValue cs) else none

/-- The number below `bound` spelled by an optional plus sign and decimal digits. -/
def readBounded? (bound : Nat) (cs : List Char) : Option Nat :=
  let digits := match cs with
    | '+' :: rest => rest
    | _ => cs
  match readDecimal? digits with
  | some n => if n < bound then some n else none
  | none => none

/-- The integer spelled by an optional sign and decimal digits, if it fits a signed word of 64
bits. -/
def readSigned64? (cs : List Char) : Option Int :=
  match cs with
  | '-' :: rest =>
    (readDecimal? rest).bind fun n => if n ≤ 0x8000000000000000 then some (-(n : Int)) else none
  | _ => (readBounded? 0x8000000000000000 cs).map Int.ofNat

theorem readDecimal?_decimal (n : Nat) : readDecimal? (decimal n) = some n := by
  have h : (decimal n).all Char.isDigit = true := by
    simp only [List.all_eq_true, decimal]
    exact fun c hc => Nat.isDigit_of_mem_toDigits (by decide) (by decide) hc
  have hne : decimal n ≠ [] := Nat.toDigits_ne_nil
  rw [readDecimal?, if_pos ⟨hne, h⟩, decimalValue, decimal, Nat.ofDigitChars_ten_toDigits]

/-! ## Hexadecimal -/

/-- The value of a hexadecimal digit of either case. -/
def hexValue? (c : Char) : Option Nat :=
  if '0' ≤ c ∧ c ≤ '9' then some (c.toNat - 48)
  else if 'a' ≤ c ∧ c ≤ 'f' then some (c.toNat - 87)
  else if 'A' ≤ c ∧ c ≤ 'F' then some (c.toNat - 55)
  else none

/-- The number spelled by hexadecimal digits, all of them. -/
def readHex? (cs : List Char) : Option Nat :=
  cs.foldl (fun acc c => match acc, hexValue? c with
    | some n, some d => some (16 * n + d)
    | _, _ => none) (some 0)

/-- The lower-case hexadecimal digit of a number below 16. -/
def hexDigit (n : Nat) : Char := Nat.digitChar n

theorem hexValue?_hexDigit : ∀ n, n < 16 → hexValue? (hexDigit n) = some n := by decide

end EditWatch.Text
