import EditWatch.Json.Numeral

/-!
# EditWatch.Proofs.Json.Numeral -- integers are read back

The decimal digits of an integer are read as a numeral without fraction and exponent, provided that
the text behind them does not go on as a numeral would. The value of the numeral is the integer.
-/

namespace EditWatch

theorem WordInt.eq_of_val_eq {m n : WordInt} (h : m.val = n.val) : m = n := by
  cases m
  cases n
  cases h
  rfl

namespace Json

open EditWatch.Text

/-- A numeral cannot go on at the head of the text. -/
def Stops (rest : List Char) : Prop :=
  ∀ c, rest.head? = some c → c.isDigit = false ∧ c ≠ '.' ∧ c ≠ 'e' ∧ c ≠ 'E'

theorem stops_nil : Stops [] := nofun

theorem stops_cons {c : Char} (h : c.isDigit = false ∧ c ≠ '.' ∧ c ≠ 'e' ∧ c ≠ 'E')
    (rest : List Char) : Stops (c :: rest) := by
  intro d hd
  rwa [← Option.some.inj hd]

/-! ## Decimal digits -/

theorem isDigit_of_mem_decimal {n : Nat} {c : Char} (h : c ∈ decimal n) : c.isDigit = true :=
  Nat.isDigit_of_mem_toDigits (by decide) (by decide) h

theorem exists_decimal_eq_cons (n : Nat) : ∃ d ds, decimal n = d :: ds :=
  List.exists_cons_of_ne_nil Nat.toDigits_ne_nil

/-- Only zero is written with a zero in front. -/
theorem head?_decimal_ne {n : Nat} (h : 0 < n) : (decimal n).head? ≠ some '0' := by
  have hdigit : ∀ k, k < 10 → 0 < k → Nat.digitChar k ≠ '0' := by decide
  induction n using Nat.strongRecOn with
  | ind n ih =>
      rw [decimal, Nat.toDigits_eq_if (by decide)]
      split
      · rename_i hlt
        rw [List.head?_cons]
        exact fun heq => hdigit n hlt h (Option.some.inj heq)
      · rename_i hge
        have hfirst := ih (n / 10) (by omega) (by omega)
        obtain ⟨d, ds, hds⟩ := exists_decimal_eq_cons (n / 10)
        rw [decimal] at hds hfirst
        rwa [hds] at hfirst ⊢

namespace Numeral

/-! ## Reading -/

theorem takeWhile_stops {rest : List Char} (h : Stops rest) :
    rest.takeWhile Char.isDigit = [] ∧ rest.dropWhile Char.isDigit = rest := by
  cases rest with
  | nil => exact ⟨rfl, rfl⟩
  | cons c rest =>
      have hc : c.isDigit = false := (h c rfl).1
      rw [List.takeWhile_cons, List.dropWhile_cons, hc]
      exact ⟨rfl, rfl⟩

theorem digits?_append {ds rest : List Char} (hds : ∀ c ∈ ds, c.isDigit = true) (hne : ds ≠ [])
    (hrest : Stops rest) : digits? (ds ++ rest) = some (ds, rest) := by
  obtain ⟨htake, hdrop⟩ := takeWhile_stops hrest
  rw [digits?, List.takeWhile_append_of_pos hds, List.dropWhile_append_of_pos hds, htake, hdrop,
    List.append_nil]
  split
  · exact absurd rfl hne
  · rfl

theorem whole?_decimal (n : Nat) {rest : List Char} (hrest : Stops rest) :
    whole? (decimal n ++ rest) = some (decimal n, rest) := by
  have hread : digits? (decimal n ++ rest) = some (decimal n, rest) :=
    digits?_append (fun _ => isDigit_of_mem_decimal) Nat.toDigits_ne_nil hrest
  rw [whole?, hread]
  split
  · rename_i hzero
    -- A zero in front of another digit would be that of a number above zero.
    obtain ⟨hdigits, -⟩ := Prod.mk.inj (Option.some.inj hzero)
    rcases Nat.eq_zero_or_pos n with rfl | hpos
    · rw [decimal, Nat.toDigits_zero] at hdigits
      exact absurd (List.cons.inj hdigits).2.symm (List.cons_ne_nil _ _)
    · exact absurd (congrArg List.head? hdigits) (head?_decimal_ne hpos)
  · rfl

theorem fraction?_stops {rest : List Char} (h : Stops rest) : fraction? rest = some (none, rest) := by
  rw [fraction?]
  rintro rest rfl
  exact (h '.' rfl).2.1 rfl

theorem exponent?_stops {rest : List Char} (h : Stops rest) : exponent? rest = some (none, rest) := by
  rw [exponent?]
  · rintro rest rfl
    exact (h 'e' rfl).2.2.1 rfl
  · rintro rest rfl
    exact (h 'E' rfl).2.2.2 rfl

theorem read?_decimal (n : Nat) {rest : List Char} (hrest : Stops rest) :
    read? (decimal n ++ rest) = some (⟨false, decimal n, none, none⟩, rest) := by
  have hsign : ∀ cs, decimal n ++ rest = '-' :: cs → False := by
    intro cs h
    obtain ⟨d, ds, hds⟩ := exists_decimal_eq_cons n
    have hdigit : d.isDigit = true := isDigit_of_mem_decimal (hds ▸ List.mem_cons_self)
    rw [hds, List.cons_append] at h
    rw [(List.cons.inj h).1] at hdigit
    exact absurd hdigit (by decide)
  rw [read?]
  · simp only [whole?_decimal n hrest, fraction?_stops hrest, exponent?_stops hrest]
  · exact hsign

theorem read?_minus (n : Nat) {rest : List Char} (hrest : Stops rest) :
    read? ('-' :: (decimal n ++ rest)) = some (⟨true, decimal n, none, none⟩, rest) := by
  simp only [read?, whole?_decimal n hrest, fraction?_stops hrest, exponent?_stops hrest]

/-! ## The value -/

theorem toInt?_natural {n : WordInt} (h : 0 ≤ n.val) :
    toInt? ⟨false, decimal n.val.natAbs, none, none⟩ = some n := by
  have hvalue : decimalValue (decimal n.val.natAbs) = n.val.natAbs := Nat.ofDigitChars_ten_toDigits
  have hupper := n.upper
  rw [toInt?, if_neg (by simp)]
  simp only [hvalue, Bool.false_eq_true, if_false]
  rw [dif_pos (by omega)]
  exact congrArg some (WordInt.eq_of_val_eq (Int.natAbs_of_nonneg h))

theorem toInt?_negative {n : WordInt} (h : n.val < 0) :
    toInt? ⟨true, decimal n.val.natAbs, none, none⟩ = some n := by
  have hvalue : decimalValue (decimal n.val.natAbs) = n.val.natAbs := Nat.ofDigitChars_ten_toDigits
  have hlower := n.lower
  rw [toInt?, if_neg (by simp)]
  simp only [hvalue, if_true]
  rw [dif_pos (by omega)]
  refine congrArg some (WordInt.eq_of_val_eq ?_)
  show -(n.val.natAbs : Int) = n.val
  omega

theorem toJson_of_toInt? {m : Numeral} {n : WordInt} (h : m.toInt? = some n) :
    m.toJson = .num (.int n) := by
  rw [toJson, h]

/-- An integer is read back from its digits. -/
theorem read?_renderInt (n : WordInt) {rest : List Char} (hrest : Stops rest) :
    (read? (renderInt n.val ++ rest)).map (fun p => (p.1.toJson, p.2)) =
      some (.num (.int n), rest) := by
  rw [renderInt]
  split
  · rename_i hneg
    rw [List.cons_append, read?_minus _ hrest, Option.map_some,
      toJson_of_toInt? (toInt?_negative hneg)]
  · rename_i hnonneg
    rw [read?_decimal _ hrest, Option.map_some,
      toJson_of_toInt? (toInt?_natural (Int.not_lt.mp hnonneg))]

end Numeral

/-! ## Which characters are written -/

theorem exists_renderInt_eq_cons (n : Int) :
    ∃ c cs, renderInt n = c :: cs ∧ (c = '-' ∨ c.isDigit = true) := by
  obtain ⟨d, ds, hds⟩ := exists_decimal_eq_cons n.natAbs
  rw [renderInt]
  split
  · exact ⟨'-', _, rfl, .inl rfl⟩
  · exact ⟨d, ds, hds, .inr (isDigit_of_mem_decimal (hds ▸ List.mem_cons_self))⟩

theorem le_toNat_of_isDigit {c : Char} (h : c.isDigit = true) : 0x20 ≤ c.toNat := by
  simp only [Char.isDigit, Bool.and_eq_true, decide_eq_true_eq] at h
  have hlow : '0'.val.toNat ≤ c.val.toNat := UInt32.le_iff_toNat_le.mp h.1
  exact Nat.le_trans (by decide) hlow

theorem le_toNat_of_mem_renderInt {n : Int} {c : Char} (h : c ∈ renderInt n) :
    0x20 ≤ c.toNat := by
  rw [renderInt] at h
  split at h
  · rcases List.mem_cons.mp h with rfl | h
    · decide
    · exact le_toNat_of_isDigit (isDigit_of_mem_decimal h)
  · exact le_toNat_of_isDigit (isDigit_of_mem_decimal h)

end Json

end EditWatch
