import EditWatch.Proofs.Json.Text
import Mathlib.Data.List.TakeWhile

/-!
# EditWatch.Proofs.Json.Taking -- what strings and numerals take

A string is read up to its closing quote, whatever follows. A numeral is read up to a character with
which none can go on, and it ends in a digit. So each takes a piece of the text that it takes again
in front of any other rest, for a numeral of any rest that is not taken for more of it.
-/

namespace EditWatch.Json

open EditWatch.Text

/-- The text does not end in white space. -/
def Solid (taken : List Char) : Prop := ∃ before c, taken = before ++ [c] ∧ isSpace c = false

theorem Solid.pos {t : List Char} (h : Solid t) : 0 < t.length := by
  obtain ⟨before, c, rfl, -⟩ := h
  simp

theorem Solid.append {t : List Char} (h : Solid t) (s : List Char) : Solid (s ++ t) := by
  obtain ⟨before, c, rfl, hc⟩ := h
  exact ⟨s ++ before, c, (List.append_assoc ..).symm, hc⟩

theorem solid_append_singleton {c : Char} (h : isSpace c = false) (s : List Char) :
    Solid (s ++ [c]) := ⟨s, c, rfl, h⟩

/-- Nothing that is all white space stands at its end. -/
theorem Solid.eq_nil_of_append {s t : List Char} (h : Solid (s ++ t))
    (ht : ∀ c ∈ t, isSpace c = true) : t = [] := by
  obtain ⟨before, c, heq, hc⟩ := h
  rcases List.eq_nil_or_concat t with rfl | ⟨t, d, rfl⟩
  · rfl
  · rw [List.concat_eq_append, ← List.append_assoc] at heq
    obtain rfl : d = c := (List.append_inj' heq rfl).2 |> List.singleton_inj.mp
    have hd := ht d (by simp)
    rw [hc] at hd
    exact absurd hd Bool.false_ne_true

/-! ## Strings -/

/-- The pieces of a string are read up to the closing quote, whatever stands behind it. -/
theorem exists_taken_of_readPieces {cs rest : List Char} {pieces : List Piece}
    (h : readPieces cs = some (pieces, rest)) : ∃ body, cs = body ++ '"' :: rest ∧
      ∀ rest', readPieces (body ++ '"' :: rest') = some (pieces, rest') := by
  -- Only the closing quote, the two sorts of escapes and a plain character give any pieces.
  fun_induction readPieces cs generalizing pieces with
  | case1 => cases h
  | case2 rest' =>
      obtain ⟨rfl, rfl⟩ := Prod.mk.inj (Option.some.inj h)
      exact ⟨[], rfl, fun _ => rfl⟩
  | case3 a b c d tail n hhex ih =>
      obtain ⟨⟨ps, _⟩, hps, heq⟩ := Option.map_eq_some_iff.mp h
      obtain ⟨rfl, rfl⟩ := Prod.mk.inj heq
      obtain ⟨body, rfl, hbody⟩ := ih hps
      refine ⟨'\\' :: 'u' :: a :: b :: c :: d :: body, rfl, fun rest' => ?_⟩
      simp only [List.cons_append, readPieces, hhex, hbody, Option.map_some]
  | case4 => cases h
  | case5 c tail hne c' hc ih =>
      obtain ⟨⟨ps, _⟩, hps, heq⟩ := Option.map_eq_some_iff.mp h
      obtain ⟨rfl, rfl⟩ := Prod.mk.inj heq
      obtain ⟨body, rfl, hbody⟩ := ih hps
      refine ⟨'\\' :: c :: body, rfl, fun rest' => ?_⟩
      have hu : c ≠ 'u' := by
        rintro rfl
        cases hc
      rw [List.cons_append, List.cons_append, readPieces]
      · rw [hc, hbody]
        rfl
      · exact fun _ _ _ _ _ h _ => hu h
  | case6 => cases h
  | case7 => cases h
  | case8 c tail hquote hhex hslash hplain ih =>
      obtain ⟨⟨ps, _⟩, hps, heq⟩ := Option.map_eq_some_iff.mp h
      obtain ⟨rfl, rfl⟩ := Prod.mk.inj heq
      obtain ⟨body, rfl, hbody⟩ := ih hps
      obtain ⟨hcontrol, hne⟩ := not_or.mp hplain
      refine ⟨c :: body, rfl, fun rest' => ?_⟩
      rw [List.cons_append, readPieces_plain hquote hne hcontrol, hbody, Option.map_some]

theorem exists_taken_of_readString? {cs rest : List Char} {string : Option String}
    (h : readString? cs = some (string, rest)) : ∃ body, cs = body ++ '"' :: rest ∧
      ∀ rest', readString? (body ++ '"' :: rest') = some (string, rest') := by
  rw [readString?] at h
  obtain ⟨⟨pieces, _⟩, hpieces, heq⟩ := Option.map_eq_some_iff.mp h
  cases heq
  obtain ⟨body, rfl, hbody⟩ := exists_taken_of_readPieces hpieces
  refine ⟨body, rfl, fun rest' => ?_⟩
  rw [readString?, hbody]
  rfl

/-! ## Numerals -/

namespace Numeral

/-- Digits cannot go on at the head of the text. -/
def Halts (rest : List Char) : Prop := ∀ c, rest.head? = some c → c.isDigit = false

theorem digits?_eq_some_iff {cs ds rest : List Char} : digits? cs = some (ds, rest) ↔
    cs = ds ++ rest ∧ ds ≠ [] ∧ (∀ c ∈ ds, c.isDigit) ∧ Halts rest := by
  constructor
  · intro h
    rw [digits?] at h
    split at h
    · cases h
    · rename_i hne
      obtain ⟨rfl, rfl⟩ := Prod.mk.inj (Option.some.inj h)
      refine ⟨List.takeWhile_append_dropWhile.symm, fun heq => hne heq,
        fun c hc => List.mem_takeWhile_imp hc, fun c hc => ?_⟩
      have hnot := List.head?_dropWhile_not Char.isDigit cs
      rw [hc] at hnot
      simpa using hnot
  · rintro ⟨rfl, hne, hds, hrest⟩
    have htail : rest.takeWhile Char.isDigit = [] ∧ rest.dropWhile Char.isDigit = rest := by
      cases rest with
      | nil => exact ⟨rfl, rfl⟩
      | cons c rest =>
          have hc : c.isDigit = false := hrest c rfl
          rw [List.takeWhile_cons, List.dropWhile_cons, hc]
          exact ⟨rfl, rfl⟩
    rw [digits?, List.takeWhile_append_of_pos hds, List.dropWhile_append_of_pos hds, htail.1,
      htail.2, List.append_nil]
    split
    · exact absurd rfl hne
    · rfl

theorem whole?_eq_some_iff {cs ds rest : List Char} : whole? cs = some (ds, rest) ↔
    digits? cs = some (ds, rest) ∧ ∀ d ds', ds ≠ '0' :: d :: ds' := by
  rw [whole?]
  split
  · rename_i hzero
    refine iff_of_false (Option.some_ne_none _).symm ?_
    rintro ⟨h, hds⟩
    obtain ⟨rfl, -⟩ := Prod.mk.inj (Option.some.inj (hzero.symm.trans h))
    exact hds _ _ rfl
  · rename_i hnot
    refine ⟨fun h => ⟨h, ?_⟩, fun h => h.1⟩
    rintro d ds' rfl
    exact hnot _ _ _ h

/-- The text ends in a digit. -/
def Ends (taken : List Char) : Prop := ∃ before c, taken = before ++ [c] ∧ c.isDigit

theorem ends_of_forall {ds : List Char} (hne : ds ≠ []) (hds : ∀ c ∈ ds, c.isDigit) : Ends ds :=
  ⟨ds.dropLast, ds.getLast hne, (List.dropLast_concat_getLast hne).symm,
    hds _ (List.getLast_mem hne)⟩

theorem Ends.append {t : List Char} (h : Ends t) (s : List Char) : Ends (s ++ t) := by
  obtain ⟨before, c, rfl, hc⟩ := h
  exact ⟨s ++ before, c, (List.append_assoc ..).symm, hc⟩

theorem Ends.append_right {s t : List Char} (h : Ends s) (ht : t = [] ∨ Ends t) :
    Ends (s ++ t) := by
  rcases ht with rfl | ht
  · rwa [List.append_nil]
  · exact ht.append s

theorem Ends.solid {t : List Char} (h : Ends t) : Solid t := by
  obtain ⟨before, c, rfl, hc⟩ := h
  exact solid_append_singleton (isSpace_of_isDigit hc) before

theorem taken_of_digits? {cs ds rest : List Char} (h : digits? cs = some (ds, rest)) :
    cs = ds ++ rest ∧ Ends ds ∧
      ∀ rest', Halts rest' → digits? (ds ++ rest') = some (ds, rest') := by
  obtain ⟨hcs, hne, hds, -⟩ := digits?_eq_some_iff.mp h
  exact ⟨hcs, ends_of_forall hne hds, fun rest' hrest =>
    digits?_eq_some_iff.mpr ⟨rfl, hne, hds, hrest⟩⟩

/-- The digits of an exponent with their sign. -/
def signed? (cs : List Char) : Option (Option (Bool × List Char) × List Char) :=
  match cs with
  | '+' :: rest => (digits? rest).map fun p => (some (false, p.1), p.2)
  | '-' :: rest => (digits? rest).map fun p => (some (true, p.1), p.2)
  | _ => (digits? cs).map fun p => (some (false, p.1), p.2)

theorem exists_taken_of_signed? {cs rest : List Char} {e : Option (Bool × List Char)}
    (h : signed? cs = some (e, rest)) : ∃ taken, cs = taken ++ rest ∧ Ends taken ∧
      ∀ rest', Halts rest' → signed? (taken ++ rest') = some (e, rest') := by
  unfold signed? at h
  split at h
  · obtain ⟨⟨ds, _⟩, hds, heq⟩ := Option.map_eq_some_iff.mp h
    obtain ⟨rfl, rfl⟩ := Prod.mk.inj heq
    obtain ⟨rfl, hends, hread⟩ := taken_of_digits? hds
    refine ⟨'+' :: ds, rfl, hends.append ['+'], fun rest' hrest => ?_⟩
    rw [List.cons_append, signed?, hread rest' hrest]
    rfl
  · obtain ⟨⟨ds, _⟩, hds, heq⟩ := Option.map_eq_some_iff.mp h
    obtain ⟨rfl, rfl⟩ := Prod.mk.inj heq
    obtain ⟨rfl, hends, hread⟩ := taken_of_digits? hds
    refine ⟨'-' :: ds, rfl, hends.append ['-'], fun rest' hrest => ?_⟩
    rw [List.cons_append, signed?, hread rest' hrest]
    rfl
  · obtain ⟨⟨ds, _⟩, hds, heq⟩ := Option.map_eq_some_iff.mp h
    obtain ⟨rfl, rfl⟩ := Prod.mk.inj heq
    obtain ⟨rfl, hends, hread⟩ := taken_of_digits? hds
    refine ⟨ds, rfl, hends, fun rest' hrest => ?_⟩
    obtain ⟨-, hne, hdigits, -⟩ := digits?_eq_some_iff.mp hds
    obtain ⟨d, ds, rfl⟩ := List.exists_cons_of_ne_nil hne
    have hd : d.isDigit := hdigits d List.mem_cons_self
    have hread' := hread rest' hrest
    rw [List.cons_append] at hread' ⊢
    rw [signed?, hread']
    · rfl
    · rintro _ ⟨⟩
      exact absurd hd (by decide)
    · rintro _ ⟨⟩
      exact absurd hd (by decide)

theorem exponent?_mark {m : Char} (h : m = 'e' ∨ m = 'E') (rest : List Char) :
    exponent? (m :: rest) = signed? rest := by
  rcases h with rfl | rfl <;> rfl

theorem exponent?_of_no_mark {cs : List Char} (h : ∀ c, cs.head? = some c → c ≠ 'e' ∧ c ≠ 'E') :
    exponent? cs = some (none, cs) := by
  rw [exponent?]
  · rintro rest rfl
    exact (h 'e' rfl).1 rfl
  · rintro rest rfl
    exact (h 'E' rfl).2 rfl

/-- An exponent takes nothing or what ends in a digit; neither goes on as a fraction would. -/
theorem exists_taken_of_exponent? {cs rest : List Char} {e : Option (Bool × List Char)}
    (h : exponent? cs = some (e, rest)) : ∃ taken, cs = taken ++ rest ∧ (taken = [] ∨ Ends taken) ∧
      ∀ rest', Stops rest' → exponent? (taken ++ rest') = some (e, rest') ∧
        ∀ c, (taken ++ rest').head? = some c → c.isDigit = false ∧ c ≠ '.' := by
  by_cases hmark : ∃ m tail, cs = m :: tail ∧ (m = 'e' ∨ m = 'E')
  · obtain ⟨m, tail, rfl, hm⟩ := hmark
    rw [exponent?_mark hm] at h
    obtain ⟨taken, rfl, hends, hread⟩ := exists_taken_of_signed? h
    refine ⟨m :: taken, rfl, Or.inr (hends.append [m]), fun rest' hrest => ⟨?_, ?_⟩⟩
    · rw [List.cons_append, exponent?_mark hm, hread rest' fun c hc => (hrest c hc).1]
    · rintro c ⟨⟩
      rcases hm with rfl | rfl <;> decide
  · have hnone : exponent? cs = some (none, cs) := exponent?_of_no_mark fun c hc => by
      obtain ⟨tail, rfl⟩ := List.head?_eq_some_iff.mp hc
      exact not_or.mp fun hm => hmark ⟨c, tail, rfl, hm⟩
    obtain ⟨rfl, rfl⟩ := Prod.mk.inj (Option.some.inj (hnone.symm.trans h))
    exact ⟨[], rfl, Or.inl rfl, fun rest' hrest =>
      ⟨exponent?_stops hrest, fun c hc => ⟨(hrest c hc).1, (hrest c hc).2.1⟩⟩⟩

/-- A fraction takes nothing or what ends in a digit; neither goes on as a whole number would. -/
theorem exists_taken_of_fraction? {cs rest : List Char} {f : Option (List Char)}
    (h : fraction? cs = some (f, rest)) : ∃ taken, cs = taken ++ rest ∧ (taken = [] ∨ Ends taken) ∧
      ∀ rest', (∀ c, rest'.head? = some c → c.isDigit = false ∧ c ≠ '.') →
        fraction? (taken ++ rest') = some (f, rest') ∧ Halts (taken ++ rest') := by
  unfold fraction? at h
  split at h
  · obtain ⟨⟨ds, _⟩, hds, heq⟩ := Option.map_eq_some_iff.mp h
    obtain ⟨rfl, rfl⟩ := Prod.mk.inj heq
    obtain ⟨rfl, hends, hread⟩ := taken_of_digits? hds
    refine ⟨'.' :: ds, rfl, Or.inr (hends.append ['.']), fun rest' hrest => ⟨?_, ?_⟩⟩
    · rw [List.cons_append, fraction?, hread rest' fun c hc => (hrest c hc).1]
      rfl
    · rintro c ⟨⟩
      decide
  · obtain ⟨rfl, rfl⟩ := Prod.mk.inj (Option.some.inj h)
    refine ⟨[], rfl, Or.inl rfl, fun rest' hrest => ⟨?_, fun c hc => (hrest c hc).1⟩⟩
    rw [List.nil_append, fraction?]
    rintro tail rfl
    exact (hrest '.' rfl).2 rfl

theorem taken_of_whole? {cs ds rest : List Char} (h : whole? cs = some (ds, rest)) :
    cs = ds ++ rest ∧ Ends ds ∧ (∃ d ds', ds = d :: ds' ∧ d.isDigit) ∧
      ∀ rest', Halts rest' → whole? (ds ++ rest') = some (ds, rest') := by
  obtain ⟨hdigits, hzero⟩ := whole?_eq_some_iff.mp h
  obtain ⟨hcs, hends, hread⟩ := taken_of_digits? hdigits
  obtain ⟨-, hne, hds, -⟩ := digits?_eq_some_iff.mp hdigits
  obtain ⟨d, ds, rfl⟩ := List.exists_cons_of_ne_nil hne
  exact ⟨hcs, hends, ⟨d, ds, rfl, hds d List.mem_cons_self⟩, fun rest' hrest =>
    whole?_eq_some_iff.mpr ⟨hread rest' hrest, hzero⟩⟩

/-- A numeral without its sign. -/
def unsigned? (negative : Bool) (cs : List Char) : Option (Numeral × List Char) :=
  match whole? cs with
  | none => none
  | some (whole, cs) =>
    match fraction? cs with
    | none => none
    | some (fraction, cs) =>
      match exponent? cs with
      | none => none
      | some (exponent, cs) => some (⟨negative, whole, fraction, exponent⟩, cs)

theorem exists_taken_of_unsigned? {negative : Bool} {cs rest : List Char} {n : Numeral}
    (h : unsigned? negative cs = some (n, rest)) : ∃ d taken, cs = d :: taken ++ rest ∧ d.isDigit ∧
      Ends (d :: taken) ∧
      ∀ rest', Stops rest' → unsigned? negative (d :: taken ++ rest') = some (n, rest') := by
  rw [unsigned?] at h
  split at h
  · cases h
  · rename_i whole _ hwhole
    split at h
    · cases h
    · rename_i fraction _ hfraction
      split at h
      · cases h
      · rename_i exponent _ hexponent
        obtain ⟨rfl, rfl⟩ := Prod.mk.inj (Option.some.inj h)
        obtain ⟨rfl, hwends, ⟨d, ds, rfl, hd⟩, hwread⟩ := taken_of_whole? hwhole
        obtain ⟨f, rfl, hfends, hfread⟩ := exists_taken_of_fraction? hfraction
        obtain ⟨e, rfl, heends, heread⟩ := exists_taken_of_exponent? hexponent
        refine ⟨d, ds ++ (f ++ e), by simp, hd, ?_, fun rest' hrest => ?_⟩
        · have hwhole := (hwends.append_right hfends).append_right heends
          rwa [List.append_assoc] at hwhole
        · obtain ⟨he, hehalts⟩ := heread rest' hrest
          obtain ⟨hf, hfhalts⟩ := hfread (e ++ rest') hehalts
          have hw := hwread (f ++ (e ++ rest')) hfhalts
          have happend : d :: (ds ++ (f ++ e)) ++ rest' = (d :: ds) ++ (f ++ (e ++ rest')) := by
            simp
          rw [happend, unsigned?, hw]
          simp only [hf, he]

theorem read?_of_ne_minus {cs : List Char} (h : ∀ rest, cs ≠ '-' :: rest) :
    read? cs = unsigned? false cs := by
  simp only [read?]
  rfl

/-- A numeral takes a text that begins with a digit or a minus sign and ends in a digit. -/
theorem exists_taken_of_read? {cs rest : List Char} {n : Numeral}
    (h : read? cs = some (n, rest)) : ∃ c taken, cs = c :: taken ++ rest ∧
      (c = '-' ∨ c.isDigit = true) ∧ Ends (c :: taken) ∧
      ∀ rest', Stops rest' → read? (c :: taken ++ rest') = some (n, rest') := by
  by_cases hminus : ∃ tail, cs = '-' :: tail
  · obtain ⟨tail, rfl⟩ := hminus
    have hread : unsigned? true tail = some (n, rest) := h
    obtain ⟨d, taken, rfl, -, hends, hread⟩ := exists_taken_of_unsigned? hread
    exact ⟨'-', d :: taken, rfl, Or.inl rfl, hends.append ['-'], hread⟩
  · rw [not_exists] at hminus
    rw [read?_of_ne_minus hminus] at h
    obtain ⟨d, taken, rfl, hd, hends, hread⟩ := exists_taken_of_unsigned? h
    refine ⟨d, taken, rfl, Or.inr hd, hends, fun rest' hrest => ?_⟩
    rw [read?_of_ne_minus, hread rest' hrest]
    rintro _ ⟨⟩
    exact absurd hd (by decide)

end Numeral

end EditWatch.Json
