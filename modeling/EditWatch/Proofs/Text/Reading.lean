import EditWatch.Text.Blank
import EditWatch.Text.Numeral

/-!
# EditWatch.Proofs.Text.Reading -- pieces and numbers

What the readers of plain text take. A text without separators is one piece, and a separator ends
the piece in front of it: these two equations say all of how a text is cut. So the pieces are what
stands between separators or the ends of the text. A bounded number is digits that may have a plus
sign in front of them, with a value below the bound.
-/

namespace EditWatch.Text

/-! ## A text cut at separators -/

section Pieces

variable {sep : Char → Bool}

theorem pieces_cons_of_sep {c : Char} (hc : sep c) (cs : List Char) :
    pieces sep (c :: cs) = [] :: pieces sep cs := by
  unfold pieces
  rw [cutAt]
  simp only [if_pos hc]

theorem pieces_cons_of_not_sep {c : Char} (hc : ¬ sep c) {cs p : List Char} {ps : List (List Char)}
    (hcs : pieces sep cs = p :: ps) : pieces sep (c :: cs) = (c :: p) :: ps := by
  unfold pieces at hcs ⊢
  obtain ⟨rfl, rfl⟩ := List.cons.inj hcs
  rw [cutAt]
  simp only [if_neg hc]

theorem pieces_of_forall {p : List Char} (hp : ∀ a ∈ p, ¬ sep a) : pieces sep p = [p] := by
  induction p with
  | nil => rfl
  | cons a p ih =>
      rw [List.forall_mem_cons] at hp
      exact pieces_cons_of_not_sep hp.1 (ih hp.2)

/-- A separator cuts a text in two wherever it stands. -/
theorem pieces_append_sep (p : List Char) {c : Char} (hc : sep c) (rest : List Char) :
    pieces sep (p ++ c :: rest) = pieces sep p ++ pieces sep rest := by
  induction p with
  | nil => exact pieces_cons_of_sep hc rest
  | cons a p ih =>
      by_cases ha : sep a
      · rw [List.cons_append, pieces_cons_of_sep ha, pieces_cons_of_sep ha, ih, List.cons_append]
      · obtain ⟨first, others, hp⟩ : ∃ first others, pieces sep p = first :: others := ⟨_, _, rfl⟩
        rw [hp] at ih
        rw [List.cons_append, pieces_cons_of_not_sep ha ih, pieces_cons_of_not_sep ha hp]
        rfl

theorem pieces_append_cons {p : List Char} (hp : ∀ a ∈ p, ¬ sep a) {c : Char} (hc : sep c)
    (rest : List Char) : pieces sep (p ++ c :: rest) = p :: pieces sep rest := by
  rw [pieces_append_sep p hc, pieces_of_forall hp, List.singleton_append]

/-- Separators that follow one another have empty pieces between them. -/
theorem pieces_run_append {run : List Char} (hrun : ∀ c ∈ run, sep c) (rest : List Char) :
    pieces sep (run ++ rest) = List.replicate run.length [] ++ pieces sep rest := by
  induction run with
  | nil => rfl
  | cons c run ih =>
      rw [List.forall_mem_cons] at hrun
      rw [List.cons_append, pieces_cons_of_sep hrun.1, ih hrun.2, List.length_cons,
        List.replicate_succ, List.cons_append]

variable (sep)

/-- A text has no separators, or it is a stretch without any, a separator and another text. -/
theorem pieceInduction {motive : List Char → Prop}
    (last : ∀ p, (∀ a ∈ p, ¬ sep a) → motive p)
    (cut : ∀ p c rest, (∀ a ∈ p, ¬ sep a) → sep c → motive rest → motive (p ++ c :: rest))
    (cs : List Char) : motive cs := by
  -- The stretch that has been read is kept apart from the text that is still to be read.
  suffices h : ∀ p, (∀ a ∈ p, ¬ sep a) → motive (p ++ cs) from h [] (List.forall_mem_nil _)
  induction cs with
  | nil =>
      intro p hp
      rw [List.append_nil]
      exact last p hp
  | cons c cs ih =>
      intro p hp
      by_cases hc : sep c
      · exact cut p c cs hp hc (ih [] (List.forall_mem_nil _))
      · have hlonger : ∀ a ∈ p ++ [c], ¬ sep a :=
          List.forall_mem_append.mpr ⟨hp, List.forall_mem_singleton.mpr hc⟩
        have hmotive := ih (p ++ [c]) hlonger
        rwa [List.append_assoc, List.singleton_append] at hmotive

/-- The text is empty or ends in a separator. -/
def EndsIn (cs : List Char) : Prop := ∀ c ∈ cs.getLast?, sep c

/-- The text is empty or begins with a separator. -/
def BeginsWith (cs : List Char) : Prop := ∀ c ∈ cs.head?, sep c

variable {sep}

theorem EndsIn.append_cons {cs : List Char} (h : EndsIn sep cs) {c : Char} (hc : sep c)
    (p : List Char) : EndsIn sep (p ++ c :: cs) := by
  intro a ha
  rw [List.getLast?_append, List.getLast?_cons, Option.some_or, Option.mem_some_iff] at ha
  cases hlast : cs.getLast? with
  | none =>
      rw [hlast, Option.getD_none] at ha
      rwa [← ha]
  | some b =>
      rw [hlast, Option.getD_some] at ha
      exact h a (ha ▸ hlast)

theorem between_of_mem_pieces {p cs : List Char} (h : p ∈ pieces sep cs) :
    (∀ a ∈ p, ¬ sep a) ∧
      ∃ before after, cs = before ++ p ++ after ∧ EndsIn sep before ∧ BeginsWith sep after := by
  induction cs using pieceInduction sep with
  | last q hq =>
      rw [pieces_of_forall hq, List.mem_singleton] at h
      subst h
      exact ⟨hq, [], [], by rw [List.nil_append, List.append_nil], nofun, nofun⟩
  | cut q c rest hq hc ih =>
      rw [pieces_append_cons hq hc, List.mem_cons] at h
      rcases h with rfl | h
      · refine ⟨hq, [], c :: rest, rfl, nofun, fun a ha => ?_⟩
        rwa [← Option.mem_some_iff.mp ha]
      · obtain ⟨hp, before, after, rfl, hbefore, hafter⟩ := ih h
        refine ⟨hp, q ++ c :: before, after, ?_, hbefore.append_cons hc q, hafter⟩
        simp only [List.append_assoc, List.cons_append]

theorem mem_pieces_between {p before after : List Char} (hp : ∀ a ∈ p, ¬ sep a)
    (hbefore : EndsIn sep before) (hafter : BeginsWith sep after) :
    p ∈ pieces sep (before ++ p ++ after) := by
  -- What stands behind the piece does not lengthen it, and what stands in front is cut off.
  have hfirst : p ∈ pieces sep (p ++ after) := by
    cases after with
    | nil => rw [List.append_nil, pieces_of_forall hp, List.mem_singleton]
    | cons c rest =>
        rw [pieces_append_cons hp (hafter c rfl)]
        exact List.mem_cons_self
  rcases List.eq_nil_or_concat before with rfl | ⟨front, c, rfl⟩
  · exact hfirst
  · rw [List.concat_eq_append] at hbefore ⊢
    have hc : sep c := hbefore c List.getLast?_concat
    rw [List.append_assoc, List.append_assoc, List.singleton_append, pieces_append_sep front hc]
    exact List.mem_append_right _ hfirst

/-- The pieces are the stretches without separators that stand between two of them, or between one
and an end of the text. -/
theorem mem_pieces_iff {p cs : List Char} :
    p ∈ pieces sep cs ↔ (∀ a ∈ p, ¬ sep a) ∧
      ∃ before after, cs = before ++ p ++ after ∧ EndsIn sep before ∧ BeginsWith sep after := by
  constructor
  · exact between_of_mem_pieces
  · rintro ⟨hp, before, after, rfl, hbefore, hafter⟩
    exact mem_pieces_between hp hbefore hafter

end Pieces

/-! ## Numbers -/

theorem readDecimal?_eq_some_iff {ds : List Char} {n : Nat} :
    readDecimal? ds = some n ↔ ds ≠ [] ∧ (∀ c ∈ ds, c.isDigit) ∧ decimalValue ds = n := by
  unfold readDecimal?
  rw [← List.all_eq_true, ← and_assoc]
  split
  · rename_i h
    rw [Option.some_inj]
    exact ⟨fun hn => ⟨h, hn⟩, fun hn => hn.2⟩
  · rename_i h
    exact ⟨fun hn => (nomatch hn), fun hn => absurd hn.1 h⟩

/-- The number, unless the bound keeps it out. -/
def below? (bound n : Nat) : Option Nat := if n < bound then some n else none

theorem below?_eq_some_iff {bound k n : Nat} : below? bound k = some n ↔ k < bound ∧ k = n := by
  rw [below?, Option.ite_none_right_eq_some, Option.some_inj]

theorem readBounded?_signed (bound : Nat) (ds : List Char) :
    readBounded? bound ('+' :: ds) = (readDecimal? ds).bind (below? bound) := by
  simp only [readBounded?]
  cases readDecimal? ds with
  | none => rfl
  | some n => rfl

theorem readBounded?_unsigned (bound : Nat) {cs : List Char} (h : ∀ ds, cs ≠ '+' :: ds) :
    readBounded? bound cs = (readDecimal? cs).bind (below? bound) := by
  simp only [readBounded?]
  cases readDecimal? cs with
  | none => rfl
  | some n => rfl

theorem readBounded?_eq_some_iff {bound n : Nat} {cs : List Char} :
    readBounded? bound cs = some n ↔
      n < bound ∧ ∃ ds, (cs = ds ∨ cs = '+' :: ds) ∧ readDecimal? ds = some n := by
  by_cases hsign : ∃ rest, cs = '+' :: rest
  · obtain ⟨rest, rfl⟩ := hsign
    rw [readBounded?_signed, Option.bind_eq_some_iff]
    constructor
    · rintro ⟨k, hk, hn⟩
      obtain ⟨hbound, rfl⟩ := below?_eq_some_iff.mp hn
      exact ⟨hbound, rest, .inr rfl, hk⟩
    · rintro ⟨hbound, ds, rfl | heq, hn⟩
      · -- A plus sign is no digit.
        have hplus := (readDecimal?_eq_some_iff.mp hn).2.1 '+' List.mem_cons_self
        exact absurd hplus (by decide)
      · obtain ⟨-, rfl⟩ := List.cons.inj heq
        exact ⟨n, hn, below?_eq_some_iff.mpr ⟨hbound, rfl⟩⟩
  · rw [not_exists] at hsign
    rw [readBounded?_unsigned bound hsign, Option.bind_eq_some_iff]
    constructor
    · rintro ⟨k, hk, hn⟩
      obtain ⟨hbound, rfl⟩ := below?_eq_some_iff.mp hn
      exact ⟨hbound, cs, .inl rfl, hk⟩
    · rintro ⟨hbound, ds, rfl | heq, hn⟩
      · exact ⟨n, hn, below?_eq_some_iff.mpr ⟨hbound, rfl⟩⟩
      · exact absurd heq (hsign ds)

end EditWatch.Text
