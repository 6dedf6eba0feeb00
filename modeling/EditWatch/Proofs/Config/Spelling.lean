import EditWatch.Config.Value
import EditWatch.Proofs.Text.Reading
import Mathlib.Data.List.TakeWhile

/-!
# EditWatch.Proofs.Config.Spelling -- texts whose type was guessed

A setting that is a text takes whatever type was guessed for it and spells it out again. A text that
reads as a truth value or a number may come back in another spelling. Every other one comes back as it
was, and one character that no number and no truth value has is enough for that.
-/

namespace EditWatch.Config

open EditWatch.Number EditWatch.Text

/-! ## Plain spellings -/

namespace Value

/-- A text whose type was guessed, spelled out again. -/
def plain (s : String) : String :=
  if lower s = "true" then "true"
  else if lower s = "false" then "false"
  else match readSigned64? s.toList, Double.read? s.toList with
    | some n, _ => String.ofList (Json.renderInt n)
    | none, some x => realText x
    | none, none => s

/-- The text reads as a truth value, as an integer of 64 bits or as a double. -/
def Typed (s : String) : Prop :=
  lower s = "true" ∨ lower s = "false" ∨ (readSigned64? s.toList).isSome ∨
    (Double.read? s.toList).isSome

/-- Whatever type is guessed, the value stands for a text. -/
theorem text?_guess (s : String) : (guess s).text? = some (plain s) := by
  rw [guess, plain]
  split
  · rename_i htrue
    rw [if_pos htrue]
    rfl
  · rename_i hfalse
    rw [if_neg (by rw [hfalse]; decide), if_pos hfalse]
    rfl
  · rename_i htrue hfalse
    rw [if_neg htrue, if_neg hfalse]
    cases readSigned64? s.toList with
    | some n => rfl
    | none => cases Double.read? s.toList <;> rfl

theorem plain_of_not_typed {s : String} (h : ¬ Typed s) : plain s = s := by
  simp only [Typed, not_or, Bool.not_eq_true, Option.isSome_eq_false_iff,
    Option.isNone_iff_eq_none] at h
  obtain ⟨htrue, hfalse, hwhole, hreal⟩ := h
  rw [plain, if_neg htrue, if_neg hfalse, hwhole, hreal]

/-! ## Characters -/

/-- A character that stands in the spelling of some number or truth value. -/
def isTypedChar (c : Char) : Bool :=
  c.isDigit || ['+', '-', '.'].contains c || "aefilnrstuy".toList.contains c.toLower

theorem isTypedChar_of_isDigit {c : Char} (h : c.isDigit) : isTypedChar c := by
  rw [isTypedChar, h, Bool.true_or, Bool.true_or]

/-- The characters of a word, written in letters of either case. -/
theorem isTypedChar_of_word {cs : List Char} (word : String)
    (hword : word.toList.all "aefilnrstuy".toList.contains)
    (h : String.ofList (cs.map Char.toLower) = word) : ∀ c ∈ cs, isTypedChar c := by
  intro c hc
  have hmem : c.toLower ∈ word.toList := by
    rw [← h, String.toList_ofList]
    exact List.mem_map_of_mem hc
  rw [isTypedChar, List.all_eq_true.mp hword _ hmem, Bool.or_true]

theorem isTypedChar_of_readDecimal? {cs : List Char} {n : Nat} (h : readDecimal? cs = some n) :
    ∀ c ∈ cs, isTypedChar c :=
  fun c hc => isTypedChar_of_isDigit ((readDecimal?_eq_some_iff.mp h).2.1 c hc)

theorem isTypedChar_of_readSigned64? {cs : List Char} {n : Int} (h : readSigned64? cs = some n) :
    ∀ c ∈ cs, isTypedChar c := by
  unfold readSigned64? at h
  split at h
  · obtain ⟨k, hk, -⟩ := Option.bind_eq_some_iff.mp h
    exact List.forall_mem_cons.mpr ⟨by decide, isTypedChar_of_readDecimal? hk⟩
  · obtain ⟨k, hk, -⟩ := Option.map_eq_some_iff.mp h
    obtain ⟨-, ds, rfl | rfl, hds⟩ := readBounded?_eq_some_iff.mp hk
    · exact isTypedChar_of_readDecimal? hds
    · exact List.forall_mem_cons.mpr ⟨by decide, isTypedChar_of_readDecimal? hds⟩

/-- A sign is such a character, so only what follows it has to be looked at. -/
theorem isTypedChar_of_splitSign {cs : List Char}
    (h : ∀ c ∈ (Double.splitSign cs).2, isTypedChar c) : ∀ c ∈ cs, isTypedChar c := by
  unfold Double.splitSign at h
  split at h
  · exact List.forall_mem_cons.mpr ⟨by decide, h⟩
  · exact List.forall_mem_cons.mpr ⟨by decide, h⟩
  · exact h

theorem isTypedChar_of_readExponent? {cs : List Char} {e : Int}
    (h : Double.readExponent? cs = some e) : ∀ c ∈ cs, isTypedChar c := by
  cases cs with
  | nil => exact List.forall_mem_nil _
  | cons c rest =>
      rw [Double.readExponent?] at h
      split at h
      · rename_i hmark
        obtain ⟨n, hn⟩ : ∃ n, readDecimal? (Double.splitSign rest).2 = some n := by
          obtain ⟨_, hn, -⟩ := Option.map_eq_some_iff.mp h
          obtain ⟨n, hn, -⟩ := Option.bind_eq_some_iff.mp hn
          exact ⟨n, hn⟩
        refine List.forall_mem_cons.mpr ⟨?_, ?_⟩
        · rcases (Bool.or_eq_true _ _).mp hmark with he | he
          · rw [eq_of_beq he]
            decide
          · rw [eq_of_beq he]
            decide
        · exact isTypedChar_of_splitSign (isTypedChar_of_readDecimal? hn)
      · exact nomatch h

theorem isTypedChar_of_ofWord? {negative : Bool} {cs : List Char} {x : Double}
    (h : Double.ofWord? negative cs = some x) : ∀ c ∈ cs, isTypedChar c := by
  unfold Double.ofWord? at h
  split at h
  · rename_i heq
    exact isTypedChar_of_word "inf" (by decide) heq
  · rename_i heq
    exact isTypedChar_of_word "infinity" (by decide) heq
  · rename_i heq
    exact isTypedChar_of_word "nan" (by decide) heq
  · exact nomatch h

/-- The digits at the front are no matter either, only what follows them. -/
theorem isTypedChar_of_dropWhile {cs : List Char}
    (h : ∀ c ∈ cs.dropWhile Char.isDigit, isTypedChar c) : ∀ c ∈ cs, isTypedChar c := by
  intro c hc
  rw [← List.takeWhile_append_dropWhile (p := Char.isDigit) (l := cs), List.mem_append] at hc
  rcases hc with hc | hc
  · exact isTypedChar_of_isDigit (List.mem_takeWhile_imp hc)
  · exact h c hc

/-- Behind the sign of a double there are a word, or digits, a point and an exponent. -/
theorem isTypedChar_of_read? {cs : List Char} {x : Double} (h : Double.read? cs = some x) :
    ∀ c ∈ cs, isTypedChar c := by
  refine isTypedChar_of_splitSign ?_
  simp only [Double.read?] at h
  generalize (Double.splitSign cs).2 = body at h ⊢
  split at h
  · rename_i hword
    exact isTypedChar_of_ofWord? hword
  · refine isTypedChar_of_dropWhile ?_
    split at h
    · rename_i rest hpoint
      obtain ⟨-, hexponent⟩ := Option.ite_none_left_eq_some.mp h
      obtain ⟨e, he, -⟩ := Option.map_eq_some_iff.mp hexponent
      rw [hpoint]
      exact List.forall_mem_cons.mpr
        ⟨by decide, isTypedChar_of_dropWhile (isTypedChar_of_readExponent? he)⟩
    · obtain ⟨-, hexponent⟩ := Option.ite_none_left_eq_some.mp h
      obtain ⟨e, he, -⟩ := Option.map_eq_some_iff.mp hexponent
      exact isTypedChar_of_readExponent? he

theorem Typed.isTypedChar {s : String} (h : Typed s) : ∀ c ∈ s.toList, isTypedChar c := by
  rcases h with htrue | hfalse | hwhole | hreal
  · exact isTypedChar_of_word "true" (by decide) htrue
  · exact isTypedChar_of_word "false" (by decide) hfalse
  · obtain ⟨n, hn⟩ := Option.isSome_iff_exists.mp hwhole
    exact isTypedChar_of_readSigned64? hn
  · obtain ⟨x, hx⟩ := Option.isSome_iff_exists.mp hreal
    exact isTypedChar_of_read? hx

/-- A text with any other character is kept as it is, a path with a slash for one. -/
theorem plain_of_mem {s : String} {c : Char} (hc : c ∈ s.toList) (h : ¬ isTypedChar c) :
    plain s = s :=
  plain_of_not_typed fun htyped => h (htyped.isTypedChar c hc)

example : plain "/etc/007" = "/etc/007" := by decide +kernel

end Value

end EditWatch.Config
