import EditWatch.Proofs.Text.Reading

/-!
# EditWatch.Proofs.Text.Words -- which texts are words

A word has a character and no ASCII white space. These two conditions say of a text both that it can
be a word of some text and that it is the only word of its own. In any text the words are what
stands between ASCII white space or the ends of the text, and a run of white space cuts their list
in two.
-/

namespace EditWatch.Text

/-- The code points of ASCII white space; that of the vertical tab, 0x0B, is not among them. -/
theorem isAsciiBlank_iff {c : Char} :
    isAsciiBlank c ↔ c.toNat ∈ [0x20, 0x09, 0x0A, 0x0C, 0x0D] := by
  simp only [isAsciiBlank, Bool.or_eq_true, beq_iff_eq, ← Char.toNat_inj, or_assoc, List.mem_cons,
    List.not_mem_nil, or_false]
  rfl

/-- The text is not empty and has no ASCII white space. -/
structure IsWord (w : String) : Prop where
  ne_empty : w ≠ ""
  solid : ∀ c ∈ w.toList, ¬ isAsciiBlank c

variable {w s : String}

theorem isEmpty_toList (h : w ≠ "") : w.toList.isEmpty = false :=
  List.isEmpty_eq_false_iff.mpr (mt String.toList_eq_nil_iff.mp h)

theorem mem_words_iff_mem_pieces :
    w ∈ words s ↔ w ≠ "" ∧ w.toList ∈ pieces isAsciiBlank s.toList := by
  rw [words, List.mem_map]
  constructor
  · rintro ⟨p, hp, rfl⟩
    obtain ⟨hpiece, hsome⟩ := List.mem_filter.mp hp
    refine ⟨?_, by rwa [String.toList_ofList]⟩
    intro hempty
    rw [String.ofList_eq_empty_iff.mp hempty] at hsome
    exact nomatch hsome
  · rintro ⟨hne, hpiece⟩
    refine ⟨w.toList, List.mem_filter.mpr ⟨hpiece, ?_⟩, String.ofList_toList⟩
    rw [isEmpty_toList hne, Bool.not_false]

/-- The words of a text stand in it between ASCII white space or its ends. -/
theorem mem_words_iff : w ∈ words s ↔ IsWord w ∧ ∃ before after : String,
    s = before ++ w ++ after ∧ EndsIn isAsciiBlank before.toList ∧
      BeginsWith isAsciiBlank after.toList := by
  rw [mem_words_iff_mem_pieces, mem_pieces_iff]
  constructor
  · rintro ⟨hne, hsolid, before, after, hsplit, hbefore, hafter⟩
    refine ⟨⟨hne, hsolid⟩, String.ofList before, String.ofList after, ?_, ?_, ?_⟩
    · apply String.toList_injective
      rw [hsplit, String.toList_append, String.toList_append, String.toList_ofList,
        String.toList_ofList]
    · rwa [String.toList_ofList]
    · rwa [String.toList_ofList]
  · rintro ⟨hword, before, after, rfl, hbefore, hafter⟩
    refine ⟨hword.ne_empty, hword.solid, before.toList, after.toList, ?_, hbefore, hafter⟩
    rw [String.toList_append, String.toList_append]

/-- What stands among the words of a text is one. -/
theorem isWord_of_mem_words (h : w ∈ words s) : IsWord w := (mem_words_iff.mp h).1

/-- A word is the only one of its own text. -/
theorem IsWord.words_eq (h : IsWord w) : words w = [w] := by
  have hempty : w.toList.isEmpty = false := isEmpty_toList h.ne_empty
  rw [words, pieces_of_forall h.solid, List.filter_cons_of_pos (by rw [hempty]; rfl),
    List.filter_nil, List.map_singleton, String.ofList_toList]

theorem isWord_iff : IsWord w ↔ words w = [w] :=
  ⟨IsWord.words_eq, fun h => isWord_of_mem_words (h ▸ List.mem_cons_self)⟩

instance (w : String) : Decidable (IsWord w) := decidable_of_iff _ isWord_iff.symm

/-- A run of ASCII white space cuts a text in two, and no word goes over it or stands in it. -/
theorem words_append_blanks {blanks : String} (hsome : blanks ≠ "")
    (hblanks : ∀ c ∈ blanks.toList, isAsciiBlank c) (s t : String) :
    words (s ++ blanks ++ t) = words s ++ words t := by
  obtain ⟨c, run, hrun⟩ : ∃ c run, blanks.toList = c :: run :=
    List.exists_cons_of_ne_nil (mt String.toList_eq_nil_iff.mp hsome)
  rw [hrun, List.forall_mem_cons] at hblanks
  have hpieces : pieces isAsciiBlank (s ++ blanks ++ t).toList =
      pieces isAsciiBlank s.toList ++
        (List.replicate run.length [] ++ pieces isAsciiBlank t.toList) := by
    rw [String.toList_append, String.toList_append, hrun, List.append_assoc, List.cons_append,
      pieces_append_sep s.toList hblanks.1, pieces_run_append hblanks.2]
  -- The pieces inside the run are empty.
  have hempty : (List.replicate run.length []).filter (fun w : List Char => !w.isEmpty) = [] := by
    rw [List.filter_replicate]
    rfl
  rw [words, hpieces, List.filter_append, List.filter_append, hempty, List.nil_append,
    List.map_append]
  rfl

end EditWatch.Text
