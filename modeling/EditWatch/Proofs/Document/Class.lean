import EditWatch.Document.Class
import EditWatch.Proofs.Text.Words

/-!
# EditWatch.Proofs.Document.Class -- which tokens a class has

A class string names its tokens one behind the other, with ASCII white space between them, in front
of them and behind them, as much as there is. A token is asked for as a whole: one that another
token begins with, ends in or contains is not there on that account. White space beyond ASCII and
the vertical tab cut nothing and belong to the token in which they stand.
-/

namespace EditWatch.Document.ClassValue

open Text (isAsciiBlank IsWord EndsIn BeginsWith)

theorem has_iff_mem {c : ClassValue} {token : String} : c.has token ↔ token ∈ c.tokenList :=
  List.contains_iff_mem

/-- A class string has a token exactly if the token is a word that stands in the string between
ASCII white space, or between that and an end of the string. The tokens of a string that is a word
are this word alone, and a run of ASCII white space parts the tokens in front of it from those
behind it. -/
theorem tokens_between_blanks :
    (∀ c, isAsciiBlank c ↔ c.toNat ∈ [0x20, 0x09, 0x0A, 0x0C, 0x0D]) ∧
    (∀ raw token, (tokens raw).has token ↔ IsWord token ∧
      ∃ a b : String, raw = a ++ token ++ b ∧ EndsIn isAsciiBlank a.toList ∧
        BeginsWith isAsciiBlank b.toList) ∧
    (∀ token, IsWord token → (tokens token).tokenList = [token]) ∧
    ∀ a w b : String, w ≠ "" → (∀ c ∈ w.toList, isAsciiBlank c) →
      (tokens (a ++ w ++ b)).tokenList = (tokens a).tokenList ++ (tokens b).tokenList := by
  refine ⟨fun c => Text.isAsciiBlank_iff, fun raw token => ?_, fun token h => h.words_eq, ?_⟩
  · rw [has_iff_mem]
    exact Text.mem_words_iff
  · intro a w b hsome hblanks
    exact Text.words_append_blanks hsome hblanks a b

/-- A token with a vertical tab in it, a line end and another token. -/
theorem tokens_between_blanks_toolbar :
    IsWord "docos\x0bview" ∧ IsWord "add-comment" ∧
    " \t\r\n" ≠ "" ∧ (∀ c ∈ " \t\r\n".toList, isAsciiBlank c) ∧
    (tokens ("docos\x0bview" ++ " \t\r\n" ++ "add-comment")).tokenList =
      ["docos\x0bview", "add-comment"] ∧
    (tokens ("docos\x0bview" ++ " \t\r\n" ++ "add-comment")).has "add-comment" := by
  have hview : IsWord "docos\x0bview" := by decide +kernel
  have hcomment : IsWord "add-comment" := by decide +kernel
  have hblanks : ∀ c ∈ " \t\r\n".toList, isAsciiBlank c :=
    List.all_eq_true.mp (by decide +kernel)
  obtain ⟨-, hhas, hword, hcut⟩ := tokens_between_blanks
  refine ⟨hview, hcomment, by decide, hblanks, ?_, ?_⟩
  · rw [hcut _ _ _ (by decide) hblanks, hword _ hview, hword _ hcomment]
    rfl
  · refine (hhas _ _).mpr ⟨hcomment, "docos\x0bview" ++ " \t\r\n", "", ?_, ?_, nofun⟩
    · exact String.append_empty.symm
    · intro c hc
      have hlast : c = '\n' := by
        rw [String.toList_append] at hc
        exact (Option.mem_some_iff.mp hc).symm
      rw [hlast]
      rfl

/-- A token that another one begins with is not there on that account. -/
example : (tokens "docos-stream-view  add-comment").has "add" = false := by decide +kernel

end EditWatch.Document.ClassValue
