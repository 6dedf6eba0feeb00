import EditWatch.Proofs.Document.Shedding
import EditWatch.Proofs.Session.Step

/-!
# EditWatch.Proofs.Session.Batch -- the edits of a batch

The edits of a batch are applied one after the other, each with an outcome of its own. The records
of the batch and the number of its skipped edits are read off the list of outcomes, and outcomes
and document of a longer batch are those of its parts put together.
-/

namespace EditWatch.Session

open EditWatch.Document

namespace Watch

variable {d d' : Document}

/-- The outcomes of the edits of a batch, in order. -/
def verdicts (d : Document) : List Edit → List (Except Document.Fault Record)
  | [] => []
  | e :: es => (d.apply e).1 :: verdicts (d.apply e).2 es

/-! ## One edit after the other -/

theorem applyAll_cons_fst (d : Document) (e : Edit) (es : List Edit) :
    (applyAll d (e :: es)).1 = (applyAll (d.apply e).2 es).1 := by
  rw [applyAll]
  rcases d.apply e with ⟨_ | _, after⟩ <;> rfl

/-- The records of a batch are those of the accepted edits. -/
theorem applyAll_records (d : Document) (edits : List Edit) :
    (applyAll d edits).2.1 = (verdicts d edits).filterMap Except.toOption := by
  induction edits generalizing d with
  | nil => rfl
  | cons e es ih =>
      rw [applyAll, verdicts]
      rcases happly : d.apply e with ⟨f | r, after⟩
      · exact ih after
      · exact congrArg (r :: ·) (ih after)

/-- The skipped edits of a batch are those that were not accepted. -/
theorem applyAll_skipped (d : Document) (edits : List Edit) :
    (applyAll d edits).2.2 = (verdicts d edits).countP fun v => !v.isOk := by
  induction edits generalizing d with
  | nil => rfl
  | cons e es ih =>
      rw [applyAll, verdicts]
      rcases happly : d.apply e with ⟨f | r, after⟩
      · rw [List.countP_cons_of_pos (by rfl)]
        exact congrArg (· + 1) (ih after)
      · rw [List.countP_cons_of_neg (by exact Bool.false_ne_true)]
        exact ih after

/-- The edits of a batch that are accepted, in order. -/
def accepted (d : Document) : List Edit → List Edit
  | [] => []
  | e :: es =>
    match d.apply e with
    | (.ok _, after) => e :: accepted after es
    | (.error _, after) => accepted after es

/-- Without the edits that are refused a batch leads to the same document and the same records, and
nothing of it is skipped. -/
theorem applyAll_accepted (hwf : d.WellFormed) (edits : List Edit) :
    applyAll d (accepted d edits) = ((applyAll d edits).1, (applyAll d edits).2.1, 0) := by
  induction edits generalizing d with
  | nil => rfl
  | cons e es ih =>
      rw [accepted, applyAll]
      have hrest := ih (hwf.apply e)
      rcases happly : d.apply e with ⟨f | r, after⟩
      · rw [happly] at hrest
        -- The refused edit left the document as it was, so the rest of the batch starts there.
        rw [hwf.eq_of_apply_error happly] at hrest ⊢
        exact hrest
      · rw [happly] at hrest
        simp only [applyAll, happly, hrest]

/-! ## Batches put together -/

theorem applyAll_append_fst (d : Document) (a b : List Edit) :
    (applyAll d (a ++ b)).1 = (applyAll (applyAll d a).1 b).1 := by
  induction a generalizing d with
  | nil => rfl
  | cons e es ih => rw [List.cons_append, applyAll_cons_fst, applyAll_cons_fst, ih]

theorem verdicts_append (d : Document) (a b : List Edit) :
    verdicts d (a ++ b) = verdicts d a ++ verdicts (applyAll d a).1 b := by
  induction a generalizing d with
  | nil => rfl
  | cons e es ih =>
      rw [List.cons_append, verdicts, verdicts, ih, applyAll_cons_fst, List.cons_append]

/-! ## What every batch keeps -/

/-- A batch keeps a document well-formed, its root, and all of its nodes. -/
theorem applyAll_keeps (hwf : d.WellFormed) (edits : List Edit) :
    (applyAll d edits).1.WellFormed ∧ (applyAll d edits).1.root = d.root ∧
      d.Keeps (applyAll d edits).1 := by
  induction edits generalizing d with
  | nil => exact ⟨hwf, rfl, Keeps.refl d⟩
  | cons e es ih =>
      obtain ⟨hafter, hroot, hkeeps⟩ := ih (hwf.apply e)
      rw [applyAll_cons_fst]
      exact ⟨hafter, hroot.trans (hwf.root_apply e), (hwf.keeps_apply e).trans hkeeps⟩

/-- A batch that spares the lost nodes has the same outcomes in the document without them. -/
theorem applyAll_sheds {lost : NodeId → Prop} (h : Sheds lost d d') (hwf : d.WellFormed)
    (hwf' : d'.WellFormed) {edits : List Edit} (hspare : ∀ e ∈ edits, e.Spares lost) :
    verdicts d' edits = verdicts d edits ∧
      Sheds lost (applyAll d edits).1 (applyAll d' edits).1 := by
  induction edits generalizing d d' with
  | nil => exact ⟨rfl, h⟩
  | cons e es ih =>
      rw [List.forall_mem_cons] at hspare
      obtain ⟨hverdict, hafter⟩ := h.apply hwf hwf' hspare.1
      obtain ⟨hrest, hsheds⟩ := ih hafter (hwf.apply e) (hwf'.apply e) hspare.2
      rw [verdicts, verdicts, hverdict, hrest, applyAll_cons_fst, applyAll_cons_fst]
      exact ⟨rfl, hsheds⟩

end Watch

end EditWatch.Session
