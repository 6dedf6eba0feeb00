import EditWatch.Proofs.Document.Editing
import EditWatch.Proofs.Session.Step

/-!
# EditWatch.Proofs.Session.Refinement -- a session works on a tree

A session keeps the page in an arena of linked nodes, where removed nodes stay until the batch is
over. To an observer who only walks the page from its root this is a tree on which every accepted
edit acts as a function. The tree that is reckoned with here never looks at the arena, except to
ask which edits it accepts and whether their targets are attached.
-/

namespace EditWatch.Session

open EditWatch.Document

namespace Watch

variable {d : Document} {x root : Descriptor} {w : Watch}
  {settings : Settings} {rules : Labelling.RuleTable} {identity : Identity}

/-- The tree after a batch: each accepted edit of an attached node edits the tree, every other
edit leaves it as it is. -/
def replay (d : Document) (x : Descriptor) : List Edit → Descriptor
  | [] => x
  | e :: es =>
    match d.apply e with
    | (.ok _, after) => replay after (if d.isAttached e.target then x.edit e else x) es
    | (.error _, after) => replay after x es

/-- The tree after a sequence of signals. Only batches of edits touch it. -/
def treeAfter (w : Watch) (x : Descriptor) : List Signal → Descriptor
  | [] => x
  | .mutations edits :: rest =>
    treeAfter (w.handle (.mutations edits)).1 (replay w.document x edits) rest
  | s :: rest => treeAfter (w.handle s).1 x rest

/-! ## One batch -/

/-- The document after the edits of a batch shows the replayed tree. -/
theorem represents_applyAll (h : d.Represents x) (edits : List Edit) :
    (applyAll d edits).1.Represents (replay d x edits) := by
  induction edits generalizing d x with
  | nil => exact h
  | cons e es ih =>
      rw [applyAll, replay]
      rcases hstep : d.apply e with ⟨f | r, after⟩
      · exact ih (h.apply_error hstep)
      · exact ih (h.apply_ok hstep)

/-! ## Any signals -/

/-- Whatever a session handles, its document holds the tree that is reckoned with, and nothing
besides. -/
theorem holds_run (h : w.document.Holds x) (signals : List Signal) :
    (w.run signals).1.document.Holds (w.treeAfter x signals) := by
  induction signals generalizing w x with
  | nil => exact h
  | cons s rest ih =>
      rw [run]
      cases s with
      | mutations edits =>
          refine ih ?_
          obtain ⟨stats, tally, hafter⟩ := handle_mutations w edits
          rw [hafter]
          -- During the batch removed nodes are held besides; the pruning drops them.
          exact (represents_applyAll h.toRepresents edits).holds_prune
      | interaction event payload =>
          refine ih ?_
          obtain ⟨stats, hafter⟩ := handle_interaction w event payload
          rwa [hafter]
      | snapshot opening => exact ih h
      | loaded => exact ih h

/-! ## From the start on -/

/-- After any signals, the tree read from the root through the lists of children is the snapshot
with the accepted edits applied to it in order, and the arena holds the numbers of this tree, each
of which occurs in it once. -/
theorem run_refines_tree (h : start settings rules identity root = .ok w)
    (signals : List Signal) :
    (w.run signals).1.document.tree? = some (w.treeAfter root signals) ∧
      (w.treeAfter root signals).ids.Nodup ∧
      ∀ id, (w.run signals).1.document.contains id ↔ id ∈ (w.treeAfter root signals).ids := by
  obtain ⟨d, hd, rfl⟩ := start_eq_ok_iff.mp h
  have hholds := holds_run (w := opened settings rules identity d) (Holds.ofRoot hd) signals
  exact ⟨hholds.tree?_eq, hholds.shows.nodup_ids hholds.wellFormed, hholds.contains_iff⟩

/-- A batch that takes a word out, writes to it afterwards and tries to take it out again; a move
of the focus; and a batch that corrects the new word. -/
def proofreading : List Signal :=
  [.mutations [replaceWord, ⟨3, .characterData, [], [], some "lost"⟩, replaceWord],
    .interaction "focusin" .null,
    .mutations [⟨4, .characterData, [], [], some "The"⟩]]

/-- Only the first edit and the last one show. -/
theorem run_refines_tree_proofreading : ∃ w,
    start Settings.default Labelling.RuleTable.builtin ⟨.ok none, .ok none⟩ paragraph = .ok w ∧
      (w.run proofreading).1.document.tree? = some (w.treeAfter paragraph proofreading) ∧
      (w.treeAfter paragraph proofreading).children.map Descriptor.text = [some "The"] ∧
      ∀ id, (w.run proofreading).1.document.contains id ↔ id ∈ [1, 4] := by
  have hstart : start Settings.default Labelling.RuleTable.builtin ⟨.ok none, .ok none⟩ paragraph =
      .ok _ := start_eq_ok_iff.mpr ⟨_, rfl, rfl⟩
  obtain ⟨htree, -, hcontains⟩ := run_refines_tree hstart proofreading
  refine ⟨_, hstart, htree, by decide +kernel, fun id => (hcontains id).trans ?_⟩
  rw [show (treeAfter _ paragraph proofreading).ids = [1, 4] by decide +kernel]

end Watch

end EditWatch.Session
