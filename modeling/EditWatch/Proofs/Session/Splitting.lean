import EditWatch.Proofs.Session.Binding

/-!
# EditWatch.Proofs.Session.Splitting -- where a batch ends

A session drops detached nodes and their listeners at the end of each batch. Edits that come in two
batches lead to the same page and the same listeners as in one batch, and the same of them are
accepted, unless the later ones deal with a node that the earlier ones took out: such a node is
still held in the one case and gone in the other.
-/

namespace EditWatch.Session

open EditWatch.Document EditWatch.Capture

namespace Watch

variable {settings : Settings} {rules : Labelling.RuleTable} {identity : Identity}
  {root : Descriptor} {w : Watch}

/-! ## Listeners forgotten on the way -/

/-- If whatever listens is on the page in between or is not on it afterwards, nothing changes when
listeners are forgotten in between, too. -/
theorem bindings_retain_retain {l : Listeners} {between after : Document}
    (h : ∀ id, l.bindings id ≠ [] → after.contains id → between.contains id) (id : NodeId) :
    ((l.retain between.contains).1.retain after.contains).1.bindings id =
      (l.retain after.contains).1.bindings id := by
  rw [Listeners.bindings_retain, Listeners.bindings_retain, Listeners.bindings_retain]
  by_cases hafter : after.contains id
  · rw [if_pos hafter, if_pos hafter]
    by_cases hbetween : between.contains id
    · rw [if_pos hbetween]
    · rw [if_neg hbetween]
      by_contra hbound
      exact hbetween (h id (Ne.symm hbound) hafter)
  · rw [if_neg hafter, if_neg hafter]

/-! ## Main result -/

/-- After any signals, edits may come in one batch or in two, if those of the second part neither
aim at a node that the first part detached nor add one of its number: page and listeners are the
same afterwards, and the edits have the same outcomes, so as many are recorded and skipped. -/
theorem batch_splits (h : start settings rules identity root = .ok w) (signals : List Signal)
    (a b : List Edit)
    (hspare : ∀ e ∈ b, e.Spares (applyAll (w.run signals).1.document a).1.Detached) :
    let now := (w.run signals).1
    let joined := (now.observe (a ++ b)).1
    let first := (now.observe a).1
    let split := (first.observe b).1
    joined.document = split.document ∧
      (∀ id, joined.listeners.bindings id = split.listeners.bindings id) ∧
      verdicts now.document (a ++ b) =
        verdicts now.document a ++ verdicts first.document b ∧
      joined.stats.records = split.stats.records ∧
      joined.stats.skippedMutations = split.stats.skippedMutations := by
  intro now joined first split
  have hnow : now.Settled settings root := settled_run h signals
  obtain ⟨hwf, -, hkeeps⟩ := applyAll_keeps hnow.wellFormed a
  -- The second part meets a document that still holds the detached nodes, or one that shed them.
  obtain ⟨hverdicts, hsheds⟩ := applyAll_sheds hwf.sheds_prune hwf hwf.prune hspare
  have hverdicts : verdicts first.document b = verdicts (applyAll now.document a).1 b := hverdicts
  have hend : joined.document = split.document := by
    show (applyAll now.document (a ++ b)).1.prune.1 = (applyAll first.document b).1.prune.1
    rw [applyAll_append_fst]
    exact (hsheds.prune_eq (applyAll_keeps hwf b).1 (applyAll_keeps hwf.prune b).1).symm
  refine ⟨hend, fun id => ?_, ?_, ?_, ?_⟩
  · show (now.listeners.retain joined.document.contains).1.bindings id =
      ((now.listeners.retain first.document.contains).1.retain
        split.document.contains).1.bindings id
    rw [hend]
    refine (bindings_retain_retain (fun j hbound hafter => ?_) id).symm
    -- A node that listens was held before the batch, so it is lost only if it was detached.
    have hheld := hkeeps.contains (hnow.confined j hbound).1
    have hkept : ¬ (applyAll now.document a).1.Detached j := fun hlost => by
      obtain ⟨n, hn⟩ := contains_iff.mp hafter
      have hn := ((applyAll_keeps hwf.prune b).1.node?_prune.mp hn).1
      exact nomatch hn.symm.trans (hsheds.node?_lost hlost)
    exact (hwf.sheds_prune.contains_eq hkept).trans hheld
  · rw [verdicts_append, hverdicts]
  · show now.stats.records + (applyAll now.document (a ++ b)).2.1.length =
      now.stats.records + (applyAll now.document a).2.1.length +
        (applyAll first.document b).2.1.length
    rw [applyAll_records, applyAll_records, applyAll_records, verdicts_append, hverdicts,
      List.filterMap_append, List.length_append, Nat.add_assoc]
  · show now.stats.skippedMutations + (applyAll now.document (a ++ b)).2.2 =
      now.stats.skippedMutations + (applyAll now.document a).2.2 +
        (applyAll first.document b).2.2
    rw [applyAll_skipped, applyAll_skipped, applyAll_skipped, verdicts_append, hverdicts,
      List.countP_append, Nat.add_assoc]

/-- A correction of the new word, a line break under a node that does not exist, and one behind the
word. -/
def correction : List Edit :=
  [⟨4, .characterData, [], [], some "The"⟩,
    ⟨9, .childList, [⟨5, .element, some "br", none, ∅, none, []⟩], [], none⟩,
    ⟨1, .childList, [⟨5, .element, some "br", none, ∅, none, []⟩], [], none⟩]

/-- A word is replaced and the new one corrected, in one batch or in two. Nodes 2 and 3 are
detached in between, and one of the edits is refused either way. -/
theorem batch_splits_correction : ∃ w,
    start Settings.default Labelling.RuleTable.builtin ⟨.ok none, .ok none⟩ paragraph = .ok w ∧
      (applyAll (w.run []).1.document [replaceWord]).1.Detached 3 ∧
      ((w.run []).1.observe ([replaceWord] ++ correction)).1.document =
        (((w.run []).1.observe [replaceWord]).1.observe correction).1.document ∧
      (verdicts (w.run []).1.document ([replaceWord] ++ correction)).map Except.isOk =
        [true, true, false, true] := by
  have hstart : start Settings.default Labelling.RuleTable.builtin ⟨.ok none, .ok none⟩
      paragraph = .ok _ := start_eq_ok_iff.mpr ⟨_, rfl, rfl⟩
  refine ⟨_, hstart, ?_, (batch_splits hstart [] [replaceWord] correction ?_).1, ?_⟩
  · decide +kernel
  · decide +kernel
  · rfl

end Watch

end EditWatch.Session
