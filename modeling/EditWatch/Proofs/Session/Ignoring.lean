import EditWatch.Proofs.Session.Binding

/-!
# EditWatch.Proofs.Session.Ignoring -- what a session ignores

A session heeds of each batch the edits that its document accepts, the interactions that its table
lists, and the first end of loading. Deleting everything else from the signals beforehand changes
nothing that can be seen of the session, but for the number of skipped edits.
-/

namespace EditWatch.Session

open EditWatch.Document EditWatch.Capture

namespace Watch

variable {settings : Settings} {rules : Labelling.RuleTable} {identity : Identity}
  {root : Descriptor} {w : Watch}

/-- The signals without all that the session ignores: edits that are refused when their turn comes,
interactions that the table does not list, ends of loading after the first one, and snapshots.
`ended` tells whether there was an end of loading before. -/
def heeded (w : Watch) (ended : Bool) : List Signal → List Signal
  | [] => []
  | .mutations edits :: rest =>
    .mutations (accepted w.document edits) ::
      heeded (w.handle (.mutations edits)).1 ended rest
  | .interaction event payload :: rest =>
    let others := heeded (w.handle (.interaction event payload)).1 ended rest
    if (Table.builtin.lookup event).isSome then .interaction event payload :: others else others
  | .loaded :: rest =>
    let others := heeded (w.handle .loaded).1 true rest
    if ended then others else .loaded :: others
  | .snapshot opening :: rest => heeded (w.handle (.snapshot opening)).1 ended rest

/-- The session with another number of skipped edits. -/
def withSkipped (w : Watch) (n : Nat) : Watch :=
  { w with stats := { w.stats with skippedMutations := n } }

/-! ## One signal -/

/-- A batch leads to the same without the edits that are refused. -/
theorem handle_accepted (hwf : w.document.WellFormed) (n : Nat) (edits : List Edit) :
    (w.withSkipped n).handle (.mutations (accepted w.document edits)) =
      ((w.handle (.mutations edits)).1.withSkipped n, (w.handle (.mutations edits)).2) := by
  simp only [handle, observe, withSkipped, applyAll_accepted hwf]
  rfl

/-- Interactions do not ask how many edits were skipped. -/
theorem handle_interaction_withSkipped (w : Watch) (n : Nat) (event : String) (payload : Json) :
    (w.withSkipped n).handle (.interaction event payload) =
      ((w.handle (.interaction event payload)).1.withSkipped n,
        (w.handle (.interaction event payload)).2) := by
  simp only [handle, interact, withSkipped]
  rcases w.capturer.handle w.document w.listeners event payload with ⟨l, _ | ⟨e, report⟩⟩ <;> rfl

/-- An interaction that is not listed leaves the session as it was. -/
theorem handle_unlisted {event : String} (htable : w.capturer.table = Table.builtin)
    (h : Table.builtin.lookup event = none) (payload : Json) :
    w.handle (.interaction event payload) = (w, .interaction none, []) := by
  simp only [handle, interact, Capturer.handle, htable, h]

/-- Once the loading phase has ended, ending it again leaves the session as it was. -/
theorem handle_loaded_again (h : w.loading = false) : w.handle .loaded = (w, .loaded false, []) := by
  obtain ⟨document, loading, listeners, rules, capturer, stats, tally⟩ := w
  cases h
  rfl

/-! ## Any signals -/

/-- Two runs from sessions that differ in the number of skipped edits, one of them without what is
ignored, stay together. -/
theorem run_heeded (hw : w.Settled settings root) {ended : Bool} (hended : w.loading = !ended)
    (n : Nat) (signals : List Signal) :
    (w.withSkipped n).run (w.heeded ended signals) =
      ((w.run signals).1.withSkipped n, (w.run signals).2) := by
  induction signals generalizing w ended with
  | nil => rfl
  | cons s rest ih =>
      have hafter := @ih _ (hw.handle s)
      rw [run_cons w]
      cases s with
      | mutations edits =>
          rw [heeded, run_cons, handle_accepted hw.wellFormed, hafter hended]
      | interaction event payload =>
          obtain ⟨stats, hstep⟩ := handle_interaction w event payload
          have hafter := hafter (by rw [hstep]; exact hended)
          rw [heeded]
          split
          · rw [run_cons, handle_interaction_withSkipped, hafter]
          · rename_i hlisted
            rw [Option.not_isSome_iff_eq_none] at hlisted
            rw [handle_unlisted hw.table_eq hlisted] at hafter ⊢
            exact hafter
      | loaded =>
          have hafter := @hafter true rfl
          rw [heeded]
          split
          · rename_i hbefore
            rw [hbefore] at hended
            rw [handle_loaded_again hended] at hafter ⊢
            exact hafter
          · show ((((w.handle .loaded).1.withSkipped n).run _).1,
              [] ++ (((w.handle .loaded).1.withSkipped n).run _).2) = _
            rw [hafter]
            rfl
      | snapshot opening => exact hafter hended

/-! ## Main result -/

/-- Deleting what a session ignores leaves the emissions in their order, the page, the listeners,
the loading phase and all counters as they are, except for the skipped edits, of which there are
then none. -/
theorem ignored_leaves_no_trace (h : start settings rules identity root = .ok w)
    (signals : List Signal) :
    let kept := w.run (w.heeded false signals)
    let full := w.run signals
    kept.2 = full.2 ∧ kept.1.document = full.1.document ∧ kept.1.listeners = full.1.listeners ∧
      kept.1.loading = full.1.loading ∧
      kept.1.stats = { full.1.stats with skippedMutations := 0 } := by
  intro kept full
  have hsettled : w.Settled settings root := settled_run h []
  obtain ⟨d, -, rfl⟩ := start_eq_ok_iff.mp h
  -- At the start nothing was skipped, and the phase had not ended.
  have hkept : kept = (full.1.withSkipped 0, full.2) := run_heeded hsettled rfl 0 signals
  rw [hkept]
  exact ⟨rfl, rfl, rfl, rfl, rfl⟩

/-- A region swapped for another while one of the edits is refused; a scroll, which no category
lists; the focus; and the page reported as loaded twice. -/
def noisy : List Signal :=
  [.mutations (⟨7, .childList, [], [2], none⟩ :: swapRegion 2 3), .interaction "scroll" .null,
    .loaded, .interaction "focusin" .null, .snapshot ⟨none, none, pageWithRegion⟩, .loaded]

/-- Of six signals three are heeded, and the focus binds the new region in either run. -/
theorem ignored_leaves_no_trace_noisy : ∃ w,
    start Settings.default Labelling.RuleTable.builtin ⟨.ok none, .ok none⟩ pageWithRegion = .ok w ∧
      w.heeded false noisy =
        [.mutations (swapRegion 2 3), .loaded, .interaction "focusin" .null] ∧
      (w.run (w.heeded false noisy)).2 = (w.run noisy).2 ∧
      (w.run (w.heeded false noisy)).1.listeners.bindings 3 =
        (rebinderOf Settings.default).bindings ∧
      (w.run noisy).1.listeners.bindings 3 = (rebinderOf Settings.default).bindings ∧
      (w.run noisy).1.stats.skippedMutations = 1 := by
  have hstart : start Settings.default Labelling.RuleTable.builtin ⟨.ok none, .ok none⟩
      pageWithRegion = .ok _ := start_eq_ok_iff.mpr ⟨_, rfl, rfl⟩
  obtain ⟨hsent, -, hlisteners, -, -⟩ := ignored_leaves_no_trace hstart noisy
  refine ⟨_, hstart, rfl, hsent, ?_, ?_, ?_⟩
  · rw [hlisteners]
    decide +kernel
  · decide +kernel
  · decide +kernel

end Watch

end EditWatch.Session
