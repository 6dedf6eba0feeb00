import EditWatch.Proofs.Session.Step

/-!
# EditWatch.Proofs.Session.Sides -- edits and interactions do not interfere

A session has two sides. Batches of edits change the page and send annotated events; interactions
bind listeners and send what was captured. Both look at the same page and write to the same
listeners, but neither side asks for what the other one writes: on each side a session fares as it
would if the signals of the other side had never come.
-/

namespace EditWatch

namespace Session

/-- A batch of edits. -/
def Signal.isBatch : Signal → Bool
  | .mutations _ => true
  | _ => false

/-- A raw interaction. -/
def Signal.isInteraction : Signal → Bool
  | .interaction _ _ => true
  | _ => false

end Session

namespace Emission

/-- The annotated event, if the emission is one. -/
def annotated? : Emission → Option Labelling.AnnotatedEvent
  | .annotated e => some e
  | .interaction _ => none

/-- The interaction, if the emission is one. -/
def interaction? : Emission → Option Capture.InteractionEvent
  | .annotated _ => none
  | .interaction e => some e

theorem filterMap_annotated? (events : List Labelling.AnnotatedEvent) :
    (events.map annotated).filterMap annotated? = events := by
  rw [List.filterMap_map]
  exact List.filterMap_some

theorem filterMap_interaction? (events : List Labelling.AnnotatedEvent) :
    (events.map annotated).filterMap interaction? = [] := by
  rw [List.filterMap_map]
  exact List.filterMap_eq_nil_iff.mpr fun _ _ => rfl

end Emission

end EditWatch

namespace EditWatch.Session.Watch

open EditWatch.Document EditWatch.Labelling EditWatch.Capture

variable {α : Type} {side : Watch → Watch} {keep : Signal → Bool} {view : Emission → Option α}

/-- A side of a session: what is left of a session when the other side is blanked out, the signals
that belong to the side, and what is seen of its emissions. A signal of the side does the same with
the rest blanked out, and any other signal leaves the side alone and sends nothing that is seen. -/
structure Separate (side : Watch → Watch) (keep : Signal → Bool) (view : Emission → Option α) :
    Prop where
  blanked : ∀ w s, keep s = true →
    side (w.handle s).1 = side ((side w).handle s).1 ∧
      (w.handle s).2.2.filterMap view = ((side w).handle s).2.2.filterMap view
  untouched : ∀ w s, keep s = false →
    side (w.handle s).1 = side w ∧ (w.handle s).2.2.filterMap view = []

/-- On its side a session fares as if the other signals had never come. -/
theorem Separate.run_filter (h : Separate side keep view) {v w : Watch} (hvw : side v = side w)
    (signals : List Signal) :
    side (v.run (signals.filter keep)).1 = side (w.run signals).1 ∧
      (v.run (signals.filter keep)).2.filterMap view = (w.run signals).2.filterMap view := by
  induction signals generalizing v w with
  | nil => exact ⟨hvw, rfl⟩
  | cons s rest ih =>
      rw [run_cons w, List.filterMap_append]
      cases hs : keep s with
      | true =>
          obtain ⟨hafter, hsent⟩ := h.blanked v s hs
          obtain ⟨hafter', hsent'⟩ := h.blanked w s hs
          rw [hvw] at hafter hsent
          obtain ⟨hend, hothers⟩ := ih (hafter.trans hafter'.symm)
          rw [List.filter_cons_of_pos hs, run_cons, List.filterMap_append, hsent, hothers, hsent']
          exact ⟨hend, rfl⟩
      | false =>
          obtain ⟨hafter, hsent⟩ := h.untouched w s hs
          rw [List.filter_cons_of_neg (by simp [hs]), hsent]
          exact ih (hvw.trans hafter.symm)

/-! ## The side of the edits -/

/-- The session without its listeners and the counters of its interactions. -/
def editingSide (w : Watch) : Watch :=
  { w with listeners := ∅, stats := { w.stats with interactions := 0, rebinds := 0 } }

theorem separate_editingSide :
    Separate editingSide (fun s => !s.isInteraction) Emission.annotated? where
  blanked w s hs := by
    cases s with
    | mutations edits => exact ⟨rfl, rfl⟩
    | interaction event payload => cases hs
    | loaded => exact ⟨rfl, rfl⟩
    | snapshot opening => exact ⟨rfl, rfl⟩
  untouched w s hs := by
    cases s with
    | interaction event payload =>
        rw [handle, interact]
        rcases w.capturer.handle w.document w.listeners event payload with ⟨l, _ | ⟨e, report⟩⟩
        · exact ⟨rfl, rfl⟩
        · exact ⟨rfl, rfl⟩
    | mutations edits => cases hs
    | loaded => cases hs
    | snapshot opening => cases hs

/-! ## The side of the interactions -/

/-- The session without page, listeners, phase, and the counters of its batches. -/
def capturingSide (w : Watch) : Watch :=
  { w with
    document := .empty
    loading := false
    listeners := ∅
    stats := { Stats.zero with interactions := w.stats.interactions, rebinds := w.stats.rebinds }
    tally := .zero }

/-- Whatever the page is and listens to, an event is captured alike, and it rebinds the region or
does not. -/
theorem interact_capturingSide (w : Watch) (event : String) (payload : Json) :
    (w.interact event payload).1.capturingSide =
        (w.capturingSide.interact event payload).1.capturingSide ∧
      (w.interact event payload).2.2 = (w.capturingSide.interact event payload).2.2 := by
  simp only [interact, Capturer.handle, capturingSide]
  cases w.capturer.table.lookup event with
  | none => exact ⟨rfl, rfl⟩
  | some spec => by_cases hcategory : spec.category = Table.attentionCategory <;> simp [hcategory]

theorem separate_capturingSide :
    Separate capturingSide (fun s => !s.isBatch) Emission.interaction? where
  blanked w s hs := by
    cases s with
    | mutations edits => exact nomatch hs
    | interaction event payload =>
        obtain ⟨hafter, hsent⟩ := w.interact_capturingSide event payload
        exact ⟨hafter, congrArg (List.filterMap Emission.interaction?) hsent⟩
    | loaded => exact ⟨rfl, rfl⟩
    | snapshot opening => exact ⟨rfl, rfl⟩
  untouched w s hs := by
    cases s with
    | mutations edits => exact ⟨rfl, Emission.filterMap_interaction? _⟩
    | interaction event payload => exact nomatch hs
    | loaded => exact nomatch hs
    | snapshot opening => exact nomatch hs

/-! ## Main result -/

/-- Dropping all interactions leaves the annotated events in their order, the page, the loading phase
and the counters of the edits as they are. Dropping all batches leaves the captured interactions in
their order and their counters as they are. This is so from any state of a session on, and so from
its start. -/
theorem edits_and_interactions_apart (w : Watch) (signals : List Signal) :
    let full := w.run signals
    let edited := w.run (signals.filter fun s => !s.isInteraction)
    let captured := w.run (signals.filter fun s => !s.isBatch)
    (edited.2.filterMap Emission.annotated? = full.2.filterMap Emission.annotated? ∧
      edited.1.document = full.1.document ∧ edited.1.loading = full.1.loading ∧
      edited.1.stats.batches = full.1.stats.batches ∧
      edited.1.stats.records = full.1.stats.records ∧
      edited.1.stats.emitted = full.1.stats.emitted ∧
      edited.1.stats.skippedMutations = full.1.stats.skippedMutations) ∧
    (captured.2.filterMap Emission.interaction? = full.2.filterMap Emission.interaction? ∧
      captured.1.stats.interactions = full.1.stats.interactions ∧
      captured.1.stats.rebinds = full.1.stats.rebinds) := by
  intro full edited captured
  obtain ⟨hedited, hannotated⟩ := separate_editingSide.run_filter (v := w) rfl signals
  obtain ⟨hcaptured, hinteractions⟩ := separate_capturingSide.run_filter (v := w) rfl signals
  refine ⟨⟨hannotated, ?_, ?_, ?_, ?_, ?_, ?_⟩, hinteractions, ?_, ?_⟩
  · exact congrArg (fun v => v.document) hedited
  · exact congrArg (fun v => v.loading) hedited
  · exact congrArg (fun v => v.stats.batches) hedited
  · exact congrArg (fun v => v.stats.records) hedited
  · exact congrArg (fun v => v.stats.emitted) hedited
  · exact congrArg (fun v => v.stats.skippedMutations) hedited
  · exact congrArg (fun v => v.stats.interactions) hcaptured
  · exact congrArg (fun v => v.stats.rebinds) hcaptured

end EditWatch.Session.Watch
