import EditWatch.Proofs.Labelling.Counting
import EditWatch.Session.Watch

/-!
# EditWatch.Proofs.Session.Step -- what one signal changes

Each kind of signal writes a few fields of the session and leaves the others. The lemmas below say
which, so that an invariant of a session is proved from them without unfolding a step again.
-/

namespace EditWatch.Session

open EditWatch.Document EditWatch.Labelling EditWatch.Capture

namespace Watch

variable {settings : Settings} {rules : RuleTable} {identity : Identity} {root : Descriptor}

/-! ## The start -/

/-- The rebinder of a session with the given settings. -/
def rebinderOf (settings : Settings) : Rebinder :=
  Rebinder.ofTable settings.dynamicRegion Table.builtin settings.frame

/-- A session before its first signal. -/
def opened (settings : Settings) (rules : RuleTable) (identity : Identity) (d : Document) :
    Watch where
  document := d
  loading := true
  listeners := ((rebinderOf settings).rebind d ∅).1
  rules := rules
  capturer := ⟨Table.builtin, rebinderOf settings, identity, settings.frame⟩
  stats := .zero
  tally := .zero

/-- A session starts exactly when the snapshot makes a document. -/
theorem start_eq_ok_iff {w : Watch} : start settings rules identity root = .ok w ↔
    ∃ d, ofRoot root = .ok d ∧ w = opened settings rules identity d := by
  unfold start
  cases ofRoot root with
  | error f => simp
  | ok d => simp [opened, rebinderOf, eq_comm]

/-! ## The signals -/

/-- A batch sends the events of its records, judged against the document after all its edits. -/
theorem sent_observe (w : Watch) (edits : List Edit) :
    (w.observe edits).2.2 = ((applyAll w.document edits).2.1.filterMap
      (w.engine.event? (applyAll w.document edits).1)).map Emission.annotated := by
  simp only [observe, Engine.processBatch_eq]

theorem handle_mutations (w : Watch) (edits : List Edit) :
    ∃ stats tally, (w.handle (.mutations edits)).1 =
      { w with
        document := (applyAll w.document edits).1.prune.1
        listeners := (w.listeners.retain (applyAll w.document edits).1.prune.1.contains).1
        stats := stats
        tally := tally } := ⟨_, _, rfl⟩

theorem handle_interaction (w : Watch) (event : String) (payload : Json) :
    ∃ stats, (w.handle (.interaction event payload)).1 =
      { w with
        listeners := (w.capturer.handle w.document w.listeners event payload).1
        stats := stats } := by
  rw [handle, interact]
  rcases w.capturer.handle w.document w.listeners event payload with ⟨l, _ | ⟨e, report⟩⟩
  · exact ⟨w.stats, rfl⟩
  · exact ⟨_, rfl⟩

/-- The first signal is handled before the others, and its emissions come first. -/
theorem run_cons (w : Watch) (s : Signal) (rest : List Signal) :
    w.run (s :: rest) =
      (((w.handle s).1.run rest).1, (w.handle s).2.2 ++ ((w.handle s).1.run rest).2) := rfl

/-- What holds at first and is kept by every signal holds after any signals. -/
theorem run_induction {P : Watch → Prop} {w : Watch} (hstart : P w)
    (hstep : ∀ w s, P w → P (w.handle s).1) (signals : List Signal) : P (w.run signals).1 := by
  induction signals generalizing w with
  | nil => exact hstart
  | cons s rest ih => exact ih (hstep w s hstart)

/-- Emissions of a sequence of signals come in the order of its parts. -/
theorem run_append (w : Watch) (before rest : List Signal) :
    w.run (before ++ rest) =
      (((w.run before).1.run rest).1, (w.run before).2 ++ ((w.run before).1.run rest).2) := by
  induction before generalizing w with
  | nil => rfl
  | cons s before ih =>
      rw [List.cons_append, run_cons, run_cons, ih, List.append_assoc]

theorem rules_run (w : Watch) (signals : List Signal) : (w.run signals).1.rules = w.rules := by
  refine run_induction (P := fun v => v.rules = w.rules) rfl (fun v s hv => ?_) signals
  cases s with
  | mutations edits => exact hv
  | interaction event payload =>
      obtain ⟨stats, hafter⟩ := handle_interaction v event payload
      rw [hafter]
      exact hv
  | loaded => exact hv
  | snapshot opening => exact hv

end Watch

end EditWatch.Session
