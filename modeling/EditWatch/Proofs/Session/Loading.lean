import EditWatch.Proofs.Labelling.Marking
import EditWatch.Proofs.Session.Binding

/-!
# EditWatch.Proofs.Session.Loading -- the loading phase of a session

A session is loading until the first signal that says otherwise. When that signal comes, and how
often, changes labels of insertions and nothing else: what is sent, in which order, the page, the
listeners and the counters are the same wherever it stands among the other signals.
-/

namespace EditWatch.Session

open EditWatch.Document EditWatch.Labelling EditWatch.Capture

/-- The end of loading. -/
def Signal.isLoaded : Signal → Bool
  | .loaded => true
  | _ => false

/-- Signals without any end of loading. -/
def withoutLoaded (signals : List Signal) : List Signal := signals.filter fun s => !s.isLoaded

end EditWatch.Session

namespace EditWatch.Emission

/-- An emission without the label, if it tells of an insertion. -/
def unmarked : Emission → Emission
  | .annotated e => .annotated e.unmarked
  | .interaction e => .interaction e

theorem map_unmarked_annotated (events : List Labelling.AnnotatedEvent) :
    (events.map annotated).map unmarked =
      (events.map Labelling.AnnotatedEvent.unmarked).map annotated := by
  rw [List.map_map, List.map_map]
  rfl

end EditWatch.Emission

namespace EditWatch.Session.Watch

open EditWatch.Document EditWatch.Labelling EditWatch.Capture

variable {settings : Settings} {rules : RuleTable} {identity : Identity} {root : Descriptor}
  {w : Watch}

/-! ## The phase -/

/-- The session in either phase. -/
def withLoading (w : Watch) (loading : Bool) : Watch := { w with loading := loading }

theorem loading_handle (w : Watch) (s : Signal) :
    (w.handle s).1.loading = (w.loading && !s.isLoaded) := by
  cases s with
  | mutations edits => exact (Bool.and_true _).symm
  | interaction event payload =>
      obtain ⟨stats, hafter⟩ := handle_interaction w event payload
      rw [hafter]
      exact (Bool.and_true _).symm
  | loaded => exact (Bool.and_false _).symm
  | snapshot opening => exact (Bool.and_true _).symm

/-- A session is loading as long as no end of loading came. -/
theorem loading_run (w : Watch) (signals : List Signal) :
    (w.run signals).1.loading = (w.loading && !signals.any Signal.isLoaded) := by
  induction signals generalizing w with
  | nil => exact (Bool.and_true _).symm
  | cons s rest ih =>
      rw [run_cons, ih, loading_handle, List.any_cons, Bool.not_or, Bool.and_assoc]

/-! ## One signal in either phase -/

/-- A batch leads to the same session in both phases, and to emissions that differ in the labels of
insertions only. -/
theorem observe_withLoading (w : Watch) (loading : Bool) (edits : List Edit) :
    ((w.withLoading loading).observe edits).1 = (w.observe edits).1.withLoading loading ∧
      ((w.withLoading loading).observe edits).2.2.map Emission.unmarked =
        (w.observe edits).2.2.map Emission.unmarked := by
  obtain ⟨hreport, hevents⟩ := w.engine.processBatch_withLoading loading
    (applyAll w.document edits).1 w.tally (applyAll w.document edits).2.1
  have hengine : (w.withLoading loading).engine = w.engine.withLoading loading := rfl
  have hdocument : (w.withLoading loading).document = w.document := rfl
  have htally : (w.withLoading loading).tally = w.tally := rfl
  constructor
  · simp only [observe, hengine, hdocument, htally, hreport]
    rfl
  · simp only [observe, hengine, hdocument, htally, Emission.map_unmarked_annotated, hevents]

theorem interact_withLoading (w : Watch) (loading : Bool) (event : String) (payload : Json) :
    (w.withLoading loading).interact event payload =
      ((w.interact event payload).1.withLoading loading, (w.interact event payload).2) := by
  simp only [interact, withLoading]
  rcases w.capturer.handle w.document w.listeners event payload with ⟨l, _ | ⟨e, report⟩⟩ <;> rfl

/-! ## Any signals -/

/-- A run from which every end of loading is deleted, in whichever phase, stays with the full one,
but for the phase and the labels of insertions. -/
theorem run_withoutLoaded (w : Watch) (loading : Bool) (signals : List Signal) :
    ((w.withLoading loading).run (withoutLoaded signals)).1 =
        (w.run signals).1.withLoading loading ∧
      ((w.withLoading loading).run (withoutLoaded signals)).2.map Emission.unmarked =
        (w.run signals).2.map Emission.unmarked := by
  induction signals generalizing w with
  | nil => exact ⟨rfl, rfl⟩
  | cons s rest ih =>
      rw [run_cons w]
      cases s with
      | mutations edits =>
          obtain ⟨hafter, hsent⟩ := w.observe_withLoading loading edits
          obtain ⟨hend, hothers⟩ := ih (w.observe edits).1
          show (((w.withLoading loading).observe edits).1.run (withoutLoaded rest)).1 = _ ∧
            (((w.withLoading loading).observe edits).2.2 ++
              (((w.withLoading loading).observe edits).1.run (withoutLoaded rest)).2).map
                Emission.unmarked = _
          rw [hafter, List.map_append, hsent, hothers, List.map_append]
          exact ⟨hend, rfl⟩
      | interaction event payload =>
          have hstep := w.interact_withLoading loading event payload
          obtain ⟨hend, hothers⟩ := ih (w.interact event payload).1
          show (((w.withLoading loading).interact event payload).1.run (withoutLoaded rest)).1 = _ ∧
            (((w.withLoading loading).interact event payload).2.2 ++
              (((w.withLoading loading).interact event payload).1.run
                (withoutLoaded rest)).2).map Emission.unmarked = _
          rw [hstep, List.map_append, hothers, List.map_append]
          exact ⟨hend, rfl⟩
      | loaded => exact ih (w.withLoading false)
      | snapshot opening => exact ih w

/-- Two runs from one session on signals that differ in the ends of loading alone. -/
theorem run_eq_of_withoutLoaded_eq (w : Watch) {signals signals' : List Signal}
    (h : withoutLoaded signals = withoutLoaded signals') :
    (w.run signals).2.map Emission.unmarked = (w.run signals').2.map Emission.unmarked ∧
      (w.run signals).1.withLoading true = (w.run signals').1.withLoading true := by
  obtain ⟨hend, hsent⟩ := w.run_withoutLoaded true signals
  obtain ⟨hend', hsent'⟩ := w.run_withoutLoaded true signals'
  rw [h] at hend hsent
  exact ⟨hsent.symm.trans hsent', hend.symm.trans hend'⟩

/-! ## Labels -/

/-- Whatever a batch sends is the event of one of its records, with the label of the rule that
decides over it; the label of an insertion is marked while the session is loading. -/
theorem exists_rule_of_mem_observe {edits : List Edit} {e : AnnotatedEvent}
    (h : .annotated e ∈ (w.observe edits).2.2) :
    ∃ r ∈ (applyAll w.document edits).2.1, ∃ rule,
      w.engine.event? (applyAll w.document edits).1 r = some e ∧
      w.rules.deciding? (applyAll w.document edits).1 r e.category = some rule ∧
      e.label = reportedLabel w.loading e.category rule := by
  rw [sent_observe] at h
  obtain ⟨e', he, heq⟩ := List.mem_map.mp h
  obtain rfl := Emission.annotated.inj heq
  obtain ⟨r, hr, hevent⟩ := List.mem_filterMap.mp he
  obtain ⟨rule, hrule, hcategory, hlabel⟩ := Engine.event?_eq_some hevent
  rw [← hcategory] at hrule
  exact ⟨r, hr, rule, hevent, hrule, hlabel⟩

/-! ## Main result -/

/-- Signals that differ by ends of loading alone lead to emissions that are the same but for the
labels of insertions, and to the same page, listeners and counters. And wherever a batch stands, it
sends an insertion under the label of the rule that decides over one of its records, with the mark
in front exactly if no end of loading came before. -/
theorem load_phase_marks_insertions (h : start settings rules identity root = .ok w) :
    (∀ signals signals', withoutLoaded signals = withoutLoaded signals' →
      (w.run signals).2.map Emission.unmarked = (w.run signals').2.map Emission.unmarked ∧
        (w.run signals).1.document = (w.run signals').1.document ∧
        (w.run signals).1.listeners = (w.run signals').1.listeners ∧
        (w.run signals).1.stats = (w.run signals').1.stats) ∧
    ∀ (before rest : List Signal) (edits : List Edit),
      let now := (w.run before).1
      let judged := (applyAll now.document edits).1
      let records := (applyAll now.document edits).2.1
      let sent := (now.observe edits).2.2
      (w.run (before ++ .mutations edits :: rest)).2 =
          (w.run before).2 ++ sent ++ ((now.observe edits).1.run rest).2 ∧
        ∀ e, .annotated e ∈ sent → e.category = .insert → ∃ r ∈ records, ∃ rule,
          now.engine.event? judged r = some e ∧
          rules.deciding? judged r .insert = some rule ∧
          e.label =
            if before.any Signal.isLoaded then rule.label else "loading_" ++ rule.label := by
  obtain ⟨d, -, rfl⟩ := start_eq_ok_iff.mp h
  constructor
  · intro signals signals' hsame
    obtain ⟨hsent, hend⟩ := run_eq_of_withoutLoaded_eq _ hsame
    have hdocument := congrArg Watch.document hend
    have hlisteners := congrArg Watch.listeners hend
    have hstats := congrArg Watch.stats hend
    exact ⟨hsent, hdocument, hlisteners, hstats⟩
  · intro before rest edits now judged records sent
    constructor
    · rw [run_append, run_cons, List.append_assoc]
      rfl
    · intro e he hinsert
      obtain ⟨r, hr, rule, hevent, hrule, hlabel⟩ := exists_rule_of_mem_observe he
      have hrules : now.rules = rules := rules_run _ before
      have hloading : now.loading = !before.any Signal.isLoaded := loading_run _ before
      rw [hinsert, hrules] at hrule
      refine ⟨r, hr, rule, hevent, hrule, ?_⟩
      rw [hlabel, hinsert, reportedLabel, hloading]
      cases before.any Signal.isLoaded <;> rfl

/-- A spelling bubble opens under the region. -/
def bubble (id : NodeId) : Signal :=
  .mutations [⟨2, .childList,
    [⟨id, .element, some "div", some (.tokens "kix-spell-bubble"), ∅, none, []⟩], [], none⟩]

/-- The page is loaded between two bubbles. -/
def loadedBetween : List Signal := [bubble 3, .loaded, bubble 4]

/-- The page is loaded behind both, and says so twice. -/
def loadedBehind : List Signal := [bubble 3, bubble 4, .loaded, .loaded]

/-- The label of an annotated event. -/
def labelOf : Emission → Option String
  | .annotated e => some e.label
  | .interaction _ => none

/-- The second label is marked in the one case and not in the other; nothing else differs. -/
theorem load_phase_marks_insertions_bubbles : ∃ w,
    start Settings.default RuleTable.builtin ⟨.ok none, .ok none⟩ pageWithRegion = .ok w ∧
      withoutLoaded loadedBetween = withoutLoaded loadedBehind ∧
      (w.run loadedBetween).2.map Emission.unmarked =
        (w.run loadedBehind).2.map Emission.unmarked ∧
      (w.run loadedBetween).2.map labelOf =
        [some "loading_spelling-bubble", some "spelling-bubble"] ∧
      (w.run loadedBehind).2.map labelOf =
        [some "loading_spelling-bubble", some "loading_spelling-bubble"] := by
  have hstart : start Settings.default RuleTable.builtin ⟨.ok none, .ok none⟩ pageWithRegion =
      .ok _ := start_eq_ok_iff.mpr ⟨_, rfl, rfl⟩
  have hsame : withoutLoaded loadedBetween = withoutLoaded loadedBehind := rfl
  obtain ⟨hsent, -⟩ := (load_phase_marks_insertions hstart).1 _ _ hsame
  refine ⟨_, hstart, hsame, hsent, ?_, ?_⟩
  · decide +kernel
  · decide +kernel

end EditWatch.Session.Watch
