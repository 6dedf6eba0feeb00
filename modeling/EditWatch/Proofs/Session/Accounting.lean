import EditWatch.Proofs.Session.Binding
import EditWatch.Proofs.Session.Sides
import EditWatch.Session.Replay

/-!
# EditWatch.Proofs.Session.Accounting -- counters, order and stamps

The counters of a session are written in three places, and what is sent goes out on two ways. After
any signals they agree with one another and with the signals: each batch, each edit, each captured
interaction and each emission is counted once. The emissions come in the order of what they answer
to, and they all bear the stamp that the session was started with.
-/

namespace EditWatch

namespace Session.Signal

open EditWatch.Capture

/-- The edits of a batch. -/
def edits : Signal → List Document.Edit
  | .mutations edits => edits
  | _ => []

/-- The entry of the table that lists an interaction. -/
def captured? : Signal → Option Spec
  | .interaction event _ => Table.builtin.lookup event
  | _ => none

end Session.Signal

/-- Counters added to one another. -/
def Session.Stats.add (s t : Session.Stats) : Session.Stats where
  batches := s.batches + t.batches
  records := s.records + t.records
  emitted := s.emitted + t.emitted
  skippedMutations := s.skippedMutations + t.skippedMutations
  interactions := s.interactions + t.interactions
  rebinds := s.rebinds + t.rebinds

/-- The stamp of what is sent. -/
def Emission.stamp : Emission → Stamp
  | .annotated e => e.stamp
  | .interaction e => e.stamp

theorem Session.Stats.add_assoc (s t u : Session.Stats) : (s.add t).add u = s.add (t.add u) := by
  simp only [Session.Stats.add, Nat.add_assoc]

theorem Session.Stats.zero_add (s : Session.Stats) : Session.Stats.zero.add s = s := by
  simp only [Session.Stats.add, Session.Stats.zero, Nat.zero_add]

end EditWatch

namespace EditWatch.Session.Watch

open EditWatch.Document EditWatch.Labelling EditWatch.Capture

variable {settings : Settings} {rules : RuleTable} {opening : Opening} {w : Watch}
  {past : List Signal} {sent : List Emission}

/-! ## What answers to a signal -/

/-- What a session sends for a signal: for a batch the events of the accepted edits that a rule fits,
in the order of the edits; for an interaction that the table lists the event that is made of it; for
other signals nothing. -/
def answer (w : Watch) : Signal → List Emission
  | .mutations edits =>
    (verdicts w.document edits).filterMap fun v =>
      (v.toOption.bind (w.engine.event? (applyAll w.document edits).1)).map .annotated
  | .interaction event payload =>
    ((w.capturer.table.lookup event).map fun spec =>
      Emission.interaction (w.capturer.event spec event payload)).toList
  | _ => []

theorem sent_handle (w : Watch) (s : Signal) : (w.handle s).2.2 = w.answer s := by
  cases s with
  | mutations edits =>
      show (w.observe edits).2.2 = _
      rw [sent_observe, applyAll_records, List.filterMap_filterMap, List.map_filterMap]
      rfl
  | interaction event payload =>
      simp only [handle, interact, Capturer.handle, answer]
      cases w.capturer.table.lookup event with
      | none => rfl
      | some spec =>
          by_cases hcategory : spec.category = Table.attentionCategory <;> simp [hcategory]
  | loaded => rfl
  | snapshot opening => rfl

/-- There is a record for each accepted edit. -/
theorem length_accepted (d : Document) (edits : List Edit) :
    (accepted d edits).length = (applyAll d edits).2.1.length := by
  induction edits generalizing d with
  | nil => rfl
  | cons e es ih =>
      rw [accepted, applyAll]
      rcases d.apply e with ⟨f | r, after⟩
      · exact ih after
      · exact congrArg (· + 1) (ih after)

/-- A batch is answered at most once for each edit that it accepts. -/
theorem length_answer_le (w : Watch) (edits : List Edit) :
    (w.answer (.mutations edits)).length ≤ (accepted w.document edits).length := by
  rw [← sent_handle, length_accepted]
  show (w.observe edits).2.2.length ≤ _
  rw [sent_observe, List.length_map]
  exact List.length_filterMap_le _ _

/-! ## Counters -/

/-- Each edit of a batch is recorded or skipped. -/
theorem length_records_add_skipped (d : Document) (edits : List Edit) :
    (applyAll d edits).2.1.length + (applyAll d edits).2.2 = edits.length := by
  induction edits generalizing d with
  | nil => rfl
  | cons e es ih =>
      rw [applyAll]
      rcases happly : d.apply e with ⟨f | r, after⟩
      · have hrest := ih after
        show (applyAll after es).2.1.length + ((applyAll after es).2.2 + 1) = es.length + 1
        omega
      · have hrest := ih after
        show (applyAll after es).2.1.length + 1 + (applyAll after es).2.2 = es.length + 1
        omega

/-- The counters agree with the signals that were handled and with what was sent meanwhile. -/
structure Accounts (stats : Stats) (signals : List Signal) (sent : List Emission) : Prop where
  batches : stats.batches = signals.countP Signal.isBatch
  edits : stats.records + stats.skippedMutations = (signals.flatMap Signal.edits).length
  emitted : stats.emitted = (sent.filterMap Emission.annotated?).length
  interactions : stats.interactions = (signals.filterMap Signal.captured?).length
  captured : stats.interactions = (sent.filterMap Emission.interaction?).length
  rebinds : stats.rebinds =
    (signals.filterMap Signal.captured?).countP (·.category = Table.attentionCategory)

theorem accounts_zero : Accounts .zero [] [] := ⟨rfl, rfl, rfl, rfl, rfl, rfl⟩

/-- Accounts of one stretch of signals and of the next one make up those of both. -/
theorem Accounts.add {first second : Stats} {signals signals' : List Signal}
    {sent sent' : List Emission} (h : Accounts first signals sent)
    (h' : Accounts second signals' sent') :
    Accounts (first.add second) (signals ++ signals') (sent ++ sent') where
  batches := by rw [List.countP_append, ← h.batches, ← h'.batches, Stats.add]
  edits := by
    rw [List.flatMap_append, List.length_append, ← h.edits, ← h'.edits]
    exact Nat.add_add_add_comm _ _ _ _
  emitted := by
    rw [List.filterMap_append, List.length_append, ← h.emitted, ← h'.emitted, Stats.add]
  interactions := by
    rw [List.filterMap_append, List.length_append, ← h.interactions, ← h'.interactions, Stats.add]
  captured := by
    rw [List.filterMap_append, List.length_append, ← h.captured, ← h'.captured, Stats.add]
  rebinds := by
    rw [List.filterMap_append, List.countP_append, ← h.rebinds, ← h'.rebinds, Stats.add]

/-- What a batch adds to the counters accounts for its edits and for the events it sends. -/
theorem exists_accounts_mutations (w : Watch) (edits : List Edit) :
    ∃ added, (w.handle (.mutations edits)).1.stats = w.stats.add added ∧
      Accounts added [.mutations edits] (w.handle (.mutations edits)).2.2 := by
  obtain ⟨d, records, skipped, happly⟩ : ∃ d records skipped,
      applyAll w.document edits = (d, records, skipped) := ⟨_, _, _, rfl⟩
  have hsplit : records.length + skipped = edits.length := by
    simpa [happly] using length_records_add_skipped w.document edits
  let events := records.filterMap (w.engine.event? d)
  have hsent : (w.handle (.mutations edits)).2.2 = events.map .annotated := by
    simp only [handle, observe, happly, Engine.processBatch_eq]
    rfl
  refine ⟨⟨1, records.length, events.length, skipped, 0, 0⟩, ?_, ?_⟩
  · simp only [handle, observe, happly, Engine.processBatch_eq]
    rfl
  · rw [hsent]
    refine ⟨rfl, ?_, ?_, rfl, ?_, rfl⟩
    · rw [List.flatMap_singleton]
      exact hsplit
    · rw [Emission.filterMap_annotated?]
    · rw [Emission.filterMap_interaction?]
      rfl

/-- What an interaction adds to the counters accounts for whether the table lists it, and where. -/
theorem exists_accounts_interaction (htable : w.capturer.table = Table.builtin) (event : String)
    (payload : Json) :
    ∃ added, (w.handle (.interaction event payload)).1.stats = w.stats.add added ∧
      Accounts added [.interaction event payload] (w.handle (.interaction event payload)).2.2 := by
  simp only [handle, interact, Capturer.handle, htable]
  cases hlookup : Table.builtin.lookup event with
  | none =>
      have hignored : (Signal.interaction event payload).captured? = none := hlookup
      refine ⟨.zero, rfl, rfl, rfl, rfl, ?_, rfl, ?_⟩
      · rw [List.filterMap_cons_none hignored]
        rfl
      · rw [List.filterMap_cons_none hignored]
        rfl
  | some spec =>
      have hcaptured : (Signal.interaction event payload).captured? = some spec := hlookup
      by_cases hcategory : spec.category = Table.attentionCategory
      · simp only [if_pos hcategory]
        refine ⟨⟨0, 0, 0, 0, 1, 1⟩, rfl, rfl, rfl, rfl, ?_, rfl, ?_⟩
        · rw [List.filterMap_cons_some hcaptured]
          rfl
        · rw [List.filterMap_cons_some hcaptured]
          simp [hcategory]
      · simp only [if_neg hcategory]
        refine ⟨⟨0, 0, 0, 0, 1, 0⟩, rfl, rfl, rfl, rfl, ?_, rfl, ?_⟩
        · rw [List.filterMap_cons_some hcaptured]
          rfl
        · rw [List.filterMap_cons_some hcaptured]
          simp [hcategory]

/-- What one signal adds to the counters accounts for it and for what is sent. -/
theorem exists_accounts_handle (htable : w.capturer.table = Table.builtin) (s : Signal) :
    ∃ added, (w.handle s).1.stats = w.stats.add added ∧ Accounts added [s] (w.handle s).2.2 := by
  cases s with
  | mutations edits => exact w.exists_accounts_mutations edits
  | interaction event payload => exact exists_accounts_interaction htable event payload
  | loaded => exact ⟨.zero, rfl, rfl, rfl, rfl, rfl, rfl, rfl⟩
  | snapshot opening => exact ⟨.zero, rfl, rfl, rfl, rfl, rfl, rfl, rfl⟩

theorem capturer_handle (w : Watch) (s : Signal) : (w.handle s).1.capturer = w.capturer := by
  cases s with
  | mutations edits => rfl
  | interaction event payload =>
      obtain ⟨stats, hafter⟩ := handle_interaction w event payload
      rw [hafter]
  | loaded => rfl
  | snapshot opening => rfl

/-- What any signals add to the counters accounts for them and for all that is sent. -/
theorem exists_accounts_run (htable : w.capturer.table = Table.builtin) (signals : List Signal) :
    ∃ added, (w.run signals).1.stats = w.stats.add added ∧
      Accounts added signals (w.run signals).2 := by
  induction signals generalizing w with
  | nil => exact ⟨.zero, rfl, accounts_zero⟩
  | cons s rest ih =>
      obtain ⟨first, hstats, haccounts⟩ := exists_accounts_handle htable s
      obtain ⟨others, hend, hrest⟩ := @ih (w.handle s).1 (by rw [capturer_handle, htable])
      refine ⟨first.add others, ?_, haccounts.add hrest⟩
      rw [run_cons, hend, hstats, Stats.add_assoc]

/-! ## Stamps -/

theorem stamp_answer (w : Watch) (s : Signal) :
    ∀ e ∈ w.answer s, e.stamp = w.capturer.identity.stamp w.capturer.frame := by
  intro e he
  cases s with
  | mutations edits =>
      obtain ⟨v, -, hv⟩ := List.mem_filterMap.mp he
      obtain ⟨event, hevent, rfl⟩ := Option.map_eq_some_iff.mp hv
      obtain ⟨r, -, hr⟩ := Option.bind_eq_some_iff.mp hevent
      obtain ⟨m, -, rfl⟩ := Option.map_eq_some_iff.mp hr
      rfl
  | interaction event payload =>
      obtain ⟨spec, -, rfl⟩ := Option.map_eq_some_iff.mp (Option.mem_toList.mp he)
      rfl
  | loaded => exact absurd he List.not_mem_nil
  | snapshot opening => exact absurd he List.not_mem_nil

theorem stamp_run (w : Watch) (signals : List Signal) :
    ∀ e ∈ (w.run signals).2, e.stamp = w.capturer.identity.stamp w.capturer.frame := by
  induction signals generalizing w with
  | nil => exact fun e he => absurd he List.not_mem_nil
  | cons s rest ih =>
      intro e he
      rw [run_cons, List.mem_append, sent_handle] at he
      rcases he with he | he
      · exact w.stamp_answer s e he
      · rw [ih _ e he, capturer_handle]

/-! ## Main result -/

/-- After any signals of a session that a snapshot began: the counters account for the signals and
for what was sent; wherever a signal stands, its answer follows what was sent before it and comes
before what is sent afterwards, and a batch is answered at most once for each edit that it accepts;
and everything bears the title and the identity that the snapshot gave and the frame that was set. -/
theorem session_accounts (h : ofOpening settings rules opening = .ok w) (signals : List Signal) :
    let sent := (w.run signals).2
    Accounts (w.run signals).1.stats signals sent ∧
    (∀ before s rest, signals = before ++ s :: rest →
      let now := (w.run before).1
      sent = (w.run before).2 ++ now.answer s ++ ((now.handle s).1.run rest).2 ∧
        ∀ edits, s = .mutations edits →
          (now.answer s).length ≤ (accepted now.document edits).length) ∧
    ∀ e ∈ sent, e.stamp =
      ⟨Identity.told (Identity.ofPage opening.url opening.title).docId, opening.title,
        settings.frame⟩ := by
  obtain ⟨d, -, rfl⟩ := start_eq_ok_iff.mp h
  intro sent
  refine ⟨?_, ?_, stamp_run _ signals⟩
  · obtain ⟨added, hstats, haccounts⟩ := exists_accounts_run
      (w := opened settings rules (Identity.ofPage opening.url opening.title) d) rfl signals
    -- At the start all counters are zero, so what was added is all there is.
    rw [hstats]
    exact added.zero_add.symm ▸ haccounts
  · rintro before s rest rfl
    refine ⟨?_, fun edits hs => hs ▸ length_answer_le _ edits⟩
    show (run _ (before ++ s :: rest)).2 = _
    rw [run_append, run_cons, sent_handle, List.append_assoc]

/-- A saved page with a region, and what its address and its title say. -/
def plan : Opening :=
  ⟨some "file:///document/d/abc123/edit", some "Plan", pageWithRegion⟩

/-- A spelling bubble that opens, next to an edit that is refused and one that no rule fits; a move
of the focus, a scroll, which the table does not list, and a key. -/
def visit : List Signal :=
  [.mutations
    [⟨2, .childList,
        [⟨3, .element, some "div", some (.tokens "kix-spell-bubble"), ∅, none, []⟩], [], none⟩,
      ⟨9, .childList, [], [2], none⟩, ⟨1, .childList, [region 4], [], none⟩],
    .interaction "focusin" .null, .interaction "scroll" .null, .interaction "keydown" .null]

/-- Three emissions under one stamp. -/
theorem session_accounts_visit : ∃ w,
    ofOpening { Settings.default with frameIndex := some 7 } RuleTable.builtin plan = .ok w ∧
      Accounts (w.run visit).1.stats visit (w.run visit).2 ∧
      (w.run visit).1.stats = ⟨1, 2, 1, 1, 2, 1⟩ ∧
      (w.run visit).2.map Emission.stamp =
        List.replicate 3 ⟨some "abc123", some "Plan", .index 7⟩ := by
  have hstart : ofOpening { Settings.default with frameIndex := some 7 } RuleTable.builtin plan =
      .ok _ := start_eq_ok_iff.mpr ⟨_, rfl, rfl⟩
  obtain ⟨haccounts, -, hstamp⟩ := session_accounts hstart visit
  have hplan : Identity.told (Identity.ofPage plan.url plan.title).docId = some "abc123" := by
    decide +kernel
  refine ⟨_, hstart, haccounts, by decide +kernel, List.eq_replicate_iff.mpr ⟨?_, ?_⟩⟩
  · decide +kernel
  · intro stamp hmem
    obtain ⟨e, he, rfl⟩ := List.mem_map.mp hmem
    rw [hstamp e he, hplan]
    rfl

end EditWatch.Session.Watch
