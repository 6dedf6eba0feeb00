import EditWatch.Labelling.Batch

/-!
# EditWatch.Proofs.Labelling.Counting -- what a batch sends and what it counts

The records of a batch are taken one after the other, and three accounts are kept on the way: the
events that are sent, the number of them in the report, and the counters of the engine, which go on
from wherever they stood. What is sent for a record depends on that record alone, so the three
accounts agree for every batch, and a batch that is cut in two sends and counts the same, as two
batches.
-/

namespace EditWatch.Labelling

open EditWatch.Document

variable {g : Engine} {d : Document}

/-! ## Counters -/

namespace Counter

/-- The counter `n` further. -/
def forward (c : Counter) (n : Nat) : Counter := ⟨c.word + UInt64.ofNat n⟩

/-- How far a counter went since it stood at `before`, if it did not go all the way round. -/
def since (c before : Counter) : Nat := (c.word - before.word).toNat

theorem next_eq_forward (c : Counter) : c.next = c.forward 1 := rfl

@[simp]
theorem forward_zero (c : Counter) : c.forward 0 = c :=
  congrArg Counter.mk (UInt64.add_zero c.word)

@[simp]
theorem forward_forward (c : Counter) (m n : Nat) :
    (c.forward m).forward n = c.forward (m + n) := by
  simp only [forward, UInt64.ofNat_add, UInt64.add_assoc]

/-- Fewer steps than a word has values are told from where the counter stands afterwards. -/
theorem since_forward (c : Counter) {n : Nat} (h : n < 0x10000000000000000) :
    (c.forward n).since c = n := by
  rw [since, forward, UInt64.add_comm, UInt64.add_sub_cancel]
  exact UInt64.toNat_ofNat_of_lt h

end Counter

/-! ## Numbers by category -/

/-- The numbers of all categories added up. -/
def PerCategory.total (p : PerCategory Nat) : Nat :=
  p.insert + p.delete + p.clear + p.input + p.replace + p.suggest + p.other

theorem PerCategory.total_modify_succ (p : PerCategory Nat) (c : Category) :
    (p.modify c (· + 1)).total = p.total + 1 := by
  cases c <;> simp only [total, modify, ofFn, get] <;> grind

/-- How many of the records are of each category. -/
def kindsOf (d : Document) (records : List Record) : PerCategory Nat :=
  .ofFn fun c => records.countP fun r => classify d r = c

theorem kindsOf_cons (d : Document) (r : Record) (rs : List Record) :
    kindsOf d (r :: rs) = (kindsOf d rs).modify (classify d r) (· + 1) := by
  refine PerCategory.ext_get fun c => ?_
  rw [kindsOf, kindsOf, PerCategory.get_modify, PerCategory.get_ofFn, PerCategory.get_ofFn,
    List.countP_cons]
  by_cases hc : classify d r = c
  · simp [hc]
  · simp [hc, Ne.symm hc]

/-- Every record is of one category. -/
theorem total_kindsOf (d : Document) (records : List Record) :
    (kindsOf d records).total = records.length := by
  induction records with
  | nil => rfl
  | cons r rs ih => rw [kindsOf_cons, PerCategory.total_modify_succ, ih, List.length_cons]

/-! ## The counts of a batch -/

/-- The counters of all categories, each as much further as is told for it. -/
def PerCategory.forward (p : PerCategory Counter) (n : PerCategory Nat) : PerCategory Counter :=
  .ofFn fun c => (p.get c).forward (n.get c)

theorem PerCategory.forward_kindsOf_nil (p : PerCategory Counter) (d : Document) :
    p.forward (kindsOf d []) = p := by
  refine ext_get fun c => ?_
  simp [forward, kindsOf]

theorem PerCategory.forward_kindsOf_cons (p : PerCategory Counter) (d : Document) (r : Record)
    (rs : List Record) :
    (p.modify (classify d r) Counter.next).forward (kindsOf d rs) =
      p.forward (kindsOf d (r :: rs)) := by
  refine ext_get fun c => ?_
  rw [forward, forward, get_ofFn, get_ofFn, kindsOf_cons, get_modify, get_modify]
  split
  · rw [Counter.next_eq_forward, Counter.forward_forward, Nat.add_comm]
  · rfl

theorem PerCategory.forward_kindsOf_append (p : PerCategory Counter) (d : Document)
    (a b : List Record) :
    (p.forward (kindsOf d a)).forward (kindsOf d b) = p.forward (kindsOf d (a ++ b)) := by
  refine ext_get fun c => ?_
  simp only [forward, kindsOf, get_ofFn, Counter.forward_forward, List.countP_append]

/-- The counts after more records: so many of each category, with a remark and without one. -/
def Tally.forward (t : Tally) (kinds : PerCategory Nat) (matched dropped : Nat) : Tally where
  byCategory := t.byCategory.forward kinds
  matched := t.matched.forward matched
  dropped := t.dropped.forward dropped
  batches := t.batches

theorem Tally.forward_none (t : Tally) (d : Document) : t.forward (kindsOf d []) 0 0 = t := by
  rw [forward, PerCategory.forward_kindsOf_nil, Counter.forward_zero, Counter.forward_zero]

/-- A record with a remark is counted and then others. -/
theorem Tally.forward_count_true (t : Tally) (d : Document) (r : Record) (rs : List Record)
    (matched dropped : Nat) :
    (t.count (classify d r) true).forward (kindsOf d rs) matched dropped =
      t.forward (kindsOf d (r :: rs)) (matched + 1) dropped := by
  rw [forward, forward, count, if_pos rfl, PerCategory.forward_kindsOf_cons,
    Counter.next_eq_forward, Counter.forward_forward, Nat.add_comm]

/-- A record without a remark is counted and then others. -/
theorem Tally.forward_count_false (t : Tally) (d : Document) (r : Record) (rs : List Record)
    (matched dropped : Nat) :
    (t.count (classify d r) false).forward (kindsOf d rs) matched dropped =
      t.forward (kindsOf d (r :: rs)) matched (dropped + 1) := by
  rw [forward, forward, count, if_neg Bool.false_ne_true, PerCategory.forward_kindsOf_cons,
    Counter.next_eq_forward, Counter.forward_forward, Nat.add_comm]

/-- What the counts of two moments differ by. -/
structure Gain where
  byCategory : PerCategory Nat
  matched : Nat
  dropped : Nat
  batches : Nat
  deriving Repr, DecidableEq

/-- How far the counts went since they stood at `before`. -/
def Tally.since (t before : Tally) : Gain where
  byCategory := .ofFn fun c => (t.byCategory.get c).since (before.byCategory.get c)
  matched := t.matched.since before.matched
  dropped := t.dropped.since before.dropped
  batches := t.batches.since before.batches

/-- As long as no counter goes all the way round, the difference is what was counted. -/
theorem Tally.since_forward (t : Tally) {kinds : PerCategory Nat} {matched dropped : Nat}
    (hkinds : ∀ c, kinds.get c < 0x10000000000000000) (hmatched : matched < 0x10000000000000000)
    (hdropped : dropped < 0x10000000000000000) :
    (t.forward kinds matched dropped).closeBatch.since t = ⟨kinds, matched, dropped, 1⟩ := by
  have hcategories : (PerCategory.ofFn fun c =>
      ((t.byCategory.forward kinds).get c).since (t.byCategory.get c)) = kinds := by
    refine PerCategory.ext_get fun c => ?_
    rw [PerCategory.get_ofFn, PerCategory.forward, PerCategory.get_ofFn,
      Counter.since_forward _ (hkinds c)]
  simp only [since, closeBatch, forward, hcategories, Counter.next_eq_forward,
    Counter.since_forward _ hmatched, Counter.since_forward _ hdropped]
  rw [Counter.since_forward _ (by decide)]

namespace Engine

/-- The number of records that no event is sent for. -/
def missed (g : Engine) (d : Document) (records : List Record) : Nat :=
  records.countP fun r => (g.event? d r).isNone

/-- What becomes of the records of a batch, account by account. -/
theorem processAll_eq (g : Engine) (d : Document) (t : Tally) (records : List Record) :
    g.processAll d t records =
      (records.filterMap (g.event? d), (records.filterMap (g.event? d)).length,
        t.forward (kindsOf d records) (records.filterMap (g.event? d)).length
          (g.missed d records)) := by
  induction records generalizing t with
  | nil => exact congrArg (([], 0, ·)) (t.forward_none d).symm
  | cons r rs ih =>
      rw [processAll]
      cases he : g.event? d r with
      | some e =>
          have hmissed : g.missed d (r :: rs) = g.missed d rs := by simp [missed, he]
          simp only [ih, Tally.forward_count_true, List.filterMap_cons_some he, List.length_cons,
            hmissed]
      | none =>
          have hmissed : g.missed d (r :: rs) = g.missed d rs + 1 := by simp [missed, he]
          simp only [ih, Tally.forward_count_false, List.filterMap_cons_none he, hmissed]

theorem processBatch_eq (g : Engine) (d : Document) (t : Tally) (records : List Record) :
    g.processBatch d t records =
      (records.filterMap (g.event? d),
        ⟨records.length, (records.filterMap (g.event? d)).length⟩,
        (t.forward (kindsOf d records) (records.filterMap (g.event? d)).length
          (g.missed d records)).closeBatch) := by
  rw [processBatch, processAll_eq]

/-- Every record has an event or is missed. -/
theorem length_add_missed (g : Engine) (d : Document) (records : List Record) :
    (records.filterMap (g.event? d)).length + g.missed d records = records.length := by
  have hmissed : g.missed d records = records.countP fun r => ¬ (g.event? d r).isSome :=
    List.countP_congr fun r _ => by cases g.event? d r <;> simp
  rw [List.length_filterMap_eq_countP, hmissed, ← List.length_eq_countP_add_countP]

theorem missed_append (g : Engine) (d : Document) (a b : List Record) :
    g.missed d (a ++ b) = g.missed d a + g.missed d b := List.countP_append

/-- A batch in one piece and the same batch in two, the second going on from the counts of the
first: only the number of batches is another. -/
theorem processBatch_append (g : Engine) (d : Document) (t : Tally) (a b : List Record) :
    let joined := g.processBatch d t (a ++ b)
    let first := g.processBatch d t a
    let second := g.processBatch d first.2.2 b
    joined.1 = first.1 ++ second.1 ∧
      joined.2.1 = ⟨first.2.1.records + second.2.1.records,
        first.2.1.emitted + second.2.1.emitted⟩ ∧
      second.2.2 = joined.2.2.closeBatch := by
  intro joined first second
  simp only [joined, first, second, processBatch_eq, List.filterMap_append, List.length_append]
  refine ⟨trivial, trivial, ?_⟩
  simp only [Tally.forward, Tally.closeBatch, PerCategory.forward_kindsOf_append,
    Counter.forward_forward, missed_append]

/-- The counts went on by what there was to count in a batch. -/
theorem since_processBatch (g : Engine) (d : Document) (t : Tally) {records : List Record}
    (hlength : records.length < 0x10000000000000000) :
    (g.processBatch d t records).2.2.since t =
      ⟨kindsOf d records, (records.filterMap (g.event? d)).length, g.missed d records, 1⟩ := by
  have hsum := g.length_add_missed d records
  have hkinds : ∀ c, (kindsOf d records).get c < 0x10000000000000000 := by
    intro c
    rw [kindsOf, PerCategory.get_ofFn]
    exact Nat.lt_of_le_of_lt List.countP_le_length hlength
  rw [processBatch_eq]
  exact t.since_forward hkinds (by omega) (by omega)

/-! ## Main result -/

/-- Whatever the counters stood at, a batch sends in order the remarks on those of its records that
have one, each with the stamp, and what it sends for a record is what it would send for that record
alone. The report counts the records and what was sent. The counter of each category goes on by the
number of records of that category, that of matched records by the number of events, that of dropped
ones by the number of the others, and that of batches by one. Told as differences, the categories
together make as many as the matched and the dropped records together, and these are all records. In
two batches the same is sent, reported and counted as in one, but that one batch more is counted. -/
theorem accounts_of_batch_agree (g : Engine) (d : Document) :
    (∀ t records,
      let events := (g.processBatch d t records).1
      let report := (g.processBatch d t records).2.1
      let after := (g.processBatch d t records).2.2
      let kinds := PerCategory.ofFn fun c => records.countP fun r => classify d r = c
      events = (records.filterMap fun r => remark? d g.rules g.loading r (classify d r)).map
          (fun m => m.toEvent (g.identity.stamp g.frame)) ∧
        (∀ t', events = records.flatMap fun r => (g.processBatch d t' [r]).1) ∧
        report = ⟨records.length, events.length⟩ ∧
        after = ⟨.ofFn fun c => (t.byCategory.get c).forward (kinds.get c),
          t.matched.forward report.emitted,
          t.dropped.forward (report.records - report.emitted), t.batches.next⟩ ∧
        (records.length < 0x10000000000000000 →
          let gain := after.since t
          gain.byCategory = kinds ∧ gain.byCategory.total = gain.matched + gain.dropped ∧
            gain.matched + gain.dropped = report.records ∧ gain.matched = report.emitted ∧
            gain.batches = 1)) ∧
    (∀ t a b,
      let joined := g.processBatch d t (a ++ b)
      let first := g.processBatch d t a
      let second := g.processBatch d first.2.2 b
      joined.1 = first.1 ++ second.1 ∧
        joined.2.1 = ⟨first.2.1.records + second.2.1.records,
          first.2.1.emitted + second.2.1.emitted⟩ ∧
        second.2.2 = joined.2.2.closeBatch) := by
  refine ⟨fun t records => ?_, g.processBatch_append d⟩
  intro events report after kinds
  have hsum := g.length_add_missed d records
  have hevents : events = records.filterMap (g.event? d) := by
    simp only [events, processBatch_eq]
  have hreport : report = ⟨records.length, events.length⟩ := by
    simp only [report, events, processBatch_eq]
  have hafter : after =
      (t.forward kinds events.length (records.length - events.length)).closeBatch := by
    rw [hevents, ← hsum, Nat.add_sub_cancel_left]
    simp only [after, processBatch_eq]
    rfl
  refine ⟨?_, fun t' => ?_, hreport, ?_, fun hlength => ?_⟩
  · rw [hevents, List.map_filterMap]
    rfl
  · simp only [hevents, processBatch_eq]
    rw [← List.filterMap_flatMap, List.flatMap_singleton']
  · rw [hafter, hreport]
    rfl
  · intro gain
    have hgain : gain = ⟨kinds, events.length, g.missed d records, 1⟩ := by
      rw [hevents]
      exact g.since_processBatch d t hlength
    have htotal : kinds.total = records.length := total_kindsOf d records
    rw [hgain, hreport, htotal, hevents]
    exact ⟨rfl, hsum.symm, hsum, rfl, rfl⟩

/-- A stream of comments with one discussion and a spelling bubble. -/
def commentStream : Descriptor :=
  ⟨1, .element, some "div", some (.tokens "docos-stream-view"), ∅, none,
    [⟨2, .element, some "div", some (.tokens "docos-anchoreddocoview"), ∅, none, []⟩,
      ⟨3, .element, some "div", some (.tokens "kix-spell-bubble"), ∅, none, []⟩]⟩

/-- A record of nodes that are gone, the bubble added, no change, and the discussion removed. -/
def mixedRecords : List Record :=
  [⟨404, [405], [], .childList⟩, ⟨1, [3], [], .childList⟩, ⟨1, [], [], .childList⟩,
    ⟨1, [], [2], .childList⟩]

/-- Counters at their greatest value. -/
def fullTally : Tally :=
  let full : Counter := ⟨0xFFFFFFFFFFFFFFFF⟩
  ⟨.ofFn fun _ => full, full, full, full⟩

/-- Two of four records have an event. The counters start anew, and their differences are right all
the same. -/
theorem accounts_of_batch_agree_mixed : ∃ d, ofRoot commentStream = .ok d ∧
    mixedRecords.length < 0x10000000000000000 ∧
    let g : Engine := ⟨RuleTable.builtin, false, ⟨.ok none, .ok none⟩, .unset⟩
    let sent := g.processBatch d fullTally mixedRecords
    sent.1.map AnnotatedEvent.label = ["spelling-bubble", "resolve-comment"] ∧
      sent.2.1 = ⟨4, 2⟩ ∧ sent.2.2.matched = ⟨1⟩ ∧
      (sent.2.2.since fullTally).matched + (sent.2.2.since fullTally).dropped = 4 ∧
      (sent.2.2.since fullTally).matched = 2 ∧ (sent.2.2.since fullTally).batches = 1 := by
  obtain ⟨d, hd⟩ : ∃ d, ofRoot commentStream = .ok d := ⟨_, rfl⟩
  have hlength : mixedRecords.length < 0x10000000000000000 := by decide
  refine ⟨d, hd, hlength, ?_⟩
  intro g sent
  obtain ⟨hevents, -, hreport, hafter, hgain⟩ :=
    (accounts_of_batch_agree g d).1 fullTally mixedRecords
  obtain ⟨-, -, hall, hmatched, hbatches⟩ := hgain hlength
  have hlabels : sent.1.map AnnotatedEvent.label = ["spelling-bubble", "resolve-comment"] := by
    show ((g.processBatch d fullTally mixedRecords).1).map AnnotatedEvent.label = _
    rw [hevents]
    obtain rfl := Except.ok.inj hd
    decide +kernel
  have htwo : sent.1.length = 2 := by
    have hcount := congrArg List.length hlabels
    rwa [List.length_map] at hcount
  have hsent : sent.2.1 = ⟨4, 2⟩ := by
    show (g.processBatch d fullTally mixedRecords).2.1 = _
    rw [hreport, show (g.processBatch d fullTally mixedRecords).1.length = 2 from htwo]
    rfl
  refine ⟨hlabels, hsent, ?_, ?_, ?_, hbatches⟩
  · show (g.processBatch d fullTally mixedRecords).2.2.matched = _
    rw [hafter, show (g.processBatch d fullTally mixedRecords).2.1 = ⟨4, 2⟩ from hsent]
    rfl
  · exact hall.trans (congrArg BatchReport.records hsent)
  · exact hmatched.trans (congrArg BatchReport.emitted hsent)

end Engine

end EditWatch.Labelling
