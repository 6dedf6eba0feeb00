import EditWatch.Proofs.Labelling.Counting
import EditWatch.Proofs.Labelling.Standing

/-!
# EditWatch.Proofs.Labelling.Marking -- the mark of the loading phase

The loading phase shows in the labels of insertions and nowhere else: which rule decides, what the
event tells of the nodes, the report of the batch and the counts are the same in both phases. The
label of an event is that of the rule that decided, with or without the mark.
-/

namespace EditWatch.Labelling

open EditWatch.Document

variable {d : Document} {r : Record} {g : Engine}

/-- An event without the label, if it tells of an insertion. -/
def AnnotatedEvent.unmarked (e : AnnotatedEvent) : AnnotatedEvent :=
  if e.category = .insert then { e with label := "" } else e

namespace Engine

/-- The engine in either phase. -/
def withLoading (g : Engine) (loading : Bool) : Engine := { g with loading := loading }

/-- The event for a record is what the rule that decides makes of it. -/
theorem event?_eq (g : Engine) (d : Document) (r : Record) :
    g.event? d r = (g.rules.deciding? d r (classify d r)).map fun rule =>
      (rule.remark d g.loading r (classify d r)).toEvent (g.identity.stamp g.frame) := by
  rw [event?, remark?, Option.map_map]
  rfl

/-- The rule that decides gives the event its label. -/
theorem event?_eq_some {e : AnnotatedEvent} (h : g.event? d r = some e) :
    ∃ rule, g.rules.deciding? d r (classify d r) = some rule ∧ e.category = classify d r ∧
      e.label = reportedLabel g.loading e.category rule := by
  rw [event?_eq] at h
  obtain ⟨rule, hrule, rfl⟩ := Option.map_eq_some_iff.mp h
  exact ⟨rule, hrule, rfl, rfl⟩

/-- Only the label of an insertion tells the phases apart. -/
theorem unmarked_remark (d : Document) (r : Record) (category : Category) (rule : Rule)
    (stamp : Stamp) (loading loading' : Bool) :
    ((rule.remark d loading r category).toEvent stamp).unmarked =
      ((rule.remark d loading' r category).toEvent stamp).unmarked := by
  by_cases hinsert : category = .insert
  · simp [AnnotatedEvent.unmarked, Remark.toEvent, Rule.remark, hinsert]
  · simp [AnnotatedEvent.unmarked, Remark.toEvent, Rule.remark, reportedLabel, hinsert]

theorem event?_withLoading (g : Engine) (loading : Bool) (d : Document) (r : Record) :
    ((g.withLoading loading).event? d r).map AnnotatedEvent.unmarked =
      (g.event? d r).map AnnotatedEvent.unmarked := by
  rw [event?_eq, event?_eq, Option.map_map, Option.map_map]
  congr 1
  funext rule
  exact unmarked_remark d r (classify d r) rule (g.identity.stamp g.frame) loading g.loading

/-- Whether there is an event does not depend on the phase. -/
theorem isSome_event?_withLoading (g : Engine) (loading : Bool) (d : Document) (r : Record) :
    ((g.withLoading loading).event? d r).isSome = (g.event? d r).isSome := by
  have h := congrArg Option.isSome (g.event?_withLoading loading d r)
  rwa [Option.isSome_map, Option.isSome_map] at h

/-! ## Batches -/

theorem missed_withLoading (g : Engine) (loading : Bool) (d : Document) (records : List Record) :
    (g.withLoading loading).missed d records = g.missed d records := by
  refine List.countP_congr fun r _ => ?_
  rw [← Option.not_isSome, ← Option.not_isSome, isSome_event?_withLoading]

theorem map_unmarked_events (g : Engine) (loading : Bool) (d : Document) (records : List Record) :
    (records.filterMap ((g.withLoading loading).event? d)).map AnnotatedEvent.unmarked =
      (records.filterMap (g.event? d)).map AnnotatedEvent.unmarked := by
  rw [List.map_filterMap, List.map_filterMap]
  exact List.filterMap_congr fun r _ => g.event?_withLoading loading d r

/-- A batch has the same report and the same counts in both phases, and its events differ in the
labels of insertions only. -/
theorem processBatch_withLoading (g : Engine) (loading : Bool) (d : Document) (t : Tally)
    (records : List Record) :
    ((g.withLoading loading).processBatch d t records).2 = (g.processBatch d t records).2 ∧
      ((g.withLoading loading).processBatch d t records).1.map AnnotatedEvent.unmarked =
        (g.processBatch d t records).1.map AnnotatedEvent.unmarked := by
  have hevents := g.map_unmarked_events loading d records
  have hlength := congrArg List.length hevents
  rw [List.length_map, List.length_map] at hlength
  rw [processBatch_eq, processBatch_eq]
  refine ⟨?_, hevents⟩
  rw [missed_withLoading, hlength]

end Engine

end EditWatch.Labelling
