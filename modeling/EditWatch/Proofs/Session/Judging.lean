import EditWatch.Proofs.Labelling.Standing
import EditWatch.Proofs.Session.Binding

/-!
# EditWatch.Proofs.Session.Judging -- records are judged at the end of their batch

A session applies a batch as a whole before it looks at the records. Later edits of the batch may
detach the nodes of an earlier record or move its surroundings, but they neither drop a node nor
change what it is, so the record is judged as it would have been right after its own edit.
-/

namespace EditWatch.Session

open EditWatch.Document EditWatch.Labelling

namespace Watch

variable {settings : Settings} {rules : RuleTable} {identity : Identity} {root : Descriptor}
  {w : Watch}

/-- The records of a batch around one edit that was accepted. -/
theorem applyAll_records_around {d after : Document} {before rest : List Edit} {e : Edit}
    {r : Record} (hok : (applyAll d before).1.apply e = (.ok r, after)) :
    (applyAll d (before ++ e :: rest)).2.1 =
      (applyAll d before).2.1 ++ r :: (applyAll after rest).2.1 := by
  rw [applyAll_records, applyAll_records, applyAll_records, verdicts_append, verdicts, hok,
    List.filterMap_append, List.filterMap_cons_some (by rfl)]

/-- An edit in the middle of a batch that was accepted: when the batch is judged, against the
document after all its edits, every node of the record is there; the record has the category that
it had right after its edit, which the edit and the kinds of the removed nodes decide; and for an
insertion or a deletion, whatever the rules are, the first that fits is the one that would have been
found right after the edit. -/
theorem records_judged_as_applied (h : start settings rules identity root = .ok w)
    (signals : List Signal) (before rest : List Edit) (e : Edit) (r : Record) (after : Document)
    (hok : (applyAll (w.run signals).1.document before).1.apply e = (.ok r, after)) :
    let now := (w.run signals).1
    let batch := before ++ e :: rest
    let judged := (applyAll now.document batch).1
    let records := (applyAll now.document batch).2.1
    (now.observe batch).2.2 =
        (records.filterMap (now.engine.event? judged)).map Emission.annotated ∧
      records = (applyAll now.document before).2.1 ++ r :: (applyAll after rest).2.1 ∧
      Resolves judged r ∧
      classify judged r = classify after r ∧
      classify judged r = categoryOf (applyAll now.document before).1.isText e ∧
      (classify judged r = .insert ∨ classify judged r = .delete → ∀ table : RuleTable,
        table.deciding? judged r (classify judged r) =
          table.deciding? after r (classify after r)) := by
  intro now batch judged records
  have hwf := (applyAll_keeps (settled_run h signals).wellFormed before).1
  obtain ⟨hresolves, hcategory⟩ := resolves_record hwf hok
  have hafter : after.WellFormed := by simpa [hok] using hwf.apply e
  have hjudged : judged = (applyAll after rest).1 := by
    show (applyAll now.document (before ++ e :: rest)).1 = _
    rw [applyAll_append_fst, applyAll_cons_fst, hok]
  have hkeeps : after.Keeps judged := hjudged ▸ (applyAll_keeps hafter rest).2.2
  have hsame : classify judged r = classify after r := hresolves.classify_eq hkeeps
  refine ⟨now.sent_observe batch, applyAll_records_around hok, hresolves.keeps hkeeps, hsame,
    hsame.trans hcategory, fun hkind table => ?_⟩
  rw [hsame] at hkind ⊢
  exact hresolves.deciding?_eq hkeeps table hkind

/-- A spelling bubble opens in the region and closes again. -/
def openBubble : Edit :=
  ⟨2, .childList, [⟨3, .element, some "div", some (.tokens "kix-spell-bubble"), ∅, none, []⟩], [],
    none⟩

def closeBubble : Edit := ⟨2, .childList, [], [3], none⟩

/-- A bubble that closes in a region which goes away in the same batch: neither the bubble nor the
region is attached any more when the batch is judged, and still the closing is told. -/
theorem records_judged_as_applied_bubble : ∃ w after,
    start Settings.default RuleTable.builtin ⟨.ok none, .ok none⟩ pageWithRegion = .ok w ∧
      (applyAll (w.run []).1.document [openBubble]).1.apply closeBubble =
        (.ok ⟨2, [], [3], .childList⟩, after) ∧
      let judged := (applyAll (w.run []).1.document
        ([openBubble] ++ closeBubble :: [⟨1, .childList, [], [2], none⟩])).1
      ¬ judged.isAttached 2 ∧ Resolves judged ⟨2, [], [3], .childList⟩ ∧
        classify judged ⟨2, [], [3], .childList⟩ = .delete ∧
        (RuleTable.builtin.deciding? judged ⟨2, [], [3], .childList⟩ .delete).map Rule.label =
          some "spelling-bubble-dismissed" := by
  have hstart : start Settings.default RuleTable.builtin ⟨.ok none, .ok none⟩ pageWithRegion =
      .ok _ := start_eq_ok_iff.mpr ⟨_, rfl, rfl⟩
  refine ⟨_, _, hstart, rfl, ?_⟩
  obtain ⟨-, -, hresolves, -, hcategory, hrule⟩ := records_judged_as_applied hstart [] [openBubble]
    [⟨1, .childList, [], [2], none⟩] closeBubble ⟨2, [], [3], .childList⟩ _ rfl
  have hdelete := hcategory.trans (by decide +kernel : _ = Category.delete)
  have hrule := hrule (Or.inr hdelete) RuleTable.builtin
  rw [hdelete] at hrule
  intro judged
  refine ⟨by decide +kernel, hresolves, hdelete, ?_⟩
  rw [hrule]
  decide +kernel

end Watch

end EditWatch.Session
