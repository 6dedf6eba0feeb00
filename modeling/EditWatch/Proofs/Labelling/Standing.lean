import EditWatch.Labelling.Remark
import EditWatch.Proofs.Document.Edits
import Mathlib.Data.List.Find

/-!
# EditWatch.Proofs.Labelling.Standing -- what further edits leave of a judgement

A record is judged when all edits of its batch are done. Its category asks which of its nodes are
text, and the rules for insertions and deletions ask for class tokens; no edit changes either of a
node that is there. So the judgement is the one that would have been made right after the edit, and
the category can be told from the edit and the kinds of the removed nodes alone.
-/

namespace EditWatch.Labelling

open EditWatch.Document

variable {d d' : Document} {r : Record}

/-! ## The rule that decides -/

/-- The rule that decides over a record: the first of the category that fits. -/
def RuleTable.deciding? (t : RuleTable) (d : Document) (r : Record) (category : Category) :
    Option Rule :=
  (t.get category).find? fun rule => rule.fits d r category

/-! ## Records whose nodes are there -/

/-- The target and all added and removed nodes of a record are in the document. -/
structure Resolves (d : Document) (r : Record) : Prop where
  target : d.contains r.target
  added : ∀ id ∈ r.added, d.contains id
  removed : ∀ id ∈ r.removed, d.contains id

theorem Resolves.keeps (h : Resolves d r) (hkeeps : d.Keeps d') : Resolves d' r where
  target := hkeeps.contains h.target
  added id hid := hkeeps.contains (h.added id hid)
  removed id hid := hkeeps.contains (h.removed id hid)

/-- As long as no node disappears a record keeps its category. -/
theorem Resolves.classify_eq (h : Resolves d r) (hkeeps : d.Keeps d') :
    classify d' r = classify d r := by
  have hadded : ∀ id, r.added.head? = some id → d'.isText id = d.isText id := fun id hid =>
    hkeeps.isText (h.added id (List.mem_of_head? hid))
  have hremoved : ∀ id, r.removed.head? = some id → d'.isText id = d.isText id := fun id hid =>
    hkeeps.isText (h.removed id (List.mem_of_head? hid))
  rw [classify, classify]
  cases ha : r.added.head? with
  | none =>
      cases hr : r.removed.head? with
      | none => rfl
      | some removed => simp only [hremoved removed hr]
  | some added =>
      cases hr : r.removed.head? with
      | none => rfl
      | some removed => simp only [hadded added ha, hremoved removed hr]

/-- A rule that looks at a node of the record and at the target fits as it did. -/
theorem Resolves.fitsFragment_eq (h : Resolves d r) (hkeeps : d.Keeps d') {ids : List NodeId}
    (hids : ∀ id ∈ ids, d.contains id) (rule : Rule) :
    rule.fitsFragment d' ids.head? r.target = rule.fitsFragment d ids.head? r.target := by
  cases hf : ids.head? with
  | none => rfl
  | some f =>
      have hclass := hkeeps.hasClass (hids f (List.mem_of_head? hf))
      simp only [Rule.fitsFragment, hclass, hkeeps.hasClass h.target]

/-- The rule that decides over an insertion or a deletion stays the same. -/
theorem Resolves.deciding?_eq (h : Resolves d r) (hkeeps : d.Keeps d') (t : RuleTable)
    {category : Category} (hcategory : category = .insert ∨ category = .delete) :
    t.deciding? d' r category = t.deciding? d r category := by
  refine List.find?_congr fun rule _ => ?_
  rcases hcategory with rfl | rfl
  · exact h.fitsFragment_eq hkeeps h.added rule
  · exact h.fitsFragment_eq hkeeps h.removed rule

/-! ## The record of an edit -/

/-- The category of an edit's record, told from the edit and from which of the removed nodes are
text. -/
def categoryOf (isText : NodeId → Bool) (e : Edit) : Category :=
  match e.kind, e.added, e.removed with
  | .characterData, _, _ => .input
  | .childList, _ :: _, [] => .insert
  | .childList, [], c :: _ => if isText c then .clear else .delete
  | .childList, x :: _, c :: _ => if x.kind = .text ∧ isText c then .replace else .suggest
  | .childList, [], [] => .other

/-- Where the subtrees that were added have the kinds that were asked for, the edit tells the
category of its record. -/
theorem classify_record {e : Edit} {isText : NodeId → Bool}
    (hadded : ∀ x ∈ e.added, d.isText x.id = (x.kind == .text))
    (hremoved : ∀ id ∈ e.removed, d.isText id = isText id) :
    classify d e.record = categoryOf isText e := by
  obtain ⟨target, kind, added, removed, text⟩ := e
  cases kind with
  | characterData => rfl
  | childList =>
      cases added with
      | nil =>
          cases removed with
          | nil => rfl
          | cons c cs =>
              have hc : d.isText c = isText c := hremoved c List.mem_cons_self
              simp [classify, Edit.record, categoryOf, hc]
      | cons x xs =>
          cases removed with
          | nil => rfl
          | cons c cs =>
              have hx : d.isText x.id = (x.kind == .text) := hadded x List.mem_cons_self
              have hc : d.isText c = isText c := hremoved c List.mem_cons_self
              simp [classify, Edit.record, categoryOf, hx, hc]

/-- Right after an edit that was accepted all nodes of its record are there, and the record has the
category that the edit tells. -/
theorem resolves_record (hwf : d.WellFormed) {e : Edit} (hok : d.apply e = (.ok r, d')) :
    Resolves d' r ∧ classify d' r = categoryOf d.isText e := by
  have hkeeps : d.Keeps d' := by simpa [hok] using hwf.keeps_apply e
  obtain ⟨hfault, rfl, rfl⟩ := hwf.apply_eq_ok_iff.mp hok
  have htarget : (d.edited e).contains e.target :=
    hkeeps.contains (contains_target_of_editFault hfault)
  cases hkind : e.kind with
  | characterData =>
      simp only [Edit.record, hkind]
      have hnone : ∀ id ∈ ([] : List NodeId), (d.edited e).contains id :=
        List.forall_mem_nil _
      refine ⟨⟨htarget, hnone, hnone⟩, ?_⟩
      simp [classify, categoryOf, hkind]
  | childList =>
      have hchild := childListFault_of_editFault hkind hfault
      have hup := (childListFault_eq_none_iff.mp hchild).2.1
      have htop : ∀ x ∈ e.added, ∃ q, (d.edited e).node? x.id = some (x.toNode q) := fun x hx => by
        simpa only [edited, hkind] using exists_node?_regraft hchild hx
      constructor
      · simp only [Edit.record, hkind]
        refine ⟨htarget, fun id hid => ?_, fun id hid => hkeeps.contains (hup id hid).contains⟩
        obtain ⟨x, hx, rfl⟩ := List.mem_map.mp hid
        obtain ⟨q, hq⟩ := htop x hx
        exact contains_of_node? hq
      · refine classify_record (fun x hx => ?_) fun id hid => hkeeps.isText (hup id hid).contains
        obtain ⟨q, hq⟩ := htop x hx
        rw [isText, hq]
        rfl

end EditWatch.Labelling
