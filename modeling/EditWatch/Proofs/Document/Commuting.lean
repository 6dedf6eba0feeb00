import EditWatch.Proofs.Document.History

/-!
# EditWatch.Proofs.Document.Commuting -- edits of different targets

What an edit makes of a node depends on that node alone: it touches the target and the removed
children, writes the rows of what it adds, and leaves all else. Two edits with different targets touch
different parts of a node, even where the one takes out the target of the other. So either can go first:
both are accepted, and the document in the end is the same.
-/

namespace EditWatch.Document

variable {d : Document} {e e₁ e₂ : Edit}

/-! ## One node under an edit -/

/-- What an edit makes of a node that was there before. -/
def Edit.touch (e : Edit) (id : NodeId) (n : Node) : Node :=
  match e.kind with
  | .characterData => if id = e.target then { n with data := some (e.text.getD "") } else n
  | .childList =>
    { n with
      children := if id = e.target then n.children.diff e.removed ++ e.added.map Descriptor.id
        else n.children
      parent := if id ∈ e.removed then none else n.parent }

/-- The rows that an edit writes for what it adds. -/
def Edit.newRows (e : Edit) : List Node :=
  match e.kind with
  | .characterData => []
  | .childList => Descriptor.rowsAll (some e.target) e.added

theorem Edit.map_id_newRows (e : Edit) : e.newRows.map Node.id = e.addedIds := by
  rw [newRows, addedIds]
  cases e.kind with
  | characterData => rfl
  | childList => exact Descriptor.map_id_rowsAll _ _

/-- An edit leaves a node alone that is neither its target nor one of the removed children. -/
theorem Edit.touch_eq_self {id : NodeId} (htarget : id ≠ e.target)
    (hremoved : e.kind = .childList → id ∉ e.removed) (n : Node) : e.touch id n = n := by
  rw [touch]
  cases hkind : e.kind with
  | characterData => simp only [if_neg htarget]
  | childList => simp only [if_neg htarget, if_neg (hremoved hkind)]

/-- Of one node two edits with different targets touch different parts, or they clear the same one. -/
theorem Edit.touch_comm (hne : e₁.target ≠ e₂.target) (id : NodeId) (n : Node) :
    e₁.touch id (e₂.touch id n) = e₂.touch id (e₁.touch id n) := by
  have hone : ¬ (id = e₁.target ∧ id = e₂.target) := by
    rintro ⟨rfl, h⟩
    exact hne h
  unfold touch
  cases e₁.kind <;> cases e₂.kind <;> by_cases h₁ : id = e₁.target <;>
    by_cases h₂ : id = e₂.target <;> simp_all
  all_goals split <;> simp_all

/-! ## One edit, node by node -/

theorem node?_edited_of_notMem {id : NodeId} (hid : id ∉ e.addedIds) :
    (d.edited e).node? id = (d.node? id).map (e.touch id) := by
  rw [Edit.addedIds] at hid
  rw [edited]
  cases hkind : e.kind with
  | characterData =>
      simp only [retext, node?_modify]
      cases d.node? id with
      | none => simp
      | some n => by_cases htarget : id = e.target <;> simp [Edit.touch, hkind, htarget]
  | childList =>
      simp only [hkind] at hid
      simp only [regraft, node?_plant_of_notMem hid, node?_uproot, Option.some_inj]
      cases d.node? id with
      | none => simp
      | some n =>
          by_cases htarget : id = e.target
          · simp [Edit.touch, hkind, htarget]
          · simp [Edit.touch, hkind, htarget, Ne.symm htarget]

theorem node?_edited_of_mem (h : d.editFault e = none) {n : Node} (hn : n ∈ e.newRows) :
    (d.edited e).node? n.id = some n := by
  rw [Edit.newRows] at hn
  rw [edited]
  cases hkind : e.kind with
  | characterData =>
      rw [hkind] at hn
      exact absurd hn List.not_mem_nil
  | childList =>
      rw [hkind] at hn
      exact node?_plant_row (plantFault_uproot (childListFault_of_editFault hkind h)) hn

theorem root_edited (d : Document) (e : Edit) : (d.edited e).root = d.root := by
  rw [edited]
  cases e.kind with
  | characterData => exact root_modify _ _ _
  | childList => exact root_plant _ _ _

/-! ## The other edit is still accepted -/

namespace WellFormed

theorem apply_eq_edited (hwf : d.WellFormed) (h : d.editFault e = none) :
    d.apply e = (.ok e.record, d.edited e) :=
  hwf.apply_eq_ok_iff.mpr ⟨h, rfl, rfl⟩

theorem keeps_edited (hwf : d.WellFormed) (h : d.editFault e = none) : d.Keeps (d.edited e) := by
  have hkeeps := hwf.keeps_apply e
  rwa [hwf.apply_eq_edited h] at hkeeps

theorem contains_edited_iff (hwf : d.WellFormed) (h : d.editFault e = none) {id : NodeId} :
    (d.edited e).contains id ↔ d.contains id ∨ id ∈ e.addedIds := by
  rw [hwf.mem_addedIds_iff (hwf.apply_eq_edited h)]
  constructor
  · intro hid
    by_cases hold : d.contains id
    · exact .inl hold
    · exact .inr ⟨hid, hold⟩
  · rintro (hold | ⟨hid, -⟩)
    · exact (hwf.keeps_edited h).contains hold
    · exact hid

/-- A number that an edit adds is none that the document has. -/
theorem notMem_addedIds (hwf : d.WellFormed) (h : d.editFault e = none) {id : NodeId}
    (hid : d.contains id) : id ∉ e.addedIds := by
  intro hmem
  exact ((hwf.mem_addedIds_iff (hwf.apply_eq_edited h) id).mp hmem).2 hid

end WellFormed

/-- What an edit removes has its target for a parent. -/
theorem up_of_mem_removed (h : d.editFault e = none) (hkind : e.kind = .childList) {c : NodeId}
    (hc : c ∈ e.removed) : d.Up c e.target :=
  (childListFault_eq_none_iff.mp (childListFault_of_editFault hkind h)).2.1 c hc

/-- The children of all nodes but the target stay where they are. -/
theorem WellFormed.up_edited (hwf : d.WellFormed) (h : d.editFault e = none) {c p : NodeId}
    (hup : d.Up c p) (hp : p ≠ e.target) : (d.edited e).Up c p := by
  obtain ⟨n, hn, hparent⟩ := up_iff.mp hup
  have hnode := node?_edited_of_notMem (d := d) (hwf.notMem_addedIds h hup.contains)
  rw [hn, Option.map_some] at hnode
  refine up_iff.mpr ⟨_, hnode, ?_⟩
  rw [Edit.touch]
  cases hkind : e.kind with
  | characterData =>
      dsimp only
      split <;> exact hparent
  | childList =>
      have hkept : c ∉ e.removed := by
        intro hc
        exact hp (Up.rightUnique hup (up_of_mem_removed h hkind hc))
      simp only [if_neg hkept, hparent]

/-- What one edit leaves of the document has no fault with the other. -/
theorem WellFormed.editFault_edited (hwf : d.WellFormed) (htargets : e₁.target ≠ e₂.target)
    (hadded : e₁.addedIds.Disjoint e₂.addedIds) (h₁ : d.editFault e₁ = none)
    (h₂ : d.editFault e₂ = none) : (d.edited e₁).editFault e₂ = none := by
  have hkeeps := hwf.keeps_edited h₁
  have htarget := contains_target_of_editFault h₂
  rw [editFault, if_pos (hkeeps.contains htarget)]
  cases hkind : e₂.kind with
  | characterData =>
      have htext : (d.edited e₁).isText e₂.target :=
        (hkeeps.isText htarget).trans (isText_of_editFault hkind h₂)
      simp only [if_pos htext]
  | childList =>
      obtain ⟨hnodup, hup, hinsert⟩ :=
        childListFault_eq_none_iff.mp (childListFault_of_editFault hkind h₂)
      obtain ⟨⟨n, hn, htext⟩, hadm⟩ := insertFault_eq_none_iff.mp hinsert
      obtain ⟨n', hn', hface⟩ := hkeeps e₂.target n hn
      have hsame : n'.isText = n.isText := by
        have := hkeeps.isText htarget
        simpa only [isText, hn, hn'] using this
      refine childListFault_eq_none_iff.mpr ⟨hnodup, fun c hc => ?_, insertFault_eq_none_iff.mpr
        ⟨⟨n', hn', by rwa [hsame]⟩, hadm.nodup, fun id hid => ?_, hadm.leaf⟩⟩
      · exact hwf.up_edited h₁ (hup c hc) (Ne.symm htargets)
      · rw [← Bool.not_eq_true, hwf.contains_edited_iff h₁]
        have hmem : id ∈ e₂.addedIds := by rwa [Edit.addedIds, hkind]
        rintro (hold | hnew)
        · exact hwf.notMem_addedIds h₂ hold hmem
        · exact hadded hnew hmem

/-! ## Either order -/

/-- A row that one edit wrote stays as it is under the other. -/
theorem WellFormed.node?_edited_row (hwf : d.WellFormed)
    (hadded : e₁.addedIds.Disjoint e₂.addedIds) (h₁ : d.editFault e₁ = none)
    (h₂ : d.editFault e₂ = none) {n : Node} (hn : n ∈ e₁.newRows) :
    ((d.edited e₁).edited e₂).node? n.id = some n := by
  have hmem : n.id ∈ e₁.addedIds := e₁.map_id_newRows ▸ List.mem_map_of_mem hn
  have hnew : ¬ d.contains n.id := fun hold => hwf.notMem_addedIds h₁ hold hmem
  rw [node?_edited_of_notMem (hadded hmem), node?_edited_of_mem h₁ hn, Option.map_some,
    Edit.touch_eq_self]
  · intro heq
    exact hnew (heq ▸ contains_target_of_editFault h₂)
  · intro hkind hremoved
    exact hnew (up_of_mem_removed h₂ hkind hremoved).contains

/-- What two edits with different targets make of a document does not depend on which comes first. -/
theorem WellFormed.edited_comm (hwf : d.WellFormed) (htargets : e₁.target ≠ e₂.target)
    (hadded : e₁.addedIds.Disjoint e₂.addedIds) (h₁ : d.editFault e₁ = none)
    (h₂ : d.editFault e₂ = none) : (d.edited e₁).edited e₂ = (d.edited e₂).edited e₁ := by
  have h₁₂ := hwf.editFault_edited htargets hadded h₁ h₂
  have h₂₁ := hwf.editFault_edited (Ne.symm htargets) hadded.symm h₂ h₁
  refine ext_node? (by simp only [root_edited]) fun id => ?_
  -- A number is added by the first edit, by the second, or by neither.
  by_cases hfirst : id ∈ e₁.addedIds
  · rw [← e₁.map_id_newRows] at hfirst
    obtain ⟨n, hn, rfl⟩ := List.mem_map.mp hfirst
    rw [hwf.node?_edited_row hadded h₁ h₂ hn, node?_edited_of_mem h₂₁ hn]
  · by_cases hsecond : id ∈ e₂.addedIds
    · rw [← e₂.map_id_newRows] at hsecond
      obtain ⟨n, hn, rfl⟩ := List.mem_map.mp hsecond
      rw [hwf.node?_edited_row hadded.symm h₂ h₁ hn, node?_edited_of_mem h₁₂ hn]
    · rw [node?_edited_of_notMem hsecond, node?_edited_of_notMem hfirst,
        node?_edited_of_notMem hfirst, node?_edited_of_notMem hsecond, Option.map_map,
        Option.map_map]
      refine congrArg (fun f => (d.node? id).map f) (funext fun n => ?_)
      exact (Edit.touch_comm htargets id n).symm

/-- An edit that is accepted has no fault, and the answer is its own record. -/
theorem WellFormed.eq_record_of_apply (hwf : d.WellFormed) {r : Record}
    (h : (d.apply e).1 = .ok r) : d.editFault e = none ∧ r = e.record := by
  have happly : d.apply e = (.ok r, (d.apply e).2) := Prod.ext h rfl
  obtain ⟨hfault, hrecord, -⟩ := hwf.apply_eq_ok_iff.mp happly
  exact ⟨hfault, hrecord⟩

/-- Two edits with different targets that add no common number, and each of which a document that
came about accepts, are both accepted in either order, with the same records, and lead to one
document. -/
theorem edits_commute (h : Reachable d) {r₁ r₂ : Record} (htargets : e₁.target ≠ e₂.target)
    (hadded : e₁.addedIds.Disjoint e₂.addedIds) (h₁ : (d.apply e₁).1 = .ok r₁)
    (h₂ : (d.apply e₂).1 = .ok r₂) :
    ∃ d', (d.apply e₁).2.apply e₂ = (.ok r₂, d') ∧ (d.apply e₂).2.apply e₁ = (.ok r₁, d') := by
  have hwf := h.wellFormed
  obtain ⟨hfault₁, rfl⟩ := hwf.eq_record_of_apply h₁
  obtain ⟨hfault₂, rfl⟩ := hwf.eq_record_of_apply h₂
  have hwf₁ : (d.apply e₁).2.WellFormed := hwf.apply e₁
  have hwf₂ : (d.apply e₂).2.WellFormed := hwf.apply e₂
  rw [hwf.apply_eq_edited hfault₁] at hwf₁ ⊢
  rw [hwf.apply_eq_edited hfault₂] at hwf₂ ⊢
  have hafter₁ := hwf.editFault_edited htargets hadded hfault₁ hfault₂
  have hafter₂ := hwf.editFault_edited (Ne.symm htargets) hadded.symm hfault₂ hfault₁
  refine ⟨(d.edited e₁).edited e₂, hwf₁.apply_eq_edited hafter₁, ?_⟩
  rw [hwf.edited_comm htargets hadded hfault₁ hfault₂]
  exact hwf₂.apply_eq_edited hafter₂

/-- The letters of the word replaced by others. -/
def replaceLetters : Edit :=
  ⟨2, .childList, [⟨6, .text, none, none, ∅, some "tea", []⟩], [3], none⟩

/-- The word can be taken out before its letters are replaced, or after. -/
theorem edits_commute_paragraph :
    ∃ d', ((empty.perform (.insert none paragraph)).apply replaceWord).2.apply replaceLetters =
        (.ok ⟨2, [6], [3], .childList⟩, d') ∧
      ((empty.perform (.insert none paragraph)).apply replaceLetters).2.apply replaceWord =
        (.ok ⟨1, [4], [2], .childList⟩, d') := by
  have hadded : replaceWord.addedIds.Disjoint replaceLetters.addedIds := by
    show [(4 : NodeId)].Disjoint [6]
    rw [List.singleton_disjoint]
    decide
  exact edits_commute (Reachable.empty.perform _) (by decide) hadded (by rfl) (by rfl)

end EditWatch.Document
