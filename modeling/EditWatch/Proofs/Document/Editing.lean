import EditWatch.Proofs.Document.History
import EditWatch.Proofs.Document.Subtree

/-!
# EditWatch.Proofs.Document.Editing -- edits as functions on trees

On a tree an edit is a function: it changes one node, the target, and where the target does not
occur it changes nothing. A document that shows a tree and accepts an edit shows the edited tree
afterwards, although it performs the edit on links and keeps what was taken out.
-/

namespace EditWatch.Document

open Relation

variable {d d' : Document}

namespace Descriptor

/-- What an edit makes of its target: without the listed children, the new subtrees behind the
others; or with new character data. -/
def changed (e : Edit) (x : Descriptor) : Descriptor :=
  match e.kind with
  | .childList =>
    { x with children := x.children.filter (fun c => c.id ∉ e.removed) ++ e.added }
  | .characterData => { x with text := some (e.text.getD "") }

mutual

/-- The tree after an edit of one of its nodes. -/
def edit (e : Edit) : Descriptor → Descriptor
  | x@⟨id, kind, tag, classValue, attrs, text, children⟩ =>
    if id = e.target then x.changed e
    else ⟨id, kind, tag, classValue, attrs, text, editAll e children⟩

def editAll (e : Edit) : List Descriptor → List Descriptor
  | [] => []
  | x :: xs => edit e x :: editAll e xs

end

theorem editAll_eq_map (e : Edit) (xs : List Descriptor) : editAll e xs = xs.map (edit e) := by
  induction xs with
  | nil => rw [editAll, List.map_nil]
  | cons x xs ih => rw [editAll, ih, List.map_cons]

theorem edit_eq (e : Edit) (x : Descriptor) :
    x.edit e = if x.id = e.target then x.changed e
      else { x with children := x.children.map (edit e) } := by
  cases x
  rw [edit, editAll_eq_map]

@[simp]
theorem changed_id (e : Edit) (x : Descriptor) : (x.changed e).id = x.id := by
  rw [changed]
  split <;> rfl

@[simp]
theorem edit_id (e : Edit) (x : Descriptor) : (x.edit e).id = x.id := by
  rw [edit_eq]
  split
  · exact changed_id e x
  · rfl

/-- An edit of a node that is not in the tree leaves the tree alone. -/
theorem edit_of_notMem {e : Edit} {x : Descriptor} (h : e.target ∉ x.ids) : x.edit e = x := by
  induction x using childInduction with
  | step x ih =>
      rw [ids_eq, List.mem_cons, not_or, mem_idsAll_iff_exists_ids] at h
      have hchildren : x.children.map (edit e) = x.children := by
        refine (List.map_congr_left fun c hc => ?_).trans (List.map_id _)
        exact ih c hc fun hmem => h.2 ⟨c, hc, hmem⟩
      rw [edit_eq, if_neg (Ne.symm h.1), hchildren]
      cases x
      rfl

end Descriptor

/-! ## Showing the edited tree -/

/-- Whatever was not the target of the edit is as it was, but for its parent. -/
def SameBut (d d' : Document) (target : NodeId) : Prop :=
  ∀ id n, id ≠ target → d.node? id = some n → ∃ q, d'.node? id = some { n with parent := q }

theorem sameBut_retext (d : Document) (e : Edit) : d.SameBut (d.retext e) e.target := by
  intro id n hid hn
  rw [retext, node?_modify, if_neg hid, hn]
  exact ⟨n.parent, rfl⟩

theorem sameBut_regraft {e : Edit} (h : d.childListFault e = none) :
    d.SameBut (d.regraft e) e.target := by
  intro id n hid hn
  have hadm := (plantFault_eq_none_iff.mp (plantFault_uproot h)).2
  have hold : id ∉ Descriptor.idsAll e.added :=
    hadm.notMem (by rw [contains_uproot]; exact contains_of_node? hn)
  rw [regraft, node?_plant_of_notMem hold, if_neg fun heq => hid (Option.some.inj heq).symm,
    node?_uproot, hn, Option.map_some, if_neg hid]
  exact ⟨_, rfl⟩

/-- What a tree shows apart from the target stays shown. -/
theorem Shows.of_sameBut {x : Descriptor} {target : NodeId} (h : d.Shows x)
    (hsame : d.SameBut d' target) (htarget : target ∉ x.ids) : d'.Shows x := by
  intro y hy
  obtain ⟨q, hq⟩ := h y hy
  have hne : y.id ≠ target := fun heq => htarget (Descriptor.mem_ids.mpr ⟨y, hy, heq⟩)
  obtain ⟨q', hq'⟩ := hsame y.id _ hne hq
  exact ⟨q', hq'⟩

/-- If the changed target is shown, so is the tree with the target changed. -/
theorem Shows.edit {e : Edit} {x : Descriptor} (h : d.Shows x)
    (hsame : d.SameBut d' e.target)
    (hhere : ∀ y ∈ x.preorder, y.id = e.target → d'.Shows (y.changed e)) :
    d'.Shows (x.edit e) := by
  induction x using Descriptor.childInduction with
  | step x ih =>
      rw [Descriptor.edit_eq]
      by_cases hx : x.id = e.target
      · rw [if_pos hx]
        exact hhere x (Descriptor.self_mem_preorder x) hx
      · rw [if_neg hx]
        obtain ⟨q, hq⟩ := h x (Descriptor.self_mem_preorder x)
        obtain ⟨q', hq'⟩ := hsame x.id _ hx hq
        refine shows_iff.mpr ⟨⟨q', ?_⟩, ?_⟩
        · rw [hq']
          simp [Descriptor.toNode, Function.comp_def]
        · intro c hc
          obtain ⟨b, hb, rfl⟩ := List.mem_map.mp hc
          refine ih b hb (h.child hb) fun y hy => ?_
          exact hhere y (Descriptor.preorder_trans (Descriptor.child_mem_preorder hb) hy)

theorem Shows.changed_retext (hwf : d.WellFormed) {e : Edit} {x : Descriptor} (h : d.Shows x)
    (hkind : e.kind = .characterData) (hx : x.id = e.target) :
    (d.retext e).Shows (x.changed e) := by
  obtain ⟨q, hq⟩ := h x (Descriptor.self_mem_preorder x)
  rw [Descriptor.changed, hkind]
  refine shows_iff.mpr ⟨⟨q, ?_⟩, fun c hc => ?_⟩
  · simp only [retext, node?_modify, hx.symm, if_true, hq]
    rfl
  · exact (h.child hc).of_sameBut (sameBut_retext d e) (hx ▸ h.notMem_ids_child hwf hc)

/-- Taking children out of the list by number is the same as filtering the descriptors. -/
theorem map_id_diff {cs : List Descriptor} (hnodup : (cs.map Descriptor.id).Nodup)
    (removed : List NodeId) : (cs.map Descriptor.id).diff removed =
      (cs.filter fun c => c.id ∉ removed).map Descriptor.id := by
  rw [hnodup.sdiff_eq_filter, List.filter_map]
  rfl

theorem Shows.changed_regraft (hwf : d.WellFormed) {e : Edit} {x : Descriptor} (h : d.Shows x)
    (hkind : e.kind = .childList) (hfault : d.childListFault e = none) (hx : x.id = e.target) :
    (d.regraft e).Shows (x.changed e) := by
  obtain ⟨q, hq⟩ := h x (Descriptor.self_mem_preorder x)
  have hplant := plantFault_uproot hfault
  have hadm := (plantFault_eq_none_iff.mp hplant).2
  have hold : e.target ∉ Descriptor.idsAll e.added :=
    hadm.notMem (by rw [contains_uproot]; exact hx ▸ contains_of_node? hq)
  rw [Descriptor.changed, hkind]
  refine shows_iff.mpr ⟨⟨if e.target ∈ e.removed then none else q, ?_⟩, fun c hc => ?_⟩
  · rw [hx] at hq
    rw [regraft, hx, node?_plant_of_notMem hold, if_pos rfl, node?_uproot, hq]
    simp only [Option.map_some, if_true, Descriptor.toNode, List.map_append, hx,
      map_id_diff (hwf.nodup_children hq)]
  · rcases List.mem_append.mp hc with hc | hc
    · have hcx := List.mem_of_mem_filter hc
      exact (h.child hcx).of_sameBut (sameBut_regraft hfault) (hx ▸ h.notMem_ids_child hwf hcx)
    · exact shows_plant hplant hc

/-! ## One step -/

/-- An edit that the document accepts edits the tree it shows. -/
theorem Shows.apply_ok (hwf : d.WellFormed) {e : Edit} {x : Descriptor} {r : Record}
    (h : d.Shows x) (hok : d.apply e = (.ok r, d')) : d'.Shows (x.edit e) := by
  have happlied := hwf.applied e
  rw [hok] at happlied
  cases happlied with
  | texted hkind htext =>
      exact h.edit (sameBut_retext d e) fun y hy => (h.of_mem hy).changed_retext hwf hkind
  | regrafted hkind hfault =>
      exact h.edit (sameBut_regraft hfault) fun y hy =>
        (h.of_mem hy).changed_regraft hwf hkind hfault

/-- A well-formed document in which a tree stands at the root. Nodes that were taken out may be
held besides. -/
structure Represents (d : Document) (x : Descriptor) : Prop where
  wellFormed : d.WellFormed
  root_eq : d.root = some x.id
  shows : d.Shows x

theorem Represents.ofRoot {x : Descriptor} (h : ofRoot x = .ok d) : d.Represents x where
  wellFormed := WellFormed.ofRoot h
  root_eq := by
    obtain ⟨-, rfl⟩ := ofRoot_eq_ok_iff.mp h
    rfl
  shows := by
    obtain ⟨hadm, rfl⟩ := ofRoot_eq_ok_iff.mp h
    have hfault : empty.plantFault none [x] = none := descriptorFault_eq_none_iff.mpr hadm
    exact shows_plant hfault List.mem_cons_self

theorem Represents.attached_iff {x : Descriptor} (h : d.Represents x) {id : NodeId} :
    d.isAttached id ↔ id ∈ x.ids := by
  rw [h.wellFormed.isAttached_iff, h.shows.mem_ids_iff_attached h.wellFormed h.root_eq]

theorem Represents.tree?_eq {x : Descriptor} (h : d.Represents x) : d.tree? = some x :=
  h.shows.tree?_eq h.wellFormed h.root_eq

/-- An edit that the document accepts edits the tree if its target is attached, and otherwise
leaves the tree alone. -/
theorem Represents.apply_ok {e : Edit} {x : Descriptor} {r : Record} (h : d.Represents x)
    (hok : d.apply e = (.ok r, d')) :
    d'.Represents (if d.isAttached e.target then x.edit e else x) := by
  have hafter : d'.Represents (x.edit e) :=
    { wellFormed := h.wellFormed.of_apply_eq hok
      root_eq := by simpa [hok] using (h.wellFormed.root_apply e).trans h.root_eq
      shows := h.shows.apply_ok h.wellFormed hok }
  -- Where the target is detached it is not in the tree, and editing the tree changes nothing.
  by_cases hatt : d.isAttached e.target
  · rwa [if_pos hatt]
  · rw [h.attached_iff] at hatt
    rwa [if_neg (by rwa [h.attached_iff]), ← Descriptor.edit_of_notMem hatt]

/-- An edit that the document refuses leaves the tree alone. -/
theorem Represents.apply_error {e : Edit} {x : Descriptor} {f : Fault} (h : d.Represents x)
    (herror : d.apply e = (.error f, d')) : d'.Represents x := by
  have happlied := h.wellFormed.applied e
  rw [herror] at happlied
  cases happlied with
  | refused => exact h

/-- Dropping the detached nodes leaves the tree alone. -/
theorem Represents.prune {x : Descriptor} (h : d.Represents x) : d.prune.1.Represents x where
  wellFormed := h.wellFormed.prune
  root_eq := (root_prune d).trans h.root_eq
  shows y hy := by
    obtain ⟨q, hq⟩ := h.shows y hy
    have hatt := (h.shows.mem_ids_iff_attached h.wellFormed h.root_eq).mp
      (Descriptor.mem_ids.mpr ⟨y, hy, rfl⟩)
    exact ⟨q, h.wellFormed.node?_prune.mpr ⟨hq, hatt⟩⟩

/-- The document holds the tree at its root and nothing besides. -/
structure Holds (d : Document) (x : Descriptor) : Prop extends d.Represents x where
  contains_iff : ∀ id, d.contains id ↔ id ∈ x.ids

theorem Holds.ofRoot {x : Descriptor} (h : ofRoot x = .ok d) : d.Holds x where
  toRepresents := Represents.ofRoot h
  contains_iff id := by
    refine ⟨fun hid => ?_, (Represents.ofRoot h).shows.contains⟩
    obtain ⟨hadm, rfl⟩ := ofRoot_eq_ok_iff.mp h
    have hparent : ∀ p, (none : Option NodeId) = some p → p ∉ Descriptor.idsAll [x] := nofun
    have hplanted : (empty.plant none [x]).contains id := hid
    rw [contains_plant_iff hadm.nodup hparent] at hplanted
    simpa [contains] using hplanted

theorem Represents.holds_prune {x : Descriptor} (h : d.Represents x) : d.prune.1.Holds x where
  toRepresents := h.prune
  contains_iff id := by
    refine ⟨fun hid => ?_, h.prune.shows.contains⟩
    rw [h.prune.shows.mem_ids_iff_attached h.prune.wellFormed h.prune.root_eq]
    exact h.wellFormed.attached_of_contains_prune hid

end EditWatch.Document
