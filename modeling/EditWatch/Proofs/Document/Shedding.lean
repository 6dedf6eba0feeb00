import EditWatch.Proofs.Document.Edits
import EditWatch.Proofs.Document.Lineage

/-!
# EditWatch.Proofs.Document.Shedding -- documents without their detached nodes

Nodes that were taken out stay in a document until it is pruned. No link leads from them to the
nodes that the root reaches, so a document that still has them and one that dropped them judge
edits alike, as long as an edit neither aims at a lost node nor adds one of its number: the edits
have the same outcomes, the two documents keep differing by the same nodes only, and pruning makes
them equal.
-/

namespace EditWatch.Document

open Relation

variable {d d' : Document} {lost : NodeId → Prop}

/-- The nodes that were taken out and are still held. -/
def Detached (d : Document) (id : NodeId) : Prop := d.contains id ∧ ¬ d.isAttached id

instance (d : Document) : DecidablePred d.Detached := fun id =>
  inferInstanceAs (Decidable (d.contains id ∧ ¬ d.isAttached id))

/-- `d'` is the document `d` without the lost nodes. The root is none of them, and a node and its
parent are lost together. -/
structure Sheds (lost : NodeId → Prop) (d d' : Document) : Prop where
  root_eq : d'.root = d.root
  root_kept : ∀ {r}, d.root = some r → ¬ lost r
  node?_kept : ∀ {id}, ¬ lost id → d'.node? id = d.node? id
  node?_lost : ∀ {id}, lost id → d'.node? id = none
  lost_iff : ∀ {c p}, d.Up c p → (lost c ↔ lost p)

/-- The edit neither aims at one of the nodes nor adds one of their number. -/
def Edit.Spares (e : Edit) (lost : NodeId → Prop) : Prop :=
  ¬ lost e.target ∧ ∀ id ∈ e.addedIds, ¬ lost id

-- The numbers are finitely many, so searching for the instance may end at one that tries them all.
instance (e : Edit) [DecidablePred lost] : Decidable (e.Spares lost) :=
  @instDecidableAnd _ _ inferInstance (List.decidableBAll (fun id => ¬ lost id) e.addedIds)

namespace Sheds

/-! ## The same look-ups -/

theorem contains_eq (h : Sheds lost d d') {id : NodeId} (hid : ¬ lost id) :
    d'.contains id = d.contains id := by
  rw [contains, contains, h.node?_kept hid]

theorem isText_eq (h : Sheds lost d d') {id : NodeId} (hid : ¬ lost id) :
    d'.isText id = d.isText id := by
  rw [isText, isText, h.node?_kept hid]

/-- The parents that remain are those of the nodes that remain. -/
theorem up_iff (h : Sheds lost d d') {c p : NodeId} : d'.Up c p ↔ d.Up c p ∧ ¬ lost c := by
  by_cases hc : lost c
  · simp [Document.up_iff, h.node?_lost hc, hc]
  · simp [Document.up_iff, h.node?_kept hc, hc]

/-- Of a node that remains no child is lost. -/
theorem parent?_eq_some_iff (h : Sheds lost d d') {c p : NodeId} (hp : ¬ lost p) :
    d'.parent? c = some p ↔ d.parent? c = some p := by
  show d'.Up c p ↔ d.Up c p
  rw [h.up_iff]
  refine ⟨fun hup => hup.1, fun hup => ⟨hup, ?_⟩⟩
  rwa [h.lost_iff hup]

/-! ## The same faults -/

theorem firstStranger_eq (h : Sheds lost d d') {p : NodeId} (hp : ¬ lost p)
    (seen : Std.ExtTreeSet NodeId) (cs : List NodeId) :
    d'.firstStranger p seen cs = d.firstStranger p seen cs := by
  induction cs generalizing seen with
  | nil => rfl
  | cons c cs ih => simp only [firstStranger, h.parent?_eq_some_iff hp, ih]

theorem firstFault_eq (h : Sheds lost d d') {ys : List Descriptor} (hys : ∀ y ∈ ys, ¬ lost y.id)
    (seen : Std.ExtTreeSet NodeId) : d'.firstFault seen ys = d.firstFault seen ys := by
  induction ys generalizing seen with
  | nil => rfl
  | cons y ys ih =>
      rw [List.forall_mem_cons] at hys
      simp only [firstFault, h.contains_eq hys.1, ih hys.2]

theorem insertFault_eq (h : Sheds lost d d') {p : NodeId} (hp : ¬ lost p) {xs : List Descriptor}
    (hxs : ∀ id ∈ Descriptor.idsAll xs, ¬ lost id) :
    d'.insertFault p xs = d.insertFault p xs := by
  have hfaults : d'.descriptorFault xs = d.descriptorFault xs :=
    h.firstFault_eq (fun y hy => hxs y.id (Descriptor.mem_idsAll.mpr ⟨y, hy, rfl⟩)) ∅
  simp only [insertFault, h.node?_kept hp, hfaults]

/-- Both documents find the same fault with an edit that spares the lost nodes. -/
theorem editFault_eq (h : Sheds lost d d') {e : Edit} (he : e.Spares lost) :
    d'.editFault e = d.editFault e := by
  obtain ⟨htarget, hadded⟩ := he
  cases hkind : e.kind with
  | characterData =>
      simp only [editFault, hkind, h.contains_eq htarget, h.isText_eq htarget]
  | childList =>
      rw [Edit.addedIds, hkind] at hadded
      simp only [editFault, hkind, h.contains_eq htarget, childListFault,
        h.firstStranger_eq htarget, h.insertFault_eq htarget hadded]

/-! ## The same changes -/

theorem modify (h : Sheds lost d d') {id : NodeId} {f : Node → Node}
    (hf : ∀ n, (f n).parent = n.parent) : Sheds lost (d.modify id f) (d'.modify id f) where
  root_eq := by simpa using h.root_eq
  root_kept hr := h.root_kept (by simpa using hr)
  node?_kept hj := by rw [node?_modify, node?_modify, h.node?_kept hj]
  node?_lost hj := by
    rw [node?_modify, h.node?_lost hj]
    split <;> rfl
  lost_iff hup := h.lost_iff ((up_modify_iff hf).mp hup)

theorem node?_write_congr {j : NodeId} (h : d'.node? j = d.node? j) (rows : List Node) :
    (d'.write rows).node? j = (d.write rows).node? j := by
  induction rows generalizing d d' with
  | nil => exact h
  | cons n rows ih =>
      rw [write_cons, write_cons d]
      apply ih
      rw [node?_write_singleton, node?_write_singleton, h]

/-- What a child-list edit makes of a node depends on that node alone. -/
theorem node?_regraft_congr (e : Edit) {j : NodeId} (h : d'.node? j = d.node? j) :
    (d'.regraft e).node? j = (d.regraft e).node? j := by
  have huproot : (d'.uproot e.target e.removed).node? j
      = (d.uproot e.target e.removed).node? j := by rw [node?_uproot, node?_uproot, h]
  rw [Document.regraft, Document.regraft, plant, plant, node?_modify, node?_modify,
    node?_write_congr huproot]

theorem regraft (h : Sheds lost d d') {e : Edit} (he : e.Spares lost) (hkind : e.kind = .childList)
    (hfault : d.childListFault e = none) : Sheds lost (d.regraft e) (d'.regraft e) := by
  obtain ⟨htarget, hadded⟩ := he
  rw [Edit.addedIds, hkind] at hadded
  have hnew : ∀ y ∈ Descriptor.preorderAll e.added, ¬ lost y.id := fun y hy =>
    hadded y.id (Descriptor.mem_idsAll.mpr ⟨y, hy, rfl⟩)
  refine
    { root_eq := ?_
      root_kept := fun {r} hr => ?_
      node?_kept := fun {id} hid => node?_regraft_congr e (h.node?_kept hid)
      node?_lost := fun {id} hid => ?_
      lost_iff := fun {c p} hup => ?_ }
  · rw [Document.regraft, Document.regraft, root_plant, root_plant, root_uproot, root_uproot,
      h.root_eq]
  · rw [Document.regraft, root_plant, root_uproot] at hr
    exact h.root_kept hr
  · have hold : id ∉ Descriptor.idsAll e.added := fun hmem => hadded id hmem hid
    rw [Document.regraft, node?_plant_of_notMem hold, node?_uproot, h.node?_lost hid]
    split <;> rfl
  · -- A link is an old one, leads from a new top to the target, or lies within a new subtree.
    rcases (up_plant_iff (plantFault_uproot hfault)).mp hup with
      hup | ⟨x, hx, rfl, hp⟩ | ⟨y, hy, z, hz, rfl, rfl⟩
    · exact h.lost_iff (up_uproot_iff.mp hup).1
    · obtain rfl := Option.some.inj hp
      exact iff_of_false (hnew x (Descriptor.mem_preorderAll_self hx)) htarget
    · exact iff_of_false (hnew z (Descriptor.child_mem_preorderAll hy hz)) (hnew y hy)

/-- An edit that spares the lost nodes has the same outcome in both documents, which differ by the
lost nodes as before. -/
theorem apply (h : Sheds lost d d') (hwf : d.WellFormed) (hwf' : d'.WellFormed) {e : Edit}
    (he : e.Spares lost) :
    (d'.apply e).1 = (d.apply e).1 ∧ Sheds lost (d.apply e).2 (d'.apply e).2 := by
  have hfaults := h.editFault_eq he
  rw [hwf.apply_eq, hwf'.apply_eq, hfaults]
  cases hfault : d.editFault e with
  | some f => exact ⟨rfl, h⟩
  | none =>
      refine ⟨rfl, ?_⟩
      simp only [edited]
      cases hkind : e.kind with
      | characterData => exact h.modify fun _ => rfl
      | childList => exact h.regraft he hkind (childListFault_of_editFault hkind hfault)

/-! ## The same document in the end -/

/-- Whatever is attached remains. -/
theorem not_lost_of_attached (h : Sheds lost d d') {id : NodeId} (hatt : d.Attached id) :
    ¬ lost id := by
  obtain ⟨r, hr, hreach⟩ := hatt
  induction hreach using ReflTransGen.head_induction_on with
  | refl => exact h.root_kept hr
  | head hup _ ih => rwa [h.lost_iff hup]

theorem attached_iff (h : Sheds lost d d') {id : NodeId} : d'.Attached id ↔ d.Attached id := by
  constructor
  · rintro ⟨r, hr, hreach⟩
    rw [h.root_eq] at hr
    exact ⟨r, hr, ReflTransGen.mono (fun _ _ hup => (h.up_iff.mp hup).1) id r hreach⟩
  · rintro ⟨r, hr, hreach⟩
    refine ⟨r, h.root_eq.trans hr, ?_⟩
    induction hreach using ReflTransGen.head_induction_on with
    | refl => exact ReflTransGen.refl
    | head hup hreach ih =>
        have hkept := h.not_lost_of_attached ⟨r, hr, hreach.head hup⟩
        exact ReflTransGen.head (h.up_iff.mpr ⟨hup, hkept⟩) ih

theorem prune_eq (h : Sheds lost d d') (hwf : d.WellFormed) (hwf' : d'.WellFormed) :
    d'.prune.1 = d.prune.1 := by
  refine ext_node? (by simpa using h.root_eq) fun id => Option.ext fun n => ?_
  rw [hwf'.node?_prune, hwf.node?_prune, h.attached_iff]
  refine and_congr_left fun hatt => ?_
  rw [h.node?_kept (h.not_lost_of_attached hatt)]

end Sheds

/-- Pruning sheds just the detached nodes. -/
theorem WellFormed.sheds_prune (hwf : d.WellFormed) : Sheds d.Detached d d.prune.1 where
  root_eq := root_prune d
  root_kept hr hlost := hlost.2 (hwf.isAttached_iff.mpr (attached_root hr))
  node?_kept {id} hkept := by
    refine Option.ext fun n => ?_
    rw [hwf.node?_prune]
    refine ⟨fun h => h.1, fun hn => ⟨hn, ?_⟩⟩
    by_contra hdetached
    exact hkept ⟨contains_of_node? hn, fun hatt => hdetached (hwf.isAttached_iff.mp hatt)⟩
  node?_lost {id} hlost := by
    rw [← Option.not_isSome_iff_eq_none, Option.isSome_iff_exists]
    rintro ⟨n, hn⟩
    exact hlost.2 (hwf.isAttached_iff.mpr (hwf.node?_prune.mp hn).2)
  lost_iff {c p} hup := by
    simp only [Detached, hwf.isAttached_iff, hwf.attached_iff_of_up hup, hup.contains,
      hwf.contains_of_up hup]

end EditWatch.Document
