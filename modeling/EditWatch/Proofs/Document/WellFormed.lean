import EditWatch.Proofs.Document.Acceptance
import Mathlib.Data.Fintype.EquivFin
import Mathlib.Logic.Relation
import Mathlib.Order.WellFounded

/-!
# EditWatch.Proofs.Document.WellFormed -- parents and children agree

Parent links and lists of children say the same thing twice. In a well-formed document the two
agree, links lead to elements that exist, and following parents comes to an end. Planting
subtrees, taking children out, replacing character data and dropping unreachable nodes keep a
document well-formed.
-/

namespace EditWatch.Document

open Relation

variable {d d' : Document}

/-- One step upwards: `p` is the parent of `c`. -/
def Up (d : Document) (c p : NodeId) : Prop := d.parent? c = some p

/-- Both ways in which links are written down agree, and they form a forest. -/
structure WellFormed (d : Document) : Prop where
  /-- A node is held under its own number. -/
  id_eq : ∀ {id n}, d.node? id = some n → n.id = id
  /-- The children of a node are the nodes whose parent it is. -/
  mem_children_iff : ∀ {p n c}, d.node? p = some n → (c ∈ n.children ↔ d.Up c p)
  /-- No child is listed twice. -/
  nodup_children : ∀ {p n}, d.node? p = some n → n.children.Nodup
  /-- A parent exists and is an element. -/
  element_of_up : ∀ {c p}, d.Up c p → ∃ n, d.node? p = some n ∧ n.kind = .element
  /-- Parents never lead back. -/
  acyclic : ∀ id, ¬ TransGen d.Up id id
  /-- The root exists and has no parent. -/
  root_top : ∀ {r}, d.root = some r → ∃ n, d.node? r = some n ∧ n.parent = none

theorem up_iff {c p : NodeId} : d.Up c p ↔ ∃ n, d.node? c = some n ∧ n.parent = some p :=
  parent?_eq_some_iff

theorem Up.rightUnique : Relator.RightUnique d.Up := fun _ _ _ h h' =>
  Option.some.inj (h.symm.trans h')

theorem Up.contains {c p : NodeId} (h : d.Up c p) : d.contains c := contains_of_parent? h

/-- Where walking upwards always ends, it never leads back. -/
theorem acyclic_of_wellFounded (h : WellFounded fun p c => d.Up c p) (id : NodeId) :
    ¬ TransGen d.Up id id := by
  intro hcycle
  have hswap : TransGen (fun p c => d.Up c p) id id := hcycle.swap
  exact h.transGen.irrefl.irrefl id hswap

/-- There are only finitely many numbers, so a walk over them that never leads back ends. -/
theorem wellFounded_of_acyclic {r : NodeId → NodeId → Prop} (h : ∀ id, ¬ TransGen r id id) :
    WellFounded r := by
  have : Finite NodeId := Finite.of_injective UInt64.toFin fun _ _ => UInt64.toFin_inj.mp
  have : IsTrans NodeId (TransGen r) := ⟨fun _ _ _ h h' => h.trans h'⟩
  have : Std.Irrefl (TransGen r) := ⟨h⟩
  exact Subrelation.wf (fun hr => TransGen.single hr)
    (Finite.wellFounded_of_trans_of_irrefl (TransGen r))

namespace WellFormed

/-- Walking upwards ends. -/
theorem wellFounded_up (h : d.WellFormed) : WellFounded fun p c => d.Up c p :=
  wellFounded_of_acyclic fun id hcycle => h.acyclic id hcycle.swap

/-- So does walking downwards. -/
theorem wellFounded_down (h : d.WellFormed) : WellFounded d.Up := wellFounded_of_acyclic h.acyclic

theorem contains_of_up (h : d.WellFormed) {c p : NodeId} (hup : d.Up c p) : d.contains p := by
  obtain ⟨n, hn, -⟩ := h.element_of_up hup
  exact contains_of_node? hn

/-- A text node has no children. -/
theorem children_eq_nil (h : d.WellFormed) {id : NodeId} {n : Node} (hn : d.node? id = some n)
    (htext : n.kind = .text) : n.children = [] := by
  refine List.eq_nil_iff_forall_not_mem.mpr fun c hc => ?_
  obtain ⟨m, hm, hkind⟩ := h.element_of_up ((h.mem_children_iff hn).mp hc)
  obtain rfl := Option.some.inj (hn.symm.trans hm)
  rw [htext] at hkind
  cases hkind

theorem empty : empty.WellFormed where
  id_eq hn := by simp at hn
  mem_children_iff hn := by simp at hn
  nodup_children hn := by simp at hn
  element_of_up hup := by
    obtain ⟨n, hn, -⟩ := up_iff.mp hup
    simp at hn
  acyclic := acyclic_of_wellFounded ⟨fun c => ⟨c, fun p hup => by
    obtain ⟨n, hn, -⟩ := up_iff.mp hup
    simp at hn⟩⟩
  root_top hr := by simp at hr

end WellFormed

/-! ## Planting -/

theorem plantFault_eq_none_iff {parent : Option NodeId} {xs : List Descriptor} :
    d.plantFault parent xs = none ↔
      (∀ p, parent = some p → ∃ n, d.node? p = some n ∧ (n.isText → xs = [])) ∧ d.Admits xs := by
  cases parent with
  | none => simp [plantFault, descriptorFault_eq_none_iff]
  | some p => simp [plantFault, insertFault_eq_none_iff]

section Plant

variable {parent : Option NodeId} {xs : List Descriptor}

/-- A parent that exists is none of the new numbers. -/
theorem parent_notMem_of_plantFault (h : d.plantFault parent xs = none) :
    ∀ p, parent = some p → p ∉ Descriptor.idsAll xs := by
  obtain ⟨hparent, hadm⟩ := plantFault_eq_none_iff.mp h
  intro p hp
  obtain ⟨n, hn, -⟩ := hparent p hp
  exact hadm.notMem (contains_of_node? hn)

theorem node?_plant_row (h : d.plantFault parent xs = none) {n : Node}
    (hn : n ∈ Descriptor.rowsAll parent xs) : (d.plant parent xs).node? n.id = some n :=
  node?_plant_of_mem (plantFault_eq_none_iff.mp h).2.nodup (parent_notMem_of_plantFault h) hn

/-- The top of a planted subtree has the given parent. -/
theorem parent?_plant_top (h : d.plantFault parent xs = none) {x : Descriptor} (hx : x ∈ xs) :
    (d.plant parent xs).parent? x.id = parent := by
  have hrow : x.toNode parent ∈ Descriptor.rowsAll parent xs :=
    Descriptor.mem_rowsAll.mpr (Or.inl ⟨x, hx, rfl⟩)
  rw [parent?, ← Descriptor.toNode_id parent x, node?_plant_row h hrow]
  rfl

/-- Within a planted subtree parents are as the descriptors spell them out. -/
theorem up_plant_child (h : d.plantFault parent xs = none) {y z : Descriptor}
    (hy : y ∈ Descriptor.preorderAll xs) (hz : z ∈ y.children) :
    (d.plant parent xs).Up z.id y.id := by
  have hrow : z.toNode (some y.id) ∈ Descriptor.rowsAll parent xs :=
    Descriptor.mem_rowsAll.mpr (Or.inr ⟨y, hy, z, hz, rfl⟩)
  exact up_iff.mpr ⟨_, node?_plant_row h hrow, rfl⟩

/-- The parents after planting: those there were, the parent of the tops, and within the new
subtrees those that the descriptors spell out. -/
theorem up_plant_iff (h : d.plantFault parent xs = none) {c p : NodeId} :
    (d.plant parent xs).Up c p ↔ d.Up c p ∨ (∃ x ∈ xs, x.id = c ∧ parent = some p) ∨
      ∃ y ∈ Descriptor.preorderAll xs, ∃ z ∈ y.children, z.id = c ∧ y.id = p := by
  have hadm := (plantFault_eq_none_iff.mp h).2
  constructor
  · intro hup
    obtain ⟨n, hn, hparent⟩ := up_iff.mp hup
    by_cases hc : c ∈ Descriptor.idsAll xs
    · obtain ⟨m, hm, rfl⟩ := exists_row_of_mem_idsAll parent hc
      obtain rfl := Option.some.inj (hn.symm.trans (node?_plant_row h hm))
      rcases Descriptor.mem_rowsAll.mp hm with ⟨x, hx, rfl⟩ | ⟨y, hy, z, hz, rfl⟩
      · exact Or.inr (Or.inl ⟨x, hx, rfl, hparent⟩)
      · exact Or.inr (Or.inr ⟨y, hy, z, hz, rfl, Option.some.inj hparent⟩)
    · rw [node?_plant_of_notMem hc] at hn
      split at hn
      · obtain ⟨m, hm, rfl⟩ := Option.map_eq_some_iff.mp hn
        exact Or.inl (up_iff.mpr ⟨m, hm, hparent⟩)
      · exact Or.inl (up_iff.mpr ⟨n, hn, hparent⟩)
  · rintro (hup | ⟨x, hx, rfl, hp⟩ | ⟨y, hy, z, hz, rfl, rfl⟩)
    · obtain ⟨n, hn, hparent⟩ := up_iff.mp hup
      rw [up_iff, node?_plant_of_notMem (hadm.notMem hup.contains), hn]
      split <;> exact ⟨_, rfl, hparent⟩
    · exact (parent?_plant_top h hx).trans hp
    · exact up_plant_child h hy hz

/-- Walking upwards from a node that was there before ends, as it did before. -/
theorem acc_up_plant_of_notMem (hwf : d.WellFormed) (h : d.plantFault parent xs = none)
    {id : NodeId} (hid : id ∉ Descriptor.idsAll xs) :
    Acc (fun p c => (d.plant parent xs).Up c p) id := by
  have hadm := (plantFault_eq_none_iff.mp h).2
  induction id using hwf.wellFounded_up.induction with
  | _ id ih =>
      refine ⟨id, fun p hup => ?_⟩
      -- A new parent would make `id` one of the new numbers.
      rcases (up_plant_iff h).mp hup with hup | ⟨x, hx, rfl, -⟩ | ⟨y, hy, z, hz, rfl, -⟩
      · exact ih p hup (hadm.notMem (hwf.contains_of_up hup))
      · exact absurd (Descriptor.mem_idsAll.mpr
          ⟨x, Descriptor.mem_preorderAll_self hx, rfl⟩) hid
      · exact absurd (Descriptor.mem_idsAll.mpr
          ⟨z, Descriptor.child_mem_preorderAll hy hz, rfl⟩) hid

/-- If walking upwards ends from the top of a new subtree, it ends from all of its nodes. -/
theorem acc_up_plant_below (h : d.plantFault parent xs = none) {x y : Descriptor}
    (hx : x ∈ Descriptor.preorderAll xs) (hacc : Acc (fun p c => (d.plant parent xs).Up c p) x.id)
    (hy : y ∈ x.preorder) : Acc (fun p c => (d.plant parent xs).Up c p) y.id := by
  induction x using Descriptor.childInduction with
  | step x ih =>
      rw [Descriptor.preorder_eq] at hy
      rcases List.mem_cons.mp hy with rfl | hy
      · exact hacc
      · obtain ⟨c, hc, hyc⟩ := Descriptor.mem_preorderAll.mp hy
        have hcx : c ∈ Descriptor.preorderAll xs := Descriptor.child_mem_preorderAll hx hc
        refine ih c hc hcx ⟨_, fun p hup => ?_⟩ hyc
        rwa [Up.rightUnique hup (up_plant_child h hx hc)]

/-- Walking upwards from a new node leads through its subtree to the parent of the top, and from
there through nodes that were there before. -/
theorem wellFounded_up_plant (hwf : d.WellFormed) (h : d.plantFault parent xs = none) :
    WellFounded fun p c => (d.plant parent xs).Up c p := by
  refine ⟨fun id => ?_⟩
  by_cases hid : id ∈ Descriptor.idsAll xs
  · obtain ⟨y, hy, rfl⟩ := Descriptor.mem_idsAll.mp hid
    obtain ⟨x, hx, hyx⟩ := Descriptor.mem_preorderAll.mp hy
    have hxs : x ∈ Descriptor.preorderAll xs := Descriptor.mem_preorderAll_self hx
    have above : ∀ p, (d.plant parent xs).Up x.id p → p ∉ Descriptor.idsAll xs := fun p hup =>
      parent_notMem_of_plantFault h p ((parent?_plant_top h hx).symm.trans hup)
    have htop : Acc (fun p c => (d.plant parent xs).Up c p) x.id :=
      ⟨_, fun p hup => acc_up_plant_of_notMem hwf h (above p hup)⟩
    exact acc_up_plant_below h hxs htop hyx
  · exact acc_up_plant_of_notMem hwf h hid

/-- After planting, the children of a node are those it had before and, if it is the given parent,
the tops. -/
theorem mem_children_plant_iff (hwf : d.WellFormed) (h : d.plantFault parent xs = none)
    {p c : NodeId} {n : Node} (hn : (d.plant parent xs).node? p = some n) :
    c ∈ n.children ↔ (d.plant parent xs).Up c p := by
  obtain ⟨hparent, hadm⟩ := plantFault_eq_none_iff.mp h
  rw [up_plant_iff h]
  -- A new node has the children of its descriptor; an old one keeps its own and may get the tops.
  by_cases hp : p ∈ Descriptor.idsAll xs
  · obtain ⟨y, hy, rfl⟩ := Descriptor.mem_idsAll.mp hp
    obtain ⟨q, hq⟩ := exists_node?_plant (d := d) hadm.nodup (parent_notMem_of_plantFault h) hy
    obtain rfl := Option.some.inj (hn.symm.trans hq)
    rw [Descriptor.toNode_children, List.mem_map]
    constructor
    · rintro ⟨z, hz, rfl⟩
      exact Or.inr (Or.inr ⟨y, hy, z, hz, rfl, rfl⟩)
    · rintro (hup | ⟨x, -, -, hx⟩ | ⟨y', hy', z, hz, hzc, hid⟩)
      · exact absurd hp (hadm.notMem (hwf.contains_of_up hup))
      · exact absurd hp (parent_notMem_of_plantFault h y.id hx)
      · obtain rfl := Descriptor.eq_of_id_eq hadm.nodup hy' hy hid
        exact ⟨z, hz, hzc⟩
  · have hchild : ¬ ∃ y ∈ Descriptor.preorderAll xs, ∃ z ∈ y.children, z.id = c ∧ y.id = p := by
      rintro ⟨y, hy, -, -, -, rfl⟩
      exact hp (Descriptor.mem_idsAll.mpr ⟨y, hy, rfl⟩)
    rw [node?_plant_of_notMem hp] at hn
    by_cases hpar : parent = some p
    · rw [if_pos hpar] at hn
      obtain ⟨m, hm, rfl⟩ := Option.map_eq_some_iff.mp hn
      simp only [List.mem_append, hwf.mem_children_iff hm, List.mem_map, hchild, or_false, hpar,
        and_true]
    · rw [if_neg hpar] at hn
      simp only [hwf.mem_children_iff hn, hchild, hpar, and_false, exists_false, or_false]

theorem nodup_children_plant (hwf : d.WellFormed) (h : d.plantFault parent xs = none)
    {p : NodeId} {n : Node} (hn : (d.plant parent xs).node? p = some n) : n.children.Nodup := by
  have hadm := (plantFault_eq_none_iff.mp h).2
  by_cases hp : p ∈ Descriptor.idsAll xs
  · obtain ⟨y, hy, rfl⟩ := Descriptor.mem_idsAll.mp hp
    obtain ⟨q, hq⟩ := exists_node?_plant (d := d) hadm.nodup (parent_notMem_of_plantFault h) hy
    obtain rfl := Option.some.inj (hn.symm.trans hq)
    have hids := Descriptor.nodup_ids_of_mem hadm.nodup hy
    rw [Descriptor.ids_eq, List.nodup_cons] at hids
    exact hids.2.sublist (Descriptor.map_id_sublist_idsAll y.children)
  · rw [node?_plant_of_notMem hp] at hn
    split at hn
    · obtain ⟨m, hm, rfl⟩ := Option.map_eq_some_iff.mp hn
      refine List.nodup_append.mpr ⟨hwf.nodup_children hm,
        hadm.nodup.sublist (Descriptor.map_id_sublist_idsAll xs), ?_⟩
      rintro c hc _ hx rfl
      have hup := (hwf.mem_children_iff hm).mp hc
      exact hadm.notMem hup.contains ((Descriptor.map_id_sublist_idsAll xs).subset hx)
    · exact hwf.nodup_children hn

/-- What planting leaves of a node that was there before. -/
theorem exists_node?_plant_of_node? (h : d.plantFault parent xs = none) {id : NodeId} {n : Node}
    (hn : d.node? id = some n) :
    ∃ children, (d.plant parent xs).node? id = some { n with children := children } := by
  have hadm := (plantFault_eq_none_iff.mp h).2
  rw [node?_plant_of_notMem (hadm.notMem (contains_of_node? hn)), hn]
  split
  · exact ⟨_, rfl⟩
  · exact ⟨n.children, rfl⟩

/-- Planting subtrees that the document admits keeps it well-formed. -/
theorem WellFormed.plant (hwf : d.WellFormed) (h : d.plantFault parent xs = none) :
    (d.plant parent xs).WellFormed where
  id_eq {id n} hn := by
    by_cases hid : id ∈ Descriptor.idsAll xs
    · obtain ⟨m, hm, rfl⟩ := exists_row_of_mem_idsAll parent hid
      rw [Option.some.inj (hn.symm.trans (node?_plant_row h hm))]
    · rw [node?_plant_of_notMem hid] at hn
      split at hn
      · obtain ⟨m, hm, rfl⟩ := Option.map_eq_some_iff.mp hn
        exact (hwf.id_eq hm : m.id = id)
      · exact hwf.id_eq hn
  mem_children_iff hn := mem_children_plant_iff hwf h hn
  nodup_children hn := nodup_children_plant hwf h hn
  element_of_up {c p} hup := by
    obtain ⟨hparent, hadm⟩ := plantFault_eq_none_iff.mp h
    rcases (up_plant_iff h).mp hup with hup | ⟨x, hx, rfl, hp⟩ | ⟨y, hy, z, hz, rfl, rfl⟩
    · obtain ⟨n, hn, hkind⟩ := hwf.element_of_up hup
      obtain ⟨children, hn'⟩ := exists_node?_plant_of_node? h hn
      exact ⟨_, hn', hkind⟩
    · obtain ⟨n, hn, htext⟩ := hparent p hp
      obtain ⟨children, hn'⟩ := exists_node?_plant_of_node? h hn
      refine ⟨_, hn', ?_⟩
      cases hkind : n.kind with
      | element => rfl
      | text => exact absurd (htext (by simp [Node.isText, hkind])) (List.ne_nil_of_mem hx)
    · obtain ⟨q, hq⟩ := exists_node?_plant (d := d) hadm.nodup (parent_notMem_of_plantFault h) hy
      refine ⟨_, hq, ?_⟩
      have hleaf := hadm.leaf y hy
      cases hkind : y.kind with
      | element => exact hkind
      | text =>
          simp only [Descriptor.isTextWithChildren, hkind, beq_self_eq_true, Bool.true_and,
            Bool.not_eq_false', List.isEmpty_iff] at hleaf
          exact absurd hleaf (List.ne_nil_of_mem hz)
  acyclic := acyclic_of_wellFounded (wellFounded_up_plant hwf h)
  root_top {r} hr := by
    rw [root_plant] at hr
    obtain ⟨n, hn, htop⟩ := hwf.root_top hr
    obtain ⟨children, hn'⟩ := exists_node?_plant_of_node? h hn
    exact ⟨_, hn', htop⟩

end Plant

/-! ## Taking out -/

theorem up_uproot_iff {p c q : NodeId} {cs : List NodeId} :
    (d.uproot p cs).Up c q ↔ d.Up c q ∧ c ∉ cs := by
  rw [up_iff, up_iff, node?_uproot]
  cases d.node? c with
  | none => simp
  | some n => by_cases hc : c ∈ cs <;> simp [hc]

/-- Taking out children of one parent keeps a document well-formed. -/
theorem WellFormed.uproot (hwf : d.WellFormed) {p : NodeId} {cs : List NodeId}
    (hcs : ∀ c ∈ cs, d.Up c p) : (d.uproot p cs).WellFormed where
  id_eq {id n} hn := by
    rw [node?_uproot] at hn
    obtain ⟨m, hm, rfl⟩ := Option.map_eq_some_iff.mp hn
    exact (hwf.id_eq hm : m.id = id)
  mem_children_iff {q n c} hn := by
    rw [node?_uproot] at hn
    obtain ⟨m, hm, rfl⟩ := Option.map_eq_some_iff.mp hn
    rw [up_uproot_iff, ← hwf.mem_children_iff hm]
    by_cases hq : q = p
    · simp only [if_pos hq, (hwf.nodup_children hm).mem_sdiff_iff]
    · simp only [if_neg hq]
      refine ⟨fun hc => ⟨hc, fun hmem => ?_⟩, fun hc => hc.1⟩
      exact hq (Up.rightUnique ((hwf.mem_children_iff hm).mp hc) (hcs c hmem))
  nodup_children {q n} hn := by
    rw [node?_uproot] at hn
    obtain ⟨m, hm, rfl⟩ := Option.map_eq_some_iff.mp hn
    by_cases hq : q = p
    · simp only [if_pos hq]
      exact (hwf.nodup_children hm).diff
    · simp only [if_neg hq]
      exact hwf.nodup_children hm
  element_of_up hup := by
    obtain ⟨n, hn, hkind⟩ := hwf.element_of_up (up_uproot_iff.mp hup).1
    rw [node?_uproot, hn]
    exact ⟨_, rfl, hkind⟩
  acyclic id hcycle :=
    hwf.acyclic id (TransGen.mono (fun _ _ hup => (up_uproot_iff.mp hup).1) id id hcycle)
  root_top hr := by
    rw [root_uproot] at hr
    obtain ⟨n, hn, htop⟩ := hwf.root_top hr
    rw [node?_uproot, hn]
    refine ⟨_, rfl, ?_⟩
    split
    · rfl
    · exact htop

/-! ## Character data -/

theorem up_modify_iff {id c p : NodeId} {f : Node → Node} (hf : ∀ n, (f n).parent = n.parent) :
    (d.modify id f).Up c p ↔ d.Up c p := by
  rw [up_iff, up_iff, node?_modify]
  split
  · simp [hf]
  · rfl

/-- Changing a node without touching its number, kind and links keeps a document well-formed. -/
theorem WellFormed.modify (hwf : d.WellFormed) {id : NodeId} {f : Node → Node}
    (hid : ∀ n, (f n).id = n.id) (hkind : ∀ n, (f n).kind = n.kind)
    (hparent : ∀ n, (f n).parent = n.parent) (hchildren : ∀ n, (f n).children = n.children) :
    (d.modify id f).WellFormed := by
  have same : ∀ {j n}, (d.modify id f).node? j = some n → ∃ m, d.node? j = some m ∧
      n.id = m.id ∧ n.children = m.children := by
    intro j n hn
    rw [node?_modify] at hn
    split at hn
    · obtain ⟨m, hm, rfl⟩ := Option.map_eq_some_iff.mp hn
      exact ⟨m, hm, hid m, hchildren m⟩
    · exact ⟨n, hn, rfl, rfl⟩
  have kept : ∀ {j m}, d.node? j = some m → ∃ n, (d.modify id f).node? j = some n ∧
      n.kind = m.kind ∧ n.parent = m.parent := by
    intro j m hm
    rw [node?_modify, hm]
    split
    · exact ⟨f m, rfl, hkind m, hparent m⟩
    · exact ⟨m, rfl, rfl, rfl⟩
  refine ⟨?_, ?_, ?_, ?_, ?_, ?_⟩
  · intro j n hn
    obtain ⟨m, hm, hj, -⟩ := same hn
    rw [hj, hwf.id_eq hm]
  · intro p n c hn
    obtain ⟨m, hm, -, hc⟩ := same hn
    rw [hc, up_modify_iff hparent, hwf.mem_children_iff hm]
  · intro p n hn
    obtain ⟨m, hm, -, hc⟩ := same hn
    rw [hc]
    exact hwf.nodup_children hm
  · intro c p hup
    obtain ⟨m, hm, hk⟩ := hwf.element_of_up ((up_modify_iff hparent).mp hup)
    obtain ⟨n, hn, hnk, -⟩ := kept hm
    exact ⟨n, hn, hnk.trans hk⟩
  · intro j hcycle
    exact hwf.acyclic j
      (TransGen.mono (fun _ _ hup => (up_modify_iff hparent).mp hup) j j hcycle)
  · intro r hr
    rw [root_modify] at hr
    obtain ⟨m, hm, htop⟩ := hwf.root_top hr
    obtain ⟨n, hn, -, hnp⟩ := kept hm
    exact ⟨n, hn, hnp.trans htop⟩

end EditWatch.Document
