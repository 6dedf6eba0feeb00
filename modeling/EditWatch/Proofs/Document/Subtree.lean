import EditWatch.Proofs.Document.Lineage

/-!
# EditWatch.Proofs.Document.Subtree -- documents read back as trees

A document shows a descriptor if it holds a node for each descriptor of the subtree, with that
descriptor's data and with the children it lists. In a well-formed document what is shown under a
number is one tree: reading back through the lists of children yields it, its numbers are all
different, and they are the numbers of the nodes below its top.
-/

namespace EditWatch.Document

open Relation

variable {d d' : Document}

/-- The document holds each node of the descriptor, as the descriptor has it. -/
def Shows (d : Document) (x : Descriptor) : Prop :=
  ∀ y ∈ x.preorder, ∃ q, d.node? y.id = some (y.toNode q)

/-- The subtree of a node, read back through the lists of children; nothing if a node is missing
or the lists are nested deeper than the number of steps. -/
def subtreeFrom (d : Document) : Nat → NodeId → Option Descriptor
  | 0, _ => none
  | fuel + 1, id =>
    match d.node? id with
    | none => none
    | some n => (n.children.mapM (subtreeFrom d fuel)).map fun children =>
        ⟨n.id, n.kind, n.tag, n.classValue, n.attrs, n.data, children⟩

/-- The subtree of a node. No path from a node downwards is longer than there are nodes. -/
def subtree? (d : Document) (id : NodeId) : Option Descriptor := d.subtreeFrom d.size id

/-- The whole tree, read back from the root. -/
def tree? (d : Document) : Option Descriptor := d.root.bind d.subtree?

/-! ## Parts of what is shown -/

theorem Shows.of_mem {x y : Descriptor} (h : d.Shows x) (hy : y ∈ x.preorder) : d.Shows y :=
  fun z hz => h z (Descriptor.preorder_trans hy hz)

theorem Shows.child {x c : Descriptor} (h : d.Shows x) (hc : c ∈ x.children) : d.Shows c :=
  h.of_mem (Descriptor.child_mem_preorder hc)

theorem shows_iff {x : Descriptor} :
    d.Shows x ↔ (∃ q, d.node? x.id = some (x.toNode q)) ∧ ∀ c ∈ x.children, d.Shows c := by
  constructor
  · exact fun h => ⟨h x (Descriptor.self_mem_preorder x), fun c hc => h.child hc⟩
  · rintro ⟨htop, hchildren⟩ y hy
    rw [Descriptor.preorder_eq] at hy
    rcases List.mem_cons.mp hy with rfl | hy
    · exact htop
    · obtain ⟨c, hc, hyc⟩ := Descriptor.mem_preorderAll.mp hy
      exact hchildren c hc y hyc

theorem Shows.contains {x : Descriptor} (h : d.Shows x) {id : NodeId} (hid : id ∈ x.ids) :
    d.contains id := by
  obtain ⟨y, hy, rfl⟩ := Descriptor.mem_ids.mp hid
  obtain ⟨q, hq⟩ := h y hy
  exact contains_of_node? hq

/-- A subtree that was planted is shown. -/
theorem shows_plant {parent : Option NodeId} {xs : List Descriptor} {x : Descriptor}
    (h : d.plantFault parent xs = none) (hx : x ∈ xs) : (d.plant parent xs).Shows x := by
  intro y hy
  exact exists_node?_plant (plantFault_eq_none_iff.mp h).2.nodup (parent_notMem_of_plantFault h)
    (Descriptor.mem_preorderAll.mpr ⟨x, hx, hy⟩)

/-! ## Above and below -/

/-- The children that a shown descriptor lists have its node as parent. -/
theorem Shows.up (hwf : d.WellFormed) {x c : Descriptor} (h : d.Shows x) (hc : c ∈ x.children) :
    d.Up c.id x.id := by
  obtain ⟨q, hq⟩ := h x (Descriptor.self_mem_preorder x)
  exact (hwf.mem_children_iff hq).mp (List.mem_map_of_mem hc)

/-- From every node of what is shown parents lead to the top. -/
theorem Shows.reflTransGen_up (hwf : d.WellFormed) {x : Descriptor} (h : d.Shows x) {id : NodeId}
    (hid : id ∈ x.ids) : ReflTransGen d.Up id x.id := by
  induction x using Descriptor.childInduction with
  | step x ih =>
      rw [Descriptor.ids_eq] at hid
      rcases List.mem_cons.mp hid with rfl | hid
      · exact ReflTransGen.refl
      · obtain ⟨c, hc, hidc⟩ := Descriptor.mem_idsAll_iff_exists_ids.mp hid
        exact (ih c hc (h.child hc) hidc).tail (h.up hwf hc)

/-- What is below a node of the tree belongs to the tree. -/
theorem Shows.mem_ids_of_up (hwf : d.WellFormed) {x : Descriptor} (h : d.Shows x) {c p : NodeId}
    (hup : d.Up c p) (hp : p ∈ x.ids) : c ∈ x.ids := by
  obtain ⟨y, hy, rfl⟩ := Descriptor.mem_ids.mp hp
  obtain ⟨q, hq⟩ := h y hy
  obtain ⟨z, hz, rfl⟩ := List.mem_map.mp ((hwf.mem_children_iff hq).mpr hup)
  exact Descriptor.mem_ids.mpr
    ⟨z, Descriptor.preorder_trans hy (Descriptor.child_mem_preorder hz), rfl⟩

theorem Shows.mem_ids_iff (hwf : d.WellFormed) {x : Descriptor} (h : d.Shows x) {id : NodeId} :
    id ∈ x.ids ↔ ReflTransGen d.Up id x.id := by
  refine ⟨h.reflTransGen_up hwf, fun hreach => ?_⟩
  induction hreach using ReflTransGen.head_induction_on with
  | refl =>
      rw [Descriptor.ids_eq]
      exact List.mem_cons_self
  | head hup _ ih => exact h.mem_ids_of_up hwf hup ih

/-- The numbers of the tree that stands at the root are those of the attached nodes. -/
theorem Shows.mem_ids_iff_attached (hwf : d.WellFormed) {x : Descriptor} (h : d.Shows x)
    (hroot : d.root = some x.id) {id : NodeId} : id ∈ x.ids ↔ d.Attached id := by
  rw [h.mem_ids_iff hwf, Attached]
  simp [hroot]

/-- The children of a shown node do not contain it. -/
theorem Shows.notMem_ids_child (hwf : d.WellFormed) {x c : Descriptor} (h : d.Shows x)
    (hc : c ∈ x.children) : x.id ∉ c.ids := by
  intro hmem
  have hreach := (h.child hc).reflTransGen_up hwf hmem
  exact hwf.acyclic x.id (TransGen.tail' hreach (h.up hwf hc))

/-- Two children of one node have nothing below in common: the one would be above the other. -/
theorem WellFormed.eq_of_up_of_below (hwf : d.WellFormed) {a b p id : NodeId} (ha : d.Up a p)
    (hb : d.Up b p) (hida : ReflTransGen d.Up id a) (hidb : ReflTransGen d.Up id b) : a = b := by
  have apart : ∀ {a b}, d.Up a p → d.Up b p → ReflTransGen d.Up a b → a = b := by
    intro a b ha hb hab
    rcases hab.cases_head with heq | ⟨q, hq, hqb⟩
    · exact heq
    · -- The way up from `a` to `b` passes `p`, and `b` has `p` above it.
      rw [Up.rightUnique hq ha] at hqb
      exact absurd (TransGen.tail' hqb hb) (hwf.acyclic p)
  rcases ReflTransGen.total_of_right_unique Up.rightUnique hida hidb with hab | hba
  · exact apart ha hb hab
  · exact (apart hb ha hba).symm

/-- No number stands twice in what is shown. -/
theorem Shows.nodup_ids (hwf : d.WellFormed) {x : Descriptor} (h : d.Shows x) : x.ids.Nodup := by
  induction x using Descriptor.childInduction with
  | step x ih =>
      obtain ⟨q, hq⟩ := h x (Descriptor.self_mem_preorder x)
      have htops : (x.children.map Descriptor.id).Nodup := hwf.nodup_children hq
      rw [Descriptor.ids_eq, List.nodup_cons]
      constructor
      · intro hmem
        obtain ⟨c, hc, hidc⟩ := Descriptor.mem_idsAll_iff_exists_ids.mp hmem
        exact h.notMem_ids_child hwf hc hidc
      · refine Descriptor.nodup_idsAll htops (fun c hc => ih c hc (h.child hc)) ?_
        intro b hb c hc id hidb hidc
        exact hwf.eq_of_up_of_below (h.up hwf hb) (h.up hwf hc)
          ((h.child hb).reflTransGen_up hwf hidb) ((h.child hc).reflTransGen_up hwf hidc)

/-! ## Reading back -/

theorem length_preorder_le_of_mem {c : Descriptor} {cs : List Descriptor} (hc : c ∈ cs) :
    c.preorder.length ≤ (Descriptor.preorderAll cs).length :=
  (Descriptor.preorder_sublist_preorderAll hc).length_le

theorem Shows.subtreeFrom_eq {x : Descriptor} (h : d.Shows x) {fuel : Nat}
    (hfuel : x.preorder.length ≤ fuel) : d.subtreeFrom fuel x.id = some x := by
  induction x using Descriptor.childInduction generalizing fuel with
  | step x ih =>
      rw [Descriptor.preorder_eq, List.length_cons] at hfuel
      obtain ⟨fuel, rfl⟩ : ∃ k, fuel = k + 1 := ⟨fuel - 1, by omega⟩
      obtain ⟨q, hq⟩ := h x (Descriptor.self_mem_preorder x)
      have hchildren : (x.children.map Descriptor.id).mapM (d.subtreeFrom fuel)
          = some x.children := mapM_map_eq_some fun c hc => by
        have hlen := length_preorder_le_of_mem hc
        exact ih c hc (h.child hc) (by omega)
      simp only [subtreeFrom, hq, Descriptor.toNode_children, hchildren, Option.map_some]
      cases x
      rfl

/-- What is shown has no more nodes than the document. -/
theorem Shows.length_preorder_le_size (hwf : d.WellFormed) {x : Descriptor} (h : d.Shows x) :
    x.preorder.length ≤ d.size := by
  have hlen := length_le_size (h.nodup_ids hwf) fun id => h.contains
  rwa [Descriptor.ids, List.length_map] at hlen

/-- What a well-formed document shows is what is read back from it. -/
theorem Shows.subtree?_eq (hwf : d.WellFormed) {x : Descriptor} (h : d.Shows x) :
    d.subtree? x.id = some x :=
  h.subtreeFrom_eq (h.length_preorder_le_size hwf)

theorem Shows.tree?_eq (hwf : d.WellFormed) {x : Descriptor} (h : d.Shows x)
    (hroot : d.root = some x.id) : d.tree? = some x := by
  rw [tree?, hroot, Option.bind_some, h.subtree?_eq hwf]

end EditWatch.Document
