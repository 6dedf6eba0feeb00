import EditWatch.Document.Node
import Mathlib.Data.List.Nodup

/-!
# EditWatch.Proofs.Document.Descriptor -- descriptors as trees

The descriptor of a subtree and the rows it becomes, read as lists: the rows carry the numbers of
the descriptor in document order, and each row is the top of the subtree or the child of a
descriptor that belongs to it.
-/

namespace EditWatch.Document.Descriptor

/-- Induction over a descriptor: a property that a descriptor inherits from its children holds. -/
@[elab_as_elim]
theorem childInduction {motive : Descriptor → Prop}
    (step : ∀ x : Descriptor, (∀ c ∈ x.children, motive c) → motive x) (x : Descriptor) :
    motive x :=
  step x fun c _hc => childInduction step c
termination_by x
decreasing_by
  have hlt := List.sizeOf_lt_of_mem _hc
  cases x
  simp only [mk.sizeOf_spec] at hlt ⊢
  omega

/-! ## Document order -/

/-- The numbers of several subtrees, in document order. -/
def idsAll (xs : List Descriptor) : List NodeId := (preorderAll xs).map Descriptor.id

theorem preorder_eq (x : Descriptor) : x.preorder = x :: preorderAll x.children := by
  cases x
  rw [preorder]

theorem ids_eq (x : Descriptor) : x.ids = x.id :: idsAll x.children := by
  rw [ids, preorder_eq, List.map_cons, idsAll]

@[simp]
theorem preorderAll_nil : preorderAll [] = [] := by rw [preorderAll]

@[simp]
theorem preorderAll_cons (x : Descriptor) (xs : List Descriptor) :
    preorderAll (x :: xs) = x.preorder ++ preorderAll xs := by rw [preorderAll]

@[simp]
theorem preorderAll_append (xs ys : List Descriptor) :
    preorderAll (xs ++ ys) = preorderAll xs ++ preorderAll ys := by
  induction xs with
  | nil => simp
  | cons x xs ih => simp [ih]

theorem mem_preorderAll {y : Descriptor} {xs : List Descriptor} :
    y ∈ preorderAll xs ↔ ∃ x ∈ xs, y ∈ x.preorder := by
  induction xs with
  | nil => simp
  | cons x xs ih => simp [ih]

theorem self_mem_preorder (x : Descriptor) : x ∈ x.preorder := by
  rw [preorder_eq]
  exact List.mem_cons_self

theorem mem_preorderAll_self {x : Descriptor} {xs : List Descriptor} (hx : x ∈ xs) :
    x ∈ preorderAll xs :=
  mem_preorderAll.mpr ⟨x, hx, self_mem_preorder x⟩

theorem preorder_sublist_preorderAll {x : Descriptor} {xs : List Descriptor} (hx : x ∈ xs) :
    x.preorder.Sublist (preorderAll xs) := by
  induction xs with
  | nil => exact absurd hx List.not_mem_nil
  | cons z xs ih =>
      rw [preorderAll_cons]
      rcases List.mem_cons.mp hx with rfl | hx
      · exact List.sublist_append_left _ _
      · exact (ih hx).trans (List.sublist_append_right _ _)

/-- What stands below a descriptor of a subtree stands in the subtree. -/
theorem preorder_trans {x y z : Descriptor} (hy : y ∈ x.preorder) (hz : z ∈ y.preorder) :
    z ∈ x.preorder := by
  induction x using childInduction with
  | step x ih =>
      rw [preorder_eq] at hy ⊢
      rcases List.mem_cons.mp hy with rfl | hy
      · rwa [preorder_eq] at hz
      · obtain ⟨c, hc, hyc⟩ := mem_preorderAll.mp hy
        exact List.mem_cons_of_mem _ (mem_preorderAll.mpr ⟨c, hc, ih c hc hyc⟩)

/-- The document order of what stands below is part of the whole. -/
theorem preorder_sublist {x y : Descriptor} (hy : y ∈ x.preorder) :
    y.preorder.Sublist x.preorder := by
  induction x using childInduction with
  | step x ih =>
      rw [preorder_eq] at hy
      rcases List.mem_cons.mp hy with rfl | hy
      · exact List.Sublist.refl _
      · obtain ⟨c, hc, hyc⟩ := mem_preorderAll.mp hy
        rw [preorder_eq x]
        exact ((ih c hc hyc).trans (preorder_sublist_preorderAll hc)).cons x

theorem child_mem_preorder {y c : Descriptor} (hc : c ∈ y.children) : c ∈ y.preorder := by
  rw [preorder_eq]
  exact List.mem_cons_of_mem _ (mem_preorderAll_self hc)

theorem child_mem_preorderAll {xs : List Descriptor} {y c : Descriptor}
    (hy : y ∈ preorderAll xs) (hc : c ∈ y.children) : c ∈ preorderAll xs := by
  obtain ⟨x, hx, hyx⟩ := mem_preorderAll.mp hy
  exact mem_preorderAll.mpr ⟨x, hx, preorder_trans hyx (child_mem_preorder hc)⟩

theorem mem_idsAll {id : NodeId} {xs : List Descriptor} :
    id ∈ idsAll xs ↔ ∃ y ∈ preorderAll xs, y.id = id := by
  simp [idsAll]

theorem mem_ids {id : NodeId} {x : Descriptor} : id ∈ x.ids ↔ ∃ y ∈ x.preorder, y.id = id := by
  simp [ids]

theorem mem_idsAll_iff_exists_ids {id : NodeId} {xs : List Descriptor} :
    id ∈ idsAll xs ↔ ∃ x ∈ xs, id ∈ x.ids := by
  simp only [mem_idsAll, mem_ids, mem_preorderAll]
  constructor
  · rintro ⟨y, ⟨x, hx, hy⟩, hid⟩
    exact ⟨x, hx, y, hy, hid⟩
  · rintro ⟨x, hx, y, hy, hid⟩
    exact ⟨y, ⟨x, hx, hy⟩, hid⟩

@[simp]
theorem idsAll_nil : idsAll [] = [] := by simp [idsAll]

@[simp]
theorem idsAll_cons (x : Descriptor) (xs : List Descriptor) :
    idsAll (x :: xs) = x.ids ++ idsAll xs := by
  simp [idsAll, ids]

@[simp]
theorem idsAll_append (xs ys : List Descriptor) : idsAll (xs ++ ys) = idsAll xs ++ idsAll ys := by
  simp [idsAll]

/-- The tops of several subtrees are among their numbers, in the same order. -/
theorem map_id_sublist_idsAll (xs : List Descriptor) :
    (xs.map Descriptor.id).Sublist (idsAll xs) := by
  induction xs with
  | nil => simp
  | cons x xs ih =>
      rw [List.map_cons, idsAll_cons, ids_eq, List.cons_append]
      exact (ih.trans (List.sublist_append_right _ _)).cons_cons _

theorem nodup_ids_of_mem {y : Descriptor} {xs : List Descriptor} (hnodup : (idsAll xs).Nodup)
    (hy : y ∈ preorderAll xs) : y.ids.Nodup := by
  obtain ⟨x, hx, hyx⟩ := mem_preorderAll.mp hy
  have hsub := (preorder_sublist hyx).trans (preorder_sublist_preorderAll hx)
  exact hnodup.sublist (hsub.map Descriptor.id)

/-- Numbers differ in several subtrees if they do in each and no two have a number in common. -/
theorem nodup_idsAll {xs : List Descriptor} (htops : (xs.map Descriptor.id).Nodup)
    (heach : ∀ x ∈ xs, x.ids.Nodup)
    (happart : ∀ x ∈ xs, ∀ y ∈ xs, ∀ id, id ∈ x.ids → id ∈ y.ids → x.id = y.id) :
    (idsAll xs).Nodup := by
  induction xs with
  | nil => simp
  | cons x xs ih =>
      rw [List.map_cons, List.nodup_cons] at htops
      rw [List.forall_mem_cons] at heach
      have hrest : (idsAll xs).Nodup := ih htops.2 heach.2 fun y hy z hz =>
        happart y (List.mem_cons_of_mem x hy) z (List.mem_cons_of_mem x hz)
      rw [idsAll_cons, List.nodup_append]
      refine ⟨heach.1, hrest, ?_⟩
      rintro id hidx _ hidxs rfl
      obtain ⟨y, hy, hidy⟩ := mem_idsAll_iff_exists_ids.mp hidxs
      have htop : x.id = y.id :=
        happart x List.mem_cons_self y (List.mem_cons_of_mem x hy) id hidx hidy
      exact htops.1 (htop ▸ List.mem_map_of_mem hy)

/-- Where the numbers differ, a number belongs to one descriptor. -/
theorem eq_of_id_eq {y z : Descriptor} {xs : List Descriptor} (hnodup : (idsAll xs).Nodup)
    (hy : y ∈ preorderAll xs) (hz : z ∈ preorderAll xs) (hid : y.id = z.id) : y = z :=
  List.inj_on_of_nodup_map hnodup hy hz hid

/-! ## Rows -/

theorem rows_eq (parent : Option NodeId) (x : Descriptor) :
    x.rows parent = x.toNode parent :: rowsAll (some x.id) x.children := by
  cases x
  rw [rows]

@[simp]
theorem rowsAll_nil (parent : Option NodeId) : rowsAll parent [] = [] := by rw [rowsAll]

@[simp]
theorem rowsAll_cons (parent : Option NodeId) (x : Descriptor) (xs : List Descriptor) :
    rowsAll parent (x :: xs) = x.rows parent ++ rowsAll parent xs := by rw [rowsAll]

@[simp]
theorem rowsAll_append (parent : Option NodeId) (xs ys : List Descriptor) :
    rowsAll parent (xs ++ ys) = rowsAll parent xs ++ rowsAll parent ys := by
  induction xs with
  | nil => simp
  | cons x xs ih => simp [ih]

@[simp]
theorem toNode_id (parent : Option NodeId) (x : Descriptor) : (x.toNode parent).id = x.id := rfl

@[simp]
theorem toNode_parent (parent : Option NodeId) (x : Descriptor) :
    (x.toNode parent).parent = parent := rfl

@[simp]
theorem toNode_children (parent : Option NodeId) (x : Descriptor) :
    (x.toNode parent).children = x.children.map Descriptor.id := rfl

@[simp]
theorem toNode_kind (parent : Option NodeId) (x : Descriptor) :
    (x.toNode parent).kind = x.kind := rfl

/-- Rows carry the numbers of their descriptors, in document order. -/
theorem map_id_rows (parent : Option NodeId) (x : Descriptor) :
    (x.rows parent).map Node.id = x.ids := by
  induction x using childInduction generalizing parent with
  | step x ih =>
      rw [rows_eq, ids_eq, List.map_cons, toNode_id]
      congr 1
      -- What is left is about a list of subtrees under any parent.
      generalize some x.id = q
      generalize x.children = cs at ih
      induction cs with
      | nil => simp
      | cons c cs ihs =>
          rw [rowsAll_cons, idsAll_cons, List.map_append, ih c List.mem_cons_self,
            ihs fun y hy => ih y (List.mem_cons_of_mem c hy)]

theorem map_id_rowsAll (parent : Option NodeId) (xs : List Descriptor) :
    (rowsAll parent xs).map Node.id = idsAll xs := by
  induction xs with
  | nil => simp
  | cons x xs ih => rw [rowsAll_cons, idsAll_cons, List.map_append, map_id_rows, ih]

theorem mem_rowsAll_iff_exists {n : Node} {parent : Option NodeId} {xs : List Descriptor} :
    n ∈ rowsAll parent xs ↔ ∃ x ∈ xs, n ∈ x.rows parent := by
  induction xs with
  | nil => simp
  | cons x xs ih => simp [ih]

/-- A row is the top of the subtree under the given parent, or the child of a descriptor of the
subtree under that descriptor. -/
theorem mem_rows {n : Node} {parent : Option NodeId} {x : Descriptor} :
    n ∈ x.rows parent ↔
      n = x.toNode parent ∨ ∃ y ∈ x.preorder, ∃ z ∈ y.children, n = z.toNode (some y.id) := by
  induction x using childInduction generalizing parent with
  | step x ih =>
      rw [rows_eq, List.mem_cons, mem_rowsAll_iff_exists, preorder_eq]
      refine or_congr_right ?_
      constructor
      · rintro ⟨c, hc, hn⟩
        rcases (ih c hc).mp hn with rfl | ⟨y, hy, z, hz, rfl⟩
        · exact ⟨x, List.mem_cons_self, c, hc, rfl⟩
        · exact ⟨y, List.mem_cons_of_mem x (mem_preorderAll.mpr ⟨c, hc, hy⟩), z, hz, rfl⟩
      · rintro ⟨y, hy, z, hz, rfl⟩
        rcases List.mem_cons.mp hy with rfl | hy
        · exact ⟨z, hz, (ih z hz).mpr (Or.inl rfl)⟩
        · obtain ⟨c, hc, hyc⟩ := mem_preorderAll.mp hy
          exact ⟨c, hc, (ih c hc).mpr (Or.inr ⟨y, hyc, z, hz, rfl⟩)⟩

theorem mem_rowsAll {n : Node} {parent : Option NodeId} {xs : List Descriptor} :
    n ∈ rowsAll parent xs ↔ (∃ x ∈ xs, n = x.toNode parent) ∨
      ∃ y ∈ preorderAll xs, ∃ z ∈ y.children, n = z.toNode (some y.id) := by
  rw [mem_rowsAll_iff_exists]
  constructor
  · rintro ⟨x, hx, hn⟩
    rcases mem_rows.mp hn with rfl | ⟨y, hy, z, hz, rfl⟩
    · exact Or.inl ⟨x, hx, rfl⟩
    · exact Or.inr ⟨y, mem_preorderAll.mpr ⟨x, hx, hy⟩, z, hz, rfl⟩
  · rintro (⟨x, hx, rfl⟩ | ⟨y, hy, z, hz, rfl⟩)
    · exact ⟨x, hx, mem_rows.mpr (Or.inl rfl)⟩
    · obtain ⟨x, hx, hyx⟩ := mem_preorderAll.mp hy
      exact ⟨x, hx, mem_rows.mpr (Or.inr ⟨y, hyx, z, hz, rfl⟩)⟩

/-- A descriptor of several subtrees is the top of one of them or stands below another. -/
theorem mem_or_mem_children_of_mem_preorderAll {y : Descriptor} {xs : List Descriptor}
    (hy : y ∈ preorderAll xs) : y ∈ xs ∨ ∃ p ∈ preorderAll xs, y ∈ p.children := by
  obtain ⟨x, hx, hyx⟩ := mem_preorderAll.mp hy
  have below : y = x ∨ ∃ p ∈ x.preorder, y ∈ p.children := by
    clear hx hy
    induction x using childInduction with
    | step x ih =>
        rw [preorder_eq] at hyx ⊢
        rcases List.mem_cons.mp hyx with rfl | hyx
        · exact Or.inl rfl
        · obtain ⟨c, hc, hyc⟩ := mem_preorderAll.mp hyx
          right
          rcases ih c hc hyc with rfl | ⟨p, hp, hyp⟩
          · exact ⟨x, List.mem_cons_self, hc⟩
          · exact ⟨p, List.mem_cons_of_mem x (mem_preorderAll.mpr ⟨c, hc, hp⟩), hyp⟩
  rcases below with rfl | ⟨p, hp, hyp⟩
  · exact Or.inl hx
  · exact Or.inr ⟨p, mem_preorderAll.mpr ⟨x, hx, hp⟩, hyp⟩

/-- Every descriptor of the subtrees has a row of its own. -/
theorem exists_toNode_mem_rowsAll {y : Descriptor} {xs : List Descriptor}
    (hy : y ∈ preorderAll xs) (parent : Option NodeId) : ∃ q, y.toNode q ∈ rowsAll parent xs := by
  rcases mem_or_mem_children_of_mem_preorderAll hy with hx | ⟨p, hp, hyp⟩
  · exact ⟨parent, mem_rowsAll.mpr (Or.inl ⟨y, hx, rfl⟩)⟩
  · exact ⟨some p.id, mem_rowsAll.mpr (Or.inr ⟨p, hp, y, hyp, rfl⟩)⟩

end EditWatch.Document.Descriptor

/-! ## Lists read item by item -/

namespace EditWatch.Document

theorem mapM_map_eq_some {α β : Type} {f : β → Option α} {g : α → β} {xs : List α}
    (h : ∀ x ∈ xs, f (g x) = some x) : (xs.map g).mapM f = some xs := by
  induction xs with
  | nil => rfl
  | cons x xs ih =>
      rw [List.forall_mem_cons] at h
      simp [h.1, ih h.2]

theorem exists_of_mapM_eq_some {α β : Type} {f : β → Option α} {items : List β} {xs : List α}
    (h : items.mapM f = some xs) : ∀ x ∈ xs, ∃ i ∈ items, f i = some x := by
  induction items generalizing xs with
  | nil =>
      cases h
      exact List.forall_mem_nil _
  | cons i items ih =>
      rw [List.mapM_cons] at h
      obtain ⟨x, hx, h⟩ := Option.bind_eq_some_iff.mp h
      obtain ⟨others, hothers, h⟩ := Option.bind_eq_some_iff.mp h
      cases h
      rw [List.forall_mem_cons]
      refine ⟨⟨i, List.mem_cons_self, hx⟩, fun y hy => ?_⟩
      obtain ⟨k, hk, hfk⟩ := ih hothers y hy
      exact ⟨k, List.mem_cons_of_mem _ hk, hfk⟩

end EditWatch.Document
