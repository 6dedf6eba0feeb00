import EditWatch.Document.Edit
import EditWatch.Proofs.Document.Descriptor
import Mathlib.Data.List.Nodup

/-!
# EditWatch.Proofs.Document.Lookup -- what each change does, seen through the nodes

Two documents with the same root and the same node under every number are equal, so a change is
described by what it makes of each number. `plant` adds subtrees under one parent and `uproot`
takes children out of one parent, each in a single step; inserting and taking out, one after the
other as an edit does it, come to these two.
-/

namespace EditWatch.Document

variable {d d' : Document}

/-! ## Nodes by number -/

@[ext]
theorem ext_node? (hroot : d.root = d'.root) (hnode : ∀ id, d.node? id = d'.node? id) :
    d = d' := by
  obtain ⟨nodes, root⟩ := d
  obtain ⟨nodes', root'⟩ := d'
  obtain rfl : nodes = nodes' := Std.ExtTreeMap.ext_getElem? hnode
  obtain rfl : root = root' := hroot
  rfl

@[simp]
theorem node?_empty (id : NodeId) : empty.node? id = none := Std.ExtTreeMap.getElem?_empty

@[simp]
theorem root_empty : empty.root = none := rfl

theorem contains_iff {id : NodeId} : d.contains id ↔ ∃ n, d.node? id = some n := by
  rw [contains, Option.isSome_iff_exists]

theorem contains_of_node? {id : NodeId} {n : Node} (h : d.node? id = some n) :
    d.contains id := contains_iff.mpr ⟨n, h⟩

theorem parent?_eq_some_iff {c p : NodeId} :
    d.parent? c = some p ↔ ∃ n, d.node? c = some n ∧ n.parent = some p := by
  rw [parent?, Option.bind_eq_some_iff]

theorem contains_of_parent? {c p : NodeId} (h : d.parent? c = some p) : d.contains c := by
  obtain ⟨n, hn, -⟩ := parent?_eq_some_iff.mp h
  exact contains_of_node? hn

/-! ## Writing and modifying -/

@[simp]
theorem root_modify (d : Document) (id : NodeId) (f : Node → Node) :
    (d.modify id f).root = d.root := by
  rw [modify]
  split <;> rfl

/-- Looking up behind the insertion of one entry. -/
theorem getElem?_insert_node (nodes : Std.ExtTreeMap NodeId Node) (id j : NodeId) (n : Node) :
    (nodes.insert id n)[j]? = if j = id then some n else nodes[j]? := by
  rw [Std.ExtTreeMap.getElem?_insert]
  simp only [Std.LawfulEqCmp.compare_eq_iff_eq]
  simp only [eq_comm]

@[simp]
theorem node?_modify (d : Document) (id : NodeId) (f : Node → Node) (j : NodeId) :
    (d.modify id f).node? j = if j = id then (d.node? j).map f else d.node? j := by
  rw [modify]
  split
  · rename_i n hn
    refine (getElem?_insert_node d.nodes id j (f n)).trans ?_
    by_cases hj : j = id
    · rw [if_pos hj, if_pos hj, hj, hn, Option.map_some]
    · rw [if_neg hj, if_neg hj, node?]
  · rename_i hn
    by_cases hj : j = id
    · rw [if_pos hj, hj, hn, Option.map_none]
    · rw [if_neg hj]

@[simp]
theorem root_write (d : Document) (rows : List Node) : (d.write rows).root = d.root := rfl

theorem write_cons (d : Document) (n : Node) (rows : List Node) :
    d.write (n :: rows) = (d.write [n]).write rows := rfl

theorem node?_write_singleton (d : Document) (n : Node) (j : NodeId) :
    (d.write [n]).node? j = if j = n.id then some n else d.node? j :=
  getElem?_insert_node d.nodes n.id j n

theorem node?_write_of_notMem {j : NodeId} {rows : List Node} (hj : j ∉ rows.map Node.id) :
    (d.write rows).node? j = d.node? j := by
  induction rows generalizing d with
  | nil => rfl
  | cons n rows ih =>
      rw [List.map_cons, List.mem_cons, not_or] at hj
      rw [write_cons, ih hj.2, node?_write_singleton, if_neg hj.1]

theorem node?_write_of_mem {n : Node} {rows : List Node} (hnodup : (rows.map Node.id).Nodup)
    (hn : n ∈ rows) : (d.write rows).node? n.id = some n := by
  induction rows generalizing d with
  | nil => exact absurd hn List.not_mem_nil
  | cons m rows ih =>
      rw [List.map_cons, List.nodup_cons] at hnodup
      rw [write_cons]
      rcases List.mem_cons.mp hn with rfl | hn
      · rw [node?_write_of_notMem hnodup.1, node?_write_singleton, if_pos rfl]
      · exact ih hnodup.2 hn

/-! ## Planting subtrees -/

/-- Several subtrees added behind the other children of one parent, or standing on their own. -/
def plant (d : Document) (parent : Option NodeId) (xs : List Descriptor) : Document :=
  let d := d.write (Descriptor.rowsAll parent xs)
  match parent with
  | some p => d.modify p fun n => { n with children := n.children ++ xs.map Descriptor.id }
  | none => d

@[simp]
theorem root_plant (d : Document) (parent : Option NodeId) (xs : List Descriptor) :
    (d.plant parent xs).root = d.root := by
  cases parent with
  | none => rfl
  | some p => exact root_modify _ _ _

theorem node?_plant_of_notMem {parent : Option NodeId} {xs : List Descriptor} {j : NodeId}
    (hj : j ∉ Descriptor.idsAll xs) :
    (d.plant parent xs).node? j = if parent = some j then
      (d.node? j).map fun n => { n with children := n.children ++ xs.map Descriptor.id }
    else d.node? j := by
  rw [← Descriptor.map_id_rowsAll parent] at hj
  cases parent with
  | none => exact node?_write_of_notMem hj
  | some p =>
      rw [plant, node?_modify, node?_write_of_notMem hj]
      simp only [Option.some.injEq, eq_comm]

/-- The descriptor's row is what the document holds under its number. -/
theorem node?_plant_of_mem {parent : Option NodeId} {xs : List Descriptor} {n : Node}
    (hnodup : (Descriptor.idsAll xs).Nodup)
    (hparent : ∀ p, parent = some p → p ∉ Descriptor.idsAll xs)
    (hn : n ∈ Descriptor.rowsAll parent xs) : (d.plant parent xs).node? n.id = some n := by
  have hwrite : (d.write (Descriptor.rowsAll parent xs)).node? n.id = some n :=
    node?_write_of_mem (by rwa [Descriptor.map_id_rowsAll]) hn
  cases parent with
  | none => exact hwrite
  | some p =>
      -- The row stays as it was written: the parent that is modified afterwards is another node.
      have hid : n.id ∈ Descriptor.idsAll xs := by
        rw [← Descriptor.map_id_rowsAll (some p)]
        exact List.mem_map_of_mem hn
      have hne : n.id ≠ p := fun h => hparent p rfl (h ▸ hid)
      rw [plant, node?_modify, if_neg hne, hwrite]

/-- Every descriptor that was planted is what the document holds under its number. -/
theorem exists_node?_plant {parent : Option NodeId} {xs : List Descriptor} {y : Descriptor}
    (hnodup : (Descriptor.idsAll xs).Nodup)
    (hparent : ∀ p, parent = some p → p ∉ Descriptor.idsAll xs)
    (hy : y ∈ Descriptor.preorderAll xs) :
    ∃ q, (d.plant parent xs).node? y.id = some (y.toNode q) := by
  obtain ⟨q, hq⟩ := Descriptor.exists_toNode_mem_rowsAll hy parent
  exact ⟨q, node?_plant_of_mem hnodup hparent hq⟩

theorem contains_plant_iff {parent : Option NodeId} {xs : List Descriptor} {j : NodeId}
    (hnodup : (Descriptor.idsAll xs).Nodup)
    (hparent : ∀ p, parent = some p → p ∉ Descriptor.idsAll xs) :
    (d.plant parent xs).contains j ↔ d.contains j ∨ j ∈ Descriptor.idsAll xs := by
  by_cases hj : j ∈ Descriptor.idsAll xs
  · obtain ⟨y, hy, rfl⟩ := Descriptor.mem_idsAll.mp hj
    obtain ⟨q, hq⟩ := exists_node?_plant (d := d) hnodup hparent hy
    exact iff_of_true (contains_of_node? hq) (Or.inr hj)
  · rw [contains, contains, node?_plant_of_notMem hj]
    split <;> simp [hj]

/-- Every number that was planted has a row. -/
theorem exists_row_of_mem_idsAll {j : NodeId} {xs : List Descriptor} (parent : Option NodeId)
    (hj : j ∈ Descriptor.idsAll xs) : ∃ n ∈ Descriptor.rowsAll parent xs, n.id = j := by
  rwa [← Descriptor.map_id_rowsAll parent, List.mem_map] at hj

@[simp]
theorem plant_nil (d : Document) (parent : Option NodeId) : d.plant parent [] = d := by
  refine ext_node? (by simp) fun j => ?_
  rw [node?_plant_of_notMem (by simp)]
  split <;> simp

/-- Planting some subtrees and then others comes to planting all of them. -/
theorem plant_plant {p : NodeId} {xs ys : List Descriptor}
    (hnodup : (Descriptor.idsAll (xs ++ ys)).Nodup) (hp : p ∉ Descriptor.idsAll (xs ++ ys)) :
    (d.plant (some p) xs).plant (some p) ys = d.plant (some p) (xs ++ ys) := by
  have hall : ∀ n ∈ Descriptor.rowsAll (some p) (xs ++ ys),
      (d.plant (some p) (xs ++ ys)).node? n.id = some n := fun n hn =>
    node?_plant_of_mem hnodup (fun q hq => Option.some.inj hq ▸ hp) hn
  rw [Descriptor.idsAll_append] at hnodup hp
  rw [Descriptor.rowsAll_append] at hall
  obtain ⟨hnodupx, hnodupy, -⟩ := List.nodup_append.mp hnodup
  obtain ⟨hpx, hpy⟩ := not_or.mp (List.mem_append.not.mp hp)
  -- A number is one of the later subtrees, of the first ones, or none of the new numbers.
  refine ext_node? (by simp) fun j => ?_
  by_cases hy : j ∈ Descriptor.idsAll ys
  · obtain ⟨n, hn, rfl⟩ := exists_row_of_mem_idsAll (some p) hy
    rw [hall n (List.mem_append_right _ hn),
      node?_plant_of_mem hnodupy (fun q hq => Option.some.inj hq ▸ hpy) hn]
  · rw [node?_plant_of_notMem hy]
    by_cases hx : j ∈ Descriptor.idsAll xs
    · obtain ⟨n, hn, rfl⟩ := exists_row_of_mem_idsAll (some p) hx
      have hne : some p ≠ some n.id := fun h => hpx (Option.some.inj h ▸ hx)
      rw [if_neg hne, hall n (List.mem_append_left _ hn),
        node?_plant_of_mem hnodupx (fun q hq => Option.some.inj hq ▸ hpx) hn]
    · have hj : j ∉ Descriptor.idsAll (xs ++ ys) := by simp [hx, hy]
      rw [node?_plant_of_notMem hx, node?_plant_of_notMem hj]
      split
      · rw [Option.map_map]
        congr 1
        funext n
        simp
      · rfl

/-! ## Taking out children -/

/-- Children taken out of one parent, all in one step. -/
def uproot (d : Document) (p : NodeId) (cs : List NodeId) : Document :=
  { d with
    nodes := d.nodes.map fun id n =>
      { n with
        children := if id = p then n.children.diff cs else n.children
        parent := if id ∈ cs then none else n.parent } }

@[simp]
theorem root_uproot (d : Document) (p : NodeId) (cs : List NodeId) :
    (d.uproot p cs).root = d.root := rfl

theorem node?_uproot (d : Document) (p : NodeId) (cs : List NodeId) (j : NodeId) :
    (d.uproot p cs).node? j = (d.node? j).map fun n =>
      { n with
        children := if j = p then n.children.diff cs else n.children
        parent := if j ∈ cs then none else n.parent } :=
  Std.ExtTreeMap.getElem?_map

end EditWatch.Document
