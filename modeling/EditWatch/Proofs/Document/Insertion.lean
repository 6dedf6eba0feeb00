import EditWatch.Proofs.Document.Editing
import EditWatch.Proofs.Document.Verdict

/-!
# EditWatch.Proofs.Document.Insertion -- what an insertion makes of a document

A subtree is written node by node into a flat store, top first. Since all its numbers are new and
different, no write disturbs an earlier one: reading back from the top gives the descriptor that was
inserted, the document has grown by as many nodes as that has, and of the nodes before only the parent
differs, by the top behind its other children. A document can start from just those descriptors whose
numbers all differ and whose text nodes have no children, and then every node of it is attached.
-/

namespace EditWatch.Document

variable {d d' : Document} {parent : Option NodeId}

/-! ## How many nodes there are -/

@[simp]
theorem size_modify (d : Document) (id : NodeId) (f : Node → Node) :
    (d.modify id f).size = d.size := by
  rw [modify]
  split
  · rename_i n hn
    have hmem : id ∈ d.nodes := by
      rw [Std.ExtTreeMap.mem_iff_isSome_getElem?]
      exact contains_of_node? hn
    exact Std.ExtTreeMap.size_insert.trans (if_pos hmem)
  · rfl

theorem size_write_singleton {n : Node} (hfresh : ¬ d.contains n.id) :
    (d.write [n]).size = d.size + 1 := by
  have hmem : n.id ∉ d.nodes := by
    rw [Std.ExtTreeMap.mem_iff_isSome_getElem?]
    exact hfresh
  exact Std.ExtTreeMap.size_insert.trans (if_neg hmem)

/-- Every row with a new number makes one node more. -/
theorem size_write {rows : List Node} (hnodup : (rows.map Node.id).Nodup)
    (hfresh : ∀ n ∈ rows, ¬ d.contains n.id) : (d.write rows).size = d.size + rows.length := by
  induction rows generalizing d with
  | nil => rfl
  | cons n rows ih =>
      rw [List.map_cons, List.nodup_cons] at hnodup
      rw [List.forall_mem_cons] at hfresh
      -- The first row takes no number but its own.
      have hrest : ∀ m ∈ rows, ¬ (d.write [n]).contains m.id := by
        intro m hm
        have hne : m.id ≠ n.id := fun heq => hnodup.1 (heq ▸ List.mem_map_of_mem hm)
        rw [contains, node?_write_singleton, if_neg hne]
        exact hfresh.2 m hm
      rw [write_cons, ih hnodup.2 hrest, size_write_singleton hfresh.1, List.length_cons]
      omega

/-- A document grows by the nodes of the subtrees that are planted in it. -/
theorem size_plant {xs : List Descriptor} (h : d.Admits xs) :
    (d.plant parent xs).size = d.size + (Descriptor.preorderAll xs).length := by
  have hids := Descriptor.map_id_rowsAll parent xs
  have hlength : (Descriptor.rowsAll parent xs).length = (Descriptor.preorderAll xs).length := by
    have hmap := congrArg List.length hids
    simpa [Descriptor.idsAll] using hmap
  have hwrite : (d.write (Descriptor.rowsAll parent xs)).size =
      d.size + (Descriptor.preorderAll xs).length := by
    rw [size_write (hids ▸ h.nodup), hlength]
    intro n hn hold
    exact h.notMem hold (hids ▸ List.mem_map_of_mem hn)
  -- Writing the parent's list of children makes no node more.
  cases parent with
  | none => exact hwrite
  | some p => rw [plant, size_modify, hwrite]

/-! ## The nodes that were there before -/

/-- A node that was there before stays as it is, but for the parent's list of children. -/
theorem node?_plant_of_node? {xs : List Descriptor} {id : NodeId} {n : Node} (h : d.Admits xs)
    (hn : d.node? id = some n) : (d.plant parent xs).node? id = some
      (if parent = some id then { n with children := n.children ++ xs.map Descriptor.id }
        else n) := by
  rw [node?_plant_of_notMem (h.notMem (contains_of_node? hn)), hn, Option.map_some]
  split <;> rfl

/-! ## Acceptance -/

/-- Subtrees whose numbers all differ and are new, and whose text nodes have no children. -/
theorem admits_singleton_iff {x : Descriptor} : d.Admits [x] ↔ x.ids.Nodup ∧
    (∀ id ∈ x.ids, ¬ d.contains id) ∧ ∀ y ∈ x.preorder, y.kind = .text → y.children = [] := by
  have hids : Descriptor.idsAll [x] = x.ids := by simp
  have hpreorder : Descriptor.preorderAll [x] = x.preorder := by simp
  have hleaf : ∀ y : Descriptor, y.isTextWithChildren = false ↔
      (y.kind = .text → y.children = []) := by
    intro y
    rw [← Bool.not_eq_true, isTextWithChildren_iff, not_and, not_not]
  constructor
  · rintro ⟨hnodup, hfresh, hleaves⟩
    rw [hids] at hnodup hfresh
    rw [hpreorder] at hleaves
    exact ⟨hnodup, fun id hid => by simp [hfresh id hid], fun y hy => (hleaf y).mp (hleaves y hy)⟩
  · rintro ⟨hnodup, hfresh, hleaves⟩
    refine ⟨hids ▸ hnodup, ?_, ?_⟩
    · rw [hids]
      exact fun id hid => Bool.not_eq_true _ ▸ hfresh id hid
    · rw [hpreorder]
      exact fun y hy => (hleaf y).mpr (hleaves y hy)

theorem exists_insert_eq_ok_iff {x : Descriptor} :
    (∃ top d', d.insert parent x = (.ok top, d')) ↔
      (∀ p, parent = some p → ∃ n, d.node? p = some n ∧ n.kind = .element) ∧ x.ids.Nodup ∧
        (∀ id ∈ x.ids, ¬ d.contains id) ∧
        ∀ y ∈ x.preorder, y.kind = .text → y.children = [] := by
  have hkind : ∀ n : Node, (n.isText → [x] = []) ↔ n.kind = .element := by
    intro n
    cases hn : n.kind <;> simp [Node.isText, hn]
  simp only [insert_eq_ok_iff, exists_and_left, exists_eq, and_true, plantFault_eq_none_iff, hkind,
    admits_singleton_iff]

/-- A document can start from a subtree exactly if the empty document takes it. -/
theorem exists_ofRoot_eq_ok_iff {x : Descriptor} : (∃ d, ofRoot x = .ok d) ↔
    x.ids.Nodup ∧ ∀ y ∈ x.preorder, y.kind = .text → y.children = [] := by
  simp only [ofRoot_eq_ok_iff, exists_and_left, exists_eq, and_true, admits_singleton_iff]
  simp [contains]

/-! ## Main result -/

/-- For every document that comes about and every descriptor: if the descriptor is inserted, the answer
is the number of its top, reading back from there gives it again, the document has grown by its nodes,
and all earlier nodes are as they were, but that the parent, if there is one, lists the top behind its
other children; if it is refused the document is what it was. It is inserted exactly if the parent, if
there is one, is an element, its numbers are new and all differ, and none of its text nodes has
children. A document starts from exactly the descriptors that meet the last two conditions, and all
nodes of it are attached. -/
theorem insert_reads_back (h : Reachable d) (parent : Option NodeId) (x : Descriptor) :
    (∀ top d', d.insert parent x = (.ok top, d') → top = x.id ∧
      d'.subtree? top = some x ∧ d'.size = d.size + x.preorder.length ∧ d'.root = d.root ∧
      ∀ id n, d.node? id = some n → d'.node? id = some
        (if parent = some id then { n with children := n.children ++ [top] } else n)) ∧
    (∀ f d', d.insert parent x = (.error f, d') → d' = d) ∧
    ((∃ top d', d.insert parent x = (.ok top, d')) ↔
      (∀ p, parent = some p → ∃ n, d.node? p = some n ∧ n.kind = .element) ∧ x.ids.Nodup ∧
        (∀ id ∈ x.ids, ¬ d.contains id) ∧
        ∀ y ∈ x.preorder, y.kind = .text → y.children = []) ∧
    ((∃ d₀, ofRoot x = .ok d₀) ↔
      x.ids.Nodup ∧ ∀ y ∈ x.preorder, y.kind = .text → y.children = []) ∧
    (∀ d₀, ofRoot x = .ok d₀ → d₀.tree? = some x ∧ ∀ id, d₀.contains id → d₀.isAttached id) := by
  refine ⟨?_, ?_, exists_insert_eq_ok_iff, exists_ofRoot_eq_ok_iff, ?_⟩
  · intro top d' hd'
    obtain ⟨hfault, rfl, rfl⟩ := insert_eq_ok_iff.mp hd'
    have hadm : d.Admits [x] := (plantFault_eq_none_iff.mp hfault).2
    have hwf : (d.plant parent [x]).WellFormed := h.wellFormed.plant hfault
    have hshows : (d.plant parent [x]).Shows x := shows_plant hfault List.mem_cons_self
    have hsize : (d.plant parent [x]).size = d.size + (Descriptor.preorderAll [x]).length :=
      size_plant hadm
    refine ⟨rfl, hshows.subtree?_eq hwf, by simpa using hsize, root_plant _ _ _, ?_⟩
    intro id n hn
    exact node?_plant_of_node? hadm hn
  · exact fun f d' => eq_of_insert_eq_error
  · intro d₀ hd₀
    have hholds := Holds.ofRoot hd₀
    refine ⟨hholds.tree?_eq, fun id hid => ?_⟩
    rw [hholds.attached_iff]
    exact (hholds.contains_iff id).mp hid

/-- Letters in bold type with a line break behind them. -/
def boldLine : Descriptor :=
  ⟨10, .element, some "b", some (.tokens "kix-word"), ∅, none,
    [⟨11, .text, none, none, ∅, some "te", []⟩, ⟨12, .element, some "br", none, ∅, none, []⟩]⟩

/-- The subtree is added to a word that was taken out and has children already. -/
theorem insert_reads_back_replaced :
    Reachable replaced ∧ ∃ d', replaced.insert (some 2) boldLine = (.ok 10, d') ∧
      d'.subtree? 10 = some boldLine ∧ d'.size = replaced.size + 3 ∧
      (d'.node? 2).map Node.children = some [3, 5, 10] ∧ d'.node? 4 = replaced.node? 4 := by
  obtain ⟨d', hd'⟩ : ∃ d', replaced.insert (some 2) boldLine = (.ok 10, d') :=
    ⟨_, Prod.ext (by rfl) rfl⟩
  obtain ⟨-, hreads, hsize, -, hnodes⟩ := (insert_reads_back reachable_replaced _ _).1 10 d' hd'
  obtain ⟨n, hn⟩ : ∃ n, replaced.node? 2 = some n ∧ n.children = [3, 5] := ⟨_, by rfl, by rfl⟩
  obtain ⟨m, hm⟩ : ∃ m, replaced.node? 4 = some m := ⟨_, by rfl⟩
  refine ⟨reachable_replaced, d', hd', hreads, hsize, ?_, ?_⟩
  · rw [hnodes 2 n hn.1, if_pos rfl, Option.map_some, hn.2]
    rfl
  · rw [hnodes 4 m hm, if_neg (by decide), hm]

end EditWatch.Document
