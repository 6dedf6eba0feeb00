import EditWatch.Proofs.Document.Lookup

/-!
# EditWatch.Proofs.Document.Acceptance -- which changes a document accepts

For each check of a document the condition under which it finds no fault, and for each change that
passed its checks the document it leads to. Here the writes of an edit, which run one by one
against a document that earlier writes changed already, are brought together with the checks, which
ran before the first of them.
-/

namespace EditWatch.Document

variable {d d' : Document}

/-! ## Numbers that were not seen -/

theorem mem_insert_node {seen : Std.ExtTreeSet NodeId} {s id : NodeId} :
    id ∈ seen.insert s ↔ id = s ∨ id ∈ seen := by
  rw [Std.ExtTreeSet.mem_insert, Std.LawfulEqCmp.compare_eq_iff_eq, eq_comm]

/-- The numbers differ from each other and from those that were seen. -/
def Unseen (seen : Std.ExtTreeSet NodeId) (ids : List NodeId) : Prop :=
  ids.Nodup ∧ ∀ id ∈ ids, id ∉ seen

theorem unseen_nil (seen : Std.ExtTreeSet NodeId) : Unseen seen [] :=
  ⟨List.nodup_nil, fun _ hid => absurd hid List.not_mem_nil⟩

theorem unseen_empty_iff {ids : List NodeId} : Unseen ∅ ids ↔ ids.Nodup :=
  ⟨fun h => h.1, fun h => ⟨h, fun _ _ => Std.ExtTreeSet.not_mem_empty⟩⟩

/-- A check that goes through numbers one by one sees each before it goes on. -/
theorem unseen_cons_iff {seen : Std.ExtTreeSet NodeId} {s : NodeId} {ids : List NodeId} :
    Unseen seen (s :: ids) ↔ s ∉ seen ∧ Unseen (seen.insert s) ids := by
  rw [Unseen, Unseen, List.nodup_cons, List.forall_mem_cons]
  constructor
  · rintro ⟨⟨hs, hnodup⟩, hseen, hids⟩
    refine ⟨hseen, hnodup, fun id hid hmem => ?_⟩
    rcases mem_insert_node.mp hmem with rfl | hmem
    · exact hs hid
    · exact hids id hid hmem
  · rintro ⟨hseen, hnodup, hids⟩
    refine ⟨⟨fun hs => hids s hs (mem_insert_node.mpr (Or.inl rfl)), hnodup⟩, hseen, ?_⟩
    exact fun id hid hmem => hids id hid (mem_insert_node.mpr (Or.inr hmem))

/-! ## Descriptors that can be added -/

/-- The subtrees can be added to the document: all their numbers are new and different from each
other, and no text node has children. -/
structure Admits (d : Document) (xs : List Descriptor) : Prop where
  nodup : (Descriptor.idsAll xs).Nodup
  fresh : ∀ id ∈ Descriptor.idsAll xs, d.contains id = false
  leaf : ∀ y ∈ Descriptor.preorderAll xs, y.isTextWithChildren = false

theorem firstFault_eq_none_iff {seen : Std.ExtTreeSet NodeId} {ys : List Descriptor} :
    d.firstFault seen ys = none ↔ Unseen seen (ys.map Descriptor.id) ∧
      ∀ y ∈ ys, d.contains y.id = false ∧ y.isTextWithChildren = false := by
  induction ys generalizing seen with
  | nil => simp [firstFault, unseen_nil]
  | cons y ys ih =>
      rw [firstFault, List.map_cons, unseen_cons_iff, List.forall_mem_cons]
      split
      · rename_i htaken
        rw [Bool.or_eq_true, Std.ExtTreeSet.contains_iff_mem] at htaken
        simp only [reduceCtorEq, false_iff]
        rintro ⟨⟨hseen, -⟩, ⟨hfresh, -⟩, -⟩
        rcases htaken with hcontains | hmem
        · exact Bool.false_ne_true (hfresh.symm.trans hcontains)
        · exact hseen hmem
      · rename_i hnew
        rw [Bool.or_eq_true, Std.ExtTreeSet.contains_iff_mem, not_or, Bool.not_eq_true] at hnew
        split
        · rename_i hleaf
          simp [hleaf]
        · rename_i hleaf
          rw [ih]
          simp [hnew, hleaf]

theorem descriptorFault_eq_none_iff {xs : List Descriptor} :
    d.descriptorFault xs = none ↔ d.Admits xs := by
  rw [descriptorFault, firstFault_eq_none_iff, unseen_empty_iff]
  constructor
  · rintro ⟨hnodup, h⟩
    refine ⟨hnodup, fun id hid => ?_, fun y hy => (h y hy).2⟩
    obtain ⟨y, hy, rfl⟩ := Descriptor.mem_idsAll.mp hid
    exact (h y hy).1
  · rintro ⟨hnodup, hfresh, hleaf⟩
    refine ⟨hnodup, fun y hy => ⟨?_, hleaf y hy⟩⟩
    exact hfresh y.id (Descriptor.mem_idsAll.mpr ⟨y, hy, rfl⟩)

/-- Subtrees can be added under a parent that exists and is no text node. -/
theorem insertFault_eq_none_iff {p : NodeId} {xs : List Descriptor} :
    d.insertFault p xs = none ↔
      (∃ n, d.node? p = some n ∧ (n.isText → xs = [])) ∧ d.Admits xs := by
  rw [insertFault]
  cases hp : d.node? p with
  | none => simp
  | some n =>
      by_cases htext : n.isText && !xs.isEmpty
      · simp only [if_pos htext, reduceCtorEq, false_iff]
        rintro ⟨⟨m, hm, hxs⟩, -⟩
        obtain rfl := Option.some.inj hm
        simp only [Bool.and_eq_true, Bool.not_eq_true', List.isEmpty_eq_false_iff] at htext
        exact htext.2 (hxs htext.1)
      · simp only [if_neg htext, descriptorFault_eq_none_iff]
        simp only [Bool.and_eq_true, Bool.not_eq_true', List.isEmpty_eq_false_iff, not_and,
          not_not] at htext
        exact ⟨fun h => ⟨⟨n, rfl, htext⟩, h⟩, fun h => h.2⟩

namespace Admits

variable {xs : List Descriptor}

/-- A number of the document is none of the new numbers. -/
theorem notMem (h : d.Admits xs) {id : NodeId} (hid : d.contains id) :
    id ∉ Descriptor.idsAll xs := by
  intro hmem
  rw [h.fresh id hmem] at hid
  exact Bool.false_ne_true hid

end Admits

/-- Some subtrees and others can be added together if the first can be, and the others once those
are planted. -/
theorem admits_append_iff {p : NodeId} {xs ys : List Descriptor} (hp : d.contains p) :
    d.Admits (xs ++ ys) ↔ d.Admits xs ∧ (d.plant (some p) xs).Admits ys := by
  constructor
  · intro h
    obtain ⟨hnodup, hfresh, hleaf⟩ := h
    rw [Descriptor.idsAll_append] at hnodup hfresh
    rw [Descriptor.preorderAll_append] at hleaf
    obtain ⟨hnodupx, hnodupy, hapart⟩ := List.nodup_append.mp hnodup
    obtain ⟨hfreshx, hfreshy⟩ := List.forall_mem_append.mp hfresh
    obtain ⟨hleafx, hleafy⟩ := List.forall_mem_append.mp hleaf
    have hx : d.Admits xs := ⟨hnodupx, hfreshx, hleafx⟩
    refine ⟨hx, hnodupy, fun id hid => ?_, hleafy⟩
    rw [← Bool.not_eq_true, contains_plant_iff hnodupx fun q hq => Option.some.inj hq ▸ hx.notMem hp]
    rintro (hold | hnew)
    · exact Bool.false_ne_true ((hfreshy id hid).symm.trans hold)
    · exact hapart id hnew id hid rfl
  · rintro ⟨hx, hy⟩
    have hafter : ∀ id, (d.plant (some p) xs).contains id ↔
        d.contains id ∨ id ∈ Descriptor.idsAll xs := fun id =>
      contains_plant_iff hx.nodup fun q hq => Option.some.inj hq ▸ hx.notMem hp
    have hfreshy : ∀ id ∈ Descriptor.idsAll ys, ¬ d.contains id ∧ id ∉ Descriptor.idsAll xs := by
      intro id hid
      rw [← not_or, ← hafter, hy.fresh id hid]
      exact Bool.false_ne_true
    refine ⟨?_, fun id hid => ?_, ?_⟩
    · rw [Descriptor.idsAll_append, List.nodup_append]
      refine ⟨hx.nodup, hy.nodup, ?_⟩
      rintro id hidx _ hidy rfl
      exact (hfreshy id hidy).2 hidx
    · rw [Descriptor.idsAll_append, List.mem_append] at hid
      rcases hid with hid | hid
      · exact hx.fresh id hid
      · exact Bool.not_eq_true _ ▸ (hfreshy id hid).1
    · rw [Descriptor.preorderAll_append, List.forall_mem_append]
      exact ⟨hx.leaf, hy.leaf⟩

/-! ## Single changes -/

/-- The fault of an insertion, with or without a parent. -/
def plantFault (d : Document) (parent : Option NodeId) (xs : List Descriptor) : Option Fault :=
  match parent with
  | some p => d.insertFault p xs
  | none => d.descriptorFault xs

theorem insert_eq (d : Document) (parent : Option NodeId) (x : Descriptor) :
    d.insert parent x = match d.plantFault parent [x] with
      | some f => (.error f, d)
      | none => (.ok x.id, d.plant parent [x]) := by
  have hrows : Descriptor.rowsAll parent [x] = x.rows parent := by simp
  cases parent with
  | none =>
      cases hfault : d.descriptorFault [x] with
      | none => simp [Document.insert, plantFault, plant, hrows, hfault]
      | some f => simp [Document.insert, plantFault, hfault]
  | some p =>
      cases hfault : d.insertFault p [x] with
      | none => simp [Document.insert, plantFault, plant, hrows, hfault]
      | some f => simp [Document.insert, plantFault, hfault]

theorem insert_eq_ok_iff {parent : Option NodeId} {x : Descriptor} {id : NodeId} :
    d.insert parent x = (.ok id, d') ↔
      d.plantFault parent [x] = none ∧ id = x.id ∧ d' = d.plant parent [x] := by
  rw [insert_eq]
  cases d.plantFault parent [x] with
  | none => simp [eq_comm]
  | some f => simp

/-- A subtree that is refused leaves none of its nodes behind. -/
theorem eq_of_insert_eq_error {parent : Option NodeId} {x : Descriptor} {f : Fault}
    (h : d.insert parent x = (.error f, d')) : d' = d := by
  rw [insert_eq] at h
  split at h
  · exact (Prod.mk.inj h).2.symm
  · cases h

theorem modify_modify_eq_uproot (d : Document) (p c : NodeId) :
    (d.modify p fun n => { n with children := n.children.erase c }).modify c
      (fun n => { n with parent := none }) = d.uproot p [c] := by
  refine ext_node? (by simp) fun j => ?_
  rw [node?_modify, node?_modify, node?_uproot]
  cases d.node? j with
  | none => simp
  | some n =>
      simp only [List.diff_cons, List.diff_nil, List.mem_singleton]
      split <;> split <;> simp

/-- Taking out one child succeeds where there is one. -/
theorem detach_eq_ok_iff {p c : NodeId} :
    d.detach p c = (.ok (), d') ↔
      d.contains c ∧ (∃ n, d.node? p = some n ∧ c ∈ n.children) ∧ d' = d.uproot p [c] := by
  rw [detach, contains]
  cases d.node? c with
  | none => simp
  | some m =>
      cases hp : d.node? p with
      | none => simp
      | some n =>
          simp only [modify_modify_eq_uproot, List.contains_iff_mem]
          by_cases hc : c ∈ n.children
          · simp [hc, eq_comm]
          · simp [hc]

/-- Where there is none the parent keeps its children. -/
theorem eq_of_detach_eq_error {p c : NodeId} {f : Fault}
    (h : d.detach p c = (.error f, d')) : d' = d := by
  rw [detach] at h
  split at h
  · exact (Prod.mk.inj h).2.symm
  · exact (Prod.mk.inj h).2.symm
  · split at h
    · cases h
    · exact (Prod.mk.inj h).2.symm

/-- Whether a node that exists gets new character data depends on its kind alone. -/
theorem setText_eq {id : NodeId} (data : String) (h : d.contains id) :
    d.setText id data = if d.isText id then
      (.ok (), d.modify id fun n => { n with data := some data })
    else (.error (.notText id), d) := by
  obtain ⟨n, hn⟩ := contains_iff.mp h
  simp only [setText, isText, hn]

theorem setText_eq_ok_iff {id : NodeId} {data : String} :
    d.setText id data = (.ok (), d') ↔ d.isText id ∧
      d' = d.modify id fun n => { n with data := some data } := by
  rw [setText, isText]
  cases d.node? id with
  | none => simp
  | some n =>
      by_cases ht : n.isText
      · simp [ht, eq_comm]
      · simp [ht]

theorem eq_of_setText_eq_error {id : NodeId} {data : String} {f : Fault}
    (h : d.setText id data = (.error f, d')) : d' = d := by
  rw [setText] at h
  split at h
  · exact (Prod.mk.inj h).2.symm
  · split at h
    · cases h
    · exact (Prod.mk.inj h).2.symm

/-! ## The writes of an edit -/

theorem firstStranger_eq_none_iff {p : NodeId} {seen : Std.ExtTreeSet NodeId} {cs : List NodeId} :
    d.firstStranger p seen cs = none ↔ Unseen seen cs ∧ ∀ c ∈ cs, d.parent? c = some p := by
  induction cs generalizing seen with
  | nil => simp [firstStranger, unseen_nil]
  | cons c cs ih =>
      rw [firstStranger, unseen_cons_iff, List.forall_mem_cons]
      simp only [Std.ExtTreeSet.contains_iff_mem]
      split
      · rename_i hc
        rw [ih]
        simp [hc]
      · rename_i hc
        simp only [reduceCtorEq, false_iff]
        rintro ⟨⟨hseen, -⟩, hparent, -⟩
        exact hc ⟨hparent, hseen⟩

/-- Taking out some children and then others comes to taking out all of them. -/
theorem uproot_uproot (d : Document) (p : NodeId) (cs cs' : List NodeId) :
    (d.uproot p cs).uproot p cs' = d.uproot p (cs ++ cs') := by
  refine ext_node? rfl fun j => ?_
  rw [node?_uproot, node?_uproot, node?_uproot, Option.map_map]
  congr 1
  funext n
  simp only [Function.comp_apply, List.diff_append, List.mem_append]
  split <;> split <;> simp_all

theorem uproot_nil (d : Document) (p : NodeId) : d.uproot p [] = d := by
  refine ext_node? rfl fun j => ?_
  simp [node?_uproot]

/-- Different children of one parent are taken out without a fault. -/
theorem detachAll_eq_ok {p : NodeId} {n : Node} {cs : List NodeId} (hp : d.node? p = some n)
    (hnodup : cs.Nodup) (hcs : ∀ c ∈ cs, d.contains c ∧ c ∈ n.children) :
    d.detachAll p cs = (.ok (), d.uproot p cs) := by
  induction cs generalizing d n with
  | nil => rw [detachAll, uproot_nil]
  | cons c cs ih =>
      rw [List.nodup_cons] at hnodup
      obtain ⟨hc, hmem⟩ := hcs c List.mem_cons_self
      have hok : d.detach p c = (.ok (), d.uproot p [c]) :=
        detach_eq_ok_iff.mpr ⟨hc, ⟨n, hp, hmem⟩, rfl⟩
      have hp' := node?_uproot d p [c] p
      rw [hp, Option.map_some] at hp'
      simp only [detachAll, hok]
      -- The parent still lists the other children, since none of them is `c`.
      rw [ih hp' hnodup.2, uproot_uproot, List.singleton_append]
      intro b hb
      obtain ⟨hbd, hbn⟩ := hcs b (List.mem_cons_of_mem c hb)
      refine ⟨?_, ?_⟩
      · obtain ⟨m, hm⟩ := contains_iff.mp hbd
        rw [contains, node?_uproot, hm]
        rfl
      · have hne : b ≠ c := fun h => hnodup.1 (h ▸ hb)
        simpa [List.mem_erase_of_ne hne] using hbn

/-- Subtrees that can be added together are added one by one without a fault. -/
theorem insertAll_eq_ok {p : NodeId} {xs : List Descriptor} (h : d.insertFault p xs = none) :
    d.insertAll p xs = (.ok (xs.map Descriptor.id), d.plant (some p) xs) := by
  induction xs generalizing d with
  | nil =>
      rw [insertAll, plant_nil, List.map_nil]
  | cons x xs ih =>
      obtain ⟨⟨n, hn, htext⟩, hadm⟩ := insertFault_eq_none_iff.mp h
      have hp : d.contains p := contains_of_node? hn
      obtain ⟨hhead, htail⟩ := (admits_append_iff hp).mp (List.singleton_append ▸ hadm)
      have hok : d.insert (some p) x = (.ok x.id, d.plant (some p) [x]) := by
        refine insert_eq_ok_iff.mpr ⟨insertFault_eq_none_iff.mpr ⟨⟨n, hn, ?_⟩, hhead⟩, rfl, rfl⟩
        exact fun ht => absurd (htext ht) (List.cons_ne_nil x xs)
      -- The parent is no text node, and the numbers that `x` took are not among the others.
      have hrest : (d.plant (some p) [x]).insertFault p xs = none := by
        refine insertFault_eq_none_iff.mpr
          ⟨⟨{ n with children := n.children ++ [x].map Descriptor.id }, ?_, ?_⟩, htail⟩
        · rw [node?_plant_of_notMem (hhead.notMem hp), if_pos rfl, hn, Option.map_some]
        · exact fun ht => absurd (htext ht) (List.cons_ne_nil x xs)
      simp only [insertAll, hok, ih hrest]
      rw [plant_plant hadm.nodup (hadm.notMem hp), List.singleton_append, List.map_cons]

end EditWatch.Document
