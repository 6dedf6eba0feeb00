import EditWatch.Proofs.Document.Reach

/-!
# EditWatch.Proofs.Document.Edits -- what an edit does to a well-formed document

On a well-formed document an edit has three outcomes: it is refused and nothing changes, it puts
new character data into a text node, or it takes children out and plants subtrees, each in one
step. No edit makes a node disappear or changes what a node is besides its data and its links.
-/

namespace EditWatch.Document

open Relation

variable {d d' : Document}

/-! ## Outcomes -/

@[simp]
theorem contains_uproot (d : Document) (p : NodeId) (cs : List NodeId) (id : NodeId) :
    (d.uproot p cs).contains id = d.contains id := by
  rw [contains, contains, node?_uproot, Option.isSome_map]

@[simp]
theorem contains_modify (d : Document) (p : NodeId) (f : Node → Node) (id : NodeId) :
    (d.modify p f).contains id = d.contains id := by
  rw [contains, contains, node?_modify]
  split
  · rw [Option.isSome_map]
  · rfl

/-- Taking out children frees no numbers, so the same subtrees can be added before and after. -/
theorem admits_uproot_iff {p : NodeId} {cs : List NodeId} {xs : List Descriptor} :
    (d.uproot p cs).Admits xs ↔ d.Admits xs := by
  constructor
  · rintro ⟨hnodup, hfresh, hleaf⟩
    exact ⟨hnodup, by simpa using hfresh, hleaf⟩
  · rintro ⟨hnodup, hfresh, hleaf⟩
    exact ⟨hnodup, by simpa using hfresh, hleaf⟩

/-- Nor does it make an element of a text node, so the parent takes the same subtrees. -/
theorem insertFault_uproot_iff {p : NodeId} {cs : List NodeId} {xs : List Descriptor} :
    (d.uproot p cs).insertFault p xs = none ↔ d.insertFault p xs = none := by
  rw [insertFault_eq_none_iff, insertFault_eq_none_iff, admits_uproot_iff, node?_uproot]
  cases d.node? p with
  | none => simp
  | some n => simp [Node.isText]

theorem childListFault_eq_none_iff {e : Edit} :
    d.childListFault e = none ↔ e.removed.Nodup ∧ (∀ c ∈ e.removed, d.Up c e.target) ∧
      d.insertFault e.target e.added = none := by
  rw [childListFault]
  cases hs : d.firstStranger e.target ∅ e.removed with
  | some c =>
      simp only [reduceCtorEq, false_iff]
      rintro ⟨hnodup, hup, -⟩
      have hnone := firstStranger_eq_none_iff.mpr ⟨unseen_empty_iff.mpr hnodup, hup⟩
      rw [hs] at hnone
      cases hnone
  | none =>
      obtain ⟨hunseen, hup⟩ := firstStranger_eq_none_iff.mp hs
      exact ⟨fun h => ⟨unseen_empty_iff.mp hunseen, hup, h⟩, fun h => h.2.2⟩

/-- After the checks of a child-list edit the children are taken out without a fault. -/
theorem WellFormed.detachAll_eq_ok (hwf : d.WellFormed) {e : Edit}
    (h : d.childListFault e = none) :
    d.detachAll e.target e.removed = (.ok (), d.uproot e.target e.removed) := by
  obtain ⟨hnodup, hup, hins⟩ := childListFault_eq_none_iff.mp h
  obtain ⟨⟨n, hn, -⟩, -⟩ := insertFault_eq_none_iff.mp hins
  refine Document.detachAll_eq_ok hn hnodup fun c hc => ?_
  exact ⟨(hup c hc).contains, (hwf.mem_children_iff hn).mpr (hup c hc)⟩

/-- And the subtrees are then added without a fault, under the numbers of their tops. -/
theorem insertAll_uproot_eq_ok {e : Edit} (h : d.childListFault e = none) :
    (d.uproot e.target e.removed).insertAll e.target e.added =
      (.ok (e.added.map Descriptor.id),
        (d.uproot e.target e.removed).plant (some e.target) e.added) :=
  insertAll_eq_ok (insertFault_uproot_iff.mpr (childListFault_eq_none_iff.mp h).2.2)

/-- The document after a child-list edit that was accepted. -/
def regraft (d : Document) (e : Edit) : Document :=
  (d.uproot e.target e.removed).plant (some e.target) e.added

theorem plantFault_uproot {e : Edit} (h : d.childListFault e = none) :
    (d.uproot e.target e.removed).plantFault (some e.target) e.added = none :=
  insertFault_uproot_iff.mpr (childListFault_eq_none_iff.mp h).2.2

/-- The document after an edit of character data that was accepted. -/
def retext (d : Document) (e : Edit) : Document :=
  d.modify e.target fun n => { n with data := some (e.text.getD "") }

/-- What speaks against an edit: an unknown target, character data for an element, or whatever
keeps the children from being changed. -/
def editFault (d : Document) (e : Edit) : Option Fault :=
  if d.contains e.target then
    match e.kind with
    | .characterData => if d.isText e.target then none else some (.notText e.target)
    | .childList => d.childListFault e
  else some (.unknownNode e.target)

/-- The record of an edit that is accepted. -/
def Edit.record (e : Edit) : Record :=
  match e.kind with
  | .characterData => ⟨e.target, [], [], .characterData⟩
  | .childList => ⟨e.target, e.added.map Descriptor.id, e.removed, .childList⟩

theorem Edit.target_record (e : Edit) : e.record.target = e.target := by
  rw [Edit.record]
  split <;> rfl

/-- The document after an edit that is accepted. -/
def edited (d : Document) (e : Edit) : Document :=
  match e.kind with
  | .characterData => d.retext e
  | .childList => d.regraft e

/-- An edit of a well-formed document is judged as a whole: with a fault nothing changes, and
without one the edit is carried out to its end. -/
theorem WellFormed.apply_eq (hwf : d.WellFormed) (e : Edit) :
    d.apply e = match d.editFault e with
      | some f => (.error f, d)
      | none => (.ok e.record, d.edited e) := by
  rw [Document.apply, editFault, Edit.record, edited]
  by_cases hc : d.contains e.target
  · rw [if_neg (by simp [hc]), if_pos hc]
    cases hkind : e.kind with
    | characterData =>
        simp only [setText_eq _ hc]
        by_cases htext : d.isText e.target
        · simp only [if_pos htext]
          rfl
        · simp only [if_neg htext]
    | childList =>
        cases hfault : d.childListFault e with
        | some f => rfl
        | none =>
            -- The branches in which a write fails are never taken.
            simp only [hwf.detachAll_eq_ok hfault, insertAll_uproot_eq_ok hfault]
            rfl
  · rw [if_pos (by simp [hc]), if_neg hc]

theorem contains_target_of_editFault {e : Edit} (h : d.editFault e = none) :
    d.contains e.target := by
  by_contra htarget
  exact nomatch (if_neg htarget).symm.trans h

theorem childListFault_of_editFault {e : Edit} (hkind : e.kind = .childList)
    (h : d.editFault e = none) : d.childListFault e = none := by
  rw [editFault, hkind] at h
  split at h
  · exact h
  · exact nomatch h

theorem isText_of_editFault {e : Edit} (hkind : e.kind = .characterData)
    (h : d.editFault e = none) : d.isText e.target := by
  rw [editFault, hkind] at h
  split at h
  · by_contra htext
    exact nomatch (if_neg htext).symm.trans h
  · exact nomatch h

theorem WellFormed.apply_eq_ok_iff (hwf : d.WellFormed) {e : Edit} {r : Record} :
    d.apply e = (.ok r, d') ↔ d.editFault e = none ∧ r = e.record ∧ d' = d.edited e := by
  rw [hwf.apply_eq]
  cases d.editFault e with
  | some f => simp
  | none => simp [eq_comm]

theorem WellFormed.eq_of_apply_error (hwf : d.WellFormed) {e : Edit} {f : Fault}
    (h : d.apply e = (.error f, d')) : d' = d := by
  rw [hwf.apply_eq] at h
  cases hfault : d.editFault e with
  | some g =>
      rw [hfault] at h
      exact (congrArg Prod.snd h).symm
  | none =>
      rw [hfault] at h
      exact nomatch congrArg Prod.fst h

/-- The outcomes of an edit, each with the condition under which it arises. -/
inductive Applied (d : Document) (e : Edit) : Except Fault Record × Document → Prop
  | refused (f : Fault) : Applied d e (.error f, d)
  | texted (hkind : e.kind = .characterData) (htext : d.isText e.target) :
      Applied d e (.ok ⟨e.target, [], [], .characterData⟩, d.retext e)
  | regrafted (hkind : e.kind = .childList) (hfault : d.childListFault e = none) :
      Applied d e (.ok ⟨e.target, e.added.map Descriptor.id, e.removed, .childList⟩, d.regraft e)

/-- A child-list edit that passed its checks is accepted. -/
theorem WellFormed.apply_eq_regraft (hwf : d.WellFormed) {e : Edit} (hkind : e.kind = .childList)
    (hfault : d.childListFault e = none) :
    d.apply e =
      (.ok ⟨e.target, e.added.map Descriptor.id, e.removed, .childList⟩, d.regraft e) := by
  obtain ⟨⟨n, hn, -⟩, -⟩ := insertFault_eq_none_iff.mp (childListFault_eq_none_iff.mp hfault).2.2
  rw [hwf.apply_eq, editFault, if_pos (contains_of_node? hn)]
  simp only [Edit.record, edited, hkind, hfault]

/-- Applying an edit to a well-formed document has one of these outcomes. -/
theorem WellFormed.applied (hwf : d.WellFormed) (e : Edit) : d.Applied e (d.apply e) := by
  rw [hwf.apply_eq]
  cases hfault : d.editFault e with
  | some f => exact .refused f
  | none =>
      simp only [Edit.record, edited]
      cases hkind : e.kind with
      | characterData => exact .texted hkind (isText_of_editFault hkind hfault)
      | childList => exact .regrafted hkind (childListFault_of_editFault hkind hfault)

/-! ## Well-formedness -/

theorem WellFormed.retext (hwf : d.WellFormed) (e : Edit) : (d.retext e).WellFormed :=
  hwf.modify (fun _ => rfl) (fun _ => rfl) (fun _ => rfl) fun _ => rfl

theorem WellFormed.regraft (hwf : d.WellFormed) {e : Edit} (h : d.childListFault e = none) :
    (d.regraft e).WellFormed := by
  have hup := (childListFault_eq_none_iff.mp h).2.1
  exact (hwf.uproot hup).plant (plantFault_uproot h)

theorem WellFormed.apply (hwf : d.WellFormed) (e : Edit) : (d.apply e).2.WellFormed := by
  have happlied := hwf.applied e
  generalize d.apply e = outcome at happlied
  cases happlied with
  | refused => exact hwf
  | texted => exact hwf.retext e
  | regrafted _ hfault => exact hwf.regraft hfault

/-- Whatever the outcome, what an edit leaves behind is well-formed. -/
theorem WellFormed.of_apply_eq (hwf : d.WellFormed) {e : Edit} {outcome : Except Fault Record}
    (h : d.apply e = (outcome, d')) : d'.WellFormed := by
  have hafter := hwf.apply e
  rwa [h] at hafter

@[simp]
theorem WellFormed.root_apply (hwf : d.WellFormed) (e : Edit) :
    (d.apply e).2.root = d.root := by
  have happlied := hwf.applied e
  generalize d.apply e = outcome at happlied
  cases happlied with
  | refused => rfl
  | texted => exact root_modify _ _ _
  | regrafted => exact root_plant _ _ _

/-! ## What an edit leaves alone -/

/-- A node without its data and its links: its number, kind, tag, class and attributes. -/
def Node.face (n : Node) : Node := { n with data := none, parent := none, children := [] }

/-- Every node of the one document is in the other, with the same face. -/
def Keeps (d d' : Document) : Prop :=
  ∀ id n, d.node? id = some n → ∃ n', d'.node? id = some n' ∧ n'.face = n.face

theorem Keeps.refl (d : Document) : d.Keeps d := fun _ n hn => ⟨n, hn, rfl⟩

theorem Keeps.trans {d'' : Document} (h : d.Keeps d') (h' : d'.Keeps d'') : d.Keeps d'' := by
  intro id n hn
  obtain ⟨n', hn', hface⟩ := h id n hn
  obtain ⟨n'', hn'', hface'⟩ := h' id n' hn'
  exact ⟨n'', hn'', hface'.trans hface⟩

theorem Keeps.contains (h : d.Keeps d') {id : NodeId} (hid : d.contains id) :
    d'.contains id := by
  obtain ⟨n, hn⟩ := contains_iff.mp hid
  obtain ⟨n', hn', -⟩ := h id n hn
  exact contains_of_node? hn'

/-- The face of a node decides which class tokens it has. -/
theorem Node.hasClass_eq_of_face_eq {n n' : Node} (h : n'.face = n.face) (token : String) :
    n'.hasClass token = n.hasClass token := by
  have hclass : n'.face.classValue = n.face.classValue := congrArg Node.classValue h
  have hclass : n'.classValue = n.classValue := hclass
  rw [Node.hasClass, Node.hasClass, hclass]

theorem Keeps.hasClass (h : d.Keeps d') {id : NodeId} (hid : d.contains id) (token : String) :
    d'.hasClass id token = d.hasClass id token := by
  obtain ⟨n, hn⟩ := contains_iff.mp hid
  obtain ⟨n', hn', hface⟩ := h id n hn
  rw [Document.hasClass, Document.hasClass, hn, hn']
  exact Node.hasClass_eq_of_face_eq hface token

/-- So does it decide whether the node is text. -/
theorem Keeps.isText (h : d.Keeps d') {id : NodeId} (hid : d.contains id) :
    d'.isText id = d.isText id := by
  obtain ⟨n, hn⟩ := contains_iff.mp hid
  obtain ⟨n', hn', hface⟩ := h id n hn
  have hkind : n'.face.kind = n.face.kind := congrArg Node.kind hface
  have hkind : n'.kind = n.kind := hkind
  simp only [Document.isText, hn, hn', Node.isText, hkind]

theorem keeps_modify (d : Document) (id : NodeId) {f : Node → Node}
    (hf : ∀ n, (f n).face = n.face) : d.Keeps (d.modify id f) := by
  intro j n hn
  rw [node?_modify, hn]
  split
  · exact ⟨f n, rfl, hf n⟩
  · exact ⟨n, rfl, rfl⟩

theorem keeps_uproot (d : Document) (p : NodeId) (cs : List NodeId) :
    d.Keeps (d.uproot p cs) := by
  intro j n hn
  rw [node?_uproot, hn]
  exact ⟨_, rfl, rfl⟩

theorem keeps_plant {parent : Option NodeId} {xs : List Descriptor}
    (h : d.plantFault parent xs = none) : d.Keeps (d.plant parent xs) := by
  intro j n hn
  obtain ⟨children, hn'⟩ := exists_node?_plant_of_node? h hn
  exact ⟨_, hn', rfl⟩

/-- No edit makes a node disappear or changes its face. -/
theorem WellFormed.keeps_apply (hwf : d.WellFormed) (e : Edit) : d.Keeps (d.apply e).2 := by
  have happlied := hwf.applied e
  generalize d.apply e = outcome at happlied
  cases happlied with
  | refused => exact Keeps.refl d
  | texted => exact keeps_modify d _ fun _ => rfl
  | regrafted _ hfault => exact (keeps_uproot d _ _).trans (keeps_plant (plantFault_uproot hfault))

/-- An accepted edit leaves its target where it is: no node is among its own children. -/
theorem WellFormed.parent?_target (hwf : d.WellFormed) {e : Edit} {r : Record}
    (hok : d.apply e = (.ok r, d')) : d'.parent? e.target = d.parent? e.target := by
  have happlied := hwf.applied e
  rw [hok] at happlied
  cases happlied with
  | texted =>
      rw [parent?, parent?, Document.retext, node?_modify, if_pos rfl]
      cases d.node? e.target <;> rfl
  | regrafted _ hfault =>
      obtain ⟨-, hup, hinsert⟩ := childListFault_eq_none_iff.mp hfault
      obtain ⟨⟨n, hn, -⟩, hadm⟩ := insertFault_eq_none_iff.mp hinsert
      have hself : e.target ∉ e.removed := fun h =>
        hwf.acyclic e.target (TransGen.single (hup e.target h))
      have hold : e.target ∉ Descriptor.idsAll e.added := hadm.notMem (contains_of_node? hn)
      rw [parent?, parent?, Document.regraft, node?_plant_of_notMem hold, if_pos rfl,
        node?_uproot, hn]
      simp only [Option.map_some, Option.bind_some, if_neg hself]

/-! ## What an edit adds -/

/-- The numbers of the nodes that an edit adds to a document that accepts it. -/
def Edit.addedIds (e : Edit) : List NodeId :=
  match e.kind with
  | .childList => Descriptor.idsAll e.added
  | .characterData => []

/-- The top of each subtree that a child-list edit adds is a node with the descriptor's data. -/
theorem exists_node?_regraft {e : Edit} (h : d.childListFault e = none) {x : Descriptor}
    (hx : x ∈ e.added) : ∃ q, (d.regraft e).node? x.id = some (x.toNode q) := by
  have hplant := plantFault_uproot h
  exact exists_node?_plant (plantFault_eq_none_iff.mp hplant).2.nodup
    (parent_notMem_of_plantFault hplant) (Descriptor.mem_preorderAll_self hx)

/-- An accepted edit adds just the nodes that are there afterwards and were not before. -/
theorem WellFormed.mem_addedIds_iff (hwf : d.WellFormed) {e : Edit} {r : Record}
    (hok : d.apply e = (.ok r, d')) (id : NodeId) :
    id ∈ e.addedIds ↔ d'.contains id ∧ ¬ d.contains id := by
  have happlied := hwf.applied e
  rw [hok] at happlied
  cases happlied with
  | texted hkind =>
      rw [Document.retext, contains_modify, Edit.addedIds, hkind]
      simp
  | regrafted hkind hfault =>
      have hplant := plantFault_uproot hfault
      have hadm := (plantFault_eq_none_iff.mp hplant).2
      -- Taking out children frees no number, so what is new now was new before.
      have hfresh : id ∈ Descriptor.idsAll e.added → ¬ d.contains id := fun hid hold =>
        hadm.notMem (by rwa [contains_uproot]) hid
      rw [Edit.addedIds, hkind, Document.regraft,
        contains_plant_iff hadm.nodup (parent_notMem_of_plantFault hplant), contains_uproot]
      tauto

end EditWatch.Document
