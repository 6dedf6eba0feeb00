import EditWatch.Proofs.Document.Edits

/-!
# EditWatch.Proofs.Document.History -- documents that come about

A document starts empty or from one subtree and is then changed by any number of operations, of
which some fail. Every document that comes about in this way is well-formed, and an edit that such
a document refuses leaves it exactly as it was: once the checks of an edit have passed, none of its
writes can fail.
-/

namespace EditWatch.Document

open Relation

variable {d : Document}

/-- What can be done to a document. -/
inductive Operation where
  | insert (parent : Option NodeId) (x : Descriptor)
  | detach (parent child : NodeId)
  | setText (id : NodeId) (data : String)
  | apply (e : Edit)
  | prune

/-- The document after an operation, whether it succeeded or failed. -/
def perform (d : Document) : Operation → Document
  | .insert parent x => (d.insert parent x).2
  | .detach parent child => (d.detach parent child).2
  | .setText id data => (d.setText id data).2
  | .apply e => (d.apply e).2
  | .prune => d.prune.1

/-- The documents that operations lead to, from the empty one or from one subtree. -/
inductive Reachable : Document → Prop
  | empty : Reachable empty
  | ofRoot {x : Descriptor} {d : Document} (h : ofRoot x = .ok d) : Reachable d
  | perform {d : Document} (h : Reachable d) (op : Operation) : Reachable (d.perform op)

/-- The document of an attempt to start one, or `d` where it failed. -/
def orSame (d : Document) (r : Except Fault Document) : Document :=
  match r with
  | .ok d' => d'
  | .error _ => d

/-! ## Every step keeps documents well-formed -/

theorem WellFormed.perform (hwf : d.WellFormed) (op : Operation) : (d.perform op).WellFormed := by
  cases op with
  | insert parent x =>
      -- A change that fails leaves the document as it was; here and below only success says more.
      show (d.insert parent x).2.WellFormed
      rcases h : d.insert parent x with ⟨f | id, d'⟩
      · exact eq_of_insert_eq_error h ▸ hwf
      · obtain ⟨hfault, -, rfl⟩ := insert_eq_ok_iff.mp h
        exact hwf.plant hfault
  | detach parent child =>
      show (d.detach parent child).2.WellFormed
      rcases h : d.detach parent child with ⟨f | ⟨⟩, d'⟩
      · exact eq_of_detach_eq_error h ▸ hwf
      · obtain ⟨-, ⟨n, hn, hmem⟩, rfl⟩ := detach_eq_ok_iff.mp h
        refine hwf.uproot fun c hc => ?_
        rw [List.mem_singleton.mp hc]
        exact (hwf.mem_children_iff hn).mp hmem
  | setText id data =>
      show (d.setText id data).2.WellFormed
      rcases h : d.setText id data with ⟨f | ⟨⟩, d'⟩
      · exact eq_of_setText_eq_error h ▸ hwf
      · obtain ⟨-, rfl⟩ := setText_eq_ok_iff.mp h
        exact hwf.modify (fun _ => rfl) (fun _ => rfl) (fun _ => rfl) fun _ => rfl
  | apply e => exact hwf.apply e
  | prune => exact hwf.prune

/-- A document of one subtree holds it without a parent, and its top is the root. -/
theorem ofRoot_eq_ok_iff {x : Descriptor} :
    ofRoot x = .ok d ↔
      empty.Admits [x] ∧ d = { empty.plant none [x] with root := some x.id } := by
  rw [ofRoot, insert_eq, plantFault]
  cases hfault : empty.descriptorFault [x] with
  | none => simp [descriptorFault_eq_none_iff.mp hfault, eq_comm]
  | some f =>
      have hnot : ¬ empty.Admits [x] := by
        rw [← descriptorFault_eq_none_iff, hfault]
        exact Option.some_ne_none f
      simp [hnot]

theorem WellFormed.ofRoot {x : Descriptor} (h : ofRoot x = .ok d) : d.WellFormed := by
  obtain ⟨hadm, rfl⟩ := ofRoot_eq_ok_iff.mp h
  have hfault : Document.empty.plantFault none [x] = none := descriptorFault_eq_none_iff.mpr hadm
  have hwf := WellFormed.empty.plant hfault
  have htop : (Document.empty.plant none [x]).node? x.id = some (x.toNode none) :=
    node?_plant_row hfault (Descriptor.mem_rowsAll.mpr (Or.inl ⟨x, List.mem_cons_self, rfl⟩))
  exact
    { id_eq := hwf.id_eq
      mem_children_iff := hwf.mem_children_iff
      nodup_children := hwf.nodup_children
      element_of_up := hwf.element_of_up
      acyclic := hwf.acyclic
      root_top := fun hr => Option.some.inj hr ▸ ⟨_, htop, rfl⟩ }

/-- Every document that comes about is well-formed. -/
theorem Reachable.wellFormed (h : Reachable d) : d.WellFormed := by
  induction h with
  | empty => exact WellFormed.empty
  | ofRoot h => exact WellFormed.ofRoot h
  | perform _ op ih => exact ih.perform op

/-! ## Main results -/

/-- In every document that comes about a node is held under its own number; a node is listed among
the children of another exactly if that is its parent, and then once; parents are elements that
exist, so a text node has no children; no node is above itself; and the root exists and has no
parent. -/
theorem links_agree (h : Reachable d) :
    (∀ id n, d.node? id = some n → n.id = id) ∧
    (∀ p n, d.node? p = some n → n.children.Nodup ∧
      ∀ c, c ∈ n.children ↔ ∃ m, d.node? c = some m ∧ m.parent = some p) ∧
    (∀ c m p, d.node? c = some m → m.parent = some p →
      ∃ n, d.node? p = some n ∧ n.kind = .element) ∧
    (∀ id n, d.node? id = some n → n.kind = .text → n.children = []) ∧
    (∀ id, ¬ TransGen (fun c p => d.parent? c = some p) id id) ∧
    (∀ r, d.root = some r → ∃ n, d.node? r = some n ∧ n.parent = none) := by
  have hwf := h.wellFormed
  refine ⟨fun id n => hwf.id_eq, fun p n hn => ⟨hwf.nodup_children hn, fun c => ?_⟩,
    fun c m p hm hp => hwf.element_of_up (up_iff.mpr ⟨m, hm, hp⟩),
    fun id n => hwf.children_eq_nil, hwf.acyclic, fun r => hwf.root_top⟩
  rw [hwf.mem_children_iff hn, up_iff]

/-- A page of three nodes: a paragraph with one word. -/
def paragraph : Descriptor :=
  ⟨1, .element, some "p", none, ∅, none,
    [⟨2, .element, some "span", none, ∅, none, [⟨3, .text, none, none, ∅, some "teh", []⟩]⟩]⟩

/-- The word replaced by another one. -/
def replaceWord : Edit :=
  ⟨1, .childList, [⟨4, .text, none, none, ∅, some "the", []⟩], [2], none⟩

/-- A paragraph in which the word was replaced and a line break was added to the old one. -/
def replaced : Document :=
  ((empty.perform (.insert none paragraph)).perform (.apply replaceWord)).perform
    (.insert (some 2) ⟨5, .element, some "br", none, ∅, none, []⟩)

theorem reachable_replaced : Reachable replaced :=
  ((Reachable.empty.perform _).perform _).perform _

/-- The new word is the paragraph's only child; the old one keeps its own children. -/
theorem links_agree_replaced :
    Reachable replaced ∧ (replaced.node? 1).map Node.children = some [4] ∧
      (replaced.node? 2).map Node.children = some [3, 5] ∧
      ∀ id, ¬ TransGen (fun c p => replaced.parent? c = some p) id id :=
  ⟨reachable_replaced, by rfl, by rfl, (links_agree reachable_replaced).2.2.2.2.1⟩

/-- An edit that is refused leaves a document that came about as it was. Once the checks of a
child-list edit have passed, all its children are taken out and all its subtrees are added, each
under the number of its top, and the edit is accepted. -/
theorem refused_changes_nothing (h : Reachable d) (e : Edit) :
    (∀ f d', d.apply e = (.error f, d') → d' = d) ∧
    (e.kind = .childList → d.childListFault e = none → ∃ between after,
      d.detachAll e.target e.removed = (.ok (), between) ∧
      between.insertAll e.target e.added = (.ok (e.added.map Descriptor.id), after) ∧
      d.apply e =
        (.ok ⟨e.target, e.added.map Descriptor.id, e.removed, .childList⟩, after)) := by
  have happlied := h.wellFormed.applied e
  constructor
  · intro f d' hap
    rw [hap] at happlied
    cases happlied with
    | refused => rfl
  · intro hkind hfault
    exact ⟨_, _, h.wellFormed.detachAll_eq_ok hfault, insertAll_uproot_eq_ok hfault,
      h.wellFormed.apply_eq_regraft hkind hfault⟩

/-- A number that is still taken by a node that was taken out. -/
def takenNumber : Edit :=
  ⟨1, .childList, [⟨6, .element, none, none, ∅, none, [⟨3, .text, none, none, ∅, none, []⟩]⟩], [4],
    none⟩

/-- Neither the removal nor the first of the new nodes happened. -/
theorem refused_changes_nothing_replaced :
    Reachable replaced ∧ (replaced.apply takenNumber).1 = .error (.duplicateNode 3) ∧
      (replaced.apply takenNumber).2 = replaced :=
  ⟨reachable_replaced, by rfl, (refused_changes_nothing reachable_replaced takenNumber).1
    (.duplicateNode 3) _ (Prod.ext (by rfl) rfl)⟩

end EditWatch.Document
