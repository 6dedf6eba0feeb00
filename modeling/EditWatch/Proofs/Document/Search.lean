import EditWatch.Proofs.Document.Attachment
import EditWatch.Proofs.Document.Rendering

/-!
# EditWatch.Proofs.Document.Search -- the first node with a token

The search for a class token keeps a stack of nodes still to visit, pushes the children of a node in
front of it and ends with the first node that carries the token; it remembers none of those that it
has visited. On a document that came about it goes through the tree at the root in document order
and visits no node twice, so it ends, with the node of the tree that comes first. Nodes that were
taken out belong to no tree at the root, and none of them is ever found.
-/

namespace EditWatch.Document

open Descriptor

variable {d : Document} {token : String}

/-- The attached nodes in document order: those of the tree at the root, none without a root. -/
def order (d : Document) : List NodeId := (d.tree?.map Descriptor.ids).getD []

/-! ## The loop -/

@[simp]
theorem findFrom_nil (steps : Nat) : d.findFrom token steps [] = some none := by
  rw [findFrom]

theorem findFrom_cons {steps : Nat} {id : NodeId} {n : Node} (hn : d.node? id = some n)
    (stack : List NodeId) : d.findFrom token (steps + 1) (id :: stack) =
      if d.hasClass id token then some (some id)
      else d.findFrom token steps (n.children ++ stack) := by
  simp only [findFrom, Document.hasClass, hn]

/-- Where the loop takes a step for each node of some subtrees and ends with the first of them that
carries the token, it does so for all subtrees together. -/
theorem findFrom_map_id {xs : List Descriptor}
    (h : ∀ x ∈ xs, ∀ steps stack, d.findFrom token (x.preorder.length + steps) (x.id :: stack) =
      ((x.ids.find? (d.hasClass · token)).map some).or (d.findFrom token steps stack))
    (steps : Nat) (stack : List NodeId) :
    d.findFrom token ((preorderAll xs).length + steps) (xs.map Descriptor.id ++ stack) =
      (((idsAll xs).find? (d.hasClass · token)).map some).or (d.findFrom token steps stack) := by
  induction xs with
  | nil => simp
  | cons x xs ih =>
      rw [List.forall_mem_cons] at h
      rw [preorderAll_cons, List.length_append, Nat.add_assoc, List.map_cons, List.cons_append,
        h.1, ih h.2, idsAll_cons, List.find?_append, Option.map_or, Option.or_assoc]

/-- The loop goes through a subtree on top of the stack in document order, with one step for each
node. If no node of it carries the token, the loop goes on with what is below it on the stack. -/
theorem Shows.findFrom_eq {x : Descriptor} (h : d.Shows x) (steps : Nat) (stack : List NodeId) :
    d.findFrom token (x.preorder.length + steps) (x.id :: stack) =
      ((x.ids.find? (d.hasClass · token)).map some).or (d.findFrom token steps stack) := by
  induction x using childInduction generalizing steps stack with
  | step x ih =>
      obtain ⟨q, hq⟩ := h x (self_mem_preorder x)
      rw [preorder_eq, List.length_cons, Nat.add_right_comm, findFrom_cons hq, ids_eq]
      by_cases hclass : d.hasClass x.id token
      · -- The search ends here, whatever is below.
        have hfirst : (x.id :: idsAll x.children).find? (d.hasClass · token) = some x.id :=
          List.find?_cons_of_pos hclass
        rw [if_pos hclass, hfirst, Option.map_some, Option.some_or]
      · have hlater : (x.id :: idsAll x.children).find? (d.hasClass · token) =
            (idsAll x.children).find? (d.hasClass · token) := List.find?_cons_of_neg hclass
        rw [if_neg hclass, hlater, toNode_children]
        exact findFrom_map_id (fun c hc => ih c hc (h.child hc)) steps stack

/-- As many steps as the subtree has nodes, or any number above, end the loop with the first of its
nodes that carries the token. -/
theorem Shows.findFrom_eq_find? {x : Descriptor} (h : d.Shows x) {steps : Nat}
    (hsteps : x.ids.length ≤ steps) :
    d.findFrom token steps [x.id] = some (x.ids.find? (d.hasClass · token)) := by
  rw [ids, List.length_map] at hsteps
  obtain ⟨spare, rfl⟩ := Nat.exists_eq_add_of_le hsteps
  rw [h.findFrom_eq, findFrom_nil]
  cases x.ids.find? (d.hasClass · token) with
  | none => rfl
  | some found => rfl

/-! ## The tree at the root -/

/-- The root of a well-formed document stands for a tree. -/
theorem WellFormed.exists_shows_root (hwf : d.WellFormed) {r : NodeId} (hr : d.root = some r) :
    ∃ x, x.id = r ∧ d.Shows x := by
  obtain ⟨n, hn, -⟩ := hwf.root_top hr
  exact hwf.exists_shows (contains_of_node? hn)

theorem order_of_root_eq_none (hr : d.root = none) : d.order = [] := by
  rw [order, tree?, hr]
  rfl

theorem Shows.order_eq (hwf : d.WellFormed) {x : Descriptor} (h : d.Shows x)
    (hroot : d.root = some x.id) : d.order = x.ids := by
  rw [order, h.tree?_eq hwf hroot]
  rfl

theorem WellFormed.nodup_order (hwf : d.WellFormed) : d.order.Nodup := by
  cases hr : d.root with
  | none =>
      rw [order_of_root_eq_none hr]
      exact List.nodup_nil
  | some r =>
      obtain ⟨x, rfl, hx⟩ := hwf.exists_shows_root hr
      rw [hx.order_eq hwf hr]
      exact hx.nodup_ids hwf

/-- Exactly the attached nodes stand in the order. -/
theorem WellFormed.mem_order_iff (hwf : d.WellFormed) {id : NodeId} :
    id ∈ d.order ↔ d.isAttached id := by
  cases hr : d.root with
  | none => simp [order_of_root_eq_none hr, isAttached_of_root_eq_none hr]
  | some r =>
      obtain ⟨x, rfl, hx⟩ := hwf.exists_shows_root hr
      rw [hx.order_eq hwf hr, hx.mem_ids_iff_attached hwf hr, hwf.isAttached_iff]

/-- As many steps as there are attached nodes suffice for the search from the root. -/
theorem WellFormed.findFrom_root (hwf : d.WellFormed) {r : NodeId} (hr : d.root = some r)
    {steps : Nat} (hsteps : d.order.length ≤ steps) :
    d.findFrom token steps [r] = some (d.order.find? (d.hasClass · token)) := by
  obtain ⟨x, rfl, hx⟩ := hwf.exists_shows_root hr
  rw [hx.order_eq hwf hr] at hsteps ⊢
  exact hx.findFrom_eq_find? hsteps

theorem WellFormed.findByClass_eq (hwf : d.WellFormed) :
    d.findByClass token = d.order.find? (d.hasClass · token) := by
  rw [findByClass]
  cases hr : d.root with
  | none =>
      rw [order_of_root_eq_none hr]
      rfl
  | some r =>
      -- The attached nodes are no more than all nodes, so the steps are enough.
      have hlength : d.order.length ≤ d.size := by
        refine length_le_size hwf.nodup_order fun id hid => ?_
        exact hwf.contains_of_attached (hwf.isAttached_iff.mp (hwf.mem_order_iff.mp hid))
      show (d.findFrom token (d.size + 1) [r]).join = _
      rw [hwf.findFrom_root hr (by omega), Option.join_some]

/-! ## Main result -/

/-- In every document that comes about, list the attached nodes in document order, each of them
once. The search for a token ends by itself, after as many steps as there are attached nodes, and
finds the first of the list with the token in its class. It finds nothing exactly if no attached
node carries the token, and it never finds a node that is not attached, whatever tokens those nodes
carry. -/
theorem findByClass_is_first (h : Reachable d) (token : String) :
    d.order.Nodup ∧ (∀ id, id ∈ d.order ↔ d.isAttached id) ∧
    d.findByClass token = d.order.find? (d.hasClass · token) ∧
    (∀ r, d.root = some r → ∀ steps, d.order.length ≤ steps →
      d.findFrom token steps [r] = some (d.findByClass token)) ∧
    (d.findByClass token = none ↔ ∀ id, d.isAttached id → ¬ d.hasClass id token) ∧
    (∀ id, ¬ d.isAttached id → d.findByClass token ≠ some id) := by
  have hwf := h.wellFormed
  refine ⟨hwf.nodup_order, fun id => hwf.mem_order_iff, hwf.findByClass_eq, ?_, ?_, ?_⟩
  · intro r hr steps hsteps
    rw [hwf.findByClass_eq, hwf.findFrom_root hr hsteps]
  · rw [hwf.findByClass_eq, List.find?_eq_none]
    exact forall_congr' fun id => by rw [hwf.mem_order_iff]
  · intro id hid hfound
    rw [hwf.findByClass_eq] at hfound
    exact hid (hwf.mem_order_iff.mp (List.mem_of_find?_eq_some hfound))

/-- A page with three streams, one of them nested. -/
def streams : Descriptor :=
  ⟨1, .element, none, none, ∅, none,
    [⟨2, .element, none, some (.tokens "stream"), ∅, none, []⟩,
      ⟨3, .element, none, none, ∅, none,
        [⟨4, .element, none, some (.tokens "wide stream"), ∅, none, []⟩]⟩,
      ⟨5, .element, none, some (.tokens "stream"), ∅, none, []⟩]⟩

/-- The page after its first stream was taken out. -/
def closedStream : Document := (empty.orSame (ofRoot streams)).perform (.detach 1 2)

theorem reachable_closedStream : Reachable closedStream :=
  (Reachable.ofRoot (x := streams) (by rfl)).perform _

/-- The nested stream stands before the last one, and the one that was taken out is passed over. -/
theorem findByClass_is_first_closed :
    Reachable closedStream ∧ closedStream.root = some 1 ∧ closedStream.hasClass 2 "stream" ∧
      ¬ closedStream.isAttached 2 ∧ closedStream.order = [1, 3, 4, 5] ∧
      closedStream.findByClass "stream" = some 4 ∧
      closedStream.findFrom "stream" 7 [1] = some (some 4) ∧
      closedStream.findByClass "stream" ≠ some 2 := by
  obtain ⟨-, -, hfirst, hsteps, -, hdetached⟩ :=
    findByClass_is_first reachable_closedStream "stream"
  have hroot : closedStream.root = some 1 := by rfl
  have hout : ¬ closedStream.isAttached 2 := by decide +kernel
  have horder : closedStream.order = [1, 3, 4, 5] := by decide +kernel
  have hfound : closedStream.findByClass "stream" = some 4 := by
    rw [hfirst, horder]
    decide +kernel
  refine ⟨reachable_closedStream, hroot, by decide +kernel, hout, horder, hfound, ?_,
    hdetached 2 hout⟩
  rw [← hfound]
  exact hsteps 1 hroot 7 (by rw [horder]; decide)

end EditWatch.Document
