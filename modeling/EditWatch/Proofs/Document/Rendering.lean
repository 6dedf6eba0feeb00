import EditWatch.Proofs.Document.Editing

/-!
# EditWatch.Proofs.Document.Rendering -- the text of a node

The text of a node is gathered by a loop that keeps a stack of nodes still to visit and remembers none
of those that it has visited. On a document that came about it visits each node of the subtree once,
because nothing is above itself and nothing has two parents, and what it gathers is the text of the
subtree read as a tree. An edit that is accepted changes the text of its target and of the nodes above
it, and of no other node.
-/

namespace EditWatch.Document

open Relation

variable {d d' : Document}

namespace Descriptor

/-! ## The text of a tree -/

/-- The line feed that a line break stands for. -/
def lineFeed (tag : Option String) : String := if tag = some "br" then "\n" else ""

mutual

/-- The text of a subtree: the data of a text node; for an element the texts of its children, one after
the other, behind a line feed if it is a line break. -/
def rendering : Descriptor → String
  | ⟨_, .text, _, _, _, text, _⟩ => text.getD ""
  | ⟨_, .element, tag, _, _, _, children⟩ => lineFeed tag ++ renderingAll children

def renderingAll : List Descriptor → String
  | [] => ""
  | x :: xs => rendering x ++ renderingAll xs

end

theorem rendering_of_text {x : Descriptor} (h : x.kind = .text) : x.rendering = x.text.getD "" := by
  obtain ⟨id, kind, tag, classValue, attrs, text, children⟩ := x
  subst h
  rw [rendering]

theorem rendering_of_element {x : Descriptor} (h : x.kind = .element) :
    x.rendering = lineFeed x.tag ++ renderingAll x.children := by
  obtain ⟨id, kind, tag, classValue, attrs, text, children⟩ := x
  subst h
  rw [rendering]

@[simp]
theorem renderingAll_nil : renderingAll [] = "" := by rw [renderingAll]

@[simp]
theorem renderingAll_cons (x : Descriptor) (xs : List Descriptor) :
    renderingAll (x :: xs) = x.rendering ++ renderingAll xs := by rw [renderingAll]

@[simp]
theorem renderingAll_append (xs ys : List Descriptor) :
    renderingAll (xs ++ ys) = renderingAll xs ++ renderingAll ys := by
  induction xs with
  | nil => simp
  | cons x xs ih => simp [ih, String.append_assoc]

end Descriptor

open Descriptor

/-! ## The loop -/

@[simp]
theorem textFrom_nil (steps : Nat) (acc : String) : d.textFrom steps [] acc = some acc := by
  rw [textFrom]

theorem textFrom_cons {steps : Nat} {id : NodeId} {n : Node} (hn : d.node? id = some n)
    (stack : List NodeId) (acc : String) : d.textFrom (steps + 1) (id :: stack) acc =
      d.textFrom steps (n.below ++ stack) (acc ++ n.ownText) := by
  simp only [textFrom, hn]

/-- Where the loop takes a step for each node of some subtrees and gathers their texts one by one, it
does so for all of them. -/
theorem textFrom_map_id {xs : List Descriptor}
    (h : ∀ x ∈ xs, ∀ steps stack acc, d.textFrom (x.preorder.length + steps) (x.id :: stack) acc =
      d.textFrom steps stack (acc ++ x.rendering)) (steps : Nat) (stack : List NodeId)
    (acc : String) : d.textFrom ((preorderAll xs).length + steps) (xs.map Descriptor.id ++ stack) acc =
      d.textFrom steps stack (acc ++ renderingAll xs) := by
  induction xs generalizing acc with
  | nil => simp
  | cons x xs ih =>
      rw [List.forall_mem_cons] at h
      rw [preorderAll_cons, List.length_append, Nat.add_assoc, List.map_cons, List.cons_append,
        h.1, ih h.2, renderingAll_cons, String.append_assoc]

/-- The loop takes a step for each node of a subtree on top of the stack, gathers its text, and goes on
with what is below it on the stack. -/
theorem Shows.textFrom_eq (hwf : d.WellFormed) {x : Descriptor} (h : d.Shows x) (steps : Nat)
    (stack : List NodeId) (acc : String) :
    d.textFrom (x.preorder.length + steps) (x.id :: stack) acc =
      d.textFrom steps stack (acc ++ x.rendering) := by
  induction x using childInduction generalizing steps stack acc with
  | step x ih =>
      obtain ⟨q, hq⟩ := h x (self_mem_preorder x)
      rw [preorder_eq, List.length_cons, Nat.add_right_comm, textFrom_cons hq]
      cases hkind : x.kind with
      | text =>
          -- A text node that is held has no children, so the loop pushes none.
          have hchildren : x.children = [] := by
            simpa using hwf.children_eq_nil hq hkind
          have hbelow : (x.toNode q).below = [] := by simp [Node.below, toNode, hkind]
          have hown : (x.toNode q).ownText = x.text.getD "" := by simp [Node.ownText, toNode, hkind]
          rw [hbelow, hown, rendering_of_text hkind, hchildren]
          simp
      | element =>
          -- An element pushes its children in order, and the loop gathers them one by one.
          have hbelow : (x.toNode q).below = x.children.map Descriptor.id := by
            simp [Node.below, toNode, hkind]
          have hown : (x.toNode q).ownText = lineFeed x.tag := by
            simp [Node.ownText, toNode, hkind, lineFeed]
          have hgathered := textFrom_map_id fun c hc => ih c hc (h.child hc)
          rw [hbelow, hown, hgathered, rendering_of_element hkind, String.append_assoc]

/-- As many steps as the subtree has nodes, or any number above, end the loop with its text. -/
theorem Shows.textFrom_eq_rendering (hwf : d.WellFormed) {x : Descriptor} (h : d.Shows x)
    {steps : Nat} (hsteps : x.preorder.length ≤ steps) :
    d.textFrom steps [x.id] "" = some x.rendering := by
  obtain ⟨spare, rfl⟩ := Nat.exists_eq_add_of_le hsteps
  rw [h.textFrom_eq hwf, textFrom_nil, String.empty_append]

theorem Shows.innerText_eq (hwf : d.WellFormed) {x : Descriptor} (h : d.Shows x) :
    d.innerText x.id = some x.rendering := by
  have hlength := h.length_preorder_le_size hwf
  have hid : d.contains x.id := h.contains (by simp [ids_eq])
  rw [innerText, if_pos hid]
  exact h.textFrom_eq_rendering hwf (by omega)

/-! ## Every node stands for a tree -/

/-- Numbers that each belong to a tree that is shown belong to a list of such trees. -/
theorem exists_shows_of_forall {ids : List NodeId} (h : ∀ id ∈ ids, ∃ x, x.id = id ∧ d.Shows x) :
    ∃ xs : List Descriptor, xs.map Descriptor.id = ids ∧ ∀ x ∈ xs, d.Shows x := by
  induction ids with
  | nil => exact ⟨[], rfl, List.forall_mem_nil _⟩
  | cons id ids ih =>
      rw [List.forall_mem_cons] at h
      obtain ⟨x, rfl, hx⟩ := h.1
      obtain ⟨xs, rfl, hxs⟩ := ih h.2
      exact ⟨x :: xs, rfl, List.forall_mem_cons.mpr ⟨hx, hxs⟩⟩

/-- In a well-formed document every node is the top of a tree that is shown: walking downwards ends. -/
theorem WellFormed.exists_shows (hwf : d.WellFormed) {id : NodeId} (hid : d.contains id) :
    ∃ x, x.id = id ∧ d.Shows x := by
  -- The children stand for trees by induction, and the node with these for one.
  induction id using hwf.wellFounded_down.induction with
  | _ id ih =>
      obtain ⟨n, hn⟩ := contains_iff.mp hid
      obtain ⟨children, hchildren, hshows⟩ := exists_shows_of_forall fun c hc => by
        have hup : d.Up c id := (hwf.mem_children_iff hn).mp hc
        exact ih c hup hup.contains
      refine ⟨⟨id, n.kind, n.tag, n.classValue, n.attrs, n.data, children⟩, rfl, ?_⟩
      refine shows_iff.mpr ⟨⟨n.parent, ?_⟩, hshows⟩
      obtain rfl : n.id = id := hwf.id_eq hn
      rw [hn, toNode, hchildren]

/-! ## The text after an edit -/

/-- The text of a node after an edit is that of its tree, edited. -/
theorem Shows.innerText_apply (hwf : d.WellFormed) {e : Edit} {x : Descriptor} {r : Record}
    (h : d.Shows x) (hok : d.apply e = (.ok r, d')) :
    d'.innerText x.id = some (x.edit e).rendering := by
  have hafter := (h.apply_ok hwf hok).innerText_eq (hwf.of_apply_eq hok)
  rwa [edit_id] at hafter

/-- An edit whose target is not below a node leaves the node its text. -/
theorem Shows.innerText_apply_of_not_below (hwf : d.WellFormed) {e : Edit} {x : Descriptor} {r : Record}
    (h : d.Shows x) (hok : d.apply e = (.ok r, d')) (hout : ¬ ReflTransGen d.Up e.target x.id) :
    d'.innerText x.id = d.innerText x.id := by
  rw [← h.mem_ids_iff hwf] at hout
  rw [h.innerText_apply hwf hok, edit_of_notMem hout, h.innerText_eq hwf]

namespace Descriptor

theorem edit_of_childList {e : Edit} {x : Descriptor} (hx : x.id = e.target)
    (hkind : e.kind = .childList) :
    x.edit e = { x with children := x.children.filter (fun c => c.id ∉ e.removed) ++ e.added } := by
  rw [edit_eq, if_pos hx, changed, hkind]

/-- The text of an element whose list of children changed. -/
theorem rendering_edit_of_element {e : Edit} {x : Descriptor} (hx : x.id = e.target)
    (hkind : e.kind = .childList) (helement : x.kind = .element) :
    (x.edit e).rendering = lineFeed x.tag ++
      renderingAll (x.children.filter fun c => c.id ∉ e.removed) ++ renderingAll e.added := by
  rw [edit_of_childList hx hkind, rendering_of_element (by exact helement), renderingAll_append,
    String.append_assoc]

/-- The text of a text node is its data, whatever its list of children. -/
theorem rendering_edit_of_text {e : Edit} {x : Descriptor} (hx : x.id = e.target)
    (hkind : e.kind = .childList) (htext : x.kind = .text) : (x.edit e).rendering = x.rendering := by
  rw [edit_of_childList hx hkind, rendering_of_text htext, rendering_of_text (by exact htext)]

end Descriptor

/-- A text node accepts only an edit of its children that takes none out and adds none. -/
theorem Shows.removed_eq_nil_of_text (hwf : d.WellFormed) {e : Edit} {x : Descriptor} (h : d.Shows x)
    (hx : x.id = e.target) (htext : x.kind = .text) (hfault : d.childListFault e = none) :
    e.removed = [] ∧ e.added = [] := by
  obtain ⟨q, hq⟩ := h x (self_mem_preorder x)
  obtain ⟨-, hup, hinsert⟩ := childListFault_eq_none_iff.mp hfault
  obtain ⟨⟨n, hn, hadded⟩, -⟩ := insertFault_eq_none_iff.mp hinsert
  rw [hx] at hq
  obtain rfl : x.toNode q = n := Option.some.inj (hq.symm.trans hn)
  refine ⟨List.eq_nil_iff_forall_not_mem.mpr fun c hc => ?_, hadded (by simp [Node.isText, htext])⟩
  have hchild := (hwf.mem_children_iff hq).mpr (hup c hc)
  rw [hwf.children_eq_nil hq htext] at hchild
  exact List.not_mem_nil hchild

/-! ## Main result -/

/-- In every document that comes about every node stands for a tree. The loop that gathers the text of
a node ends by itself, after as many steps as the tree has nodes, and gathers the text of the tree. An
edit that is accepted leaves their texts to all nodes that are neither its target nor above it. If it is
one of a child list and its target is an element, the text of the target is afterwards the line feed of
a line break, if it is one, then the texts of the children that remain and then those of the subtrees
that were added. If its target is a text node it takes nothing out and adds nothing, and the text of the
target stays. -/
theorem innerText_is_rendering (h : Reachable d) :
    (∀ id, d.contains id → ∃ x, d.subtree? id = some x ∧ d.innerText id = some x.rendering ∧
      ∀ steps, x.preorder.length ≤ steps → d.textFrom steps [id] "" = some x.rendering) ∧
    (∀ e r d', d.apply e = (.ok r, d') →
      (∀ id, d.contains id → ¬ ReflTransGen d.Up e.target id → d'.innerText id = d.innerText id) ∧
      (e.kind = .childList → ∃ x, d.subtree? e.target = some x ∧
        (x.kind = .element → d'.innerText e.target = some (lineFeed x.tag ++
          renderingAll (x.children.filter fun c => c.id ∉ e.removed) ++ renderingAll e.added)) ∧
        (x.kind = .text → e.removed = [] ∧ e.added = [] ∧
          d'.innerText e.target = d.innerText e.target))) := by
  have hwf := h.wellFormed
  constructor
  · intro id hid
    obtain ⟨x, rfl, hx⟩ := hwf.exists_shows hid
    exact ⟨x, hx.subtree?_eq hwf, hx.innerText_eq hwf, fun _ => hx.textFrom_eq_rendering hwf⟩
  · intro e r d' hok
    obtain ⟨hfault, -, -⟩ := hwf.apply_eq_ok_iff.mp hok
    constructor
    · intro id hid hout
      obtain ⟨x, rfl, hx⟩ := hwf.exists_shows hid
      exact hx.innerText_apply_of_not_below hwf hok hout
    · intro hkind
      obtain ⟨x, hid, hx⟩ := hwf.exists_shows (contains_target_of_editFault hfault)
      refine ⟨x, hid ▸ hx.subtree?_eq hwf, fun helement => ?_, fun htext => ?_⟩
      · rw [← hid, hx.innerText_apply hwf hok, rendering_edit_of_element hid hkind helement]
      · obtain ⟨hremoved, hadded⟩ :=
          hx.removed_eq_nil_of_text hwf hid htext (childListFault_of_editFault hkind hfault)
        refine ⟨hremoved, hadded, ?_⟩
        rw [← hid, hx.innerText_apply hwf hok, rendering_edit_of_text hid hkind htext,
          hx.innerText_eq hwf]

/-- The old word spelled anew behind its line break. -/
def respell : Edit := ⟨2, .childList, [⟨6, .text, none, none, ∅, some "the", []⟩], [3], none⟩

/-- A word that was taken out is edited: the page above it reads as before, and so does the text that
was taken out of the word. -/
theorem innerText_is_rendering_replaced :
    Reachable replaced ∧ ∃ r d', replaced.apply respell = (.ok r, d') ∧
      d'.innerText 2 = some "\nthe" ∧ d'.innerText 1 = replaced.innerText 1 ∧
      d'.innerText 3 = replaced.innerText 3 := by
  have hok : replaced.apply respell = (.ok respell.record, (replaced.apply respell).2) :=
    Prod.ext (by rfl) rfl
  obtain ⟨hkept, hchildren⟩ := (innerText_is_rendering reachable_replaced).2 _ _ _ hok
  refine ⟨reachable_replaced, _, _, hok, ?_, hkept 1 (by rfl) ?_, hkept 3 (by rfl) ?_⟩
  · obtain ⟨x, hx, helement, -⟩ := hchildren rfl
    have hword : replaced.subtree? 2 = some ⟨2, .element, some "span", none, ∅, none,
        [⟨3, .text, none, none, ∅, some "teh", []⟩, ⟨5, .element, some "br", none, ∅, none, []⟩]⟩ := by
      rfl
    obtain rfl := Option.some.inj (hx.symm.trans hword)
    refine (helement rfl).trans ?_
    simp [respell, lineFeed, rendering_of_text, rendering_of_element]
  -- Nothing is above the word, which was taken out.
  all_goals
    intro habove
    have hmem := reachable_replaced.wellFormed.mem_lineage_iff.mpr ⟨by rfl, habove⟩
    revert hmem
    decide

/-- The children that a text node has after an edit give no text, yet it keeps its own. -/
theorem innerText_of_text_not_of_children :
    ¬ ∀ d e r d' x, Reachable d → d.apply e = (.ok r, d') → e.kind = .childList →
      d.subtree? e.target = some x → d'.innerText e.target = some (lineFeed x.tag ++
        renderingAll (x.children.filter fun c => c.id ∉ e.removed) ++ renderingAll e.added) := by
  intro hall
  have hempty := hall replaced ⟨3, .childList, [], [], none⟩ ⟨3, [], [], .childList⟩ replaced
    ⟨3, .text, none, none, ∅, some "teh", []⟩ reachable_replaced (by rfl) rfl (by rfl)
  have hdata : replaced.innerText 3 = some "teh" := by rfl
  rw [hdata] at hempty
  simp [lineFeed] at hempty

end EditWatch.Document
