import EditWatch.Document.Walk
import EditWatch.Proofs.Document.WellFormed

/-!
# EditWatch.Proofs.Document.Reach -- what the root reaches

The walk that marks reachable nodes keeps a stack and counts down its steps. Every step either
drops an entry of the stack or pays for the children that it pushes with the links of a node that
was not seen before, so the steps suffice for any document, and what is marked is exactly what
child links reach. In a well-formed document the nodes that the root reaches are those from which
parents lead to the root, and dropping the others keeps the document well-formed.
-/

namespace EditWatch.Document

open Relation

variable {d : Document}

/-- One step downwards: `c` is listed among the children of `p`. -/
def Down (d : Document) (p c : NodeId) : Prop := ∃ n, d.node? p = some n ∧ c ∈ n.children

/-! ## The steps suffice -/

/-- The child links of those entries whose number was not seen yet. -/
def unseenLinks (seen : Std.ExtTreeSet NodeId) : List (NodeId × Node) → Nat
  | [] => 0
  | (id, n) :: rest => (if id ∈ seen then 0 else n.children.length) + unseenLinks seen rest

/-- At the start no link was seen. -/
theorem linkCount_eq_unseenLinks (d : Document) :
    d.linkCount = unseenLinks ∅ d.nodes.toList := by
  have hfold : ∀ (l : List (NodeId × Node)) (acc : Nat),
      l.foldl (fun a e => a + e.2.children.length) acc = acc + unseenLinks ∅ l := by
    intro l
    induction l with
    | nil => intro acc; rfl
    | cons e l ih =>
        intro acc
        rw [List.foldl_cons, ih, unseenLinks, if_neg Std.ExtTreeSet.not_mem_empty, Nat.add_assoc]
  rw [linkCount, Std.ExtTreeMap.foldl_eq_foldl_toList, hfold, Nat.zero_add]

theorem unseenLinks_insert_le (seen : Std.ExtTreeSet NodeId) (id : NodeId)
    (l : List (NodeId × Node)) : unseenLinks (seen.insert id) l ≤ unseenLinks seen l := by
  induction l with
  | nil => rfl
  | cons e l ih =>
      have hhead : (if e.1 ∈ seen.insert id then 0 else e.2.children.length)
          ≤ if e.1 ∈ seen then 0 else e.2.children.length := by
        split
        · exact Nat.zero_le _
        · rename_i hout
          rw [if_neg fun hin => hout (Std.ExtTreeSet.mem_insert.mpr (Or.inr hin))]
      exact Nat.add_le_add hhead ih

/-- Seeing a node pays for its children. -/
theorem unseenLinks_insert_add_le {seen : Std.ExtTreeSet NodeId} {id : NodeId} {n : Node}
    {l : List (NodeId × Node)} (hmem : (id, n) ∈ l) (hseen : id ∉ seen) :
    unseenLinks (seen.insert id) l + n.children.length ≤ unseenLinks seen l := by
  induction l with
  | nil => exact absurd hmem List.not_mem_nil
  | cons e l ih =>
      rcases List.mem_cons.mp hmem with rfl | hmem
      · have hrest := unseenLinks_insert_le seen id l
        rw [unseenLinks, unseenLinks, if_neg hseen, if_pos Std.ExtTreeSet.mem_insert_self]
        omega
      · have hrest := ih hmem
        have hhead := unseenLinks_insert_le seen id [e]
        simp only [unseenLinks] at hhead ⊢
        omega

/-! ## What is marked -/

/-- Only what the stack reaches is marked. -/
theorem mem_reachFrom_sound {fuel : Nat} {stack : List NodeId} {seen : Std.ExtTreeSet NodeId}
    {id : NodeId} (h : id ∈ d.reachFrom fuel stack seen) :
    id ∈ seen ∨ ∃ s ∈ stack, ReflTransGen d.Down s id := by
  fun_induction reachFrom d fuel stack seen with
  | case1 | case2 => exact Or.inl h
  | case3 fuel s stack seen hseen ih =>
      rcases ih h with h | ⟨t, ht, hreach⟩
      · exact Or.inl h
      · exact Or.inr ⟨t, List.mem_cons_of_mem s ht, hreach⟩
  | case4 fuel s stack seen hseen n hn ih =>
      rcases ih h with h | ⟨t, ht, hreach⟩
      · rcases mem_insert_node.mp h with rfl | h
        · exact Or.inr ⟨id, List.mem_cons_self, ReflTransGen.refl⟩
        · exact Or.inl h
      · rcases List.mem_append.mp ht with ht | ht
        · exact Or.inr ⟨s, List.mem_cons_self, ReflTransGen.head ⟨n, hn, ht⟩ hreach⟩
        · exact Or.inr ⟨t, List.mem_cons_of_mem s ht, hreach⟩
  | case5 fuel s stack seen hseen hn ih =>
      rcases ih h with h | ⟨t, ht, hreach⟩
      · rcases mem_insert_node.mp h with rfl | h
        · exact Or.inr ⟨id, List.mem_cons_self, ReflTransGen.refl⟩
        · exact Or.inl h
      · exact Or.inr ⟨t, List.mem_cons_of_mem s ht, hreach⟩

/-- Moving the top of the stack to the seen nodes loses nothing. -/
theorem mem_insert_or_mem {seen : Std.ExtTreeSet NodeId} {s id : NodeId} {stack : List NodeId}
    (h : id ∈ seen ∨ id ∈ s :: stack) : id ∈ seen.insert s ∨ id ∈ stack := by
  rcases h with h | h
  · exact Or.inl (mem_insert_node.mpr (Or.inr h))
  · rcases List.mem_cons.mp h with rfl | h
    · exact Or.inl (mem_insert_node.mpr (Or.inl rfl))
    · exact Or.inr h

/-- With enough steps the marked nodes hold all that was seen and the stack, and they are closed
under child links if those of the seen nodes stay among them. -/
theorem reachFrom_complete {fuel : Nat} {stack : List NodeId} {seen : Std.ExtTreeSet NodeId}
    (hfuel : stack.length + unseenLinks seen d.nodes.toList < fuel)
    (hclosed : ∀ p ∈ seen, ∀ c, d.Down p c → c ∈ seen ∨ c ∈ stack) :
    (∀ id, id ∈ seen ∨ id ∈ stack → id ∈ d.reachFrom fuel stack seen) ∧
      ∀ p ∈ d.reachFrom fuel stack seen, ∀ c, d.Down p c → c ∈ d.reachFrom fuel stack seen := by
  fun_induction reachFrom d fuel stack seen with
  | case1 => exact absurd hfuel (Nat.not_lt_zero _)
  | case2 => simpa using hclosed
  | case3 fuel s stack seen hseen ih =>
      have hs : s ∈ seen := hseen
      have hsame : ∀ id, id ∈ seen ∨ id ∈ s :: stack → id ∈ seen ∨ id ∈ stack := by
        rintro id (h | h)
        · exact Or.inl h
        · rcases List.mem_cons.mp h with rfl | h
          · exact Or.inl hs
          · exact Or.inr h
      rw [List.length_cons] at hfuel
      obtain ⟨hin, hout⟩ := ih (by omega) fun p hp c hc => hsame c (hclosed p hp c hc)
      exact ⟨fun id h => hin id (hsame id h), hout⟩
  | case4 fuel s stack seen hseen n hn ih =>
      -- One entry leaves the stack, and the links of `s` make room for its children.
      have hpay := unseenLinks_insert_add_le
        (Std.ExtTreeMap.mem_toList_iff_getElem?_eq_some.mpr hn) hseen
      rw [List.length_cons] at hfuel
      have hmoved : ∀ id, id ∈ seen ∨ id ∈ s :: stack →
          id ∈ seen.insert s ∨ id ∈ n.children ++ stack := fun id h =>
        (mem_insert_or_mem h).imp_right (List.mem_append_right n.children)
      have hclosed' : ∀ p ∈ seen.insert s, ∀ c, d.Down p c →
          c ∈ seen.insert s ∨ c ∈ n.children ++ stack := by
        intro p hp c hc
        rcases mem_insert_node.mp hp with rfl | hp
        · obtain ⟨m, hm, hmem⟩ := hc
          obtain rfl := Option.some.inj (hn.symm.trans hm)
          exact Or.inr (List.mem_append_left stack hmem)
        · exact hmoved c (hclosed p hp c hc)
      obtain ⟨hin, hout⟩ := ih (by rw [List.length_append]; omega) hclosed'
      exact ⟨fun id h => hin id (hmoved id h), hout⟩
  | case5 fuel s stack seen hseen hn ih =>
      have hless := unseenLinks_insert_le seen s d.nodes.toList
      rw [List.length_cons] at hfuel
      have hclosed' : ∀ p ∈ seen.insert s, ∀ c, d.Down p c →
          c ∈ seen.insert s ∨ c ∈ stack := by
        intro p hp c hc
        rcases mem_insert_node.mp hp with rfl | hp
        · obtain ⟨m, hm, -⟩ := hc
          exact absurd (hn.symm.trans hm) (Option.some_ne_none m).symm
        · exact mem_insert_or_mem (hclosed p hp c hc)
      obtain ⟨hin, hout⟩ := ih (by omega) hclosed'
      exact ⟨fun id h => hin id (mem_insert_or_mem h), hout⟩

/-- The walk marks exactly what child links reach, whatever the document. -/
theorem mem_reachable_iff {r id : NodeId} : id ∈ d.reachable r ↔ ReflTransGen d.Down r id := by
  have hfuel : [r].length + unseenLinks ∅ d.nodes.toList < d.linkCount + 2 := by
    rw [linkCount_eq_unseenLinks, List.length_singleton]
    omega
  obtain ⟨hin, hout⟩ := reachFrom_complete hfuel fun p hp =>
    absurd hp Std.ExtTreeSet.not_mem_empty
  constructor
  · intro h
    rcases mem_reachFrom_sound h with h | ⟨s, hs, hreach⟩
    · exact absurd h Std.ExtTreeSet.not_mem_empty
    · rwa [List.mem_singleton.mp hs] at hreach
  · intro h
    induction h with
    | refl => exact hin r (Or.inr List.mem_cons_self)
    | tail _ hstep ih => exact hout _ ih _ hstep

/-! ## Attached nodes -/

/-- The root is the node itself or above it. -/
def Attached (d : Document) (id : NodeId) : Prop :=
  ∃ r, d.root = some r ∧ ReflTransGen d.Up id r

theorem WellFormed.down_iff_up (hwf : d.WellFormed) {p c : NodeId} : d.Down p c ↔ d.Up c p := by
  constructor
  · rintro ⟨n, hn, hc⟩
    exact (hwf.mem_children_iff hn).mp hc
  · intro hup
    obtain ⟨n, hn, -⟩ := hwf.element_of_up hup
    exact ⟨n, hn, (hwf.mem_children_iff hn).mpr hup⟩

/-- Down from `p` to `c` along children is up from `c` to `p` along parents. -/
theorem WellFormed.reflTransGen_down_iff (hwf : d.WellFormed) {p c : NodeId} :
    ReflTransGen d.Down p c ↔ ReflTransGen d.Up c p := by
  have hdown : d.Down = Function.swap d.Up := by
    funext p c
    exact propext hwf.down_iff_up
  rw [hdown, reflTransGen_swap]

theorem attached_root {r : NodeId} (hr : d.root = some r) : d.Attached r :=
  ⟨r, hr, ReflTransGen.refl⟩

/-- Whatever is attached exists. -/
theorem WellFormed.contains_of_attached (hwf : d.WellFormed) {id : NodeId} (h : d.Attached id) :
    d.contains id := by
  obtain ⟨r, hr, hup⟩ := h
  rcases hup.cases_head with rfl | ⟨p, hp, -⟩
  · obtain ⟨n, hn, -⟩ := hwf.root_top hr
    exact contains_of_node? hn
  · exact hp.contains

/-- A node is attached if and only if its parent is; the root alone has none. -/
theorem WellFormed.attached_iff_of_up (hwf : d.WellFormed) {c p : NodeId} (hup : d.Up c p) :
    d.Attached c ↔ d.Attached p := by
  constructor
  · rintro ⟨r, hr, hreach⟩
    rcases hreach.cases_head with rfl | ⟨q, hq, hreach⟩
    · obtain ⟨n, hn, htop⟩ := hwf.root_top hr
      obtain ⟨m, hm, hparent⟩ := up_iff.mp hup
      obtain rfl := Option.some.inj (hn.symm.trans hm)
      exact absurd (htop.symm.trans hparent) (Option.some_ne_none p).symm
    · exact ⟨r, hr, Up.rightUnique hq hup ▸ hreach⟩
  · rintro ⟨r, hr, hreach⟩
    exact ⟨r, hr, ReflTransGen.head hup hreach⟩

/-! ## Dropping what is not attached -/

@[simp]
theorem root_prune (d : Document) : d.prune.1.root = d.root := by
  rw [prune]
  split <;> rfl

/-- The nodes that remain are the attached ones, unchanged. -/
theorem WellFormed.node?_prune (hwf : d.WellFormed) {id : NodeId} {n : Node} :
    d.prune.1.node? id = some n ↔ d.node? id = some n ∧ d.Attached id := by
  rw [prune]
  split
  · rename_i hr
    simp [node?, Attached, hr]
  · rename_i r hr
    have hkept : d.Attached id ↔ (d.reachable r).contains id := by
      rw [Std.ExtTreeSet.contains_iff_mem, mem_reachable_iff, hwf.reflTransGen_down_iff, Attached]
      simp [hr]
    rw [hkept]
    exact (congrArg (· = some n) Std.ExtTreeMap.getElem?_filter').to_iff.trans
      Option.filter_eq_some_iff

theorem WellFormed.up_prune_iff (hwf : d.WellFormed) {c p : NodeId} :
    d.prune.1.Up c p ↔ d.Up c p ∧ d.Attached c := by
  simp only [up_iff, hwf.node?_prune]
  tauto

/-- Dropping the nodes that the root does not reach keeps a document well-formed. -/
theorem WellFormed.prune (hwf : d.WellFormed) : d.prune.1.WellFormed where
  id_eq hn := hwf.id_eq (hwf.node?_prune.mp hn).1
  mem_children_iff {p n c} hn := by
    obtain ⟨hn, hatt⟩ := hwf.node?_prune.mp hn
    rw [hwf.mem_children_iff hn, hwf.up_prune_iff]
    exact ⟨fun hup => ⟨hup, (hwf.attached_iff_of_up hup).mpr hatt⟩, fun h => h.1⟩
  nodup_children hn := hwf.nodup_children (hwf.node?_prune.mp hn).1
  element_of_up {c p} hup := by
    obtain ⟨hup, hatt⟩ := hwf.up_prune_iff.mp hup
    obtain ⟨n, hn, hkind⟩ := hwf.element_of_up hup
    exact ⟨n, hwf.node?_prune.mpr ⟨hn, (hwf.attached_iff_of_up hup).mp hatt⟩, hkind⟩
  acyclic id hcycle :=
    hwf.acyclic id (TransGen.mono (fun _ _ hup => (hwf.up_prune_iff.mp hup).1) id id hcycle)
  root_top {r} hr := by
    rw [root_prune] at hr
    obtain ⟨n, hn, htop⟩ := hwf.root_top hr
    exact ⟨n, hwf.node?_prune.mpr ⟨hn, attached_root hr⟩, htop⟩

theorem WellFormed.attached_prune_iff (hwf : d.WellFormed) {id : NodeId} :
    d.prune.1.Attached id ↔ d.Attached id := by
  constructor
  · rintro ⟨r, hr, hreach⟩
    rw [root_prune] at hr
    exact ⟨r, hr, ReflTransGen.mono (fun _ _ hup => (hwf.up_prune_iff.mp hup).1) id r hreach⟩
  · rintro ⟨r, hr, hreach⟩
    refine ⟨r, (root_prune d).trans hr, ?_⟩
    induction hreach using ReflTransGen.head_induction_on with
    | refl => exact ReflTransGen.refl
    | head hup hreach ih =>
        exact ReflTransGen.head (hwf.up_prune_iff.mpr ⟨hup, r, hr, hreach.head hup⟩) ih

/-- Once the detached nodes are dropped all nodes are attached. -/
theorem WellFormed.attached_of_contains_prune (hwf : d.WellFormed) {id : NodeId}
    (h : d.prune.1.contains id) : d.prune.1.Attached id := by
  obtain ⟨n, hn⟩ := contains_iff.mp h
  exact hwf.attached_prune_iff.mpr (hwf.node?_prune.mp hn).2

end EditWatch.Document
