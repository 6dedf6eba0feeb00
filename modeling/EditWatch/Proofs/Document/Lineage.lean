import EditWatch.Proofs.Document.Reach

/-!
# EditWatch.Proofs.Document.Lineage -- walking upwards

The walk to the root is given as many steps as there are nodes. In a well-formed document it
never visits a node twice, so it cannot run out of steps: the lineage of a node holds exactly the
nodes above it, and a node is attached as the walk says exactly if parents lead from it to the
root. What the walk meets first of the nodes with a class token is the nearest of them.
-/

namespace EditWatch.Document

open Relation

variable {d : Document}

/-- Different numbers that are all taken are at most as many as there are nodes. -/
theorem length_le_size {ids : List NodeId} (hnodup : ids.Nodup)
    (hids : ∀ id ∈ ids, d.contains id) : ids.length ≤ d.size := by
  have hsub : ids ⊆ d.nodes.keys := fun id hid => by
    rw [Std.ExtTreeMap.mem_keys, Std.ExtTreeMap.mem_iff_isSome_getElem?]
    exact hids id hid
  have hlen := (hnodup.subperm hsub).length_le
  rwa [Std.ExtTreeMap.length_keys] at hlen

theorem self_mem_lineageFrom {fuel : Nat} {id : NodeId} : id ∈ d.lineageFrom (fuel + 1) id := by
  rw [lineageFrom]
  exact List.mem_cons_self

theorem mem_lineageFrom_succ {fuel : Nat} {id p a : NodeId} (hup : d.Up id p)
    (ha : a ∈ d.lineageFrom fuel p) : a ∈ d.lineageFrom (fuel + 1) id := by
  have hp : d.parent? id = some p := hup
  simp only [lineageFrom, hp]
  exact List.mem_cons_of_mem id ha

/-- Only nodes above are visited. -/
theorem reflTransGen_of_mem_lineageFrom {fuel : Nat} {id a : NodeId}
    (ha : a ∈ d.lineageFrom fuel id) : ReflTransGen d.Up id a := by
  induction fuel generalizing id with
  | zero => exact absurd ha List.not_mem_nil
  | succ fuel ih =>
      rw [lineageFrom] at ha
      rcases List.mem_cons.mp ha with rfl | ha
      · exact ReflTransGen.refl
      · split at ha
        · rename_i p hp
          exact ReflTransGen.head hp (ih ha)
        · exact absurd ha List.not_mem_nil

/-- And every node above is visited after enough steps. -/
theorem exists_mem_lineageFrom {id a : NodeId} (hreach : ReflTransGen d.Up id a) :
    ∃ steps, a ∈ d.lineageFrom steps id := by
  induction hreach using ReflTransGen.head_induction_on with
  | refl => exact ⟨1, self_mem_lineageFrom⟩
  | head hup _ ih =>
      obtain ⟨steps, ha⟩ := ih
      exact ⟨steps + 1, mem_lineageFrom_succ hup ha⟩

/-! ## The steps suffice -/

/-- A walk with fewer steps is the beginning of one with more. -/
theorem take_lineageFrom {m n : Nat} (h : m ≤ n) (id : NodeId) :
    (d.lineageFrom n id).take m = d.lineageFrom m id := by
  induction m generalizing n id with
  | zero => rfl
  | succ m ih =>
      obtain ⟨n, rfl⟩ : ∃ k, n = k + 1 := ⟨n - 1, by omega⟩
      rw [lineageFrom, lineageFrom, List.take_succ_cons]
      cases d.parent? id with
      | none => simp
      | some p => exact congrArg _ (ih (by omega) p)

/-- A walk repeats no node: it would lead from a node back to it. -/
theorem WellFormed.nodup_lineageFrom (hwf : d.WellFormed) (steps : Nat) (id : NodeId) :
    (d.lineageFrom steps id).Nodup := by
  induction steps generalizing id with
  | zero => exact List.nodup_nil
  | succ steps ih =>
      rw [lineageFrom, List.nodup_cons]
      cases hp : d.parent? id with
      | none => simp
      | some p =>
          refine ⟨?_, ih p⟩
          intro hmem
          exact hwf.acyclic id (TransGen.head' hp (reflTransGen_of_mem_lineageFrom hmem))

theorem WellFormed.contains_of_above (hwf : d.WellFormed) {id a : NodeId} (hid : d.contains id)
    (hreach : ReflTransGen d.Up id a) : d.contains a := by
  rcases hreach.cases_tail with rfl | ⟨b, -, hup⟩
  · exact hid
  · exact hwf.contains_of_up hup

/-- A walk comes to its end before it has taken more steps than there are nodes, so it makes no
difference how many more it is given. -/
theorem WellFormed.lineageFrom_eq (hwf : d.WellFormed) {steps : Nat} {id : NodeId}
    (hid : d.contains id) (hsteps : d.size ≤ steps) : d.lineageFrom steps id = d.lineage id := by
  have hlength : (d.lineageFrom steps id).length ≤ d.size := by
    refine length_le_size (hwf.nodup_lineageFrom steps id) fun a ha => ?_
    exact hwf.contains_of_above hid (reflTransGen_of_mem_lineageFrom ha)
  rw [lineage, if_pos hid, ← take_lineageFrom hsteps, List.take_of_length_le hlength]

theorem WellFormed.nodup_lineage (hwf : d.WellFormed) (id : NodeId) : (d.lineage id).Nodup := by
  rw [lineage]
  split
  · exact hwf.nodup_lineageFrom _ _
  · exact List.nodup_nil

/-- The lineage of a node holds the node and all nodes above it. -/
theorem WellFormed.mem_lineage_iff (hwf : d.WellFormed) {id a : NodeId} :
    a ∈ d.lineage id ↔ d.contains id ∧ ReflTransGen d.Up id a := by
  constructor
  · intro ha
    rw [lineage] at ha
    split at ha
    · exact ⟨‹_›, reflTransGen_of_mem_lineageFrom ha⟩
    · exact absurd ha List.not_mem_nil
  · rintro ⟨hid, hreach⟩
    obtain ⟨steps, ha⟩ := exists_mem_lineageFrom hreach
    rw [← take_lineageFrom (Nat.le_max_left steps d.size)] at ha
    rw [← hwf.lineageFrom_eq hid (Nat.le_max_right steps d.size)]
    exact List.mem_of_mem_take ha

/-! ## Attached nodes -/

/-- A node is attached as the walk says exactly if parents lead from it to the root. -/
theorem WellFormed.isAttached_iff (hwf : d.WellFormed) {id : NodeId} :
    d.isAttached id ↔ d.Attached id := by
  rw [isAttached]
  cases hr : d.root with
  | none => simp [Attached, hr]
  | some r =>
      simp only [List.contains_iff_mem, hwf.mem_lineage_iff]
      constructor
      · rintro ⟨-, hreach⟩
        exact ⟨r, hr, hreach⟩
      · intro hatt
        refine ⟨hwf.contains_of_attached hatt, ?_⟩
        obtain ⟨r', hr', hreach⟩ := hatt
        rwa [Option.some.inj (hr.symm.trans hr')]

/-! ## The nearest node with a token -/

/-- Of a node and those above it `a` carries the token, and none that stands before `a` on the way
up does. -/
structure Nearest (d : Document) (token : String) (id a : NodeId) : Prop where
  above : ReflTransGen d.Up id a
  carries : d.hasClass a token
  first : ∀ b, ReflTransGen d.Up id b → TransGen d.Up b a → ¬ d.hasClass b token

variable {token : String}

theorem contains_of_hasClass {id : NodeId} (h : d.hasClass id token) : d.contains id := by
  rw [hasClass] at h
  split at h
  · exact contains_of_node? ‹_›
  · exact absurd h Bool.false_ne_true

theorem WellFormed.closestWithClass_eq_none_iff (hwf : d.WellFormed) {id : NodeId} :
    d.closestWithClass id token = none ↔
      ∀ a, ReflTransGen d.Up id a → ¬ d.hasClass a token := by
  rw [closestWithClass, List.find?_eq_none]
  constructor
  · intro h a hreach hclass
    refine h a (hwf.mem_lineage_iff.mpr ⟨?_, hreach⟩) hclass
    rcases hreach.cases_head with rfl | ⟨p, hup, -⟩
    · exact contains_of_hasClass hclass
    · exact hup.contains
  · intro h a ha
    exact h a (hwf.mem_lineage_iff.mp ha).2

/-- The walk from a node goes on with that from its parent. -/
theorem WellFormed.lineage_eq (hwf : d.WellFormed) {id : NodeId} (hid : d.contains id) :
    d.lineage id = id :: ((d.parent? id).map d.lineage).getD [] := by
  rw [← hwf.lineageFrom_eq hid (Nat.le_succ _), lineageFrom]
  cases hp : d.parent? id with
  | none => rfl
  | some p =>
      show id :: d.lineageFrom d.size p = id :: d.lineage p
      rw [hwf.lineageFrom_eq (hwf.contains_of_up hp) (Nat.le_refl _)]

/-- The node itself is asked first, and then its parent. -/
theorem WellFormed.closestWithClass_eq (hwf : d.WellFormed) {id : NodeId} (hid : d.contains id) :
    d.closestWithClass id token =
      if d.hasClass id token then some id
      else (d.parent? id).bind fun p => d.closestWithClass p token := by
  rw [closestWithClass, hwf.lineage_eq hid, List.find?_cons]
  by_cases hclass : d.hasClass id token
  · simp only [hclass, if_true]
  · simp only [hclass]
    cases d.parent? id with
    | none => rfl
    | some p => rfl

theorem WellFormed.nearest_of_closestWithClass (hwf : d.WellFormed) {id a : NodeId}
    (h : d.closestWithClass id token = some a) : d.Nearest token id a := by
  -- The induction goes from a node to its parent, from which the walk goes on.
  induction id using hwf.wellFounded_up.induction with
  | _ id ih =>
      have hid : d.contains id := by
        have ha := List.mem_of_find?_eq_some h
        exact (hwf.mem_lineage_iff.mp ha).1
      rw [hwf.closestWithClass_eq hid] at h
      by_cases hclass : d.hasClass id token
      · rw [if_pos hclass] at h
        obtain rfl := Option.some.inj h
        exact ⟨ReflTransGen.refl, hclass, fun b hb hba =>
          absurd (TransGen.trans_right hb hba) (hwf.acyclic id)⟩
      · rw [if_neg hclass] at h
        obtain ⟨p, hp, hclosest⟩ := Option.bind_eq_some_iff.mp h
        obtain ⟨habove, hcarries, hfirst⟩ := ih p hp hclosest
        refine ⟨ReflTransGen.head hp habove, hcarries, fun b hb hba => ?_⟩
        rcases hb.cases_head with rfl | ⟨q, hq, hqb⟩
        · exact hclass
        · rw [Up.rightUnique hq hp] at hqb
          exact hfirst b hqb hba

/-- Only one node is the nearest. -/
theorem Nearest.unique {id a b : NodeId} (ha : d.Nearest token id a) (hb : d.Nearest token id b) :
    a = b := by
  rcases ReflTransGen.total_of_right_unique Up.rightUnique ha.above hb.above with hab | hba
  · rcases reflTransGen_iff_eq_or_transGen.mp hab with heq | hlt
    · exact heq.symm
    · exact absurd ha.carries (hb.first a ha.above hlt)
  · rcases reflTransGen_iff_eq_or_transGen.mp hba with heq | hlt
    · exact heq
    · exact absurd hb.carries (ha.first b hb.above hlt)

/-- The walk finds the nearest of the nodes with the token. -/
theorem WellFormed.closestWithClass_eq_some_iff (hwf : d.WellFormed) {id a : NodeId} :
    d.closestWithClass id token = some a ↔ d.Nearest token id a := by
  constructor
  · exact hwf.nearest_of_closestWithClass
  · intro hnearest
    cases hclosest : d.closestWithClass id token with
    | none =>
        have hnone := hwf.closestWithClass_eq_none_iff.mp hclosest a hnearest.above
        exact absurd hnearest.carries hnone
    | some b => rw [(hwf.nearest_of_closestWithClass hclosest).unique hnearest]

end EditWatch.Document
