import EditWatch.Json.Basic

/-!
# EditWatch.Proofs.Json.Parts -- values and their parts

What is said of a JSON value goes through its items and members. The lemmas here say it of the parts
in place of the lists that the definitions recurse on: depth, readability, and whether all numbers
are integers.
-/

namespace EditWatch.Json

/-- Induction over a value: a property that a container inherits from its parts and that all other
values have holds. -/
@[elab_as_elim]
theorem partInduction {motive : Json → Prop} (null : motive .null)
    (bool : ∀ b, motive (.bool b)) (num : ∀ n, motive (.num n)) (str : ∀ s, motive (.str s))
    (arr : ∀ items : List Json, (∀ j ∈ items, motive j) → motive (.arr items))
    (obj : ∀ members : List (String × Json), (∀ m ∈ members, motive m.2) →
      motive (.obj members))
    (unreadable : motive .unreadable) (j : Json) : motive j := by
  refine @Json.rec motive (fun items => ∀ j ∈ items, motive j)
    (fun members => ∀ m ∈ members, motive m.2) (fun m => motive m.2)
    null bool num str arr obj unreadable ?_ ?_ ?_ ?_ ?_ j
  · exact List.forall_mem_nil _
  · exact fun j items hj hitems => List.forall_mem_cons.mpr ⟨hj, hitems⟩
  · exact List.forall_mem_nil _
  · exact fun m members hm hmembers => List.forall_mem_cons.mpr ⟨hm, hmembers⟩
  · exact fun _ _ hj => hj

/-! ## Depth -/

theorem depthItems_le {items : List Json} {n : Nat} :
    depthItems items ≤ n ↔ ∀ j ∈ items, j.depth ≤ n := by
  induction items with
  | nil => simp [depthItems]
  | cons j items ih => rw [depthItems, Nat.max_le, ih, List.forall_mem_cons]

theorem depthMembers_le {members : List (String × Json)} {n : Nat} :
    depthMembers members ≤ n ↔ ∀ m ∈ members, m.2.depth ≤ n := by
  induction members with
  | nil => simp [depthMembers]
  | cons m members ih =>
      obtain ⟨k, j⟩ := m
      rw [depthMembers, Nat.max_le, ih, List.forall_mem_cons]

theorem depth_arr_le {items : List Json} {n : Nat} :
    (Json.arr items).depth ≤ n + 1 ↔ ∀ j ∈ items, j.depth ≤ n := by
  rw [depth, Nat.add_le_add_iff_right, depthItems_le]

theorem depth_obj_le {members : List (String × Json)} {n : Nat} :
    (Json.obj members).depth ≤ n + 1 ↔ ∀ m ∈ members, m.2.depth ≤ n := by
  rw [depth, Nat.add_le_add_iff_right, depthMembers_le]

theorem depth_lt_of_mem_arr {items : List Json} {j : Json} (hj : j ∈ items) :
    j.depth < (Json.arr items).depth := by
  rw [depth]
  exact Nat.lt_succ_of_le (depthItems_le.mp (Nat.le_refl _) j hj)

theorem depth_lt_of_mem_obj {members : List (String × Json)} {m : String × Json}
    (hm : m ∈ members) : m.2.depth < (Json.obj members).depth := by
  rw [depth]
  exact Nat.lt_succ_of_le (depthMembers_le.mp (Nat.le_refl _) m hm)

/-! ## Readability -/

theorem readableItems_eq_all (items : List Json) : readableItems items = items.all readable := by
  induction items with
  | nil => rw [readableItems, List.all_nil]
  | cons j items ih => rw [readableItems, ih, List.all_cons]

theorem readableMembers_eq_all (members : List (String × Json)) :
    readableMembers members = members.all fun m => m.2.readable := by
  induction members with
  | nil => rw [readableMembers, List.all_nil]
  | cons m members ih =>
      obtain ⟨k, j⟩ := m
      rw [readableMembers, ih, List.all_cons]

theorem readable_arr_iff {items : List Json} :
    (Json.arr items).readable ↔ ∀ j ∈ items, j.readable := by
  rw [readable, readableItems_eq_all, List.all_eq_true]

theorem readable_obj_iff {members : List (String × Json)} :
    (Json.obj members).readable ↔ ∀ m ∈ members, m.2.readable := by
  rw [readable, readableMembers_eq_all, List.all_eq_true]

/-! ## Integers -/

mutual

/-- All numbers in the value are integers. -/
def integral : Json → Bool
  | .num (.real _) => false
  | .arr items => integralItems items
  | .obj members => integralMembers members
  | _ => true

def integralItems : List Json → Bool
  | [] => true
  | j :: js => j.integral && integralItems js

def integralMembers : List (String × Json) → Bool
  | [] => true
  | (_, j) :: ms => j.integral && integralMembers ms

end

theorem integral_arr_iff {items : List Json} :
    (Json.arr items).integral ↔ ∀ j ∈ items, j.integral := by
  rw [integral]
  induction items with
  | nil => simp [integralItems]
  | cons j items ih => rw [integralItems, Bool.and_eq_true, ih, List.forall_mem_cons]

theorem integral_obj_iff {members : List (String × Json)} :
    (Json.obj members).integral ↔ ∀ m ∈ members, m.2.integral := by
  rw [integral]
  induction members with
  | nil => simp [integralMembers]
  | cons m members ih =>
      obtain ⟨k, j⟩ := m
      rw [integralMembers, Bool.and_eq_true, ih, List.forall_mem_cons]

/-! ## Properties of all parts -/

/-- A property that values without doubles have as soon as the free values among them have it. -/
structure Hereditary (P : Json → Prop) : Prop where
  null : P .null
  str : ∀ s, P (.str s)
  int : ∀ n, P (.num (.int n))
  arr : ∀ {items : List Json}, (∀ j ∈ items, P j) → P (.arr items)
  obj : ∀ {members : List (String × Json)}, (∀ m ∈ members, P m.2) → P (.obj members)

theorem hereditary_readable : Hereditary fun j => j.readable = true where
  null := rfl
  str _ := rfl
  int _ := rfl
  arr := readable_arr_iff.mpr
  obj := readable_obj_iff.mpr

theorem hereditary_integral : Hereditary fun j => j.integral = true where
  null := rfl
  str _ := rfl
  int _ := rfl
  arr := integral_arr_iff.mpr
  obj := integral_obj_iff.mpr

theorem Hereditary.ofString? {P : Json → Prop} (hP : Hereditary P) (s : Option String) :
    P (Json.ofString? s) := by
  cases s with
  | none => exact hP.null
  | some t => exact hP.str t

/-! ## Words -/

theorem exists_ofNat_eq {n : Nat} (hn : n < 0x10000000000000000) :
    ∃ w : WordInt, ofNat n = .num (.int w) ∧ w.val = n := by
  have hword : (n : Int) < 0x10000000000000000 := by omega
  exact ⟨⟨n, by omega, hword⟩, dif_pos hword, rfl⟩

theorem Hereditary.ofNat {P : Json → Prop} (hP : Hereditary P) {n : Nat}
    (hn : n < 0x10000000000000000) : P (Json.ofNat n) := by
  obtain ⟨w, hw, -⟩ := exists_ofNat_eq hn
  exact hw ▸ hP.int w

/-- A number that a word can hold is read as it was written. -/
theorem nat?_ofNat {n bound : Nat} (hn : n < bound) (hbound : bound ≤ 0x10000000000000000) :
    (ofNat n).nat? bound = some n := by
  obtain ⟨w, hw, hval⟩ := exists_ofNat_eq (Nat.lt_of_lt_of_le hn hbound)
  have hword : (0 : Int) ≤ w.val ∧ w.val < bound := by omega
  rw [hw, nat?, if_pos hword, hval, Int.toNat_natCast]

end EditWatch.Json
