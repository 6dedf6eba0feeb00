import EditWatch.Proofs.Json.Parts
import Std.Data.ExtTreeMap.Lemmas

/-!
# EditWatch.Proofs.Json.Canonical -- a free value stays as it is

Putting a value into canonical form takes parts away and moves others, but makes none up. So it keeps
readability and does not deepen. The values that come out unchanged are just those in canonical form
already: a free value is read as itself.
-/

namespace EditWatch.Json

/-! ## Sorting members -/

/-- A map is built again from its entries in their order. -/
theorem foldl_insert_toList {β : Type} (map : Std.ExtTreeMap String β) :
    map.toList.foldl (fun acc p => acc.insert p.1 p.2) (∅ : Std.ExtTreeMap String β) = map := by
  rw [← Std.ExtTreeMap.ofList_eq_foldl]
  refine Std.ExtTreeMap.ext_getElem? fun k => ?_
  cases h : map[k]? with
  | some v =>
      exact Std.ExtTreeMap.getElem?_ofList_of_mem Std.ReflCmp.compare_self
        Std.ExtTreeMap.distinct_keys_toList
        (Std.ExtTreeMap.mem_toList_iff_getElem?_eq_some.mpr h)
  | none =>
      refine Std.ExtTreeMap.getElem?_ofList_of_contains_eq_false ?_
      rw [Std.ExtTreeMap.map_fst_toList_eq_keys, Bool.eq_false_iff, Ne, List.contains_iff_mem,
        Std.ExtTreeMap.mem_keys, Std.ExtTreeMap.mem_iff_isSome_getElem?, h]
      exact Bool.false_ne_true

/-- The entries of a map after members were put into it were there before or are among these. -/
theorem getElem?_or_mem_of_foldl_insert {k : String} {j : Json} {ms : List (String × Json)}
    {map : Std.ExtTreeMap String Json}
    (h : (ms.foldl (fun map m => map.insert m.1 m.2) map)[k]? = some j) :
    map[k]? = some j ∨ (k, j) ∈ ms := by
  induction ms generalizing map with
  | nil => exact .inl h
  | cons m ms ih =>
      rcases ih h with hmap | hms
      · rw [Std.ExtTreeMap.getElem?_insert] at hmap
        split at hmap
        · rename_i hname
          cases Std.LawfulEqCmp.eq_of_compare hname
          cases hmap
          exact .inr List.mem_cons_self
        · exact .inl hmap
      · exact .inr (List.mem_cons_of_mem _ hms)

/-- Only members of the object are left. -/
theorem mem_of_mem_sortMembers {m : String × Json} {ms : List (String × Json)}
    (h : m ∈ sortMembers ms) : m ∈ ms := by
  rcases getElem?_or_mem_of_foldl_insert (Std.ExtTreeMap.mem_toList_iff_getElem?_eq_some.mp h) with h | h
  · rw [Std.ExtTreeMap.getElem?_empty] at h
    exact nomatch h
  · exact h

theorem compare_eq_lt_iff_lt {s t : String} : compare s t = .lt ↔ s < t :=
  compareOfLessAndEq_eq_lt

theorem pairwise_sortMembers (ms : List (String × Json)) :
    ((sortMembers ms).map Prod.fst).Pairwise (· < ·) := by
  rw [List.pairwise_map]
  exact Std.ExtTreeMap.ordered_keys_toList.imp compare_eq_lt_iff_lt.mp

/-- Members that stand in the order of their names already stay as they are. -/
theorem sortMembers_of_pairwise {ms : List (String × Json)}
    (h : (ms.map Prod.fst).Pairwise (· < ·)) : sortMembers ms = ms := by
  have hordered : ms.Pairwise fun m n => m.1 < n.1 := List.pairwise_map.mp h
  have hsorted := List.pairwise_map.mp (pairwise_sortMembers ms)
  have hdistinct : ms.Pairwise fun m n => ¬ compare m.1 n.1 = .eq := by
    refine hordered.imp fun hlt heq => ?_
    rw [compare_eq_lt_iff_lt.mpr hlt] at heq
    exact nomatch heq
  have hnodup : ∀ {ns : List (String × Json)}, (ns.Pairwise fun m n => m.1 < n.1) → ns.Nodup := by
    intro ns hns
    refine hns.imp fun hlt heq => ?_
    exact String.lt_irrefl _ (heq ▸ hlt)
  have hsame : (sortMembers ms).Perm ms := by
    refine (List.perm_ext_iff_of_nodup (hnodup hsorted) (hnodup hordered)).mpr fun m => ?_
    refine ⟨mem_of_mem_sortMembers, fun hm => ?_⟩
    rw [sortMembers, Std.ExtTreeMap.mem_toList_iff_getElem?_eq_some,
      ← Std.ExtTreeMap.ofList_eq_foldl]
    exact Std.ExtTreeMap.getElem?_ofList_of_mem Std.ReflCmp.compare_self hdistinct hm
  exact hsame.eq_of_pairwise (fun m n _ _ hmn hnm => absurd hnm (String.lt_asymm hmn)) hsorted
    hordered

/-! ## Canonical form -/

theorem canonicalItems_eq_map (items : List Json) : canonicalItems items = items.map canonical := by
  induction items with
  | nil => rw [canonicalItems, List.map_nil]
  | cons j items ih => rw [canonicalItems, ih, List.map_cons]

theorem canonicalMembers_eq_map (members : List (String × Json)) :
    canonicalMembers members = members.map fun m => (m.1, m.2.canonical) := by
  induction members with
  | nil => rw [canonicalMembers, List.map_nil]
  | cons m members ih =>
      obtain ⟨k, j⟩ := m
      rw [canonicalMembers, ih, List.map_cons]

/-- The members of an object in canonical form are members of the object, each in canonical form. -/
theorem exists_of_mem_canonical {m : String × Json} {members : List (String × Json)}
    (h : m ∈ sortMembers (canonicalMembers members)) :
    ∃ n ∈ members, m = (n.1, n.2.canonical) := by
  have hm := mem_of_mem_sortMembers h
  rw [canonicalMembers_eq_map] at hm
  obtain ⟨n, hn, rfl⟩ := List.mem_map.mp hm
  exact ⟨n, hn, rfl⟩

theorem isCanonicalItems_iff {items : List Json} :
    IsCanonicalItems items ↔ ∀ j ∈ items, j.IsCanonical := by
  induction items with
  | nil => simp [IsCanonicalItems]
  | cons j items ih => rw [IsCanonicalItems, ih, List.forall_mem_cons]

theorem isCanonicalMembers_iff {members : List (String × Json)} :
    IsCanonicalMembers members ↔ ∀ m ∈ members, m.2.IsCanonical := by
  induction members with
  | nil => simp [IsCanonicalMembers]
  | cons m members ih =>
      obtain ⟨k, j⟩ := m
      rw [IsCanonicalMembers, ih, List.forall_mem_cons]

theorem isCanonical_canonical (j : Json) : j.canonical.IsCanonical := by
  induction j using partInduction with
  | arr items ih =>
      rw [canonical, IsCanonical, isCanonicalItems_iff, canonicalItems_eq_map,
        List.forall_mem_map]
      exact ih
  | obj members ih =>
      rw [canonical, IsCanonical, isCanonicalMembers_iff]
      refine ⟨pairwise_sortMembers _, fun m hm => ?_⟩
      obtain ⟨n, hn, rfl⟩ := exists_of_mem_canonical hm
      exact ih n hn
  | _ => exact trivial

/-- The values in canonical form are those that canonical form leaves as they are. -/
theorem isCanonical_iff_canonical_eq {j : Json} : j.IsCanonical ↔ j.canonical = j := by
  refine ⟨fun h => ?_, fun h => h ▸ isCanonical_canonical j⟩
  induction j using partInduction with
  | arr items ih =>
      rw [IsCanonical, isCanonicalItems_iff] at h
      rw [canonical, canonicalItems_eq_map]
      exact congrArg Json.arr
        ((List.map_congr_left fun j hj => ih j hj (h j hj)).trans (List.map_id _))
  | obj members ih =>
      rw [IsCanonical, isCanonicalMembers_iff] at h
      have hkept : members.map (fun m => (m.1, m.2.canonical)) = members := by
        refine (List.map_congr_left fun m hm => ?_).trans (List.map_id _)
        rw [ih m hm (h.2 m hm), id_eq]
      rw [canonical, canonicalMembers_eq_map, hkept, sortMembers_of_pairwise h.1]
  | _ => rfl

theorem canonical_canonical (j : Json) : j.canonical.canonical = j.canonical :=
  isCanonical_iff_canonical_eq.mp (isCanonical_canonical j)

theorem readable_canonical {j : Json} (h : j.readable) : j.canonical.readable := by
  induction j using partInduction with
  | arr items ih =>
      rw [readable_arr_iff] at h
      rw [canonical, canonicalItems_eq_map, readable_arr_iff, List.forall_mem_map]
      exact fun j hj => ih j hj (h j hj)
  | obj members ih =>
      rw [readable_obj_iff] at h
      rw [canonical, readable_obj_iff]
      intro m hm
      obtain ⟨n, hn, rfl⟩ := exists_of_mem_canonical hm
      exact ih n hn (h n hn)
  | _ => exact h

theorem depth_canonical_le (j : Json) : j.canonical.depth ≤ j.depth := by
  induction j using partInduction with
  | arr items ih =>
      rw [canonical, canonicalItems_eq_map, depth.eq_def (.arr items), depth_arr_le,
        List.forall_mem_map]
      exact fun j hj => Nat.le_trans (ih j hj) (depthItems_le.mp (Nat.le_refl _) j hj)
  | obj members ih =>
      rw [canonical, depth.eq_def (.obj members), depth_obj_le]
      intro m hm
      obtain ⟨n, hn, rfl⟩ := exists_of_mem_canonical hm
      exact Nat.le_trans (ih n hn) (depthMembers_le.mp (Nat.le_refl _) n hn)
  | _ => exact Nat.le_refl _

theorem canonical_ne_null {j : Json} (h : j ≠ .null) : j.canonical ≠ .null := by
  cases j with
  | null => exact h
  | _ => exact nofun

theorem canonical_ne_str {j : Json} (h : ∀ s, j ≠ .str s) (s : String) : j.canonical ≠ .str s := by
  cases j with
  | str t => exact h s
  | _ => exact nofun

/-! ## Free values -/

theorem free?_eq_some_iff {j v : Json} : j.free? = some v ↔ j.readable ∧ j.canonical = v := by
  rw [free?, Option.ite_none_right_eq_some, Option.some_inj]

/-- A reader keeps just the readable values in canonical form as they are. -/
theorem free?_eq_self_iff {v : Json} : v.free? = some v ↔ v.readable ∧ v.IsCanonical := by
  rw [free?_eq_some_iff, isCanonical_iff_canonical_eq]

/-- A free value is read as itself. -/
theorem free?_of_free? {j v : Json} (h : j.free? = some v) : v.free? = some v := by
  obtain ⟨hreadable, rfl⟩ := free?_eq_some_iff.mp h
  exact free?_eq_some_iff.mpr ⟨readable_canonical hreadable, canonical_canonical j⟩

theorem depth_le_of_free? {j v : Json} (h : j.free? = some v) : v.depth ≤ j.depth := by
  obtain ⟨-, rfl⟩ := free?_eq_some_iff.mp h
  exact depth_canonical_le j

end EditWatch.Json
