import EditWatch.Json.Text
import EditWatch.Proofs.Json.Parts

/-!
# EditWatch.Proofs.Json.Nesting -- what is read is not nested too deep

The reader counts the containers around a value and gives up the value of a container that `maxDepth`
others surround. So no value that it does give reaches deeper.
-/

namespace EditWatch.Json

theorem depth_toJson (n : Numeral) : n.toJson.depth = 0 := by
  rw [Numeral.toJson]
  split
  · rfl
  · split <;> rfl

theorem readable_atDepth {depth : Nat} {j : Json} (h : (atDepth depth j).readable) :
    depth < maxDepth ∧ atDepth depth j = j := by
  rw [atDepth] at h ⊢
  split
  · rename_i hlt
    exact ⟨hlt, rfl⟩
  · rename_i hge
    rw [if_neg hge, readable] at h
    cases h

/-- The three readers with so much fuel read nothing deeper than `maxDepth`. -/
structure Shallow (fuel : Nat) : Prop where
  value : ∀ {depth cs j rest}, depth ≤ maxDepth → readValue? fuel depth cs = some (j, rest) →
    j.readable → depth + j.depth ≤ maxDepth
  items : ∀ {depth cs items rest}, depth ≤ maxDepth →
    readItems? fuel depth cs = some (items, rest) →
    ∀ j ∈ items, j.readable → depth + j.depth ≤ maxDepth
  members : ∀ {depth cs members rest}, depth ≤ maxDepth →
    readMembers? fuel depth cs = some (some members, rest) →
    ∀ m ∈ members, m.2.readable → depth + m.2.depth ≤ maxDepth

theorem shallow_array {fuel depth : Nat} {cs rest : List Char} {items : List Json}
    (h : Shallow fuel) (hread : readItems? fuel (depth + 1) cs = some (items, rest))
    (hreadable : (atDepth depth (.arr items)).readable) :
    depth + (atDepth depth (.arr items)).depth ≤ maxDepth := by
  obtain ⟨hlt, heq⟩ := readable_atDepth hreadable
  rw [heq, readable_arr_iff] at hreadable
  have hitems : ∀ j ∈ items, j.depth ≤ maxDepth - (depth + 1) := by
    intro j hj
    have := h.items hlt hread j hj (hreadable j hj)
    omega
  have := depth_arr_le.mpr hitems
  rw [heq]
  omega

theorem shallow_object {fuel depth : Nat} {cs rest : List Char}
    {members : Option (List (String × Json))} (h : Shallow fuel)
    (hread : readMembers? fuel (depth + 1) cs = some (members, rest))
    (hreadable : (atDepth depth ((members.map Json.obj).getD .unreadable)).readable) :
    depth + (atDepth depth ((members.map Json.obj).getD .unreadable)).depth ≤ maxDepth := by
  obtain ⟨hlt, heq⟩ := readable_atDepth hreadable
  cases members with
  | none => rw [heq] at hreadable; exact nomatch hreadable
  | some members =>
      rw [heq] at hreadable ⊢
      rw [Option.map_some, Option.getD_some] at hreadable ⊢
      rw [readable_obj_iff] at hreadable
      have hmembers : ∀ m ∈ members, m.2.depth ≤ maxDepth - (depth + 1) := by
        intro m hm
        have := h.members hlt hread m hm (hreadable m hm)
        omega
      have := depth_obj_le.mpr hmembers
      omega

/-- A value that is no container has depth zero; a container is within reach, or it is unreadable. -/
theorem shallow_value {fuel : Nat} (h : Shallow fuel) {depth : Nat} {cs rest : List Char} {j : Json}
    (hdepth : depth ≤ maxDepth) (hread : readValue? (fuel + 1) depth cs = some (j, rest))
    (hreadable : j.readable) : depth + j.depth ≤ maxDepth := by
  have hleaf : j.depth = 0 → depth + j.depth ≤ maxDepth := by omega
  rw [readValue?.eq_def] at hread
  dsimp only at hread
  -- One case for each way in which a value can begin.
  split at hread
  case h_1 => cases hread; exact hleaf rfl
  case h_2 => cases hread; exact hleaf rfl
  case h_3 => cases hread; exact hleaf rfl
  case h_4 =>
    obtain ⟨⟨string, _⟩, -, heq⟩ := Option.map_eq_some_iff.mp hread
    cases heq
    cases string <;> exact hleaf rfl
  case h_5 =>
    split at hread
    · cases hread
      obtain ⟨hlt, heq⟩ := readable_atDepth hreadable
      rw [heq]
      exact hlt
    · obtain ⟨⟨items, _⟩, hitems, heq⟩ := Option.map_eq_some_iff.mp hread
      cases heq
      exact shallow_array h hitems hreadable
  case h_6 =>
    split at hread
    · cases hread
      obtain ⟨hlt, heq⟩ := readable_atDepth hreadable
      rw [heq]
      exact hlt
    · obtain ⟨⟨members, _⟩, hmembers, heq⟩ := Option.map_eq_some_iff.mp hread
      cases heq
      exact shallow_object h hmembers hreadable
  case h_7 =>
    obtain ⟨⟨n, _⟩, -, heq⟩ := Option.map_eq_some_iff.mp hread
    cases heq
    exact hleaf (depth_toJson n)

theorem shallow_items {fuel : Nat} (h : Shallow fuel) {depth : Nat} {cs rest : List Char}
    {items : List Json} (hdepth : depth ≤ maxDepth)
    (hread : readItems? (fuel + 1) depth cs = some (items, rest)) :
    ∀ j ∈ items, j.readable → depth + j.depth ≤ maxDepth := by
  rw [readItems?] at hread
  split at hread
  · exact nomatch hread
  · rename_i j _ hvalue
    split at hread
    · cases hread
      exact List.forall_mem_singleton.mpr (h.value hdepth hvalue)
    · obtain ⟨⟨others, _⟩, hothers, heq⟩ := Option.map_eq_some_iff.mp hread
      cases heq
      exact List.forall_mem_cons.mpr ⟨h.value hdepth hvalue, h.items hdepth hothers⟩
    · exact nomatch hread

theorem shallow_members {fuel : Nat} (h : Shallow fuel) {depth : Nat} {cs rest : List Char}
    {members : List (String × Json)} (hdepth : depth ≤ maxDepth)
    (hread : readMembers? (fuel + 1) depth cs = some (some members, rest)) :
    ∀ m ∈ members, m.2.readable → depth + m.2.depth ≤ maxDepth := by
  rw [readMembers?.eq_def] at hread
  dsimp only at hread
  split at hread
  · split at hread
    · exact nomatch hread
    · rename_i name _ _
      split at hread
      · split at hread
        · exact nomatch hread
        · rename_i hvalue
          split at hread
          · cases name with
            | none => exact nomatch hread
            | some name =>
                cases hread
                exact List.forall_mem_singleton.mpr (h.value hdepth hvalue)
          · obtain ⟨⟨others, _⟩, hothers, heq⟩ := Option.map_eq_some_iff.mp hread
            cases name with
            | none => exact nomatch heq
            | some name =>
                cases others with
                | none => exact nomatch heq
                | some others =>
                    cases heq
                    exact List.forall_mem_cons.mpr ⟨h.value hdepth hvalue, h.members hdepth hothers⟩
          · exact nomatch hread
      · exact nomatch hread
  · exact nomatch hread

theorem shallow (fuel : Nat) : Shallow fuel := by
  induction fuel with
  | zero =>
      refine ⟨fun _ h => ?_, fun _ h => ?_, fun _ h => ?_⟩
      · rw [readValue?] at h
        exact nomatch h
      · rw [readItems?] at h
        exact nomatch h
      · rw [readMembers?] at h
        exact nomatch h
  | succ fuel ih => exact ⟨shallow_value ih, shallow_items ih, shallow_members ih⟩

/-- A readable value out of a text is nested at most `maxDepth` deep. -/
theorem depth_le_of_parse? {text : String} {j : Json} (h : parse? text = some j)
    (hreadable : j.readable) : j.depth ≤ maxDepth := by
  rw [parse?, read?] at h
  split at h
  · rename_i hvalue
    split at h
    · cases h
      have := (shallow _).value (Nat.zero_le _) hvalue hreadable
      rwa [Nat.zero_add] at this
    · exact nomatch h
  · exact nomatch h

end EditWatch.Json
