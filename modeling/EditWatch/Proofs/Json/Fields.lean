import EditWatch.Json.Fields
import EditWatch.Proofs.Json.Parts
import Mathlib.Data.List.Nodup

/-!
# EditWatch.Proofs.Json.Fields -- records are read from what is written for them

A record is written as the members of those declared fields that have a value, in their order. Since
the declared names are all different, each field is read back with just the value that it had.
Whatever a field of a value is, it is nested less deep than the value.
-/

namespace EditWatch.Json

/-! ## Members by name -/

theorem member?_append (name : String) (ms ns : List (String × Json)) :
    member? name (ms ++ ns) = (member? name ms).or (member? name ns) := by
  induction ms with
  | nil => rfl
  | cons m ms ih =>
      obtain ⟨k, j⟩ := m
      rw [List.cons_append, member?, member?]
      split
      · rfl
      · exact ih

theorem member?_optionalMember (name k : String) (o : Option Json) :
    member? name (optionalMember k o) = if k = name then o else none := by
  cases o with
  | none => rw [optionalMember, member?, ite_self]
  | some j => rw [optionalMember, member?, member?]

theorem mem_of_member?_eq_some {name : String} {ms : List (String × Json)} {j : Json}
    (h : member? name ms = some j) : (name, j) ∈ ms := by
  induction ms with
  | nil => exact nomatch h
  | cons m ms ih =>
      obtain ⟨k, i⟩ := m
      rw [member?] at h
      split at h
      · rename_i hname
        cases h
        rw [hname]
        exact List.mem_cons_self
      · exact List.mem_cons_of_mem _ (ih h)

theorem listMember_eq_optionalMember (name : String) (js : List Json) :
    listMember name js = optionalMember name (if js = [] then none else some (.arr js)) := by
  cases js with
  | nil => rfl
  | cons j js => rfl

/-- A text that may be missing is written as `null` then. -/
theorem optional?_ofString? (s : Option String) : optional? string? (ofString? s) = some s := by
  cases s <;> rfl

theorem forall_mem_some {P : Json → Prop} {j : Json} : (∀ i ∈ some j, P i) ↔ P j := by
  simp only [Option.mem_def, Option.some.injEq, forall_eq']

/-! ## Writing the fields of a record -/

namespace Fields

/-- The declared names. -/
def names (fs : Fields) : List String := fs.values.map Prod.fst

/-- The members that are written: those of the fields that have a value. -/
def members (fs : Fields) : List (String × Json) :=
  fs.values.flatMap fun f => optionalMember f.1 f.2

theorem mem_members {fs : Fields} {m : String × Json} :
    m ∈ fs.members ↔ (m.1, some m.2) ∈ fs.values := by
  obtain ⟨k, j⟩ := m
  rw [members, List.mem_flatMap]
  constructor
  · rintro ⟨⟨n, o⟩, hf, hm⟩
    cases o with
    | none => exact nomatch hm
    | some i =>
        cases List.mem_singleton.mp hm
        exact hf
  · exact fun h => ⟨_, h, List.mem_singleton.mpr rfl⟩

theorem names_members_sublist (fs : Fields) : (fs.members.map Prod.fst).Sublist fs.names := by
  obtain ⟨values⟩ := fs
  induction values with
  | nil => exact List.Sublist.slnil
  | cons f values ih =>
      obtain ⟨n, o⟩ := f
      cases o with
      | none => exact ih.cons n
      | some j => exact ih.cons_cons n

theorem member?_members_of_notMem {fs : Fields} {name : String} (h : name ∉ fs.names) :
    member? name fs.members = none := by
  rw [Option.eq_none_iff_forall_ne_some]
  intro j hj
  exact h (List.mem_map.mpr ⟨_, mem_members.mp (mem_of_member?_eq_some hj), rfl⟩)

theorem member?_members {fs : Fields} (hnames : fs.names.Nodup) :
    ∀ f ∈ fs.values, member? f.1 fs.members = f.2 := by
  obtain ⟨values⟩ := fs
  induction values with
  | nil => exact List.forall_mem_nil _
  | cons f values ih =>
      obtain ⟨n, o⟩ := f
      rw [names, List.map_cons, List.nodup_cons] at hnames
      have hsplit : ∀ name, member? name (members ⟨(n, o) :: values⟩) =
          (if n = name then o else none).or (member? name (members ⟨values⟩)) := by
        intro name
        rw [members, List.flatMap_cons, member?_append, member?_optionalMember]
        rfl
      rw [List.forall_mem_cons]
      constructor
      · rw [hsplit, if_pos rfl, member?_members_of_notMem hnames.1, Option.or_none]
      · intro f hf
        have hne : n ≠ f.1 := by
          rintro rfl
          exact hnames.1 (List.mem_map.mpr ⟨f, hf, rfl⟩)
        rw [hsplit, if_neg hne, Option.none_or]
        exact ih hnames.2 f hf

/-- Each declared field is found under its name. -/
theorem get?_eq {fs : Fields} (hnames : fs.names.Nodup) : ∀ f ∈ fs.values, fs.get? f.1 = f.2 := by
  intro f hf
  rw [get?]
  split
  · rename_i k o hfind
    have hname : k = f.1 := by simpa using List.find?_some hfind
    exact congrArg Prod.snd
      (List.inj_on_of_nodup_map hnames (List.mem_of_find?_eq_some hfind) hf hname)
  · rename_i hfind
    exact absurd (beq_self_eq_true _) (List.find?_eq_none.mp hfind f hf)

/-- The fields of a record are found again also where members with other names follow. -/
theorem ofMembers?_append {fs : Fields} (hnames : fs.names.Nodup) {others : List (String × Json)}
    (hothers : ∀ m ∈ others, m.1 ∉ fs.names) :
    ofMembers? fs.names (fs.members ++ others) = some fs := by
  have honce : ∀ n ∈ fs.names, occurrences n (fs.members ++ others) ≤ 1 := by
    intro n hn
    have hnone : others.filter (fun m => m.1 == n) = [] := by
      refine List.filter_eq_nil_iff.mpr fun m hm heq => ?_
      exact hothers m hm (eq_of_beq heq ▸ hn)
    have hcount := List.nodup_iff_count.mp (fs.names_members_sublist.nodup hnames) n
    rw [List.count, List.countP_map] at hcount
    rwa [occurrences, List.filter_append, hnone, List.append_nil,
      ← List.countP_eq_length_filter]
  have hvalues : (fs.names.map fun n => (n, member? n (fs.members ++ others))) = fs.values := by
    rw [names, List.map_map]
    refine (List.map_congr_left fun f hf => ?_).trans (List.map_id _)
    have hnone : member? f.1 others = none := by
      rw [Option.eq_none_iff_forall_ne_some]
      intro j hj
      exact hothers _ (mem_of_member?_eq_some hj) (List.mem_map.mpr ⟨f, hf, rfl⟩)
    rw [Function.comp_apply, member?_append, member?_members hnames f hf, hnone, Option.or_none,
      id_eq]
  rw [ofMembers?, if_pos (by simpa using honce), hvalues]

/-- The fields of a record are read from the members that were written for them. -/
theorem fields?_members {fs : Fields} (hnames : fs.names.Nodup) :
    fields? fs.names (.obj fs.members) = some fs := by
  have hread := ofMembers?_append hnames (List.forall_mem_nil _)
  rwa [List.append_nil] at hread

/-- What is held back of an object are the members behind those of the fields. -/
theorem heldObject?_append {fs : Fields} {others : List (String × Json)}
    (hothers : ∀ m ∈ others, m.1 ∉ fs.names) (hreadable : ∀ m ∈ others, m.2.readable) :
    heldObject? fs.names (.obj (fs.members ++ others)) = some (.obj others) := by
  have hdeclared : fs.members.filter (fun m => !fs.names.contains m.1) = [] := by
    refine List.filter_eq_nil_iff.mpr fun m hm => ?_
    have hname : m.1 ∈ fs.names := List.mem_map.mpr ⟨_, mem_members.mp hm, rfl⟩
    simpa using hname
  have hkept : others.filter (fun m => !fs.names.contains m.1) = others :=
    List.filter_eq_self.mpr fun m hm => by simpa using hothers m hm
  have hall : readableMembers others := by
    rwa [readableMembers_eq_all, List.all_eq_true]
  simp only [heldObject?, List.filter_append, hdeclared, hkept, List.nil_append, if_pos hall]

/-- A property of the members is one of the fields that have a value. -/
theorem forall_mem_members {fs : Fields} {P : Json → Prop} :
    (∀ m ∈ fs.members, P m.2) ↔ ∀ f ∈ fs.values, ∀ j ∈ f.2, P j := by
  constructor
  · intro h f hf j hj
    refine h (f.1, j) (mem_members.mpr ?_)
    rwa [← Option.mem_def.mp hj]
  · intro h m hm
    exact h _ (mem_members.mp hm) _ rfl

end Fields

/-! ## One field -/

theorem optional?_of_value? {α : Type} {value? : Json → Option α} {j : Json} {a : α}
    (hnull : j ≠ .null) (h : value? j = some a) : optional? value? j = some (some a) := by
  rw [optional?.eq_2 _ _ hnull, h, Option.map_some]

section Field

variable {α : Type} {fs : Fields} {name : String} {value? : Json → Option α}

theorem Fields.required?_of_get? {j : Json} (h : fs.get? name = some j) :
    fs.required? name value? = value? j := by
  rw [Fields.required?, h]

theorem Fields.withDefault?_of_get? {default : α} {j : Json} (h : fs.get? name = some j) :
    fs.withDefault? name value? default = value? j := by
  rw [Fields.withDefault?, h]

/-- A field that is left out when it has its default is read as it was written. -/
theorem Fields.withDefault?_written {default a : α} {c : Prop} [Decidable c] {j : Json}
    (h : fs.get? name = if c then none else some j) (hdefault : c → a = default)
    (hread : ¬ c → value? j = some a) : fs.withDefault? name value? default = some a := by
  rw [Fields.withDefault?, h]
  by_cases hc : c
  · rw [if_pos hc, hdefault hc]
  · rw [if_neg hc]
    exact hread hc

/-- A field that is left out when it has no value is read as it was written. -/
theorem Fields.optional?_written {write : α → Json} {o : Option α}
    (h : fs.get? name = o.map write)
    (hread : ∀ a, o = some a → Json.optional? value? (write a) = some (some a)) :
    fs.optional? name value? = some o := by
  rw [Fields.optional?, Fields.withDefault?, h]
  cases o with
  | none => rfl
  | some a => exact hread a rfl

/-- What is not the default of a field comes from the value of the field. -/
theorem Fields.exists_of_withDefault? {default a : α}
    (h : fs.withDefault? name value? default = some a) (hne : a ≠ default) :
    ∃ j, fs.get? name = some j ∧ value? j = some a := by
  rw [Fields.withDefault?] at h
  split at h
  · rename_i j hj
    exact ⟨j, hj, h⟩
  · exact absurd (Option.some.inj h).symm hne

theorem Fields.exists_of_required? {a : α} (h : fs.required? name value? = some a) :
    ∃ j, fs.get? name = some j ∧ value? j = some a := by
  rw [Fields.required?] at h
  split at h
  · rename_i j hj
    exact ⟨j, hj, h⟩
  · exact nomatch h

end Field

/-! ## Depth -/

theorem mem_values_of_get? {fs : Fields} {name : String} {v : Json} (h : fs.get? name = some v) :
    (name, some v) ∈ fs.values := by
  rw [Fields.get?] at h
  split at h
  · rename_i k _ hfind
    cases h
    have hname : k = name := by simpa using List.find?_some hfind
    exact hname ▸ List.mem_of_find?_eq_some hfind
  · exact nomatch h

/-- A field that has a value comes from a member. -/
theorem member?_of_get? {names : List String} {ms : List (String × Json)} {fs : Fields}
    {name : String} {v : Json} (hfields : Fields.ofMembers? names ms = some fs)
    (h : fs.get? name = some v) : member? name ms = some v := by
  rw [Fields.ofMembers?, Option.ite_none_right_eq_some] at hfields
  obtain ⟨-, hfields⟩ := hfields
  cases hfields
  obtain ⟨n, -, hn⟩ := List.mem_map.mp (mem_values_of_get? h)
  obtain ⟨rfl, hv⟩ := Prod.mk.inj hn
  exact hv

theorem depth_pos_of_fields? {names : List String} {j : Json} {fs : Fields}
    (h : fields? names j = some fs) : 0 < j.depth := by
  cases j with
  | arr items =>
      rw [depth]
      exact Nat.succ_pos _
  | obj ms =>
      rw [depth]
      exact Nat.succ_pos _
  | _ => cases h

theorem depth_lt_of_get? {names : List String} {j v : Json} {fs : Fields} {name : String}
    (hfields : fields? names j = some fs) (h : fs.get? name = some v) : v.depth < j.depth := by
  have hmem := mem_values_of_get? h
  cases j with
  | obj ms => exact depth_lt_of_mem_obj (mem_of_member?_eq_some (member?_of_get? hfields h))
  | arr items =>
      rw [fields?, Fields.ofItems?] at hfields
      split at hfields
      · cases hfields
        rcases List.mem_append.mp (List.of_mem_zip hmem).2 with hitem | hpadding
        · obtain ⟨i, hi, hsome⟩ := List.mem_map.mp hitem
          cases hsome
          exact depth_lt_of_mem_arr hi
        · exact nomatch List.eq_of_mem_replicate hpadding
      · exact nomatch hfields
  | _ => exact nomatch hfields

/-- A value that is no deeper than one of the fields. -/
def Fields.Covers (fs : Fields) (v : Json) : Prop :=
  v.depth = 0 ∨ ∃ name w, fs.get? name = some w ∧ v.depth ≤ w.depth

/-- An object made of values that the fields of a value cover is no deeper than the value. -/
theorem depth_obj_le_of_covers {names : List String} {j : Json} {fs : Fields}
    {ms : List (String × Json)} (hfields : fields? names j = some fs)
    (h : ∀ m ∈ ms, fs.Covers m.2) : (Json.obj ms).depth ≤ j.depth := by
  have hpositive := depth_pos_of_fields? hfields
  obtain ⟨n, hn⟩ : ∃ n, j.depth = n + 1 := ⟨j.depth - 1, by omega⟩
  rw [hn, depth_obj_le]
  intro m hm
  rcases h m hm with hzero | ⟨name, w, hw, hle⟩
  · omega
  · have := depth_lt_of_get? hfields hw
    omega

end EditWatch.Json
