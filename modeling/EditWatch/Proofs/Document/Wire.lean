import EditWatch.Document.Wire
import EditWatch.Proofs.Document.Descriptor
import EditWatch.Proofs.Json.Canonical
import EditWatch.Proofs.Json.Fields

/-!
# EditWatch.Proofs.Document.Wire -- descriptors and edits are read back

What is written for a descriptor or an edit is read as the same again, provided that each structured
class of it is one that a reader keeps: a string would be taken for tokens and `null` for no class.
Conversely, whatever is read has only such classes, and it is written no deeper than it was read.
-/

namespace EditWatch.Document

open Json (Held Hereditary)

/-! ## Kinds, numbers and attributes -/

theorem NodeKind.ofJson?_toJson (how : Held) (k : NodeKind) : ofJson? how k.toJson = some k := by
  cases k <;> rfl

theorem EditKind.ofJson?_toJson (how : Held) (k : EditKind) : ofJson? how k.toJson = some k := by
  cases k <;> rfl

theorem NodeId.ofJson?_toJson (id : NodeId) : NodeId.ofJson? (NodeId.toJson id) = some id := by
  have hlt := id.toNat_lt
  have hword : (0 : Int) ≤ id.toNat ∧ (id.toNat : Int) < (0x10000000000000000 : Nat) := by omega
  rw [NodeId.ofJson?, NodeId.toJson, Json.uint64?, Json.ofUInt64, Json.nat?, if_pos hword,
    Option.map_some, Int.toNat_natCast, UInt64.ofNat_toNat]

theorem Attributes.ofMembers?_map (acc : Attributes) (entries : List (String × String)) :
    Attributes.ofMembers? acc (entries.map fun a => (a.1, .str a.2)) =
      some (entries.foldl (fun acc a => acc.insert a.1 a.2) acc) := by
  induction entries generalizing acc with
  | nil => rfl
  | cons a entries ih => exact ih _

theorem Attributes.ofJson?_toJson (attrs : Attributes) :
    Attributes.ofJson? (Attributes.toJson attrs) = some attrs := by
  rw [Attributes.toJson, Attributes.ofJson?, Attributes.ofMembers?_map, Json.foldl_insert_toList]

theorem Attributes.depth_pos_of_ofJson? {j : Json} {attrs : Attributes}
    (h : Attributes.ofJson? j = some attrs) : 0 < j.depth := by
  cases j with
  | obj ms =>
      rw [Json.depth]
      exact Nat.succ_pos _
  | _ => cases h

theorem Attributes.depth_toJson_le (attrs : Attributes) : (Attributes.toJson attrs).depth ≤ 1 := by
  rw [Attributes.toJson, Json.depth_obj_le, List.forall_mem_map]
  exact fun _ _ => Nat.le_refl _

/-! ## Classes -/

/-- The value of a structured class. -/
def ClassValue.structured? : ClassValue → Option Json
  | .tokens _ => none
  | .structured v => some v

/-- A value that a reader keeps as a structured class. -/
structure KeptAsClass (v : Json) : Prop where
  free : v.free? = some v
  ne_null : v ≠ .null
  ne_str : ∀ s, v ≠ .str s

theorem ClassValue.optional?_toJson {c : ClassValue}
    (h : ∀ v, c.structured? = some v → KeptAsClass v) :
    Json.optional? ClassValue.ofJson? c.toJson = some (some c) := by
  cases c with
  | tokens raw => rfl
  | structured v =>
      obtain ⟨hfree, hnull, hstr⟩ := h v rfl
      rw [toJson, Json.optional?.eq_2 _ _ hnull, ofJson?.eq_2 _ hstr, hfree]
      rfl

/-- A class that was read is kept when it is read again. -/
theorem ClassValue.kept_of_optional? {j : Json} {c : ClassValue}
    (h : Json.optional? ClassValue.ofJson? j = some (some c)) :
    (∀ v, c.structured? = some v → KeptAsClass v) ∧ c.toJson.depth ≤ j.depth := by
  have hnull : j ≠ .null := by
    rintro rfl
    exact nomatch h
  by_cases hstr : ∃ raw, j = .str raw
  · obtain ⟨raw, rfl⟩ := hstr
    cases h
    exact ⟨nofun, Nat.le_refl _⟩
  · rw [not_exists] at hstr
    rw [Json.optional?.eq_2 _ _ hnull, ofJson?.eq_2 _ hstr, Option.map_map] at h
    obtain ⟨v, hv, hc⟩ := Option.map_eq_some_iff.mp h
    cases hc
    refine ⟨fun w hw => ?_, Json.depth_le_of_free? hv⟩
    cases hw
    obtain ⟨-, rfl⟩ := Json.free?_eq_some_iff.mp hv
    exact ⟨Json.free?_of_free? hv, Json.canonical_ne_null hnull, Json.canonical_ne_str hstr⟩

/-! ## Lists -/

/-- A list that was read comes from an array, item by item. -/
theorem exists_of_list? {α : Type} {item? : Json → Option α} {j : Json} {xs : List α}
    (h : j.list? item? = some xs) :
    ∃ items, j = .arr items ∧ ∀ x ∈ xs, ∃ i ∈ items, item? i = some x := by
  cases j with
  | arr items => exact ⟨items, rfl, exists_of_mapM_eq_some h⟩
  | _ => exact nomatch h

/-- What is written item by item is not deeper than what the items were read from. -/
theorem depth_arr_map_le {α : Type} {write : α → Json} {xs : List α} {items : List Json}
    (h : ∀ x ∈ xs, ∃ i ∈ items, (write x).depth ≤ i.depth) :
    (Json.arr (xs.map write)).depth ≤ (Json.arr items).depth := by
  rw [Json.depth.eq_1 items, Json.depth_arr_le, List.forall_mem_map]
  intro x hx
  obtain ⟨i, hi, hle⟩ := h x hx
  exact Nat.le_trans hle (Json.depthItems_le.mp (Nat.le_refl _) i hi)

/-! ## Descriptors -/

namespace Descriptor

/-- The free values in a subtree: its structured classes. -/
def freeValues (d : Descriptor) : List Json :=
  d.preorder.filterMap fun y => y.classValue.bind ClassValue.structured?

theorem mem_freeValues {d : Descriptor} {v : Json} :
    v ∈ d.freeValues ↔ d.classValue.bind ClassValue.structured? = some v ∨
      ∃ c ∈ d.children, v ∈ c.freeValues := by
  rw [freeValues, preorder_eq, List.mem_filterMap]
  constructor
  · rintro ⟨y, hy, hv⟩
    rcases List.mem_cons.mp hy with rfl | hy
    · exact .inl hv
    · obtain ⟨c, hc, hyc⟩ := mem_preorderAll.mp hy
      exact .inr ⟨c, hc, List.mem_filterMap.mpr ⟨y, hyc, hv⟩⟩
  · rintro (hv | ⟨c, hc, hv⟩)
    · exact ⟨d, List.mem_cons_self, hv⟩
    · obtain ⟨y, hyc, hv⟩ := List.mem_filterMap.mp hv
      exact ⟨y, List.mem_cons_of_mem _ (mem_preorderAll.mpr ⟨c, hc, hyc⟩), hv⟩

/-- What is written for a descriptor. -/
def fields (d : Descriptor) : Json.Fields where
  values := [("id", some (NodeId.toJson d.id)), ("kind", some d.kind.toJson),
    ("tag", d.tag.map .str), ("class", d.classValue.map ClassValue.toJson),
    ("attrs", if d.attrs.isEmpty then none else some (Attributes.toJson d.attrs)),
    ("text", d.text.map .str),
    ("children", if d.children.map toJson = [] then none else some (.arr (d.children.map toJson)))]

theorem allToJson_eq_map (ds : List Descriptor) : allToJson ds = ds.map toJson := by
  induction ds with
  | nil => rw [allToJson, List.map_nil]
  | cons d ds ih => rw [allToJson, ih, List.map_cons]

theorem toJson_eq (d : Descriptor) : d.toJson = .obj d.fields.members := by
  obtain ⟨id, kind, tag, classValue, attrs, text, children⟩ := d
  rw [toJson, allToJson_eq_map, Json.listMember_eq_optionalMember]
  by_cases hattrs : attrs.isEmpty
  · simp [Json.Fields.members, fields, Json.optionalMember, hattrs]
  · simp [Json.Fields.members, fields, Json.optionalMember, hattrs]

theorem nodup_names_fields (d : Descriptor) : d.fields.names.Nodup :=
  show fieldNames.Nodup by decide

theorem fields?_toJson (d : Descriptor) : Json.fields? fieldNames d.toJson = some d.fields := by
  rw [toJson_eq]
  exact Json.Fields.fields?_members d.nodup_names_fields

theorem ofJsonFrom?_toJson (how : Held) {d : Descriptor}
    (hkept : ∀ v ∈ d.freeValues, KeptAsClass v) {fuel : Nat} (hfuel : d.toJson.depth < fuel) :
    ofJsonFrom? how fuel d.toJson = some d := by
  induction d using childInduction generalizing fuel with
  | step d ih =>
      obtain ⟨fuel, rfl⟩ : ∃ k, fuel = k + 1 := ⟨fuel - 1, by omega⟩
      have hfields := Json.Fields.get?_eq d.nodup_names_fields
      simp only [fields, List.forall_mem_cons] at hfields
      rw [← fields] at hfields
      obtain ⟨hid, hkind, htag, hclass, hattrs, htext, hchildren, -⟩ := hfields
      have hid : d.fields.required? "id" NodeId.ofJson? = some d.id :=
        (Json.Fields.required?_of_get? hid).trans (NodeId.ofJson?_toJson d.id)
      have hkind : d.fields.withDefault? "kind" (NodeKind.ofJson? how) .element = some d.kind :=
        (Json.Fields.withDefault?_of_get? hkind).trans (NodeKind.ofJson?_toJson how d.kind)
      have htag : d.fields.optional? "tag" Json.string? = some d.tag :=
        Json.Fields.optional?_written htag fun _ _ => rfl
      have hclass : d.fields.optional? "class" ClassValue.ofJson? = some d.classValue := by
        refine Json.Fields.optional?_written hclass fun c hc => ClassValue.optional?_toJson ?_
        exact fun v hv => hkept v (mem_freeValues.mpr (.inl (by rw [hc]; exact hv)))
      have hattrs : d.fields.withDefault? "attrs" Attributes.ofJson? ∅ = some d.attrs :=
        Json.Fields.withDefault?_written hattrs Std.ExtTreeMap.isEmpty_iff.mp
          fun _ => Attributes.ofJson?_toJson d.attrs
      have htext : d.fields.optional? "text" Json.string? = some d.text :=
        Json.Fields.optional?_written htext fun _ _ => rfl
      have hchildren : d.fields.withDefault? "children" (Json.list? (ofJsonFrom? how fuel)) [] =
          some d.children := by
        refine Json.Fields.withDefault?_written hchildren List.map_eq_nil_iff.mp fun hne => ?_
        refine mapM_map_eq_some fun c hc => ih c hc (fun v hv => hkept v ?_) ?_
        · exact mem_freeValues.mpr (.inr ⟨c, hc, hv⟩)
        -- A child is two containers deeper than its parent, so the fuel suffices for it.
        · have hlist := Json.depth_lt_of_get? (fields?_toJson d) (hchildren.trans (if_neg hne))
          have hchild := Json.depth_lt_of_mem_arr (List.mem_map_of_mem (f := toJson) hc)
          omega
      rw [ofJsonFrom?, fields?_toJson]
      -- The fields are read in the order in which they are declared.
      simp only [Option.bind_eq_bind]
      rw [Option.bind_some, hid, Option.bind_some, hkind, Option.bind_some, htag, Option.bind_some,
        hclass, Option.bind_some, hattrs, Option.bind_some, htext, Option.bind_some, hchildren,
        Option.bind_some]
      cases d
      rfl

/-- A property of what is written for the fields of a descriptor. -/
theorem forall_mem_fields {P : Json → Prop} {d : Descriptor} (hid : P (NodeId.toJson d.id))
    (hkind : P d.kind.toJson) (hstr : ∀ s, P (.str s))
    (hclass : ∀ c, d.classValue = some c → P c.toJson)
    (hattrs : d.attrs ≠ ∅ → P (Attributes.toJson d.attrs))
    (hchildren : d.children ≠ [] → P (.arr (d.children.map toJson))) :
    ∀ m ∈ d.fields.members, P m.2 := by
  rintro ⟨k, j⟩ hm
  have hfield := Json.Fields.mem_members.mp hm
  simp only [fields, List.mem_cons, List.not_mem_nil, or_false, Prod.mk.injEq] at hfield
  rcases hfield with ⟨-, h⟩ | ⟨-, h⟩ | ⟨-, h⟩ | ⟨-, h⟩ | ⟨-, h⟩ | ⟨-, h⟩ | ⟨-, h⟩
  · cases h
    exact hid
  · cases h
    exact hkind
  · obtain ⟨tag, -, heq⟩ := Option.map_eq_some_iff.mp h.symm
    exact heq ▸ hstr tag
  · obtain ⟨c, hc, heq⟩ := Option.map_eq_some_iff.mp h.symm
    exact heq ▸ hclass c hc
  · obtain ⟨hne, heq⟩ := Option.ite_none_left_eq_some.mp h.symm
    cases heq
    exact hattrs fun h => hne (Std.ExtTreeMap.isEmpty_iff.mpr h)
  · obtain ⟨text, -, heq⟩ := Option.map_eq_some_iff.mp h.symm
    exact heq ▸ hstr text
  · obtain ⟨hne, heq⟩ := Option.ite_none_left_eq_some.mp h.symm
    cases heq
    exact hchildren fun h => hne (List.map_eq_nil_iff.mpr h)

/-- What a descriptor was read from, as far as it can be nested. -/
theorem exists_fields_of_ofJsonFrom? {how : Held} {fuel : Nat} {j : Json} {d : Descriptor}
    (h : ofJsonFrom? how (fuel + 1) j = some d) :
    ∃ fs, Json.fields? fieldNames j = some fs ∧
      (∀ c, d.classValue = some c →
        ∃ v, fs.get? "class" = some v ∧ Json.optional? ClassValue.ofJson? v = some (some c)) ∧
      (d.attrs ≠ ∅ → ∃ v, fs.get? "attrs" = some v ∧ 0 < v.depth) ∧
      (d.children ≠ [] → ∃ items, fs.get? "children" = some (.arr items) ∧
        ∀ c ∈ d.children, ∃ i ∈ items, ofJsonFrom? how fuel i = some c) := by
  rw [ofJsonFrom?] at h
  simp only [Option.bind_eq_bind, Option.bind_eq_some_iff] at h
  obtain ⟨fs, hfs, id, -, kind, -, tag, -, classValue, hclass, attrs, hattrs, text, -, children,
    hchildren, h⟩ := h
  cases h
  refine ⟨fs, hfs, ?_, fun hne => ?_, fun hne => ?_⟩
  · rintro c rfl
    exact Json.Fields.exists_of_withDefault? hclass nofun
  · obtain ⟨v, hv, hread⟩ := Json.Fields.exists_of_withDefault? hattrs hne
    exact ⟨v, hv, Attributes.depth_pos_of_ofJson? hread⟩
  · obtain ⟨v, hv, hlist⟩ := Json.Fields.exists_of_withDefault? hchildren hne
    obtain ⟨items, rfl, hitems⟩ := exists_of_list? hlist
    exact ⟨items, hv, hitems⟩

/-- A subtree that was read has only classes that a reader keeps. -/
theorem kept_of_ofJsonFrom? {how : Held} {fuel : Nat} {j : Json} {d : Descriptor}
    (h : ofJsonFrom? how fuel j = some d) : ∀ v ∈ d.freeValues, KeptAsClass v := by
  induction fuel generalizing j d with
  | zero =>
      rw [ofJsonFrom?] at h
      exact nomatch h
  | succ fuel ih =>
      obtain ⟨fs, -, hclass, -, hchildren⟩ := exists_fields_of_ofJsonFrom? h
      intro v hv
      rcases mem_freeValues.mp hv with hv | ⟨c, hc, hv⟩
      · obtain ⟨c, hc, hv⟩ := Option.bind_eq_some_iff.mp hv
        obtain ⟨w, -, hw⟩ := hclass c hc
        exact (ClassValue.kept_of_optional? hw).1 v hv
      · obtain ⟨items, -, hitems⟩ := hchildren (List.ne_nil_of_mem hc)
        obtain ⟨i, -, hi⟩ := hitems c hc
        exact ih hi v hv

/-- A subtree that was read is written no deeper. -/
theorem depth_toJson_le_of_ofJsonFrom? {how : Held} {fuel : Nat} {j : Json} {d : Descriptor}
    (h : ofJsonFrom? how fuel j = some d) : d.toJson.depth ≤ j.depth := by
  induction fuel generalizing j d with
  | zero =>
      rw [ofJsonFrom?] at h
      exact nomatch h
  | succ fuel ih =>
      obtain ⟨fs, hfs, hclass, hattrs, hchildren⟩ := exists_fields_of_ofJsonFrom? h
      rw [toJson_eq]
      refine Json.depth_obj_le_of_covers hfs
        (forall_mem_fields (.inl rfl) (.inl rfl) (fun _ => .inl rfl) ?_ ?_ ?_)
      · intro c hc
        obtain ⟨v, hv, hread⟩ := hclass c hc
        exact .inr ⟨_, v, hv, (ClassValue.kept_of_optional? hread).2⟩
      · intro hne
        obtain ⟨v, hv, hobject⟩ := hattrs hne
        exact .inr ⟨_, v, hv, Nat.le_trans (Attributes.depth_toJson_le d.attrs) hobject⟩
      · intro hne
        obtain ⟨items, hv, hitems⟩ := hchildren hne
        refine .inr ⟨_, _, hv, depth_arr_map_le fun c hc => ?_⟩
        exact (hitems c hc).imp fun i hi => ⟨hi.1, ih hi.2⟩

theorem hereditary_toJson {P : Json → Prop} (hP : Hereditary P) {d : Descriptor}
    (h : ∀ v ∈ d.freeValues, P v) : P d.toJson := by
  induction d using childInduction with
  | step d ih =>
      rw [toJson_eq]
      refine hP.obj (forall_mem_fields (hP.int _) (hP.str _) hP.str ?_ (fun _ => ?_) fun _ => ?_)
      · intro c hc
        cases c with
        | tokens raw => exact hP.str raw
        | structured v => exact h v (mem_freeValues.mpr (.inl (by rw [hc]; rfl)))
      · exact hP.obj (List.forall_mem_map.mpr fun _ _ => hP.str _)
      · refine hP.arr (List.forall_mem_map.mpr fun c hc => ih c hc fun v hv => ?_)
        exact h v (mem_freeValues.mpr (.inr ⟨c, hc, hv⟩))

theorem ofJson?_toJson (how : Held) {d : Descriptor} (hkept : ∀ v ∈ d.freeValues, KeptAsClass v) :
    ofJson? how d.toJson = some d :=
  ofJsonFrom?_toJson how hkept (Nat.lt_succ_self _)

end Descriptor

/-! ## Edits -/

namespace Edit

/-- The free values in what an edit adds. -/
def freeValues (e : Edit) : List Json := e.added.flatMap Descriptor.freeValues

/-- What is written for an edit. -/
def fields (e : Edit) : Json.Fields where
  values := [("target", some (NodeId.toJson e.target)), ("kind", some e.kind.toJson),
    ("added", if e.added.map Descriptor.toJson = [] then none else
      some (.arr (e.added.map Descriptor.toJson))),
    ("removed", if e.removed.map NodeId.toJson = [] then none else
      some (.arr (e.removed.map NodeId.toJson))),
    ("text", e.text.map .str)]

theorem toJson_eq (e : Edit) : e.toJson = .obj e.fields.members := by
  rw [toJson, Descriptor.allToJson_eq_map, Json.listMember_eq_optionalMember,
    Json.listMember_eq_optionalMember]
  simp [Json.Fields.members, fields, Json.optionalMember]

theorem nodup_names_fields (e : Edit) : e.fields.names.Nodup :=
  show fieldNames.Nodup by decide

theorem fields?_toJson (e : Edit) : Json.fields? fieldNames e.toJson = some e.fields := by
  rw [toJson_eq]
  exact Json.Fields.fields?_members e.nodup_names_fields

theorem ofJson?_toJson (how : Held) {e : Edit} (hkept : ∀ v ∈ e.freeValues, KeptAsClass v) :
    ofJson? how e.toJson = some e := by
  have hfields := Json.Fields.get?_eq e.nodup_names_fields
  simp only [fields, List.forall_mem_cons] at hfields
  rw [← fields] at hfields
  obtain ⟨htarget, hkind, hadded, hremoved, htext, -⟩ := hfields
  have htarget : e.fields.required? "target" NodeId.ofJson? = some e.target :=
    (Json.Fields.required?_of_get? htarget).trans (NodeId.ofJson?_toJson e.target)
  have hkind : e.fields.withDefault? "kind" (EditKind.ofJson? how) .childList = some e.kind :=
    (Json.Fields.withDefault?_of_get? hkind).trans (EditKind.ofJson?_toJson how e.kind)
  have hadded : e.fields.withDefault? "added" (Json.list? (Descriptor.ofJson? how)) [] =
      some e.added := by
    refine Json.Fields.withDefault?_written hadded List.map_eq_nil_iff.mp fun _ => ?_
    refine mapM_map_eq_some fun d hd => Descriptor.ofJson?_toJson how fun v hv => ?_
    exact hkept v (List.mem_flatMap.mpr ⟨d, hd, hv⟩)
  have hremoved : e.fields.withDefault? "removed" (Json.list? NodeId.ofJson?) [] =
      some e.removed :=
    Json.Fields.withDefault?_written hremoved List.map_eq_nil_iff.mp fun _ =>
      mapM_map_eq_some fun id _ => NodeId.ofJson?_toJson id
  have htext : e.fields.optional? "text" Json.string? = some e.text :=
    Json.Fields.optional?_written htext fun _ _ => rfl
  rw [ofJson?, fields?_toJson]
  simp only [Option.bind_eq_bind]
  rw [Option.bind_some, htarget, Option.bind_some, hkind, Option.bind_some, hadded,
    Option.bind_some, hremoved, Option.bind_some, htext, Option.bind_some]
  rfl

theorem forall_mem_fields {P : Json → Prop} {e : Edit} (hnumber : ∀ id, P (NodeId.toJson id))
    (hstr : ∀ s, P (.str s)) (hadded : e.added ≠ [] → P (.arr (e.added.map Descriptor.toJson)))
    (hremoved : e.removed ≠ [] → P (.arr (e.removed.map NodeId.toJson))) :
    ∀ m ∈ e.fields.members, P m.2 := by
  rintro ⟨k, j⟩ hm
  have hfield := Json.Fields.mem_members.mp hm
  simp only [fields, List.mem_cons, List.not_mem_nil, or_false, Prod.mk.injEq] at hfield
  rcases hfield with ⟨-, h⟩ | ⟨-, h⟩ | ⟨-, h⟩ | ⟨-, h⟩ | ⟨-, h⟩
  · cases h
    exact hnumber e.target
  · cases h
    exact hstr _
  · obtain ⟨hne, heq⟩ := Option.ite_none_left_eq_some.mp h.symm
    cases heq
    exact hadded fun h => hne (List.map_eq_nil_iff.mpr h)
  · obtain ⟨hne, heq⟩ := Option.ite_none_left_eq_some.mp h.symm
    cases heq
    exact hremoved fun h => hne (List.map_eq_nil_iff.mpr h)
  · obtain ⟨text, -, heq⟩ := Option.map_eq_some_iff.mp h.symm
    exact heq ▸ hstr text

theorem exists_fields_of_ofJson? {how : Held} {j : Json} {e : Edit} (h : ofJson? how j = some e) :
    ∃ fs, Json.fields? fieldNames j = some fs ∧
      (e.added ≠ [] → ∃ items, fs.get? "added" = some (.arr items) ∧
        ∀ d ∈ e.added, ∃ i ∈ items, Descriptor.ofJson? how i = some d) ∧
      (e.removed ≠ [] → ∃ items, fs.get? "removed" = some (.arr items) ∧
        ∀ id ∈ e.removed, ∃ i ∈ items, NodeId.ofJson? i = some id) := by
  rw [ofJson?] at h
  simp only [Option.bind_eq_bind, Option.bind_eq_some_iff] at h
  obtain ⟨fs, hfs, target, -, kind, -, added, hadded, removed, hremoved, text, -, h⟩ := h
  cases h
  refine ⟨fs, hfs, fun hne => ?_, fun hne => ?_⟩
  · obtain ⟨v, hv, hlist⟩ := Json.Fields.exists_of_withDefault? hadded hne
    obtain ⟨items, rfl, hitems⟩ := exists_of_list? hlist
    exact ⟨items, hv, hitems⟩
  · obtain ⟨v, hv, hlist⟩ := Json.Fields.exists_of_withDefault? hremoved hne
    obtain ⟨items, rfl, hitems⟩ := exists_of_list? hlist
    exact ⟨items, hv, hitems⟩

/-- An edit that was read adds only classes that a reader keeps. -/
theorem kept_of_ofJson? {how : Held} {j : Json} {e : Edit} (h : ofJson? how j = some e) :
    ∀ v ∈ e.freeValues, KeptAsClass v := by
  obtain ⟨fs, -, hadded, -⟩ := exists_fields_of_ofJson? h
  intro v hv
  obtain ⟨d, hd, hv⟩ := List.mem_flatMap.mp hv
  obtain ⟨items, -, hitems⟩ := hadded (List.ne_nil_of_mem hd)
  obtain ⟨i, -, hi⟩ := hitems d hd
  exact Descriptor.kept_of_ofJsonFrom? hi v hv

/-- An edit that was read is written no deeper. -/
theorem depth_toJson_le_of_ofJson? {how : Held} {j : Json} {e : Edit} (h : ofJson? how j = some e) :
    e.toJson.depth ≤ j.depth := by
  obtain ⟨fs, hfs, hadded, hremoved⟩ := exists_fields_of_ofJson? h
  rw [toJson_eq]
  refine Json.depth_obj_le_of_covers hfs
    (forall_mem_fields (fun _ => .inl rfl) (fun _ => .inl rfl) (fun hne => ?_) fun hne => ?_)
  · obtain ⟨items, hv, hitems⟩ := hadded hne
    refine .inr ⟨_, _, hv, depth_arr_map_le fun d hd => ?_⟩
    exact (hitems d hd).imp fun i hi => ⟨hi.1, Descriptor.depth_toJson_le_of_ofJsonFrom? hi.2⟩
  · obtain ⟨items, hv, hitems⟩ := hremoved hne
    refine .inr ⟨_, _, hv, depth_arr_map_le fun id hid => ?_⟩
    exact (hitems id hid).imp fun i hi => ⟨hi.1, Nat.zero_le _⟩

theorem hereditary_toJson {P : Json → Prop} (hP : Hereditary P) {e : Edit}
    (h : ∀ v ∈ e.freeValues, P v) : P e.toJson := by
  rw [toJson_eq]
  refine hP.obj (forall_mem_fields (fun _ => hP.int _) hP.str (fun _ => ?_) fun _ => ?_)
  · refine hP.arr (List.forall_mem_map.mpr fun d hd => Descriptor.hereditary_toJson hP ?_)
    exact fun v hv => h v (List.mem_flatMap.mpr ⟨d, hd, hv⟩)
  · exact hP.arr (List.forall_mem_map.mpr fun _ _ => hP.int _)

end Edit

end EditWatch.Document
