import EditWatch.Proofs.Document.Wire
import EditWatch.Proofs.Json.Nesting
import EditWatch.Proofs.Json.Text
import EditWatch.Session.Signal

/-!
# EditWatch.Proofs.Session.Signal -- signals are read back

The JSON value by which a signal is recorded is read as the signal again, provided that its free
values are such as a reader keeps; and every signal that was read is of that sort. Its record stands
on one line and begins with a brace.
-/

namespace EditWatch.Session

open EditWatch.Document
open Json (Hereditary)

/-! ## The page at the start -/

namespace Opening

/-- What is written for the opening. -/
def fields (o : Opening) : Json.Fields where
  values := [("url", some (Json.ofString? o.url)), ("title", some (Json.ofString? o.title)),
    ("root", some o.root.toJson)]

theorem nodup_names_fields (o : Opening) : o.fields.names.Nodup :=
  show fieldNames.Nodup by decide

theorem ofJson?_members (how : Json.Held) {o : Opening}
    (hkept : ∀ v ∈ o.root.freeValues, KeptAsClass v) : ofJson? how (.obj o.members) = some o := by
  have hfields := Json.Fields.get?_eq o.nodup_names_fields
  simp only [fields, List.forall_mem_cons] at hfields
  rw [← fields] at hfields
  obtain ⟨hurl, htitle, hroot, -⟩ := hfields
  have hurl : o.fields.optional? "url" Json.string? = some o.url :=
    (Json.Fields.withDefault?_of_get? hurl).trans (Json.optional?_ofString? o.url)
  have htitle : o.fields.optional? "title" Json.string? = some o.title :=
    (Json.Fields.withDefault?_of_get? htitle).trans (Json.optional?_ofString? o.title)
  have hroot : o.fields.required? "root" (Descriptor.ofJson? how) = some o.root :=
    (Json.Fields.required?_of_get? hroot).trans (Descriptor.ofJson?_toJson how hkept)
  -- The three members are always written, so they are just those of the fields.
  have hread : Json.fields? fieldNames (.obj o.members) = some o.fields :=
    Json.Fields.fields?_members o.nodup_names_fields
  rw [ofJson?, hread]
  simp only [Option.bind_eq_bind]
  rw [Option.bind_some, hurl, Option.bind_some, htitle, Option.bind_some, hroot, Option.bind_some]
  rfl

end Opening

namespace Signal

/-! ## Free values -/

/-- The free values of a signal: structured classes, and the payload of an interaction. -/
def freeValues : Signal → List Json
  | .snapshot o => o.root.freeValues
  | .mutations edits => edits.flatMap Edit.freeValues
  | .interaction _ payload => [payload]
  | .loaded => []

/-- A reader keeps the free values of the signal as they are. -/
def Kept : Signal → Prop
  | .interaction _ payload => payload.free? = some payload
  | s => ∀ v ∈ s.freeValues, KeptAsClass v

theorem hereditary_toJson {P : Json → Prop} (hP : Hereditary P) {s : Signal}
    (h : ∀ v ∈ s.freeValues, P v) : P s.toJson := by
  cases s with
  | snapshot o =>
      refine hP.obj ?_
      simp only [Opening.members, List.forall_mem_cons]
      exact ⟨hP.str _, hP.ofString? _, hP.ofString? _, Descriptor.hereditary_toJson hP h,
        List.forall_mem_nil _⟩
  | mutations edits =>
      refine hP.obj ?_
      simp only [List.forall_mem_cons]
      refine ⟨hP.str _, hP.arr (List.forall_mem_map.mpr fun e he => ?_), List.forall_mem_nil _⟩
      exact Edit.hereditary_toJson hP fun v hv => h v (List.mem_flatMap.mpr ⟨e, he, hv⟩)
  | interaction event payload =>
      refine hP.obj ?_
      simp only [List.forall_mem_cons]
      exact ⟨hP.str _, hP.str _, h payload List.mem_cons_self, List.forall_mem_nil _⟩
  | loaded => exact hP.obj (List.forall_mem_singleton.mpr (hP.str _))

theorem readable_toJson {s : Signal} (h : s.Kept) : s.toJson.readable := by
  refine hereditary_toJson Json.hereditary_readable fun v hv => ?_
  cases s with
  | interaction event payload =>
      rw [List.mem_singleton.mp hv]
      exact (Json.free?_eq_some_iff.mp h).1
  | _ => exact (Json.free?_eq_some_iff.mp (h v hv).free).1

/-! ## Reading back -/

/-- The member that names a signal is told from the others. -/
theorem split?_cons (name : String) (ms : List (String × Json)) (h : tag ∉ ms.map Prod.fst) :
    split? (.obj ((tag, .str name) :: ms)) = some (name, .obj ms) := by
  have hother : ∀ m ∈ ms, m.1 ≠ tag := by
    rintro m hm heq
    exact h (List.mem_map.mpr ⟨m, hm, heq⟩)
  have hname : ((tag, Json.str name) :: ms).filter (fun m => m.1 == tag) = [(tag, .str name)] := by
    rw [List.filter_cons_of_pos (by simp), List.filter_eq_nil_iff.mpr (by simpa using hother)]
  have hrest : ((tag, Json.str name) :: ms).filter (fun m => m.1 != tag) = ms := by
    rw [List.filter_cons_of_neg (by simp), List.filter_eq_self.mpr (by simpa using hother)]
  rw [split?, hname]
  exact congrArg (fun rest => some (name, Json.obj rest)) hrest

theorem mutations?_members {edits : List Edit}
    (h : ∀ v ∈ edits.flatMap Edit.freeValues, KeptAsClass v) :
    mutations? (.obj [("records", .arr (edits.map Edit.toJson))]) = some (.mutations edits) := by
  let fs : Json.Fields := ⟨[("records", some (.arr (edits.map Edit.toJson)))]⟩
  have hnames : fs.names.Nodup := show ["records"].Nodup by decide
  have hget : fs.get? "records" = some (.arr (edits.map Edit.toJson)) :=
    Json.Fields.get?_eq hnames _ List.mem_cons_self
  have hedits : fs.required? "records" (Json.list? (Edit.ofJson? .held)) = some edits :=
    (Json.Fields.required?_of_get? hget).trans (mapM_map_eq_some fun e he =>
      Edit.ofJson?_toJson .held fun v hv => h v (List.mem_flatMap.mpr ⟨e, he, hv⟩))
  have hread : Json.fields? ["records"] (.obj [("records", .arr (edits.map Edit.toJson))]) = some fs :=
    Json.Fields.fields?_members hnames
  rw [mutations?, hread]
  simp only [Option.bind_eq_bind]
  rw [Option.bind_some, hedits, Option.bind_some]
  rfl

theorem interaction?_members {event : String} {payload : Json} (h : payload.free? = some payload) :
    interaction? (.obj [("event", .str event), ("payload", payload)]) =
      some (.interaction event payload) := by
  let fs : Json.Fields := ⟨[("event", some (.str event)), ("payload", some payload)]⟩
  have hnames : fs.names.Nodup := show ["event", "payload"].Nodup by decide
  have hevent : fs.required? "event" Json.string? = some event :=
    Json.Fields.required?_of_get? (Json.Fields.get?_eq hnames _ List.mem_cons_self)
  have hpayload : fs.withDefault? "payload" Json.free? .null = some payload :=
    (Json.Fields.withDefault?_of_get? (Json.Fields.get?_eq hnames _
      (List.mem_cons_of_mem _ List.mem_cons_self))).trans h
  have hread : Json.fields? ["event", "payload"]
      (.obj [("event", .str event), ("payload", payload)]) = some fs :=
    Json.Fields.fields?_members hnames
  rw [interaction?, hread]
  simp only [Option.bind_eq_bind]
  rw [Option.bind_some, hevent, Option.bind_some, hpayload, Option.bind_some]
  rfl

/-- A signal is read back from the value by which it is recorded. -/
theorem ofJson?_toJson {s : Signal} (h : s.Kept) : ofJson? s.toJson = some s := by
  rw [ofJson?, if_pos (readable_toJson h)]
  cases s with
  | snapshot o =>
      rw [toJson, split?_cons _ o.members (show tag ∉ Opening.fieldNames by decide)]
      exact congrArg (Option.map Signal.snapshot) (Opening.ofJson?_members .held h)
  | mutations edits =>
      rw [toJson, split?_cons _ [("records", _)] (show tag ∉ ["records"] by decide)]
      exact mutations?_members h
  | interaction event payload =>
      rw [toJson, split?_cons _ [("event", _), ("payload", _)]
        (show tag ∉ ["event", "payload"] by decide)]
      exact interaction?_members h
  | loaded =>
      rw [toJson, split?_cons _ [] List.not_mem_nil]
      rfl

/-! ## What was read -/

theorem depth_le_of_split? {j rest : Json} {name : String} (h : split? j = some (name, rest)) :
    rest.depth ≤ j.depth := by
  rw [split?.eq_def] at h
  split at h
  · rename_i items
    cases h
    rw [Json.depth.eq_1 (_ :: _), Json.depth_arr_le]
    exact fun i hi => Json.depthItems_le.mp (Nat.le_refl _) i (List.mem_cons_of_mem _ hi)
  · rename_i ms
    split at h
    · cases h
      rw [Json.depth.eq_2 ms, Json.depth_obj_le]
      exact fun m hm => Json.depthMembers_le.mp (Nat.le_refl _) m (List.mem_of_mem_filter hm)
    · cases h
  · cases h

theorem kept_of_snapshot? {how : Json.Held} {j : Json} {o : Opening}
    (h : Opening.ofJson? how j = some o) :
    (snapshot o).Kept ∧ (snapshot o).toJson.depth ≤ j.depth := by
  rw [Opening.ofJson?] at h
  simp only [Option.bind_eq_bind, Option.bind_eq_some_iff] at h
  obtain ⟨fs, hfs, url, -, title, -, root, hroot, h⟩ := h
  cases h
  obtain ⟨v, hv, hread⟩ := Json.Fields.exists_of_required? hroot
  have hstring : ∀ o, fs.Covers (Json.ofString? o) := by
    intro o
    cases o <;> exact .inl rfl
  refine ⟨Descriptor.kept_of_ofJsonFrom? hread, Json.depth_obj_le_of_covers hfs ?_⟩
  simp only [Opening.members, List.forall_mem_cons]
  exact ⟨.inl rfl, hstring url, hstring title,
    .inr ⟨_, v, hv, Descriptor.depth_toJson_le_of_ofJsonFrom? hread⟩, List.forall_mem_nil _⟩

theorem kept_of_mutations? {j : Json} {s : Signal} (h : mutations? j = some s) :
    s.Kept ∧ s.toJson.depth ≤ j.depth := by
  rw [mutations?] at h
  simp only [Option.bind_eq_bind, Option.bind_eq_some_iff] at h
  obtain ⟨fs, hfs, edits, hedits, h⟩ := h
  cases h
  obtain ⟨v, hv, hlist⟩ := Json.Fields.exists_of_required? hedits
  obtain ⟨items, rfl, hitems⟩ := exists_of_list? hlist
  refine ⟨fun v hv => ?_, Json.depth_obj_le_of_covers hfs ?_⟩
  · obtain ⟨e, he, hv⟩ := List.mem_flatMap.mp hv
    obtain ⟨i, -, hi⟩ := hitems e he
    exact Edit.kept_of_ofJson? hi v hv
  · simp only [List.forall_mem_cons]
    refine ⟨.inl rfl, .inr ⟨_, _, hv, depth_arr_map_le fun e he => ?_⟩, List.forall_mem_nil _⟩
    exact (hitems e he).imp fun i hi => ⟨hi.1, Edit.depth_toJson_le_of_ofJson? hi.2⟩

theorem kept_of_interaction? {j : Json} {s : Signal} (h : interaction? j = some s) :
    s.Kept ∧ s.toJson.depth ≤ j.depth := by
  rw [interaction?] at h
  simp only [Option.bind_eq_bind, Option.bind_eq_some_iff] at h
  obtain ⟨fs, hfs, event, -, payload, hpayload, h⟩ := h
  cases h
  -- A payload of `null` may stand for one that is missing.
  by_cases hnull : payload = .null
  · subst hnull
    refine ⟨rfl, Json.depth_obj_le_of_covers hfs ?_⟩
    simp only [List.forall_mem_cons]
    exact ⟨.inl rfl, .inl rfl, .inl rfl, List.forall_mem_nil _⟩
  · obtain ⟨v, hv, hfree⟩ := Json.Fields.exists_of_withDefault? hpayload hnull
    refine ⟨Json.free?_of_free? hfree, Json.depth_obj_le_of_covers hfs ?_⟩
    simp only [List.forall_mem_cons]
    exact ⟨.inl rfl, .inl rfl, .inr ⟨_, v, hv, Json.depth_le_of_free? hfree⟩, List.forall_mem_nil _⟩

theorem kept_of_loaded? {j : Json} {s : Signal} (h : loaded? j = some s) :
    s.Kept ∧ s.toJson.depth ≤ j.depth := by
  have hdepth : loaded.toJson.depth ≤ 1 := Nat.le_refl _
  cases j with
  | arr items =>
      cases items with
      | nil =>
          cases h
          exact ⟨List.forall_mem_nil _, hdepth⟩
      | cons i items => exact nomatch h
  | obj ms =>
      cases h
      exact ⟨List.forall_mem_nil _, Nat.le_trans hdepth (Nat.succ_le_succ (Nat.zero_le _))⟩
  | _ => exact nomatch h

/-- Every signal that was read is kept when it is read again, and it is written no deeper. -/
theorem kept_of_ofJson? {j : Json} {s : Signal} (h : ofJson? j = some s) :
    s.Kept ∧ s.toJson.depth ≤ j.depth := by
  rw [ofJson?] at h
  split at h
  · split at h
    case h_1 hsplit =>
      obtain ⟨o, ho, rfl⟩ := Option.map_eq_some_iff.mp h
      exact (kept_of_snapshot? ho).imp_right (Nat.le_trans · (depth_le_of_split? hsplit))
    case h_2 hsplit =>
      exact (kept_of_mutations? h).imp_right (Nat.le_trans · (depth_le_of_split? hsplit))
    case h_3 hsplit =>
      exact (kept_of_interaction? h).imp_right (Nat.le_trans · (depth_le_of_split? hsplit))
    case h_4 hsplit =>
      exact (kept_of_loaded? h).imp_right (Nat.le_trans · (depth_le_of_split? hsplit))
    case h_5 => exact nomatch h
  · exact nomatch h

/-! ## Records -/

/-- A signal whose record is read back: a reader keeps its free values, these have only integers for
numbers, and the record is not nested deeper than a reader goes. -/
structure Recordable (s : Signal) : Prop where
  kept : s.Kept
  integral : ∀ v ∈ s.freeValues, v.integral
  shallow : s.toJson.depth ≤ Json.maxDepth

theorem Recordable.of_parse? {line : String} {s : Signal}
    (h : (Json.parse? line).bind ofJson? = some s) (hintegral : ∀ v ∈ s.freeValues, v.integral) :
    s.Recordable := by
  obtain ⟨j, hj, hs⟩ := Option.bind_eq_some_iff.mp h
  obtain ⟨hkept, hdepth⟩ := kept_of_ofJson? hs
  have hreadable : j.readable := by
    rw [ofJson?, Option.ite_none_right_eq_some] at hs
    exact hs.1
  exact ⟨hkept, hintegral, Nat.le_trans hdepth (Json.depth_le_of_parse? hj hreadable)⟩

/-- The record of a signal is read as the signal. -/
theorem Recordable.parse?_wire {s : Signal} (h : s.Recordable) :
    (Json.parse? s.wire).bind ofJson? = some s := by
  have hintegral := hereditary_toJson Json.hereditary_integral h.integral
  rw [wire, Json.parse?_text (readable_toJson h.kept) hintegral h.shallow, Option.bind_some,
    ofJson?_toJson h.kept]

/-- The record of a signal has no control characters. -/
theorem Recordable.le_toNat_of_mem_wire {s : Signal} (h : s.Recordable) :
    ∀ c ∈ s.wire.toList, 0x20 ≤ c.toNat := by
  rw [wire, Json.text, String.toList_ofList]
  exact Json.le_toNat_of_mem_render (hereditary_toJson Json.hereditary_integral h.integral)

/-- The record of a signal is not blank. -/
theorem allBlank_wire (s : Signal) : Text.allBlank s.wire = false := by
  have hhead : ∃ cs, s.toJson.render = '\x7b' :: cs := by
    cases s <;> exact ⟨_, rfl⟩
  obtain ⟨cs, hcs⟩ := hhead
  rw [wire, Json.text, Text.allBlank, String.toList_ofList, hcs, List.all_cons]
  rfl

end Signal

end EditWatch.Session
