import EditWatch.Labelling.Remark
import EditWatch.Proofs.Document.Wire
import EditWatch.Proofs.Stamp
import Mathlib.Data.Option.Basic

/-!
# EditWatch.Proofs.Labelling.Wire -- annotated events are read back

What is written for a snapshot or an annotated event is read as the same again: what a node does not
have is left out, and what is left out is read as nothing.
-/

namespace EditWatch.Labelling

open EditWatch.Document
open Json (Held Hereditary)

theorem Category.ofJson?_toJson (how : Held) (c : Category) : ofJson? how c.toJson = some c := by
  show ofName? c.name = some c
  exact c.ofName?_name

/-! ## Snapshots -/

namespace NodeSnapshot

/-- What is written for the snapshot of a node. -/
def fields (s : NodeSnapshot) : Json.Fields where
  values := [("className", s.className.map .str), ("data", s.data.map .str),
    ("id", s.id.map .str), ("innerText", s.innerText.map .str),
    ("nodeType", s.nodeType.map fun n => Json.ofNat n.toNat)]

theorem toJson_eq (s : NodeSnapshot) : s.toJson = .obj s.fields.members := by
  simp [toJson, Json.Fields.members, fields]

theorem nodup_names_fields (s : NodeSnapshot) : s.fields.names.Nodup :=
  show fieldNames.Nodup by decide

theorem uint16?_ofNat (n : UInt16) : (Json.ofNat n.toNat).uint16? = some n := by
  rw [Json.uint16?, Json.nat?_ofNat n.toNat_lt (by decide), Option.map_some, UInt16.ofNat_toNat]

theorem ofJson?_toJson (s : NodeSnapshot) : ofJson? s.toJson = some s := by
  have hfields := Json.Fields.get?_eq s.nodup_names_fields
  simp only [fields, List.forall_mem_cons] at hfields
  rw [← fields] at hfields
  obtain ⟨hclass, hdata, hid, hinner, htype, -⟩ := hfields
  have hclass : s.fields.optional? "className" Json.string? = some s.className :=
    Json.Fields.optional?_written hclass fun _ _ => rfl
  have hdata : s.fields.optional? "data" Json.string? = some s.data :=
    Json.Fields.optional?_written hdata fun _ _ => rfl
  have hid : s.fields.optional? "id" Json.string? = some s.id :=
    Json.Fields.optional?_written hid fun _ _ => rfl
  have hinner : s.fields.optional? "innerText" Json.string? = some s.innerText :=
    Json.Fields.optional?_written hinner fun _ _ => rfl
  have htype : s.fields.optional? "nodeType" Json.uint16? = some s.nodeType := by
    refine Json.Fields.optional?_written htype fun n _ => ?_
    refine Json.optional?_of_value? ?_ (uint16?_ofNat n)
    intro hnull
    have hread := uint16?_ofNat n
    rw [hnull] at hread
    exact nomatch hread
  have hread : Json.fields? fieldNames (.obj s.fields.members) = some s.fields :=
    Json.Fields.fields?_members s.nodup_names_fields
  rw [ofJson?, toJson_eq, hread]
  simp only [Option.bind_eq_bind]
  rw [Option.bind_some, hclass, Option.bind_some, hdata, Option.bind_some, hid, Option.bind_some,
    hinner, Option.bind_some, htype, Option.bind_some]
  rfl

theorem hereditary_toJson {P : Json → Prop} (hP : Hereditary P) (s : NodeSnapshot) :
    P s.toJson := by
  rw [toJson_eq]
  refine hP.obj (Json.Fields.forall_mem_members.mpr ?_)
  simp only [fields, List.forall_mem_cons, Option.forall_mem_map]
  refine ⟨fun _ _ => hP.str _, fun _ _ => hP.str _, fun _ _ => hP.str _, fun _ _ => hP.str _,
    fun n _ => ?_, List.forall_mem_nil _⟩
  have hlt := n.toNat_lt
  exact hP.ofNat (by omega)

end NodeSnapshot

namespace ParentSnapshot

/-- What is written for the snapshot of a parent. -/
def fields (s : ParentSnapshot) : Json.Fields where
  values := [("className", s.className.map .str), ("id", s.id.map .str)]

theorem toJson_eq (s : ParentSnapshot) : s.toJson = .obj s.fields.members := by
  simp [toJson, Json.Fields.members, fields]

theorem nodup_names_fields (s : ParentSnapshot) : s.fields.names.Nodup :=
  show fieldNames.Nodup by decide

theorem ofJson?_toJson (s : ParentSnapshot) : ofJson? s.toJson = some s := by
  have hfields := Json.Fields.get?_eq s.nodup_names_fields
  simp only [fields, List.forall_mem_cons] at hfields
  rw [← fields] at hfields
  obtain ⟨hclass, hid, -⟩ := hfields
  have hclass : s.fields.optional? "className" Json.string? = some s.className :=
    Json.Fields.optional?_written hclass fun _ _ => rfl
  have hid : s.fields.optional? "id" Json.string? = some s.id :=
    Json.Fields.optional?_written hid fun _ _ => rfl
  have hread : Json.fields? fieldNames (.obj s.fields.members) = some s.fields :=
    Json.Fields.fields?_members s.nodup_names_fields
  rw [ofJson?, toJson_eq, hread]
  simp only [Option.bind_eq_bind]
  rw [Option.bind_some, hclass, Option.bind_some, hid, Option.bind_some]
  rfl

theorem hereditary_toJson {P : Json → Prop} (hP : Hereditary P) (s : ParentSnapshot) :
    P s.toJson := by
  rw [toJson_eq]
  refine hP.obj (Json.Fields.forall_mem_members.mpr ?_)
  simp only [fields, List.forall_mem_cons, Option.forall_mem_map]
  exact ⟨fun _ _ => hP.str _, fun _ _ => hP.str _, List.forall_mem_nil _⟩

end ParentSnapshot

namespace RecordSnapshot

/-- What is written for the snapshot of a record. -/
def fields (s : RecordSnapshot) : Json.Fields where
  values := [("addedNode", s.addedNode.map NodeSnapshot.toJson),
    ("removedNode", s.removedNode.map NodeSnapshot.toJson),
    ("target", s.target.map NodeSnapshot.toJson),
    ("targetParent", s.targetParent.map ParentSnapshot.toJson), ("type", some s.kind.toJson)]

theorem toJson_eq (s : RecordSnapshot) : s.toJson = .obj s.fields.members := by
  simp [toJson, Json.Fields.members, fields, Json.optionalMember]

theorem nodup_names_fields (s : RecordSnapshot) : s.fields.names.Nodup :=
  show fieldNames.Nodup by decide

theorem ofJson?_toJson (how : Held) (s : RecordSnapshot) : ofJson? how s.toJson = some s := by
  have hfields := Json.Fields.get?_eq s.nodup_names_fields
  simp only [fields, List.forall_mem_cons] at hfields
  rw [← fields] at hfields
  obtain ⟨hadded, hremoved, htarget, hparent, hkind, -⟩ := hfields
  have hnode : ∀ n : NodeSnapshot,
      Json.optional? NodeSnapshot.ofJson? n.toJson = some (some n) := fun n =>
    Json.optional?_of_value? nofun n.ofJson?_toJson
  have hadded : s.fields.optional? "addedNode" NodeSnapshot.ofJson? = some s.addedNode :=
    Json.Fields.optional?_written hadded fun n _ => hnode n
  have hremoved : s.fields.optional? "removedNode" NodeSnapshot.ofJson? = some s.removedNode :=
    Json.Fields.optional?_written hremoved fun n _ => hnode n
  have htarget : s.fields.optional? "target" NodeSnapshot.ofJson? = some s.target :=
    Json.Fields.optional?_written htarget fun n _ => hnode n
  have hparent : s.fields.optional? "targetParent" ParentSnapshot.ofJson? = some s.targetParent :=
    Json.Fields.optional?_written hparent fun p _ =>
      Json.optional?_of_value? nofun p.ofJson?_toJson
  have hkind : s.fields.required? "type" (EditKind.ofJson? how) = some s.kind :=
    (Json.Fields.required?_of_get? hkind).trans (EditKind.ofJson?_toJson how s.kind)
  have hread : Json.fields? fieldNames (.obj s.fields.members) = some s.fields :=
    Json.Fields.fields?_members s.nodup_names_fields
  rw [ofJson?, toJson_eq, hread]
  simp only [Option.bind_eq_bind]
  rw [Option.bind_some, hadded, Option.bind_some, hremoved, Option.bind_some, htarget,
    Option.bind_some, hparent, Option.bind_some, hkind, Option.bind_some]
  rfl

theorem hereditary_toJson {P : Json → Prop} (hP : Hereditary P) (s : RecordSnapshot) :
    P s.toJson := by
  rw [toJson_eq]
  refine hP.obj (Json.Fields.forall_mem_members.mpr ?_)
  simp only [fields, List.forall_mem_cons, Option.forall_mem_map, Json.forall_mem_some]
  exact ⟨fun n _ => n.hereditary_toJson hP, fun n _ => n.hereditary_toJson hP,
    fun n _ => n.hereditary_toJson hP, fun p _ => p.hereditary_toJson hP, hP.str _,
    List.forall_mem_nil _⟩

end RecordSnapshot

/-! ## Annotated events -/

namespace AnnotatedEvent

/-- What is written for an annotated event in front of its stamp. -/
def fields (e : AnnotatedEvent) : Json.Fields where
  values := [("event_type", some e.category.toJson), ("type", some (.str e.label)),
    ("change", some e.change.toJson), ("context_content", e.contextContent.map .str)]

theorem toJson_eq (e : AnnotatedEvent) :
    e.toJson = .obj (e.fields.members ++ e.stamp.members) := by
  simp [toJson, Json.Fields.members, fields, Json.optionalMember]

theorem nodup_names_fields (e : AnnotatedEvent) : e.fields.names.Nodup :=
  show fieldNames.Nodup by decide

theorem notMem_names_fields (e : AnnotatedEvent) : ∀ n ∈ Stamp.fieldNames, n ∉ e.fields.names :=
  show ∀ n ∈ Stamp.fieldNames, n ∉ fieldNames by decide

/-- An annotated event is read back from the value that is written for it. -/
theorem ofJson?_toJson (how : Held) (e : AnnotatedEvent) : ofJson? how e.toJson = some e := by
  have hfields := Json.Fields.get?_eq e.nodup_names_fields
  simp only [fields, List.forall_mem_cons] at hfields
  rw [← fields] at hfields
  obtain ⟨hcategory, hlabel, hchange, hcontext, -⟩ := hfields
  have hcategory : e.fields.required? "event_type" (Category.ofJson? how) = some e.category :=
    (Json.Fields.required?_of_get? hcategory).trans (Category.ofJson?_toJson how e.category)
  have hlabel : e.fields.required? "type" Json.string? = some e.label :=
    Json.Fields.required?_of_get? hlabel
  have hchange : e.fields.required? "change" (RecordSnapshot.ofJson? how) = some e.change :=
    (Json.Fields.required?_of_get? hchange).trans (RecordSnapshot.ofJson?_toJson how e.change)
  have hcontext : e.fields.optional? "context_content" Json.string? = some e.contextContent :=
    Json.Fields.optional?_written hcontext fun _ _ => rfl
  have hread : Json.objectFields? fieldNames (.obj (e.fields.members ++ e.stamp.members)) =
      some e.fields :=
    Stamp.objectFields?_append_members e.nodup_names_fields e.notMem_names_fields
  have hheld : Json.heldObject? fieldNames (.obj (e.fields.members ++ e.stamp.members)) =
      some (.obj e.stamp.members) :=
    Stamp.heldObject?_append_members e.notMem_names_fields
  rw [ofJson?, toJson_eq, hread]
  simp only [Option.bind_eq_bind]
  rw [Option.bind_some, hcategory, Option.bind_some, hlabel, Option.bind_some, hchange,
    Option.bind_some, hcontext, Option.bind_some, hheld, Option.bind_some,
    e.stamp.ofFields?_held, Option.bind_some]
  rfl

theorem hereditary_toJson {P : Json → Prop} (hP : Hereditary P) (e : AnnotatedEvent) :
    P e.toJson := by
  rw [toJson_eq]
  refine hP.obj (List.forall_mem_append.mpr ⟨Json.Fields.forall_mem_members.mpr ?_,
    e.stamp.hereditary_members hP⟩)
  simp only [fields, List.forall_mem_cons, Option.forall_mem_map, Json.forall_mem_some]
  exact ⟨hP.str _, hP.str _, e.change.hereditary_toJson hP, fun _ _ => hP.str _,
    List.forall_mem_nil _⟩

/-- A value without a label is no annotated event. -/
theorem ofJson?_of_member?_eq_none {how : Held} {ms : List (String × Json)}
    (h : Json.member? "type" ms = none) : ofJson? how (.obj ms) = none := by
  rw [Option.eq_none_iff_forall_ne_some]
  intro e he
  rw [ofJson?] at he
  simp only [Option.bind_eq_bind, Option.bind_eq_some_iff] at he
  obtain ⟨fs, hfs, -, -, label, hlabel, -⟩ := he
  obtain ⟨j, hj, -⟩ := Json.Fields.exists_of_required? hlabel
  have hmember := Json.member?_of_get? hfs hj
  rw [h] at hmember
  exact nomatch hmember

end AnnotatedEvent

end EditWatch.Labelling
