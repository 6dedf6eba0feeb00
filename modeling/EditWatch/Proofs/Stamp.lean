import EditWatch.Proofs.Json.Fields
import EditWatch.Stamp

/-!
# EditWatch.Proofs.Stamp -- stamps are read back

A stamp is written as members of its event, behind those of the event itself. Since none of its names
is one of theirs, the event finds its own fields, and the stamp is read from what they leave over.
-/

namespace EditWatch

open Json (Hereditary)

theorem FrameIndex.ofJson?_toJson (f : FrameIndex) : ofJson? f.toJson = some f := by
  cases f with
  | unset => rfl
  | index n =>
      have hword : (Json.ofNat n.toNat).uint32? = some n := by
        rw [Json.uint32?, Json.nat?_ofNat n.toNat_lt (by decide), Option.map_some,
          UInt32.ofNat_toNat]
      rw [toJson, ofJson?, read, hword]
      rfl

namespace Stamp

/-- What is written for a stamp. -/
def fields (s : Stamp) : Json.Fields where
  values := [("doc_id", some (Json.ofString? s.docId)), ("title", some (Json.ofString? s.title)),
    ("frameindex", some s.frame.toJson)]

theorem members_eq (s : Stamp) : s.members = s.fields.members := rfl

theorem nodup_names_fields (s : Stamp) : s.fields.names.Nodup :=
  show fieldNames.Nodup by decide

theorem ofFields?_fields (s : Stamp) : ofFields? s.fields = some s := by
  have hfields := Json.Fields.get?_eq s.nodup_names_fields
  simp only [fields, List.forall_mem_cons] at hfields
  rw [← fields] at hfields
  obtain ⟨hdocId, htitle, hframe, -⟩ := hfields
  have hdocId : s.fields.optional? "doc_id" Json.string? = some s.docId :=
    (Json.Fields.withDefault?_of_get? hdocId).trans (Json.optional?_ofString? s.docId)
  have htitle : s.fields.optional? "title" Json.string? = some s.title :=
    (Json.Fields.withDefault?_of_get? htitle).trans (Json.optional?_ofString? s.title)
  have hframe : s.fields.required? "frameindex" FrameIndex.ofJson? = some s.frame :=
    (Json.Fields.required?_of_get? hframe).trans s.frame.ofJson?_toJson
  rw [ofFields?]
  simp only [Option.bind_eq_bind]
  rw [hdocId, Option.bind_some, htitle, Option.bind_some, hframe, Option.bind_some]
  rfl

theorem hereditary_members {P : Json → Prop} (hP : Hereditary P) (s : Stamp) :
    ∀ m ∈ s.members, P m.2 := by
  simp only [members, List.forall_mem_cons]
  refine ⟨hP.ofString? _, hP.ofString? _, ?_, List.forall_mem_nil _⟩
  cases s.frame with
  | unset => exact hP.str _
  | index n =>
      have hlt := n.toNat_lt
      exact hP.ofNat (by omega)

/-! ## Behind the fields of an event -/

section

variable {fs : Json.Fields} {s : Stamp}

theorem notMem_names_of_mem_members (h : ∀ n ∈ fieldNames, n ∉ fs.names) :
    ∀ m ∈ s.members, m.1 ∉ fs.names := by
  intro m hm
  have hname : m.1 ∈ s.members.map Prod.fst := List.mem_map_of_mem hm
  exact h m.1 hname

/-- An event with a stamp finds its own fields. -/
theorem objectFields?_append_members (hnames : fs.names.Nodup)
    (h : ∀ n ∈ fieldNames, n ∉ fs.names) :
    Json.objectFields? fs.names (.obj (fs.members ++ s.members)) = some fs :=
  Json.Fields.ofMembers?_append hnames (notMem_names_of_mem_members h)

theorem heldObject?_append_members (h : ∀ n ∈ fieldNames, n ∉ fs.names) :
    Json.heldObject? fs.names (.obj (fs.members ++ s.members)) = some (.obj s.members) :=
  Json.Fields.heldObject?_append (notMem_names_of_mem_members h)
    (s.hereditary_members Json.hereditary_readable)

/-- The stamp is read from what the fields of the event leave over. -/
theorem ofFields?_held (s : Stamp) :
    (Json.objectFields? fieldNames (.obj s.members)).bind ofFields? = some s := by
  have hread : Json.fields? fieldNames (.obj s.members) = some s.fields :=
    Json.Fields.fields?_members s.nodup_names_fields
  exact (congrArg (Option.bind · ofFields?) hread).trans s.ofFields?_fields

end

end Stamp

end EditWatch
