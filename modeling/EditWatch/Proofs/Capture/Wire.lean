import EditWatch.Capture.Interaction
import EditWatch.Proofs.Json.Canonical
import EditWatch.Proofs.Stamp

/-!
# EditWatch.Proofs.Capture.Wire -- interactions are read back

The properties of an interaction are free values under the texts of their paths. Each free value is
read as itself, and the map is built again from its entries.
-/

namespace EditWatch.Capture

open Json (Hereditary)

/-! ## Properties -/

namespace Properties

/-- The values of the properties. -/
def freeValues (p : Properties) : List Json := p.toList.map Prod.snd

theorem ofMembers?_of_free? {ms : List (String × Json)} (h : ∀ m ∈ ms, m.2.free? = some m.2)
    (acc : Properties) :
    Properties.ofMembers? acc ms = some (ms.foldl (fun acc m => acc.insert m.1 m.2) acc) := by
  induction ms generalizing acc with
  | nil => rfl
  | cons m ms ih =>
      obtain ⟨k, j⟩ := m
      rw [List.forall_mem_cons] at h
      simp only [ofMembers?, h.1]
      exact ih h.2 (acc.insert k j)

theorem ofJson?_toJson {p : Properties} (h : ∀ v ∈ p.freeValues, v.free? = some v) :
    Properties.ofJson? p.toJson = some p := by
  rw [freeValues, List.forall_mem_map] at h
  rw [Properties.toJson, Properties.ofJson?, ofMembers?_of_free? h, Json.foldl_insert_toList]

theorem hereditary_toJson {P : Json → Prop} (hP : Hereditary P) {p : Properties}
    (h : ∀ v ∈ p.freeValues, P v) : P p.toJson :=
  hP.obj (List.forall_mem_map.mp h)

end Properties

/-! ## Interactions -/

namespace InteractionEvent

/-- What is written for an interaction in front of its stamp. -/
def fields (e : InteractionEvent) : Json.Fields where
  values := [("event", some (.str e.event)), ("event_type", some (.str e.category)),
    ("properties", some e.properties.toJson)]

theorem toJson_eq (e : InteractionEvent) :
    e.toJson = .obj (e.fields.members ++ e.stamp.members) := rfl

theorem nodup_names_fields (e : InteractionEvent) : e.fields.names.Nodup :=
  show fieldNames.Nodup by decide

theorem notMem_names_fields (e : InteractionEvent) : ∀ n ∈ Stamp.fieldNames, n ∉ e.fields.names :=
  show ∀ n ∈ Stamp.fieldNames, n ∉ fieldNames by decide

/-- An interaction is read back from the value that is written for it. -/
theorem ofJson?_toJson {e : InteractionEvent}
    (h : ∀ v ∈ e.properties.freeValues, v.free? = some v) : ofJson? e.toJson = some e := by
  have hfields := Json.Fields.get?_eq e.nodup_names_fields
  simp only [fields, List.forall_mem_cons] at hfields
  rw [← fields] at hfields
  obtain ⟨hevent, hcategory, hproperties, -⟩ := hfields
  have hevent : e.fields.required? "event" Json.string? = some e.event :=
    Json.Fields.required?_of_get? hevent
  have hcategory : e.fields.required? "event_type" Json.string? = some e.category :=
    Json.Fields.required?_of_get? hcategory
  have hproperties : e.fields.required? "properties" Properties.ofJson? = some e.properties :=
    (Json.Fields.required?_of_get? hproperties).trans (Properties.ofJson?_toJson h)
  have hread : Json.objectFields? fieldNames (.obj (e.fields.members ++ e.stamp.members)) =
      some e.fields :=
    Stamp.objectFields?_append_members e.nodup_names_fields e.notMem_names_fields
  have hheld : Json.heldObject? fieldNames (.obj (e.fields.members ++ e.stamp.members)) =
      some (.obj e.stamp.members) :=
    Stamp.heldObject?_append_members e.notMem_names_fields
  rw [ofJson?, toJson_eq, hread]
  simp only [Option.bind_eq_bind]
  rw [Option.bind_some, hevent, Option.bind_some, hcategory, Option.bind_some, hproperties,
    Option.bind_some, hheld, Option.bind_some, e.stamp.ofFields?_held, Option.bind_some]
  rfl

theorem hereditary_toJson {P : Json → Prop} (hP : Hereditary P) {e : InteractionEvent}
    (h : ∀ v ∈ e.properties.freeValues, P v) : P e.toJson := by
  rw [toJson_eq]
  refine hP.obj (List.forall_mem_append.mpr ⟨Json.Fields.forall_mem_members.mpr ?_,
    e.stamp.hereditary_members hP⟩)
  simp only [fields, List.forall_mem_cons, Json.forall_mem_some]
  exact ⟨hP.str _, hP.str _, Properties.hereditary_toJson hP h, List.forall_mem_nil _⟩

/-- An interaction has no member of another name than those of its fields and its stamp. -/
theorem member?_eq_none {e : InteractionEvent} {name : String} (hfields : name ∉ fieldNames)
    (hstamp : name ∉ Stamp.fieldNames) :
    Json.member? name (e.fields.members ++ e.stamp.members) = none := by
  have hown : Json.member? name e.fields.members = none :=
    Json.Fields.member?_members_of_notMem hfields
  have hother : Json.member? name e.stamp.fields.members = none :=
    Json.Fields.member?_members_of_notMem hstamp
  rw [Json.member?_append, e.stamp.members_eq, hown, hother, Option.or_none]

end InteractionEvent

end EditWatch.Capture
