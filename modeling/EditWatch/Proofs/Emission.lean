import EditWatch.Emission
import EditWatch.Proofs.Capture.Wire
import EditWatch.Proofs.Json.Text
import EditWatch.Proofs.Labelling.Wire

/-!
# EditWatch.Proofs.Emission -- emissions are read back

An emission does not say of which sort it is. What is written for an annotated event is one that is
read as such. What is written for an interaction has no label, whatever its category is called, so it
is no annotated event and is read as an interaction.
-/

namespace EditWatch.Emission

open Json (Hereditary)

variable {e : Emission}

/-- The free values of an emission: those of the properties of an interaction. -/
def freeValues : Emission → List Json
  | .annotated _ => []
  | .interaction e => e.properties.freeValues

theorem hereditary_toJson {P : Json → Prop} (hP : Hereditary P) (h : ∀ v ∈ e.freeValues, P v) :
    P e.toJson := by
  cases e with
  | annotated e => exact e.hereditary_toJson hP
  | interaction e => exact Capture.InteractionEvent.hereditary_toJson hP h

/-- No interaction is an annotated event. -/
theorem annotated_ofJson?_interaction (how : Json.Held) (e : Capture.InteractionEvent) :
    Labelling.AnnotatedEvent.ofJson? how e.toJson = none := by
  rw [e.toJson_eq]
  apply Labelling.AnnotatedEvent.ofJson?_of_member?_eq_none
  exact Capture.InteractionEvent.member?_eq_none (by decide) (by decide)

theorem ofJson?_toJson (h : ∀ v ∈ e.freeValues, v.free? = some v) :
    ofJson? e.toJson = some e := by
  have hreadable : e.toJson.readable :=
    hereditary_toJson Json.hereditary_readable fun v hv => (Json.free?_eq_some_iff.mp (h v hv)).1
  rw [ofJson?, if_pos hreadable]
  cases e with
  | annotated e => rw [toJson, e.ofJson?_toJson]
  | interaction e =>
      rw [toJson, annotated_ofJson?_interaction]
      show (Capture.InteractionEvent.ofJson? e.toJson).map interaction = _
      rw [Capture.InteractionEvent.ofJson?_toJson h, Option.map_some]

/-- An emission whose line is read back: its free values are such as texts have and hold only integers
for numbers, and the line is not nested deeper than a reader goes. -/
structure Readable (e : Emission) : Prop where
  readable : ∀ v ∈ e.freeValues, v.readable
  canonical : ∀ v ∈ e.freeValues, v.IsCanonical
  integral : ∀ v ∈ e.freeValues, v.integral
  shallow : e.toJson.depth ≤ Json.maxDepth

/-- The line of an emission is read as the same emission, in the same variant: what is written for an
interaction is not taken for an annotated event. -/
theorem ofJson?_wire (h : e.Readable) :
    (Json.parse? e.wire).bind ofJson? = some e ∧
      ∀ i how, e = .interaction i → Labelling.AnnotatedEvent.ofJson? how e.toJson = none := by
  have hreadable := hereditary_toJson Json.hereditary_readable h.readable
  have hintegral := hereditary_toJson Json.hereditary_integral h.integral
  have hfree : ∀ v ∈ e.freeValues, v.free? = some v := fun v hv =>
    Json.free?_eq_self_iff.mpr ⟨h.readable v hv, h.canonical v hv⟩
  constructor
  · rw [wire, Json.parse?_text hreadable hintegral h.shallow, Option.bind_some,
      ofJson?_toJson hfree]
  · rintro i how rfl
    exact annotated_ofJson?_interaction how i

/-- The path to what was clicked, as a property. -/
def clickedPath : Json := .obj [("path", .arr [.null, .num (.int ⟨2, by decide, by decide⟩)])]

/-- A click whose category has the name of a category of edits. -/
def insertClick : Emission :=
  .interaction ⟨"click", "insert", (∅ : Capture.Properties).insert "target" clickedPath,
    ⟨none, some "Page", .index 3⟩⟩

theorem readable_insertClick : insertClick.Readable := by
  have hvalues : ∀ P : Json → Prop, P clickedPath → ∀ v ∈ insertClick.freeValues, P v := by
    intro P hP
    rw [show insertClick.freeValues = [clickedPath] by rfl, List.forall_mem_singleton]
    exact hP
  have hcanonical : clickedPath.IsCanonical :=
    ⟨List.pairwise_singleton _ _, ⟨trivial, trivial, trivial⟩, trivial⟩
  exact ⟨hvalues _ (by rfl), hvalues _ hcanonical, hvalues _ (by rfl), by decide⟩

/-- It is read back as an interaction. -/
theorem ofJson?_wire_insertClick :
    insertClick.Readable ∧ (Json.parse? insertClick.wire).bind ofJson? = some insertClick :=
  ⟨readable_insertClick, (ofJson?_wire readable_insertClick).1⟩

end EditWatch.Emission
