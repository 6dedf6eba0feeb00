import EditWatch.Proofs.Capture.Region

/-!
# EditWatch.Proofs.Capture.Acceptance -- the specs that make up a table

Specs make up a table just when each of them lists an event and no event is listed twice; else the
fault is that of the first spec that does not fit behind those before it. In a table every event
leads by its position to the one spec that lists it, and on this rests what is registered in the
dynamic region: each event of document scope once, for the category of the spec that it leads to.
-/

namespace EditWatch.Capture

namespace Rebinder

variable {region : String} {t : Table} {frame : FrameIndex}

theorem mem_bindings_iff {b : Binding} :
    b ∈ (ofTable region t frame).bindings ↔
      ∃ s ∈ t.specs, s.scope = .document ∧ b.event ∈ s.events ∧ b.handler = ⟨s.category, frame⟩ := by
  simp only [ofTable, Table.ofScope, specBindings, List.mem_flatMap, List.mem_filter, List.mem_map,
    decide_eq_true_eq, and_assoc]
  constructor
  · rintro ⟨s, hs, hscope, e, he, rfl⟩
    exact ⟨s, hs, hscope, he, rfl⟩
  · rintro ⟨s, hs, hscope, he, hhandler⟩
    refine ⟨s, hs, hscope, b.event, he, ?_⟩
    rw [← hhandler]

/-- A registration is for the category of the spec that its event leads to. -/
theorem exists_lookup_of_mem_bindings {b : Binding}
    (hb : b ∈ (ofTable region t frame).bindings) :
    ∃ s, t.lookup b.event = some s ∧ s.scope = .document ∧ b.handler = ⟨s.category, frame⟩ := by
  obtain ⟨s, hs, hscope, he, hhandler⟩ := mem_bindings_iff.mp hb
  exact ⟨s, Table.lookup_eq_some_iff.mpr ⟨hs, he⟩, hscope, hhandler⟩

end Rebinder

namespace Table

/-- Specs make up a table if all of them list events and no event is listed twice, and otherwise the
fault is the flaw of the first spec that does not fit. In the table that they make up an event leads
to the spec that lists it, and to none if there is none such; the specs of the table make it up again.
What a rebinder registers are the events of the specs of document scope in their order, each for the
category of the spec that it leads to and for the frame at hand, and none of them twice. -/
theorem specs_make_table (specs : List Spec) :
    ((∃ t, ofSpecs specs = .ok t) ↔ Sound specs) ∧
    (∀ f, ofSpecs specs = .error f ↔ FirstFlaw specs f) ∧
    ∀ t, ofSpecs specs = .ok t →
      (∀ e s, t.lookup e = some s ↔ s ∈ specs ∧ e ∈ s.events) ∧
      (∀ e, t.lookup e = none ↔ ∀ s ∈ specs, e ∉ s.events) ∧
      t.specs = specs ∧ ofSpecs t.specs = .ok t ∧
      ∀ region frame,
        (Rebinder.ofTable region t frame).bindings.Nodup ∧
        (Rebinder.ofTable region t frame).bindings.map Binding.event =
          (specs.filter fun s => s.scope = .document).flatMap Spec.events ∧
        ∀ b ∈ (Rebinder.ofTable region t frame).bindings,
          ∃ s, t.lookup b.event = some s ∧ s.scope = .document ∧
            b.handler = ⟨s.category, frame⟩ := by
  refine ⟨exists_ofSpecs_eq_ok_iff, fun f => ofSpecs_eq_error_iff, fun t ht => ?_⟩
  obtain rfl := ofSpecs_eq_ok_iff.mp ht
  refine ⟨fun e s => lookup_eq_some_iff, fun e => lookup_eq_none_iff, rfl, ht, ?_⟩
  intro region frame
  exact ⟨Rebinder.nodup_bindings region t frame, Rebinder.map_event_bindings region t frame,
    fun b hb => Rebinder.exists_lookup_of_mem_bindings hb⟩

/-- Keys and saving on the page, the focus on the window. -/
def pageSpecs : List Spec :=
  [⟨"keystroke", ["keydown", "keyup"], [], .document⟩, ⟨attentionCategory, ["focusin"], [], .window⟩,
   ⟨"save", ["saved"], [], .document⟩]

/-- A category that claims an event of its own before one that the keys have. -/
def pressSpec : Spec := ⟨"press", ["keypress", "keyup", "keypress"], [], .window⟩

/-- The focus is looked up but not registered. Of the two events that the added category may not
list the fault is about the one that comes first, though the other one clashes within a category. -/
theorem specs_make_table_page : ∃ t, ofSpecs pageSpecs = .ok t ∧
    t.lookup "focusin" = some ⟨attentionCategory, ["focusin"], [], .window⟩ ∧
    t.lookup "scroll" = none ∧
    (Rebinder.ofTable "stream" t .unset).bindings.map Binding.event = ["keydown", "keyup", "saved"] ∧
    ofSpecs (pageSpecs ++ [pressSpec]) = .error (.duplicateEvent "keyup" "keystroke" "press") := by
  have hsound : Sound pageSpecs := ⟨by decide, by decide⟩
  obtain ⟨haccepted, -, htable⟩ := specs_make_table pageSpecs
  obtain ⟨t, ht⟩ := haccepted.mpr hsound
  obtain ⟨hlisted, hnone, -, -, hbindings⟩ := htable t ht
  have hclash : FirstFlaw (pageSpecs ++ [pressSpec])
      (.duplicateEvent "keyup" "keystroke" "press") := by
    have hevents : pressSpec.events = ["keypress"] ++ "keyup" :: ["keypress"] := rfl
    have hfirst : ⟨"keystroke", ["keydown", "keyup"], [], .document⟩ ∈
        upTo pageSpecs pressSpec ["keypress"] := List.mem_cons_self
    exact ⟨pageSpecs, pressSpec, [], rfl, hsound,
      .duplicateEvent hevents (by decide) hfirst (by decide)⟩
  refine ⟨t, ht, (hlisted _ _).mpr ⟨by decide, by decide⟩, (hnone _).mpr (by decide),
    (hbindings "stream" .unset).2.1.trans (by decide), ?_⟩
  exact ((specs_make_table _).2.1 _).mpr hclash

end Table

end EditWatch.Capture
