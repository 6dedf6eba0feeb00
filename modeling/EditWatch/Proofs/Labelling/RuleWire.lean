import EditWatch.Proofs.Document.Descriptor
import EditWatch.Proofs.Json.Fields
import EditWatch.Proofs.Json.Text
import EditWatch.Proofs.Labelling.RuleTable
import Mathlib.Data.Option.Basic

/-!
# EditWatch.Proofs.Labelling.RuleWire -- rule tables are read back

A rule is written without an empty ancestor and without a context that it does not have, and just
that is what a reader takes for them where they are missing. So the text of a table, be it on one
line or indented, gives the table again before it is checked, and what becomes of the text is
decided by the check alone.
-/

namespace EditWatch.Labelling

open EditWatch.Document (mapM_map_eq_some)
open Json (Hereditary)

/-! ## Rules -/

namespace Rule

/-- What is written for a rule. -/
def fields (r : Rule) : Json.Fields where
  values := [("source", some (.str r.source)),
    ("ancestor", if r.ancestor.isEmpty then none else some (.str r.ancestor)),
    ("label", some (.str r.label)), ("context", r.context.map .str)]

theorem toJson_eq (r : Rule) : r.toJson = .obj r.fields.members := by
  by_cases h : r.ancestor.isEmpty
  · simp [toJson, Json.Fields.members, fields, Json.optionalMember, h]
  · simp [toJson, Json.Fields.members, fields, Json.optionalMember, h]

theorem nodup_names_fields (r : Rule) : r.fields.names.Nodup :=
  show fieldNames.Nodup by decide

theorem ofJson?_toJson (r : Rule) : ofJson? r.toJson = some r := by
  have hfields := Json.Fields.get?_eq r.nodup_names_fields
  simp only [fields, List.forall_mem_cons] at hfields
  rw [← fields] at hfields
  obtain ⟨hsource, hancestor, hlabel, hcontext, -⟩ := hfields
  have hsource : r.fields.required? "source" Json.string? = some r.source :=
    Json.Fields.required?_of_get? hsource
  have hancestor : r.fields.withDefault? "ancestor" Json.string? "" = some r.ancestor :=
    Json.Fields.withDefault?_written hancestor String.isEmpty_iff.mp fun _ => rfl
  have hlabel : r.fields.required? "label" Json.string? = some r.label :=
    Json.Fields.required?_of_get? hlabel
  have hcontext : r.fields.optional? "context" Json.string? = some r.context :=
    Json.Fields.optional?_written hcontext fun _ _ => rfl
  have hread : Json.fields? fieldNames (.obj r.fields.members) = some r.fields :=
    Json.Fields.fields?_members r.nodup_names_fields
  rw [ofJson?, toJson_eq, hread]
  simp only [Option.bind_eq_bind]
  rw [Option.bind_some, hsource, Option.bind_some, hancestor, Option.bind_some, hlabel,
    Option.bind_some, hcontext, Option.bind_some]
  rfl

theorem forall_mem_fields {P : Json → Prop} (hstr : ∀ s, P (.str s)) (r : Rule) :
    ∀ m ∈ r.fields.members, P m.2 := by
  rw [Json.Fields.forall_mem_members]
  simp only [fields, List.forall_mem_cons, Option.forall_mem_map, Json.forall_mem_some]
  refine ⟨hstr _, fun j hj => ?_, hstr _, fun _ _ => hstr _, List.forall_mem_nil _⟩
  obtain ⟨-, heq⟩ := Option.ite_none_left_eq_some.mp hj
  exact Option.some.inj heq ▸ hstr _

theorem hereditary_toJson {P : Json → Prop} (hP : Hereditary P) (r : Rule) : P r.toJson := by
  rw [toJson_eq]
  exact hP.obj (r.forall_mem_fields hP.str)

theorem depth_toJson_le (r : Rule) : r.toJson.depth ≤ 1 := by
  rw [toJson_eq, Json.depth_obj_le]
  exact r.forall_mem_fields (P := fun j => j.depth ≤ 0) fun _ => Nat.le_refl _

end Rule

/-! ## Tables -/

namespace RuleTable

/-- What is written for a table: the rules of every category, also where there are none. -/
def fields (t : RuleTable) : Json.Fields where
  values := Category.all.map fun c => (c.name, some (.arr ((t.get c).map Rule.toJson)))

theorem members_fields (t : RuleTable) :
    t.fields.members = Category.all.map fun c => (c.name, .arr ((t.get c).map Rule.toJson)) := by
  rw [Json.Fields.members, fields, List.flatMap_map, List.map_eq_flatMap]
  rfl

theorem toJson_eq (t : RuleTable) : t.toJson = .obj t.fields.members := by
  rw [members_fields, toJson]

theorem nodup_names_fields (t : RuleTable) : t.fields.names.Nodup :=
  show fieldNames.Nodup by decide

theorem declaresAll_toJson (t : RuleTable) : Json.declaresAll fieldNames t.toJson = true := by
  rw [toJson, Json.declaresAll, List.all_eq_true, List.forall_mem_map]
  exact fun c hc => List.contains_iff_mem.mpr (List.mem_map_of_mem hc)

theorem ofJson?_toJson (t : RuleTable) : ofJson? t.toJson = some t := by
  have hrules : ∀ c : Category,
      t.fields.withDefault? c.name (Json.list? Rule.ofJson?) [] = some (t.get c) := by
    intro c
    have hget := Json.Fields.get?_eq t.nodup_names_fields _ (List.mem_map_of_mem c.mem_all)
    exact (Json.Fields.withDefault?_of_get? hget).trans
      (mapM_map_eq_some fun r _ => r.ofJson?_toJson)
  have hread : Json.fields? fieldNames (.obj t.fields.members) = some t.fields :=
    Json.Fields.fields?_members t.nodup_names_fields
  rw [ofJson?, if_pos t.declaresAll_toJson, toJson_eq, hread]
  simp only [Option.bind_eq_bind, Option.bind_some, hrules]
  rfl

theorem hereditary_toJson {P : Json → Prop} (hP : Hereditary P) (t : RuleTable) : P t.toJson := by
  rw [toJson]
  refine hP.obj (List.forall_mem_map.mpr fun c _ => hP.arr (List.forall_mem_map.mpr fun r _ => ?_))
  exact r.hereditary_toJson hP

theorem depth_toJson_le (t : RuleTable) : t.toJson.depth ≤ 3 := by
  rw [toJson, Json.depth_obj_le, List.forall_mem_map]
  intro c _
  rw [Json.depth_arr_le, List.forall_mem_map]
  exact fun r _ => r.depth_toJson_le

/-- Once a table is written, it is the check that decides what is read. -/
theorem ofJsonText_eq_checked (t : RuleTable) :
    ∀ text ∈ [t.toJson.text, t.toJson.indentedText], ofJsonText text = checked t := by
  have hreadable := t.hereditary_toJson Json.hereditary_readable
  have hintegral := t.hereditary_toJson Json.hereditary_integral
  have hdepth : t.toJson.depth ≤ Json.maxDepth := Nat.le_trans t.depth_toJson_le (by decide)
  have hread : ∀ text ∈ [t.toJson.text, t.toJson.indentedText],
      Json.parse? text = some t.toJson := by
    rw [List.forall_mem_cons, List.forall_mem_singleton]
    exact ⟨Json.parse?_text hreadable hintegral hdepth,
      Json.parse?_indentedText hreadable hintegral hdepth⟩
  intro text htext
  rw [ofJsonText, hread text htext, Option.bind_some, ofJson?_toJson]

/-- Whatever is read was checked. -/
theorem complete_of_ofJsonText {text : String} {t : RuleTable} (h : ofJsonText text = .ok t) :
    t.Complete := by
  rw [ofJsonText] at h
  split at h
  · obtain ⟨rfl, hcomplete⟩ := checked_eq_ok_iff.mp h
    exact hcomplete
  · exact nomatch h

/-- The texts of a table that rules were pushed into, in their order for each category, give the
table again if every field of every rule says something; else they give the fault of the first field
that does not. So a table that was read is without fault, and its texts give it again. -/
theorem rules_read_back :
    (∀ pushes c, (pushed pushes).get c = (pushes.filter fun p => p.1 = c).map Prod.snd) ∧
    (∀ t : RuleTable, ∀ text ∈ [t.toJson.text, t.toJson.indentedText],
      (t.Complete → ofJsonText text = .ok t) ∧
      (¬ t.Complete → ∃ p, t.FirstSilent p ∧ ofJsonText text = .error p.fault)) ∧
    ∀ text t, ofJsonText text = .ok t →
      t.fault? = none ∧ t.Complete ∧
        ∀ text' ∈ [t.toJson.text, t.toJson.indentedText], ofJsonText text' = .ok t := by
  have hwritten : ∀ t : RuleTable, t.Complete →
      ∀ text ∈ [t.toJson.text, t.toJson.indentedText], ofJsonText text = .ok t := by
    intro t ht text htext
    exact (t.ofJsonText_eq_checked text htext).trans (checked_eq_ok_iff.mpr ⟨rfl, ht⟩)
  refine ⟨get_pushed, fun t text htext => ⟨fun ht => hwritten t ht text htext, fun ht => ?_⟩,
    fun text t h => ?_⟩
  · obtain ⟨f, hf⟩ := Option.ne_none_iff_exists'.mp fun h => ht (fault?_eq_none_iff.mp h)
    obtain ⟨p, rfl, hp⟩ := fault?_eq_some_iff.mp hf
    exact ⟨p, hp, (t.ofJsonText_eq_checked text htext).trans
      (checked_eq_error_iff.mpr ⟨p, rfl, hp⟩)⟩
  · have ht := complete_of_ofJsonText h
    exact ⟨fault?_eq_none_iff.mpr ht, ht, hwritten t ht⟩

/-- A rule for spelling bubbles, behind which a rule without label was pushed. -/
def unlabelled : RuleTable :=
  pushed [(.insert, ⟨"kix-spell-bubble", "", "spelling-bubble", none⟩),
    (.delete, ⟨"docos-replyview", "", "\u3000\t", none⟩)]

/-- The rules at hand are read back, and of the other table the label is told. -/
theorem rules_read_back_builtin :
    (builtin.Complete ∧ ofJsonText builtin.toJson.indentedText = .ok builtin ∧
      builtin.fault? = none) ∧
    ¬ unlabelled.Complete ∧
      ofJsonText unlabelled.toJson.text = .error (.emptyField .delete 0 .label) := by
  have hbuiltin : builtin.Complete := fault?_eq_none_iff.mp (by decide +kernel)
  have hfault : unlabelled.fault? = some (.emptyField .delete 0 .label) := by decide +kernel
  have hunlabelled : ¬ unlabelled.Complete := by
    intro h
    exact nomatch hfault.symm.trans (fault?_eq_none_iff.mpr h)
  have hread := (rules_read_back.2.1 builtin _ (List.mem_cons_of_mem _ List.mem_cons_self)).1
    hbuiltin
  obtain ⟨p, hp, herror⟩ := (rules_read_back.2.1 unlabelled _ List.mem_cons_self).2 hunlabelled
  have hplace := hfault.symm.trans (fault?_eq_some_iff.mpr ⟨p, rfl, hp⟩)
  rw [← Option.some.inj hplace] at herror
  exact ⟨⟨hbuiltin, hread, (rules_read_back.2.2 _ _ hread).1⟩, hunlabelled, herror⟩

end RuleTable

end EditWatch.Labelling
