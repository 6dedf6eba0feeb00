import EditWatch.Proofs.Labelling.Deciding
import EditWatch.Proofs.Labelling.RuleTable
import EditWatch.Proofs.Text.Words

/-!
# EditWatch.Proofs.Labelling.Firing -- which rules can fire

The tokens of a class stand between ASCII white space, so a token that a rule asks for can be carried
only if it has none of that in it. Such a rule does fire: there is one page on which each category has
an edit whose record the rule fits. A table is checked for texts that say nothing, and so lets rules
through that ask for what no class can carry.
-/

namespace EditWatch.Labelling

open EditWatch.Document
open Text (IsWord isAsciiBlank)

/-! ## What a class can carry -/

theorem isWord_of_hasClass {d : Document} {id : NodeId} {token : String}
    (h : d.hasClass id token) : IsWord token := by
  rw [hasClass] at h
  split at h
  · rename_i n _
    rw [Node.hasClass] at h
    split at h
    · rename_i c _
      cases c with
      | tokens raw => exact Text.isWord_of_mem_words (List.contains_iff_mem.mp h)
      | structured value => exact absurd h Bool.false_ne_true
    · exact absurd h Bool.false_ne_true
  · exact absurd h Bool.false_ne_true

theorem has_self {token : String} (h : IsWord token) : (ClassValue.tokens token).has token := by
  rw [ClassValue.has, ClassValue.tokenList, h.words_eq]
  exact List.contains_iff_mem.mpr List.mem_cons_self

/-- The rules of the category ask for a token of the target besides that of the fragment. -/
def Category.asksTarget : Category → Bool
  | .insert | .delete => true
  | _ => false

/-- What the rule asks for in the category has no ASCII white space in it. -/
structure Rule.Solid (rule : Rule) (category : Category) : Prop where
  source : ∀ c ∈ rule.source.toList, ¬ isAsciiBlank c
  ancestor : category.asksTarget → ∀ c ∈ rule.ancestor.toList, ¬ isAsciiBlank c

variable {rule : Rule} {category : Category}

theorem solid_of_fitsFragment {d : Document} {fragment : Option NodeId} {target : NodeId}
    (h : rule.fitsFragment d fragment target) : rule.Solid category := by
  cases fragment with
  | none => exact nomatch h
  | some f =>
      rw [Rule.fitsFragment, Bool.and_eq_true, Bool.or_eq_true, String.isEmpty_iff] at h
      refine ⟨(isWord_of_hasClass h.1).solid, fun _ => ?_⟩
      rcases h.2 with hempty | hancestor
      · rw [hempty]
        exact List.forall_mem_nil _
      · exact (isWord_of_hasClass hancestor).solid

/-- A category that asks nothing of the target looks at the class of its parent. -/
theorem fits_eq_any {d : Document} {r : Record} (h : category.asksTarget = false) :
    rule.fits d r category = (d.parent? r.target).any fun p => d.hasClass p rule.source := by
  cases category with
  | insert => exact nomatch h
  | delete => exact nomatch h
  | _ => cases hp : d.parent? r.target <;> simp [Rule.fits, hp]

/-- A rule fits some record only if it is solid. -/
theorem solid_of_fits {d : Document} {r : Record} (h : rule.fits d r category) :
    rule.Solid category := by
  cases hasks : category.asksTarget with
  | false =>
      rw [fits_eq_any hasks, Option.any_eq_true] at h
      obtain ⟨p, -, hp⟩ := h
      exact ⟨(isWord_of_hasClass hp).solid, fun htrue => absurd htrue (by simp [hasks])⟩
  | true =>
      cases category with
      | insert => exact solid_of_fitsFragment h
      | delete => exact solid_of_fitsFragment h
      | _ => exact absurd hasks Bool.false_ne_true

/-! ## A page for every rule -/

/-- An element that carries the token of a fragment. -/
def fragment (rule : Rule) (id : NodeId) : Descriptor :=
  ⟨id, .element, some "div", some (.tokens rule.source), ∅, none, []⟩

def typo (id : NodeId) : Descriptor := ⟨id, .text, none, none, ∅, some "teh", []⟩

/-- The top carries the token of a fragment, and the element below it that of a target. -/
def trialPage (rule : Rule) : Descriptor :=
  ⟨1, .element, some "body", some (.tokens rule.source), ∅, none,
    [⟨2, .element, some "p", some (.tokens rule.ancestor), ∅, none, [typo 3, fragment rule 4]⟩,
      typo 5]⟩

def trial (rule : Rule) : Document := empty.orSame (ofRoot (trialPage rule))

/-- An edit of the page for each category. -/
def trialEdit (rule : Rule) : Category → Edit
  | .insert => ⟨2, .childList, [fragment rule 6], [], none⟩
  | .delete => ⟨2, .childList, [], [4], none⟩
  | .clear => ⟨2, .childList, [], [3], none⟩
  | .input => ⟨5, .characterData, [], [], some "the"⟩
  | .replace => ⟨2, .childList, [typo 6], [3], none⟩
  | .suggest => ⟨2, .childList, [fragment rule 6], [3], none⟩
  | .other => ⟨2, .childList, [], [], none⟩

theorem ofRoot_trialPage (rule : Rule) : ofRoot (trialPage rule) = .ok (trial rule) := by rfl

theorem hasClass_trial_top (token : String) :
    (trial rule).hasClass 1 token = (ClassValue.tokens rule.source).has token := by rfl

theorem hasClass_trial_target (token : String) :
    (trial rule).hasClass 2 token = (ClassValue.tokens rule.ancestor).has token := by rfl

theorem hasClass_trial_fragment (token : String) :
    (trial rule).hasClass 4 token = (ClassValue.tokens rule.source).has token := by rfl

/-- Whatever edit of the page is tried, its target stands right below the top. -/
theorem parent?_trial_target (rule : Rule) (category : Category) :
    (trial rule).parent? (trialEdit rule category).target = some 1 := by
  cases category <;> rfl

theorem editFault_trial (rule : Rule) (category : Category) :
    (trial rule).editFault (trialEdit rule category) = none := by
  cases category <;> rfl

theorem categoryOf_trialEdit (rule : Rule) (category : Category) :
    categoryOf (trial rule).isText (trialEdit rule category) = category := by
  cases category <;> rfl

theorem wellFormed_trial (rule : Rule) : (trial rule).WellFormed :=
  WellFormed.ofRoot (ofRoot_trialPage rule)

/-- The page after the edit. -/
def trialled (rule : Rule) (category : Category) : Document :=
  (trial rule).edited (trialEdit rule category)

theorem apply_trialEdit (rule : Rule) (category : Category) :
    (trial rule).apply (trialEdit rule category) =
      (.ok (trialEdit rule category).record, trialled rule category) :=
  (wellFormed_trial rule).apply_eq_ok_iff.mpr ⟨editFault_trial rule category, rfl, rfl⟩

theorem classify_trialled (rule : Rule) (category : Category) :
    classify (trialled rule category) (trialEdit rule category).record = category := by
  obtain ⟨-, hcategory⟩ := resolves_record (wellFormed_trial rule) (apply_trialEdit rule category)
  rw [hcategory, categoryOf_trialEdit]

theorem fitsFragment_of_hasClass {d : Document} {f target : NodeId} (hf : d.hasClass f rule.source)
    (htarget : rule.ancestor = "" ∨ d.hasClass target rule.ancestor) :
    rule.fitsFragment d (some f) target := by
  rw [Rule.fitsFragment, Bool.and_eq_true, Bool.or_eq_true, String.isEmpty_iff]
  exact ⟨hf, htarget⟩

/-- On its page a rule fits the record of every category, if classes can carry what it asks for. -/
theorem fits_trialled (hsource : IsWord rule.source)
    (hancestor : category.asksTarget → rule.ancestor = "" ∨ IsWord rule.ancestor) :
    rule.fits (trialled rule category) (trialEdit rule category).record category := by
  have hwf := wellFormed_trial rule
  have hok := apply_trialEdit rule category
  -- What stood on the page keeps its class through the edit; only an inserted fragment is new.
  have hkeeps : (trial rule).Keeps (trialled rule category) := by
    simpa [hok] using hwf.keeps_apply (trialEdit rule category)
  have hcarried : (ClassValue.tokens rule.source).has rule.source := has_self hsource
  cases hasks : category.asksTarget with
  | false =>
      have hup : (trialled rule category).parent? (trialEdit rule category).target = some 1 :=
        (hwf.parent?_target hok).trans (parent?_trial_target rule category)
      have htop : (trialled rule category).hasClass 1 rule.source := by
        rwa [hkeeps.hasClass (by rfl), hasClass_trial_top]
      rw [fits_eq_any hasks, Edit.target_record, hup]
      exact htop
  | true =>
      have htarget : rule.ancestor = "" ∨ (trialled rule category).hasClass 2 rule.ancestor := by
        refine (hancestor hasks).imp id fun hword => ?_
        rw [hkeeps.hasClass (by rfl), hasClass_trial_target]
        exact has_self hword
      cases category with
      | insert =>
          have hadded : (trialled rule .insert).hasClass 6 rule.source := by
            have hfault := childListFault_of_editFault rfl (editFault_trial rule .insert)
            have hmem : fragment rule 6 ∈ (trialEdit rule .insert).added := List.mem_cons_self
            obtain ⟨q, hq⟩ := exists_node?_regraft hfault hmem
            have hnode : (trialled rule .insert).node? 6 = some ((fragment rule 6).toNode q) := hq
            rw [hasClass, hnode]
            exact hcarried
          exact fitsFragment_of_hasClass hadded htarget
      | delete =>
          have hremoved : (trialled rule .delete).hasClass 4 rule.source := by
            rwa [hkeeps.hasClass (by rfl), hasClass_trial_fragment]
          exact fitsFragment_of_hasClass hremoved htarget
      | _ => exact absurd hasks Bool.false_ne_true

/-! ## Main result -/

/-- A rule of a table that is accepted names a source. -/
theorem RuleTable.source_ne_empty {t : RuleTable} (ht : t.fault? = none)
    (hrule : rule ∈ t.get category) : rule.source ≠ "" := by
  obtain ⟨c, hc, -⟩ := fault?_eq_none_iff.mp ht category rule hrule .source _ rfl
  rintro hempty
  rw [hempty] at hc
  exact List.not_mem_nil hc

/-- A rule of a table that is accepted fires on the record of an accepted edit of some page, as the
only rule of its category and whatever the others are, if what it asks for has no ASCII white space in
it. If it has, the rule fits no record of any document. -/
theorem rule_fires_if_solid {t : RuleTable} (ht : t.fault? = none) (hrule : rule ∈ t.get category) :
    (rule.Solid category → ∃ page d edit record d',
      ofRoot page = .ok d ∧ d.apply edit = (.ok record, d') ∧ classify d' record = category ∧
      rule.fits d' record category ∧
      ∀ rules loading, rules.get category = [rule] →
        remark? d' rules loading record category = some (rule.remark d' loading record category)) ∧
    (¬ rule.Solid category → ∀ d record, ¬ rule.fits d record category) := by
  refine ⟨fun hsolid => ?_, fun hnot d record hfits => hnot (solid_of_fits hfits)⟩
  have hsource : IsWord rule.source := ⟨RuleTable.source_ne_empty ht hrule, hsolid.source⟩
  have hfits : rule.fits (trialled rule category) (trialEdit rule category).record category := by
    refine fits_trialled hsource fun hasks => ?_
    by_cases hempty : rule.ancestor = ""
    · exact Or.inl hempty
    · exact Or.inr ⟨hempty, hsolid.ancestor hasks⟩
  refine ⟨trialPage rule, trial rule, trialEdit rule category, _, trialled rule category,
    ofRoot_trialPage rule, apply_trialEdit rule category, classify_trialled rule category, hfits,
    fun rules loading honly => ?_⟩
  rw [remark?, honly, List.find?_cons_of_pos hfits, Option.map_some]

/-- A rule for insertions that asks for a token of the target as well. -/
def replyRule : Rule := ⟨"docos-replyview", "docos-docoview-replycontainer", "add-reply", none⟩

theorem rule_fires_if_solid_reply :
    (RuleTable.empty.push .insert replyRule).fault? = none ∧
    (∀ c ∈ replyRule.source.toList, ¬ isAsciiBlank c) ∧
    (∀ c ∈ replyRule.ancestor.toList, ¬ isAsciiBlank c) ∧
    ∃ page d edit record d', ofRoot page = .ok d ∧ d.apply edit = (.ok record, d') ∧
      classify d' record = .insert ∧ replyRule.fits d' record .insert ∧
      ∀ rules loading, rules.get .insert = [replyRule] →
        remark? d' rules loading record .insert =
          some (replyRule.remark d' loading record .insert) := by
  have hfault : (RuleTable.empty.push .insert replyRule).fault? = none := by decide +kernel
  have hsource : IsWord replyRule.source := by decide +kernel
  have hancestor : IsWord replyRule.ancestor := by decide +kernel
  have hmem : replyRule ∈ (RuleTable.empty.push .insert replyRule).get .insert :=
    List.mem_cons_self
  exact ⟨hfault, hsource.solid, hancestor.solid,
    (rule_fires_if_solid hfault hmem).1 ⟨hsource.solid, fun _ => hancestor.solid⟩⟩

/-- The source of this rule is two tokens. -/
def twoTokens : Rule := ⟨"add comment", "", "add-comment", none⟩

theorem twoTokens_never_fires :
    (RuleTable.empty.push .insert twoTokens).fault? = none ∧
    twoTokens ∈ (RuleTable.empty.push .insert twoTokens).get .insert ∧
    ¬ ∃ d record, classify d record = .insert ∧ twoTokens.fits d record .insert := by
  refine ⟨by decide +kernel, List.mem_cons_self, ?_⟩
  rintro ⟨d, record, -, hfits⟩
  have hsolid : twoTokens.Solid .insert := solid_of_fits hfits
  exact hsolid.source ' ' (by decide +kernel) (by decide +kernel)

end EditWatch.Labelling
