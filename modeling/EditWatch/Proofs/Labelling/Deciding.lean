import EditWatch.Proofs.Document.Attachment
import EditWatch.Proofs.Document.Rendering
import EditWatch.Proofs.Labelling.Standing

/-!
# EditWatch.Proofs.Labelling.Deciding -- the rule that decides, and what it tells

Of the rules of a record's category the first that fits decides, and the remark is made of this rule
alone: neither the rules behind it nor those of other categories have a say, however the table is
changed there. The context it tells is the text of the nearest node, from the target upwards, that
carries the token the rule names.
-/

namespace EditWatch.Labelling

open EditWatch.Document Relation

variable {d : Document} {r : Record} {category : Category} {rules rules' : RuleTable}
  {loading : Bool}

/-! ## The first rule that fits -/

/-- Of the rules of the category this is the first that fits, and `before` stand in front of it. -/
structure Decides (d : Document) (r : Record) (category : Category) (rules : RuleTable)
    (before : List Rule) (rule : Rule) : Prop where
  listed : before ++ [rule] <+: rules.get category
  fits : rule.fits d r category
  others : ∀ b ∈ before, ¬ b.fits d r category

theorem deciding?_eq_some_iff {rule : Rule} :
    rules.deciding? d r category = some rule ↔
      ∃ before, Decides d r category rules before rule := by
  rw [RuleTable.deciding?, List.find?_eq_some_iff_append]
  constructor
  · rintro ⟨hfits, before, after, hsplit, hothers⟩
    refine ⟨before, ⟨after, ?_⟩, hfits, fun b hb => by simpa using hothers b hb⟩
    rw [hsplit, List.append_assoc, List.singleton_append]
  · rintro ⟨before, ⟨after, hsplit⟩, hfits, hothers⟩
    refine ⟨hfits, before, after, ?_, fun b hb => by simpa using hothers b hb⟩
    rw [← hsplit, List.append_assoc, List.singleton_append]

theorem deciding?_eq_none_iff :
    rules.deciding? d r category = none ↔
      ∀ rule ∈ rules.get category, ¬ rule.fits d r category := by
  rw [RuleTable.deciding?, List.find?_eq_none]

theorem remark?_eq (d : Document) (rules : RuleTable) (loading : Bool) (r : Record)
    (category : Category) : remark? d rules loading r category =
      (rules.deciding? d r category).map fun rule => rule.remark d loading r category := rfl

theorem remark?_eq_none_iff : remark? d rules loading r category = none ↔
    ∀ rule ∈ rules.get category, ¬ rule.fits d r category := by
  rw [remark?_eq, Option.map_eq_none_iff, deciding?_eq_none_iff]

theorem remark?_eq_some_iff {m : Remark} : remark? d rules loading r category = some m ↔
    ∃ before rule, Decides d r category rules before rule ∧
      m = rule.remark d loading r category := by
  rw [remark?_eq, Option.map_eq_some_iff]
  constructor
  · rintro ⟨rule, hrule, rfl⟩
    obtain ⟨before, hdecides⟩ := deciding?_eq_some_iff.mp hrule
    exact ⟨before, rule, hdecides, rfl⟩
  · rintro ⟨before, rule, hdecides, rfl⟩
    exact ⟨rule, deciding?_eq_some_iff.mpr ⟨before, hdecides⟩, rfl⟩

/-- A table that lists the same rules as far as the one that decides leads to the same remark. -/
theorem Decides.remark?_congr {before : List Rule} {rule : Rule}
    (h : Decides d r category rules before rule)
    (hlisted : before ++ [rule] <+: rules'.get category) :
    remark? d rules' loading r category = remark? d rules loading r category := by
  have h' : Decides d r category rules' before rule := ⟨hlisted, h.fits, h.others⟩
  rw [remark?_eq_some_iff.mpr ⟨before, rule, h, rfl⟩,
    remark?_eq_some_iff.mpr ⟨before, rule, h', rfl⟩]

/-- The rules of other categories are not looked at. -/
theorem remark?_congr (h : rules'.get category = rules.get category) :
    remark? d rules' loading r category = remark? d rules loading r category := by
  rw [remark?, remark?, h]

/-- A rule that is added behind the others has no say where there is a remark already, nor in
another category. -/
theorem remark?_push {c : Category} (rule : Rule)
    (h : c ≠ category ∨ (remark? d rules loading r category).isSome) :
    remark? d (rules.push c rule) loading r category = remark? d rules loading r category := by
  by_cases hc : category = c
  · have hsome := h.resolve_left fun hne => hne hc.symm
    obtain ⟨m, hm⟩ := Option.isSome_iff_exists.mp hsome
    obtain ⟨before, first, hdecides, -⟩ := remark?_eq_some_iff.mp hm
    refine hdecides.remark?_congr (hdecides.listed.trans ?_)
    rw [RuleTable.push, PerCategory.get_modify, if_pos hc]
    exact List.prefix_append _ _
  · refine remark?_congr ?_
    rw [RuleTable.push, PerCategory.get_modify, if_neg hc]

/-! ## The context -/

/-- The context that is told of a token is the text of the nearest node with the token. -/
theorem contextText_eq_some_iff (hwf : d.WellFormed) {target : NodeId} {token text : String} :
    contextText d target token = some text ↔
      ∃ a x, d.Nearest token target a ∧ d.subtree? a = some x ∧ x.rendering = text := by
  rw [contextText, Option.bind_eq_some_iff]
  constructor
  · rintro ⟨a, ha, htext⟩
    have hnearest := hwf.closestWithClass_eq_some_iff.mp ha
    obtain ⟨x, rfl, hx⟩ := hwf.exists_shows (contains_of_hasClass hnearest.carries)
    rw [hx.innerText_eq hwf] at htext
    exact ⟨x.id, x, hnearest, hx.subtree?_eq hwf, Option.some.inj htext⟩
  · rintro ⟨a, x, hnearest, hsubtree, rfl⟩
    obtain ⟨y, rfl, hy⟩ := hwf.exists_shows (contains_of_hasClass hnearest.carries)
    rw [hy.subtree?_eq hwf] at hsubtree
    obtain rfl := Option.some.inj hsubtree
    exact ⟨y.id, hwf.closestWithClass_eq_some_iff.mpr hnearest, hy.innerText_eq hwf⟩

/-- No context is told of a token exactly if neither the target nor a node above it carries it. -/
theorem contextText_eq_none_iff (hwf : d.WellFormed) {target : NodeId} {token : String} :
    contextText d target token = none ↔
      ∀ a, ReflTransGen d.Up target a → ¬ d.hasClass a token := by
  rw [← hwf.closestWithClass_eq_none_iff, contextText]
  cases hclosest : d.closestWithClass target token with
  | none => simp
  | some a =>
      have hnearest := hwf.closestWithClass_eq_some_iff.mp hclosest
      obtain ⟨x, rfl, hx⟩ := hwf.exists_shows (contains_of_hasClass hnearest.carries)
      simp [hx.innerText_eq hwf]

/-! ## Main result -/

/-- A record of a document that came about, in whatever category it is looked at. There is no remark
on it exactly if no rule of the category fits, and otherwise the remark is the one that the first
rule of them that fits makes, whatever stands in front of that rule. A table that lists the same
rules as far as this one leads to the same remark, whatever follows there in place of the rules
behind it, and so does a table that lists the same rules in the category; in particular no rule that
is added behind the others or in another category takes the decision away. A rule tells no context
exactly if it names none or neither the target nor a node above it carries the token that it names,
and otherwise the whole text of the nearest of these nodes, the target itself coming first. -/
theorem remark_of_first_rule (h : Reachable d) (r : Record) (category : Category) (loading : Bool) :
    (∀ rules, remark? d rules loading r category = none ↔
      ∀ rule ∈ rules.get category, ¬ rule.fits d r category) ∧
    (∀ rules m, remark? d rules loading r category = some m ↔
      ∃ before rule, Decides d r category rules before rule ∧
        m = rule.remark d loading r category) ∧
    (∀ rules rules' before rule, Decides d r category rules before rule →
      before ++ [rule] <+: rules'.get category →
      remark? d rules' loading r category = remark? d rules loading r category) ∧
    (∀ rules rules', rules'.get category = rules.get category →
      remark? d rules' loading r category = remark? d rules loading r category) ∧
    (∀ rules c rule, c ≠ category ∨ (remark? d rules loading r category).isSome →
      remark? d (rules.push c rule) loading r category = remark? d rules loading r category) ∧
    (∀ rule : Rule,
      ((rule.remark d loading r category).contextContent = none ↔ ∀ token,
        rule.context = some token → ∀ a, ReflTransGen d.Up r.target a → ¬ d.hasClass a token) ∧
      (∀ text, (rule.remark d loading r category).contextContent = some text ↔ ∃ token a x,
        rule.context = some token ∧ d.Nearest token r.target a ∧ d.subtree? a = some x ∧
          x.rendering = text)) := by
  have hwf := h.wellFormed
  refine ⟨fun rules => remark?_eq_none_iff, fun rules m => remark?_eq_some_iff,
    fun rules rules' before rule hdecides => hdecides.remark?_congr,
    fun rules rules' => remark?_congr, fun rules c rule => remark?_push rule, fun rule => ⟨?_, ?_⟩⟩
  · rw [Rule.remark, Option.bind_eq_none_iff]
    exact forall₂_congr fun token _ => contextText_eq_none_iff hwf
  · intro text
    rw [Rule.remark, Option.bind_eq_some_iff]
    constructor
    · rintro ⟨token, htoken, htext⟩
      obtain ⟨a, x, hax⟩ := (contextText_eq_some_iff hwf).mp htext
      exact ⟨token, a, x, htoken, hax⟩
    · rintro ⟨token, a, x, htoken, hax⟩
      exact ⟨token, htoken, (contextText_eq_some_iff hwf).mpr ⟨a, x, hax⟩⟩

/-- A discussion beside the text, with a button in its stream. -/
def discussion : Descriptor :=
  ⟨2, .element, some "div", some (.tokens "kix-discussion-plugin"), ∅, none,
    [⟨3, .text, none, none, ∅, some "Needs a source", []⟩,
      ⟨4, .element, some "div", some (.tokens "add-comment docos-stream-view"), ∅, none,
        [⟨5, .element, some "div", some (.tokens "shared"), ∅, none, []⟩]⟩]⟩

def sidebar : Document :=
  empty.orSame
    (ofRoot ⟨1, .element, some "div", some (.tokens "kix-appview"), ∅, none, [discussion]⟩)

theorem reachable_sidebar : Reachable sidebar :=
  Reachable.ofRoot (x := ⟨1, .element, some "div", some (.tokens "kix-appview"), ∅, none,
    [discussion]⟩) (by rfl)

def elsewhereRule : Rule := ⟨"shared", "elsewhere", "missed", none⟩

def streamRule : Rule := ⟨"shared", "docos-stream-view", "first", some "kix-discussion-plugin"⟩

def anywhereRule : Rule := ⟨"shared", "", "second", some "kix-appview"⟩

/-- Two of three rules fit the button that was added. The first of them tells the discussion's text,
and it does so with an unlike rule behind it too. -/
theorem remark_of_first_rule_button :
    let added : Record := ⟨4, [5], [], .childList⟩
    let rules : RuleTable :=
      { RuleTable.empty with insert := [elsewhereRule, streamRule, anywhereRule] }
    let rules' : RuleTable :=
      { RuleTable.empty with
        insert := [elsewhereRule, streamRule, elsewhereRule], delete := [streamRule] }
    Reachable sidebar ∧ Decides sidebar added .insert rules [elsewhereRule] streamRule ∧
      anywhereRule.fits sidebar added .insert ∧
      ∃ m, remark? sidebar rules true added .insert = some m ∧ m.label = "loading_first" ∧
        m.contextContent = some "Needs a source" ∧
        remark? sidebar rules' true added .insert = some m := by
  intro added rules rules'
  obtain ⟨-, hsome, hlisted, -, -, hcontext⟩ :=
    remark_of_first_rule reachable_sidebar added .insert true
  have hdecides : Decides sidebar added .insert rules [elsewhereRule] streamRule := by
    refine ⟨⟨[anywhereRule], rfl⟩, by decide +kernel, fun b hb => ?_⟩
    rw [List.mem_singleton.mp hb]
    decide +kernel
  have hremark := (hsome rules _).mpr ⟨_, _, hdecides, rfl⟩
  refine ⟨reachable_sidebar, hdecides, by decide +kernel, _, hremark, by rfl, ?_, ?_⟩
  · have hnearest : sidebar.Nearest "kix-discussion-plugin" 4 2 := by
      rw [← reachable_sidebar.wellFormed.closestWithClass_eq_some_iff]
      decide +kernel
    exact ((hcontext streamRule).2 _).mpr ⟨_, 2, discussion, rfl, hnearest, by rfl, by
      simp [discussion, Descriptor.rendering_of_element, Descriptor.rendering_of_text,
        Descriptor.lineFeed]⟩
  · rw [← hremark]
    exact hlisted rules rules' [elsewhereRule] streamRule hdecides ⟨[elsewhereRule], rfl⟩

end EditWatch.Labelling
