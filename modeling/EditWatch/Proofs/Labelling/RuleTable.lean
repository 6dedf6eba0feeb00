import EditWatch.Labelling.RuleTable
import Mathlib.Data.List.Basic

/-!
# EditWatch.Proofs.Labelling.RuleTable -- the first thing that a table leaves unsaid

A field of a rule says something if there is a character in it that is not white space. The check of
a table goes through the categories, the rules of each and their fields, and stops at the first field
that says nothing. So it tells the least place of all those where a field says nothing, in the order by
category, then by rule, then by field; and it accepts just the tables without any such place.
-/

namespace EditWatch.Labelling

/-! ## One rule -/

/-- The order in which the fields are looked at. -/
def RuleField.position : RuleField → Nat
  | .source => 0
  | .label => 1
  | .context => 2

theorem RuleField.eq_of_position_eq {f g : RuleField} (h : f.position = g.position) : f = g := by
  cases f <;> cases g <;> cases h <;> rfl

namespace Rule

/-- The text of a field; a rule may have no context. -/
def field? (r : Rule) : RuleField → Option String
  | .source => some r.source
  | .label => some r.label
  | .context => r.context

/-- The field is not there, or it has a character that is not white space. -/
def Says (r : Rule) (f : RuleField) : Prop :=
  ∀ s, r.field? f = some s → ∃ c ∈ s.toList, ¬ Text.isBlank c

variable {r : Rule}

theorem says_iff {f : RuleField} :
    r.Says f ↔ ∀ s, r.field? f = some s → Text.allBlank s = false := by
  simp [Says, Text.allBlank]

theorem says_of_field? {f : RuleField} {s : String} (h : r.field? f = some s)
    (hs : ¬ Text.allBlank s) : r.Says f :=
  says_iff.mpr fun _ hother => Option.some.inj (h.symm.trans hother) ▸ Bool.eq_false_iff.mpr hs

theorem not_says_of_field? {f : RuleField} {s : String} (h : r.field? f = some s)
    (hs : Text.allBlank s) : ¬ r.Says f :=
  fun hsays => nomatch hs.symm.trans (says_iff.mp hsays s h)

/-- The check of a rule finds the first field that says nothing, or that there is none. -/
theorem emptyField?_cases (r : Rule) :
    (∃ f, r.emptyField? = some f ∧ ¬ r.Says f ∧ ∀ g, g.position < f.position → r.Says g) ∨
      (r.emptyField? = none ∧ ∀ f, r.Says f) := by
  rw [emptyField?]
  split
  · rename_i hsource
    exact .inl ⟨.source, rfl, not_says_of_field? rfl hsource, fun g hg => nomatch hg⟩
  · rename_i hsource
    have hsource : r.Says .source := says_of_field? rfl hsource
    split
    · rename_i hlabel
      refine .inl ⟨.label, rfl, not_says_of_field? rfl hlabel, fun g hg => ?_⟩
      cases g with
      | source => exact hsource
      | label => exact absurd hg (by decide)
      | context => exact absurd hg (by decide)
    · rename_i hlabel
      have hlabel : r.Says .label := says_of_field? rfl hlabel
      -- A context that is there has to say something, too.
      by_cases hcontext : r.Says .context
      · refine .inr ⟨?_, fun f => by cases f <;> assumption⟩
        split
        · rename_i c hc
          rw [says_iff.mp hcontext c hc]
          rfl
        · rfl
      · refine .inl ⟨.context, ?_, hcontext, fun g hg => ?_⟩
        · split
          · rename_i c hc
            have hfield : r.field? .context = some c := hc
            by_cases hblank : Text.allBlank c
            · exact if_pos hblank
            · exact absurd (says_of_field? hfield hblank) hcontext
          · rename_i hnone
            exact absurd (fun s hs => nomatch hnone.symm.trans hs) hcontext
        · cases g with
          | source => exact hsource
          | label => exact hlabel
          | context => exact absurd hg (by decide)

theorem emptyField?_eq_none_iff : r.emptyField? = none ↔ ∀ f, r.Says f := by
  rcases r.emptyField?_cases with ⟨f, h, hsilent, -⟩ | ⟨h, hall⟩
  · exact iff_of_false (h ▸ Option.some_ne_none _) fun hall => hsilent (hall f)
  · exact iff_of_true h hall

theorem emptyField?_sound {f : RuleField} (h : r.emptyField? = some f) :
    ¬ r.Says f ∧ ∀ g, g.position < f.position → r.Says g := by
  rcases r.emptyField?_cases with ⟨g, hg, hfirst⟩ | ⟨hnone, -⟩
  · obtain rfl := Option.some.inj (hg.symm.trans h)
    exact hfirst
  · exact nomatch hnone.symm.trans h

end Rule

/-! ## Places -/

/-- A field of a rule of a table. -/
structure Place where
  category : Category
  index : Nat
  field : RuleField
  deriving Repr, DecidableEq

/-- The order in which the categories are looked at. -/
def Category.position (c : Category) : Nat := Category.all.idxOf c

theorem Category.eq_of_position_eq {c k : Category} (h : c.position = k.position) : c = k :=
  (List.idxOf_inj c.mem_all).mp h

theorem Category.mem_of_position_lt {c k : Category} {earlier later : List Category}
    (hall : all = earlier ++ c :: later) (h : k.position < c.position) : k ∈ earlier := by
  by_contra hk
  have hposition : c.position ≤ earlier.length := by
    rw [position, hall]
    by_cases hc : c ∈ earlier
    · rw [List.idxOf_append_of_mem hc]
      exact List.idxOf_le_length
    · exact Nat.le_of_eq (by rw [List.idxOf_append_of_notMem hc, List.idxOf_cons_self, Nat.add_zero])
  rw [position, hall, List.idxOf_append_of_notMem hk] at h
  omega

namespace Place

/-- By category, then by rule, then by field. -/
def Before (p q : Place) : Prop :=
  p.category.position < q.category.position ∨
    p.category = q.category ∧
      (p.index < q.index ∨ p.index = q.index ∧ p.field.position < q.field.position)

theorem before_trichotomy (p q : Place) : p.Before q ∨ p = q ∨ q.Before p := by
  obtain ⟨c, i, f⟩ := p
  obtain ⟨k, j, g⟩ := q
  rcases Nat.lt_trichotomy c.position k.position with hc | hc | hc
  · exact .inl (.inl hc)
  · obtain rfl := Category.eq_of_position_eq hc
    rcases Nat.lt_trichotomy i j with hi | rfl | hi
    · exact .inl (.inr ⟨rfl, .inl hi⟩)
    · rcases Nat.lt_trichotomy f.position g.position with hf | hf | hf
      · exact .inl (.inr ⟨rfl, .inr ⟨rfl, hf⟩⟩)
      · obtain rfl := RuleField.eq_of_position_eq hf
        exact .inr (.inl rfl)
      · exact .inr (.inr (.inr ⟨rfl, .inr ⟨rfl, hf⟩⟩))
    · exact .inr (.inr (.inr ⟨rfl, .inl hi⟩))
  · exact .inr (.inr (.inl hc))

/-- The fault of a place. -/
def fault (p : Place) : RuleFault := .emptyField p.category p.index p.field

end Place

/-! ## Tables -/

namespace RuleTable

/-- The table that rules make up that are pushed one after the other. -/
def pushed (pushes : List (Category × Rule)) : RuleTable :=
  pushes.foldl (fun t p => t.push p.1 p.2) empty

theorem get_push (t : RuleTable) (c k : Category) (r : Rule) :
    (t.push c r).get k = t.get k ++ if c = k then [r] else [] := by
  rw [push, PerCategory.get_modify]
  by_cases h : k = c
  · rw [if_pos h, if_pos h.symm]
  · rw [if_neg h, if_neg (Ne.symm h), List.append_nil]

theorem get_foldl_push (t : RuleTable) (pushes : List (Category × Rule)) (c : Category) :
    (pushes.foldl (fun t p => t.push p.1 p.2) t).get c =
      t.get c ++ (pushes.filter fun p => p.1 = c).map Prod.snd := by
  induction pushes generalizing t with
  | nil => rw [List.foldl_nil, List.filter_nil, List.map_nil, List.append_nil]
  | cons p pushes ih =>
      rw [List.foldl_cons, ih, get_push, List.append_assoc, List.filter_cons]
      by_cases h : p.1 = c
      · rw [if_pos h, if_pos (decide_eq_true h), List.map_cons, List.singleton_append]
      · rw [if_neg h, if_neg (by simpa using h), List.nil_append]

/-- Each category has the rules that were pushed for it, in the order of the pushes. -/
theorem get_pushed (pushes : List (Category × Rule)) (c : Category) :
    (pushed pushes).get c = (pushes.filter fun p => p.1 = c).map Prod.snd := by
  rw [pushed, get_foldl_push, empty, PerCategory.get_ofFn, List.nil_append]

/-- There is a rule at the place, and its field there says nothing. -/
def Silent (t : RuleTable) (p : Place) : Prop :=
  ∃ r, (t.get p.category)[p.index]? = some r ∧ ¬ r.Says p.field

/-- Every field of every rule says something. -/
def Complete (t : RuleTable) : Prop := ∀ c, ∀ r ∈ t.get c, ∀ f, r.Says f

/-- The field at the place says nothing, and all those before it say something. -/
def FirstSilent (t : RuleTable) (p : Place) : Prop := t.Silent p ∧ ∀ q, t.Silent q → ¬ q.Before p

variable {t : RuleTable} {p q : Place}

theorem FirstSilent.unique (hp : t.FirstSilent p) (hq : t.FirstSilent q) : p = q := by
  rcases p.before_trichotomy q with h | h | h
  · exact absurd h (hq.2 p hp.1)
  · exact h
  · exact absurd h (hp.2 q hq.1)

theorem Complete.not_silent (h : t.Complete) (p : Place) : ¬ t.Silent p := by
  rintro ⟨r, hr, hsilent⟩
  exact hsilent (h p.category r (List.mem_of_getElem? hr) p.field)

/-- The rules of a category are checked in order; the index counts those before. -/
theorem faultFrom_eq_some {c : Category} {k : Nat} {rules : List Rule} {f : RuleFault}
    (h : faultFrom c k rules = some f) :
    ∃ before r after field, rules = before ++ r :: after ∧ (∀ x ∈ before, x.emptyField? = none) ∧
      r.emptyField? = some field ∧ f = .emptyField c (k + before.length) field := by
  induction rules generalizing k with
  | nil => exact nomatch h
  | cons r rules ih =>
      rw [faultFrom] at h
      split at h
      · rename_i field hfield
        exact ⟨[], r, rules, field, rfl, List.forall_mem_nil _, hfield, (Option.some.inj h).symm⟩
      · rename_i hnone
        obtain ⟨before, x, after, field, rfl, hbefore, hfield, rfl⟩ := ih h
        refine ⟨r :: before, x, after, field, rfl, List.forall_mem_cons.mpr ⟨hnone, hbefore⟩, hfield,
          ?_⟩
        rw [List.length_cons, Nat.add_assoc, Nat.add_comm 1]

theorem faultFrom_eq_none_iff {c : Category} {k : Nat} {rules : List Rule} :
    faultFrom c k rules = none ↔ ∀ r ∈ rules, r.emptyField? = none := by
  induction rules generalizing k with
  | nil => exact iff_of_true rfl (List.forall_mem_nil _)
  | cons r rules ih =>
      rw [List.forall_mem_cons, ← ih (k := k + 1), faultFrom]
      split
      · rename_i hfield
        exact iff_of_false (Option.some_ne_none _) fun h => nomatch hfield.symm.trans h.1
      · rename_i hnone
        exact ⟨fun h => ⟨hnone, h⟩, fun h => h.2⟩

theorem fault?_eq_none_iff : t.fault? = none ↔ t.Complete := by
  rw [fault?, List.findSome?_eq_none_iff]
  simp only [faultFrom_eq_none_iff, Rule.emptyField?_eq_none_iff]
  exact ⟨fun h c => h c c.mem_all, fun h c _ => h c⟩

theorem exists_firstSilent_of_fault? {f : RuleFault} (h : t.fault? = some f) :
    ∃ p : Place, f = p.fault ∧ t.FirstSilent p := by
  obtain ⟨earlier, c, later, hall, hfault, hearlier⟩ := List.findSome?_eq_some_iff.mp h
  obtain ⟨before, r, after, field, hrules, hbefore, hfield, rfl⟩ := faultFrom_eq_some hfault
  rw [Nat.zero_add]
  obtain ⟨hsilent, hfields⟩ := Rule.emptyField?_sound hfield
  have hr : (t.get c)[before.length]? = some r := by
    rw [hrules, List.getElem?_append_right (Nat.le_refl _), Nat.sub_self]
    rfl
  refine ⟨⟨c, before.length, field⟩, rfl, ⟨r, hr, hsilent⟩, ?_⟩
  rintro ⟨k, j, g⟩ ⟨x, hx, hsilent⟩ (hk | ⟨hk, hj | ⟨hj, hg⟩⟩)
  · -- A category before that of the fault has no fault.
    have hmem := Category.mem_of_position_lt hall hk
    have hnone := faultFrom_eq_none_iff.mp (hearlier k hmem) x (List.mem_of_getElem? hx)
    exact hsilent (Rule.emptyField?_eq_none_iff.mp hnone g)
  · obtain rfl : k = c := hk
    rw [hrules, List.getElem?_append_left hj] at hx
    exact hsilent (Rule.emptyField?_eq_none_iff.mp (hbefore x (List.mem_of_getElem? hx)) g)
  · obtain rfl : k = c := hk
    obtain rfl : j = before.length := hj
    obtain rfl := Option.some.inj (hr.symm.trans hx)
    exact hsilent (hfields g hg)

/-- The fault of a table is that of the first place where a field says nothing. -/
theorem fault?_eq_some_iff {f : RuleFault} :
    t.fault? = some f ↔ ∃ p : Place, f = p.fault ∧ t.FirstSilent p := by
  refine ⟨exists_firstSilent_of_fault?, ?_⟩
  rintro ⟨p, rfl, hp⟩
  cases hfault : t.fault? with
  | none => exact absurd hp.1 ((fault?_eq_none_iff.mp hfault).not_silent p)
  | some f =>
      obtain ⟨q, rfl, hq⟩ := exists_firstSilent_of_fault? hfault
      rw [hp.unique hq]

theorem checked_eq_ok_iff {t' : RuleTable} : checked t = .ok t' ↔ t' = t ∧ t.Complete := by
  rw [← fault?_eq_none_iff, checked]
  split
  · rename_i hfault
    exact ⟨fun h => (nomatch h), fun h => (nomatch hfault.symm.trans h.2)⟩
  · rename_i hfault
    exact ⟨fun h => ⟨(Except.ok.inj h).symm, hfault⟩, fun h => congrArg Except.ok h.1.symm⟩

theorem checked_eq_error_iff {f : RuleFault} :
    checked t = .error f ↔ ∃ p : Place, f = p.fault ∧ t.FirstSilent p := by
  rw [← fault?_eq_some_iff, checked]
  split
  · rename_i hfault
    constructor
    · intro h
      exact hfault.trans (congrArg some (Except.error.inj h))
    · intro h
      exact congrArg Except.error (Option.some.inj (hfault.symm.trans h))
  · rename_i hfault
    exact ⟨fun h => (nomatch h), fun h => (nomatch hfault.symm.trans h)⟩

end RuleTable

end EditWatch.Labelling
