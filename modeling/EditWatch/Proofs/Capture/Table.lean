import EditWatch.Capture.Table
import Mathlib.Data.List.Induction
import Mathlib.Data.List.Nodup

/-!
# EditWatch.Proofs.Capture.Table -- each event belongs to one category

The check of a table goes through the specs and claims their events one after the other; it stops at
a spec without events and at an event that was claimed before. What it has gathered on the way is an
index of the specs behind it: each event leads to the position of the spec that lists it. So it gets
through just the lists in which every spec has an event and no event stands twice, neither in one
spec nor in two, and otherwise tells the flaw of the first spec that does not fit behind the others.
-/

namespace EditWatch.Capture.Table

/-! ## Loops that stop at a fault -/

theorem foldlM_concat_eq_ok_iff {α β ε : Type} {f : β → α → Except ε β} {xs : List α} {x : α}
    {b d : β} :
    (xs ++ [x]).foldlM f b = .ok d ↔ ∃ c, xs.foldlM f b = .ok c ∧ f c x = .ok d := by
  rw [List.foldlM_append]
  cases xs.foldlM f b with
  | error e => exact ⟨fun h => (nomatch h), fun ⟨_, h, _⟩ => (nomatch h)⟩
  | ok c =>
      show [x].foldlM f c = .ok d ↔ _
      rw [List.foldlM_cons]
      constructor
      · intro h
        refine ⟨c, rfl, ?_⟩
        cases hx : f c x with
        | error e =>
            rw [hx] at h
            exact nomatch h
        | ok a =>
            rw [hx] at h
            exact h
      · rintro ⟨_, hc, hx⟩
        obtain rfl := Except.ok.inj hc
        rw [hx]
        rfl

/-- A loop fails with the fault of the first element whose step fails. -/
theorem foldlM_eq_error_iff {α β ε : Type} {f : β → α → Except ε β} {xs : List α} {b : β} {e : ε} :
    xs.foldlM f b = .error e ↔
      ∃ done x rest c, xs = done ++ x :: rest ∧ done.foldlM f b = .ok c ∧ f c x = .error e := by
  induction xs generalizing b with
  | nil =>
      refine ⟨fun h => (nomatch h), ?_⟩
      rintro ⟨done, x, rest, c, h, -⟩
      exact absurd h.symm (List.append_ne_nil_of_right_ne_nil _ (List.cons_ne_nil _ _))
  | cons x xs ih =>
      rw [List.foldlM_cons]
      cases hx : f b x with
      | error e' =>
          constructor
          · intro h
            obtain rfl : e' = e := Except.error.inj h
            exact ⟨[], x, xs, b, rfl, rfl, hx⟩
          · rintro ⟨done, y, rest, c, heq, hdone, hy⟩
            -- The first step fails, so nothing is done before it.
            cases done with
            | nil =>
                obtain ⟨rfl, rfl⟩ := List.cons.inj heq
                obtain rfl := Except.ok.inj hdone
                exact congrArg _ (Except.error.inj (hx.symm.trans hy))
            | cons z done =>
                obtain ⟨rfl, -⟩ := List.cons.inj heq
                rw [List.foldlM_cons, hx] at hdone
                exact nomatch hdone
      | ok d =>
          show xs.foldlM f d = .error e ↔ _
          rw [ih]
          constructor
          · rintro ⟨done, y, rest, c, rfl, hdone, hy⟩
            refine ⟨x :: done, y, rest, c, rfl, ?_, hy⟩
            rw [List.foldlM_cons, hx]
            exact hdone
          · rintro ⟨done, y, rest, c, heq, hdone, hy⟩
            cases done with
            | nil =>
                obtain ⟨rfl, rfl⟩ := List.cons.inj heq
                obtain rfl := Except.ok.inj hdone
                exact nomatch hx.symm.trans hy
            | cons z done =>
                obtain ⟨rfl, rfl⟩ := List.cons.inj heq
                rw [List.foldlM_cons, hx] at hdone
                exact ⟨done, y, rest, c, rfl, hdone, hy⟩

/-! ## What is gathered -/

/-- Every spec lists an event, and no event is listed twice. -/
structure Sound (specs : List Spec) : Prop where
  listed : ∀ s ∈ specs, s.events ≠ []
  nodup : (specs.flatMap Spec.events).Nodup

/-- Each event leads to the position of the spec that lists it. -/
def Indexes (seen : Claims) (specs : List Spec) : Prop :=
  ∀ (e : String) (i : Nat), seen[e]? = some i ↔ ∃ s : Spec, specs[i]? = some s ∧ e ∈ s.events

/-- The specs before one and as much of the one as was looked at. -/
def upTo (before : List Spec) (s : Spec) (done : List String) : List Spec :=
  before ++ [{ s with events := done }]

variable {specs before after : List Spec} {s : Spec} {seen seen' : Claims}

theorem flatMap_events_upTo (before : List Spec) (s : Spec) (done : List String) :
    (upTo before s done).flatMap Spec.events = before.flatMap Spec.events ++ done := by
  rw [upTo, List.flatMap_append, List.flatMap_singleton]

theorem getElem?_upTo_eq_some_iff {done : List String} {i : Nat} {first : Spec} :
    (upTo before s done)[i]? = some first ↔
      before[i]? = some first ∨ i = before.length ∧ first = { s with events := done } := by
  rw [upTo, List.getElem?_append]
  split
  · rename_i hi
    exact ⟨.inl, fun h => h.elim id fun h => absurd h.1 (Nat.ne_of_lt hi)⟩
  · rename_i hi
    rw [List.getElem?_singleton, List.getElem?_eq_none (Nat.le_of_not_lt hi)]
    grind

theorem Indexes.getElem?_eq_none_iff (h : Indexes seen specs) {e : String} :
    seen[e]? = none ↔ e ∉ specs.flatMap Spec.events := by
  rw [Option.eq_none_iff_forall_ne_some, List.mem_flatMap]
  constructor
  · rintro hnone ⟨s, hs, he⟩
    obtain ⟨i, hi⟩ := List.mem_iff_getElem?.mp hs
    exact hnone i ((h e i).mpr ⟨s, hi, he⟩)
  · rintro hnone i hi
    obtain ⟨s, hs, he⟩ := (h e i).mp hi
    exact hnone ⟨s, List.mem_of_getElem? hs, he⟩

theorem indexes_empty : Indexes ∅ [] := by
  intro e i
  rw [Std.ExtTreeMap.getElem?_empty]
  simp

/-- Nothing of the next spec has been looked at yet. -/
theorem Indexes.upTo_nil (h : Indexes seen before) (s : Spec) : Indexes seen (upTo before s []) := by
  intro e i
  rw [h e i]
  constructor
  · rintro ⟨first, hfirst, he⟩
    exact ⟨first, getElem?_upTo_eq_some_iff.mpr (.inl hfirst), he⟩
  · rintro ⟨first, hfirst, he⟩
    rcases getElem?_upTo_eq_some_iff.mp hfirst with hfirst | ⟨-, rfl⟩
    · exact ⟨first, hfirst, he⟩
    · exact nomatch he

/-- An event that was not listed yet is claimed for the spec at hand. -/
theorem Indexes.insert {done : List String} (h : Indexes seen (upTo before s done)) {e : String}
    (he : seen[e]? = none) :
    Indexes (seen.insert e before.length) (upTo before s (done ++ [e])) := by
  have hfresh := h.getElem?_eq_none_iff.mp he
  rw [flatMap_events_upTo, List.mem_append, not_or] at hfresh
  intro e' i
  rw [Std.ExtTreeMap.getElem?_insert]
  simp only [Std.LawfulEqCmp.compare_eq_iff_eq, getElem?_upTo_eq_some_iff]
  split
  · -- The event itself leads to the spec at hand, as no spec before it lists the event.
    rename_i heq
    subst heq
    rw [Option.some_inj]
    constructor
    · rintro rfl
      exact ⟨_, .inr ⟨rfl, rfl⟩, List.mem_append_right _ (List.mem_singleton.mpr rfl)⟩
    · rintro ⟨first, hfirst | ⟨rfl, -⟩, hmem⟩
      · exact absurd (List.mem_flatMap.mpr ⟨first, List.mem_of_getElem? hfirst, hmem⟩) hfresh.1
      · rfl
  · -- Any other event leads to where it led before.
    rename_i hne
    rw [h e' i]
    simp only [getElem?_upTo_eq_some_iff]
    constructor
    · rintro ⟨first, hfirst | ⟨rfl, rfl⟩, hmem⟩
      · exact ⟨first, .inl hfirst, hmem⟩
      · exact ⟨_, .inr ⟨rfl, rfl⟩, List.mem_append_left _ hmem⟩
    · rintro ⟨first, hfirst | ⟨rfl, rfl⟩, hmem⟩
      · exact ⟨first, .inl hfirst, hmem⟩
      · refine ⟨_, .inr ⟨rfl, rfl⟩, (List.mem_append.mp hmem).resolve_right ?_⟩
        intro heq
        exact hne (List.mem_singleton.mp heq).symm

/-! ## Claiming the events of one spec -/

theorem claim_eq_ok_iff {i : Nat} {e : String} :
    claim specs s i seen e = .ok seen' ↔ seen[e]? = none ∧ seen.insert e i = seen' := by
  rw [claim]
  cases seen[e]? with
  | some first => simp
  | none => simp

theorem claim_eq_error_iff {i : Nat} {e : String} {f : TableFault} :
    claim specs s i seen e = .error f ↔
      ∃ first, seen[e]? = some first ∧
        .duplicateEvent e (categoryAt specs first) s.category = f := by
  rw [claim]
  cases seen[e]? with
  | some first => simp
  | none => simp

theorem claim_events_sound (hindex : Indexes seen before)
    (hnodup : (before.flatMap Spec.events).Nodup) {events : List String}
    (h : events.foldlM (claim specs s before.length) seen = .ok seen') :
    (before.flatMap Spec.events ++ events).Nodup ∧ Indexes seen' (upTo before s events) := by
  induction events using List.reverseRecOn generalizing seen' with
  | nil =>
      obtain rfl := Except.ok.inj h
      rw [List.append_nil]
      exact ⟨hnodup, hindex.upTo_nil s⟩
  | append_singleton events e ih =>
      obtain ⟨between, hbetween, hclaim⟩ := foldlM_concat_eq_ok_iff.mp h
      obtain ⟨hnone, rfl⟩ := claim_eq_ok_iff.mp hclaim
      obtain ⟨hdone, hindex⟩ := ih hbetween
      refine ⟨?_, hindex.insert hnone⟩
      -- What the index does not have was not listed before, so the last event is a new one.
      rw [hindex.getElem?_eq_none_iff, flatMap_events_upTo] at hnone
      rw [← List.append_assoc, List.nodup_append]
      refine ⟨hdone, List.nodup_singleton e, ?_⟩
      rintro a ha _ hb rfl
      exact hnone (List.mem_singleton.mp hb ▸ ha)

theorem claim_events_complete (hindex : Indexes seen before) {events : List String}
    (h : (before.flatMap Spec.events ++ events).Nodup) :
    ∃ seen', events.foldlM (claim specs s before.length) seen = .ok seen' := by
  induction events using List.reverseRecOn with
  | nil => exact ⟨seen, rfl⟩
  | append_singleton events e ih =>
      rw [← List.append_assoc, List.nodup_append] at h
      obtain ⟨between, hbetween⟩ := ih h.1
      -- The index of what was claimed up to here cannot have the last event.
      have hindex := (claim_events_sound hindex (List.Nodup.of_append_left h.1) hbetween).2
      have hnone : between[e]? = none := by
        rw [hindex.getElem?_eq_none_iff, flatMap_events_upTo]
        exact fun he => h.2.2 e he e (List.mem_singleton.mpr rfl) rfl
      exact ⟨_, foldlM_concat_eq_ok_iff.mpr
        ⟨between, hbetween, claim_eq_ok_iff.mpr ⟨hnone, rfl⟩⟩⟩

/-! ## The first flaw -/

/-- What keeps a spec from fitting behind others: it lists no event, or it lists one that another
spec or the spec itself has listed before. -/
inductive Flaw (before : List Spec) (s : Spec) : TableFault → Prop
  | noEvents (h : s.events = []) : Flaw before s (.noEvents s.category)
  | duplicateEvent {done rest : List String} {e : String} {first : Spec}
      (hevents : s.events = done ++ e :: rest)
      (hdone : (before.flatMap Spec.events ++ done).Nodup)
      (hfirst : first ∈ upTo before s done) (he : e ∈ first.events) :
      Flaw before s (.duplicateEvent e first.category s.category)

/-- The flaw of the first spec that does not fit behind those before it. -/
def FirstFlaw (specs : List Spec) (f : TableFault) : Prop :=
  ∃ before s after, specs = before ++ s :: after ∧ Sound before ∧ Flaw before s f

/-- The categories of a list of specs do not depend on how much of the last one was looked at. -/
theorem categoryAt_upTo {done : List String} {i : Nat} {first : Spec}
    (h : (upTo before s done)[i]? = some first) :
    categoryAt (before ++ s :: after) i = first.category := by
  rw [categoryAt]
  rcases getElem?_upTo_eq_some_iff.mp h with h | ⟨rfl, rfl⟩
  · rw [List.getElem?_append_left (List.getElem?_eq_some_iff.mp h).1, h]
    rfl
  · rw [List.getElem?_append_right (Nat.le_refl _), Nat.sub_self]
    rfl

theorem claimSpec_eq_error_iff (hindex : Indexes seen before)
    (hnodup : (before.flatMap Spec.events).Nodup) {f : TableFault} :
    claimSpec (before ++ s :: after) seen (s, before.length) = .error f ↔ Flaw before s f := by
  rw [claimSpec]
  split
  · rename_i hempty
    have hnil : s.events = [] := List.isEmpty_iff.mp hempty
    constructor
    · intro h
      obtain rfl := Except.error.inj h
      exact .noEvents hnil
    · rintro (_ | ⟨hevents, -, -, -⟩)
      · rfl
      · rw [hnil] at hevents
        exact absurd hevents.symm
          (List.append_ne_nil_of_right_ne_nil _ (List.cons_ne_nil _ _))
  · rename_i hlisted
    rw [foldlM_eq_error_iff]
    constructor
    · -- The position under the event at which the loop stops is that of a spec that lists it.
      rintro ⟨done, e, rest, between, hevents, hbetween, hclaim⟩
      obtain ⟨hdone, hindex⟩ := claim_events_sound hindex hnodup hbetween
      obtain ⟨i, hi, rfl⟩ := claim_eq_error_iff.mp hclaim
      obtain ⟨first, hfirst, he⟩ := (hindex e i).mp hi
      rw [categoryAt_upTo hfirst]
      exact .duplicateEvent hevents hdone (List.mem_of_getElem? hfirst) he
    · rintro (hnil | ⟨hevents, hdone, hfirst, he⟩)
      · exact absurd (List.isEmpty_iff.mpr hnil) hlisted
      · rename_i done rest e first
        obtain ⟨between, hbetween⟩ := claim_events_complete hindex hdone
        have hindex := (claim_events_sound hindex hnodup hbetween).2
        obtain ⟨i, hi⟩ := List.mem_iff_getElem?.mp hfirst
        refine ⟨done, e, rest, between, hevents, hbetween, claim_eq_error_iff.mpr ⟨i, ?_, ?_⟩⟩
        · exact (hindex e i).mpr ⟨first, hi, he⟩
        · rw [categoryAt_upTo hi]

/-! ## Claiming the events of all specs -/

theorem claimSpec_eq_ok_iff {i : Nat} :
    claimSpec specs seen (s, i) = .ok seen' ↔
      s.events ≠ [] ∧ s.events.foldlM (claim specs s i) seen = .ok seen' := by
  rw [claimSpec]
  by_cases hempty : s.events = []
  · simp [hempty]
  · simp [hempty]

theorem sound_concat_iff :
    Sound (before ++ [s]) ↔
      Sound before ∧ s.events ≠ [] ∧ (before.flatMap Spec.events ++ s.events).Nodup := by
  have hevents := flatMap_events_upTo before s s.events
  rw [show upTo before s s.events = before ++ [s] from rfl] at hevents
  constructor
  · rintro ⟨hlisted, hnodup⟩
    rw [hevents] at hnodup
    exact ⟨⟨fun a ha => hlisted a (List.mem_append_left _ ha), hnodup.of_append_left⟩,
      hlisted s (List.mem_append_right _ (List.mem_singleton.mpr rfl)), hnodup⟩
  · rintro ⟨hbefore, hlisted, hnodup⟩
    rw [← hevents] at hnodup
    refine ⟨fun a ha => ?_, hnodup⟩
    rcases List.mem_append.mp ha with ha | ha
    · exact hbefore.listed a ha
    · exact List.mem_singleton.mp ha ▸ hlisted

theorem claim_specs_sound (h : before.zipIdx.foldlM (claimSpec specs) ∅ = .ok seen) :
    Sound before ∧ Indexes seen before := by
  induction before using List.reverseRecOn generalizing seen with
  | nil =>
      obtain rfl := Except.ok.inj h
      exact ⟨⟨fun _ h => (nomatch h), List.nodup_nil⟩, indexes_empty⟩
  | append_singleton before s ih =>
      rw [List.zipIdx_append, List.zipIdx_singleton, Nat.zero_add] at h
      obtain ⟨between, hbetween, hspec⟩ := foldlM_concat_eq_ok_iff.mp h
      obtain ⟨hsound, hindex⟩ := ih hbetween
      obtain ⟨hlisted, hevents⟩ := claimSpec_eq_ok_iff.mp hspec
      obtain ⟨hnodup, hindex⟩ := claim_events_sound hindex hsound.nodup hevents
      exact ⟨sound_concat_iff.mpr ⟨hsound, hlisted, hnodup⟩, hindex⟩

theorem claim_specs_complete (h : Sound before) :
    ∃ seen, before.zipIdx.foldlM (claimSpec specs) ∅ = .ok seen := by
  induction before using List.reverseRecOn with
  | nil => exact ⟨∅, rfl⟩
  | append_singleton before s ih =>
      obtain ⟨hbefore, hlisted, hnodup⟩ := sound_concat_iff.mp h
      obtain ⟨between, hbetween⟩ := ih hbefore
      obtain ⟨seen, hseen⟩ := claim_events_complete (claim_specs_sound hbetween).2 hnodup
      refine ⟨seen, ?_⟩
      rw [List.zipIdx_append, List.zipIdx_singleton, Nat.zero_add]
      exact foldlM_concat_eq_ok_iff.mpr
        ⟨between, hbetween, claimSpec_eq_ok_iff.mpr ⟨hlisted, hseen⟩⟩

theorem claims_eq_error_iff {f : TableFault} : claims specs = .error f ↔ FirstFlaw specs f := by
  rw [claims, foldlM_eq_error_iff]
  constructor
  · rintro ⟨done, ⟨s, i⟩, rest, seen, heq, hdone, hspec⟩
    obtain ⟨before, tail, rfl, rfl, htail⟩ := List.zipIdx_eq_append_iff.mp heq
    obtain ⟨s, after, rfl, hs, -⟩ := List.zipIdx_eq_cons_iff.mp htail.symm
    obtain ⟨rfl, rfl⟩ := Prod.mk.inj hs
    obtain ⟨hsound, hindex⟩ := claim_specs_sound hdone
    rw [Nat.zero_add, claimSpec_eq_error_iff hindex hsound.nodup] at hspec
    exact ⟨before, _, after, rfl, hsound, hspec⟩
  · rintro ⟨before, s, after, rfl, hsound, hflaw⟩
    obtain ⟨seen, hseen⟩ := claim_specs_complete hsound
    have hindex := (claim_specs_sound hseen).2
    refine ⟨before.zipIdx, (s, before.length), after.zipIdx (before.length + 1), seen, ?_, hseen,
      (claimSpec_eq_error_iff hindex hsound.nodup).mpr hflaw⟩
    rw [List.zipIdx_append, List.zipIdx_cons, Nat.zero_add]

/-! ## Tables -/

variable {t : Table}

theorem ofSpecs_eq_error_iff {f : TableFault} : ofSpecs specs = .error f ↔ FirstFlaw specs f := by
  rw [← claims_eq_error_iff, ofSpecs]
  split
  · rename_i hclaims
    constructor
    · intro h
      exact hclaims.trans (congrArg _ (Except.error.inj h))
    · intro h
      exact congrArg _ (Except.error.inj (hclaims.symm.trans h))
  · rename_i hclaims
    exact ⟨fun h => (nomatch h), fun h => (nomatch hclaims.symm.trans h)⟩

/-- The specs settle the index. -/
theorem ofSpecs_eq_ok_iff : ofSpecs specs = .ok t ↔ t.specs = specs := by
  obtain ⟨own, index, hchecked⟩ := t
  rw [ofSpecs]
  constructor
  · intro h
    split at h
    · exact nomatch h
    · exact (congrArg Table.specs (Except.ok.inj h)).symm
  · rintro rfl
    split
    · rename_i hclaims
      exact nomatch hchecked.symm.trans hclaims
    · rename_i hclaims
      obtain rfl := Except.ok.inj (hchecked.symm.trans hclaims)
      rfl

theorem exists_ofSpecs_eq_ok_iff : (∃ t, ofSpecs specs = .ok t) ↔ Sound specs := by
  constructor
  · rintro ⟨t, ht⟩
    obtain rfl := ofSpecs_eq_ok_iff.mp ht
    exact (claim_specs_sound t.checked).1
  · intro h
    obtain ⟨seen, hseen⟩ := claim_specs_complete h
    exact ⟨⟨specs, seen, hseen⟩, ofSpecs_eq_ok_iff.mpr rfl⟩

/-- No event is listed twice in a table. -/
theorem nodup_events (t : Table) : (t.specs.flatMap Spec.events).Nodup :=
  (claim_specs_sound t.checked).1.nodup

theorem indexes_index (t : Table) : Indexes t.index t.specs := (claim_specs_sound t.checked).2

/-- An event leads to just the spec that lists it. -/
theorem lookup_eq_some_iff {e : String} : t.lookup e = some s ↔ s ∈ t.specs ∧ e ∈ s.events := by
  rw [lookup, Option.bind_eq_some_iff]
  constructor
  · rintro ⟨i, hi, hs⟩
    obtain ⟨_, heq, he⟩ := (t.indexes_index e i).mp hi
    obtain rfl := Option.some.inj (hs.symm.trans heq)
    exact ⟨List.mem_of_getElem? hs, he⟩
  · rintro ⟨hs, he⟩
    obtain ⟨i, hi⟩ := List.mem_iff_getElem?.mp hs
    exact ⟨i, (t.indexes_index e i).mpr ⟨s, hi, he⟩, hi⟩

theorem lookup_eq_none_iff {e : String} : t.lookup e = none ↔ ∀ s ∈ t.specs, e ∉ s.events := by
  rw [Option.eq_none_iff_forall_ne_some]
  simp only [ne_eq, lookup_eq_some_iff, not_and]

end EditWatch.Capture.Table
