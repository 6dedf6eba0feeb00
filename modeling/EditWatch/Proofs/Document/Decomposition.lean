import EditWatch.Proofs.Document.History

/-!
# EditWatch.Proofs.Document.Decomposition -- an edit of a child list in pieces

An edit of a child list is judged as a whole, against the document that it finds. Cut into pieces it
is judged piece by piece, each against a document that the earlier pieces changed. Nothing slips
through either way: a child that a later piece repeats is no child any more, and a number that a later
piece repeats is taken by then. So the pieces are accepted one after the other exactly if the whole
edit is, and they lead to the same document. Nor does the order matter in which children are listed
that are taken out.
-/

namespace EditWatch.Document

variable {d d' : Document} {p : NodeId} {R R₁ R₂ : List NodeId} {A A₁ A₂ : List Descriptor}

/-! ## Regrafting -/

/-- Different children of `p` can be taken out and subtrees added to it, and `d'` is what the document
is once both are done. -/
structure Regrafts (d : Document) (p : NodeId) (R : List NodeId) (A : List Descriptor)
    (d' : Document) : Prop where
  nodup : R.Nodup
  up : ∀ c ∈ R, d.Up c p
  insertFault : d.insertFault p A = none
  eq : d' = (d.uproot p R).plant (some p) A

theorem insertFault_nil_iff : d.insertFault p [] = none ↔ d.contains p := by
  rw [insertFault_eq_none_iff, contains_iff]
  constructor
  · rintro ⟨⟨n, hn, -⟩, -⟩
    exact ⟨n, hn⟩
  · rintro ⟨n, hn⟩
    exact ⟨⟨n, hn, fun _ => rfl⟩, by simp, by simp, by simp⟩

/-- Only taking children out. -/
theorem regrafts_nil_right_iff :
    d.Regrafts p R [] d' ↔
      d.contains p ∧ R.Nodup ∧ (∀ c ∈ R, d.Up c p) ∧ d' = d.uproot p R := by
  rw [← insertFault_nil_iff]
  constructor
  · rintro ⟨hnodup, hup, hinsert, rfl⟩
    exact ⟨hinsert, hnodup, hup, plant_nil _ _⟩
  · rintro ⟨hinsert, hnodup, hup, rfl⟩
    exact ⟨hnodup, hup, hinsert, (plant_nil _ _).symm⟩

/-- Only adding subtrees. -/
theorem regrafts_nil_left_iff :
    d.Regrafts p [] A d' ↔ d.insertFault p A = none ∧ d' = d.plant (some p) A := by
  constructor
  · rintro ⟨-, -, hinsert, rfl⟩
    exact ⟨hinsert, by rw [uproot_nil]⟩
  · rintro ⟨hinsert, rfl⟩
    exact ⟨List.nodup_nil, by simp, hinsert, by rw [uproot_nil]⟩

/-! ## Cutting -/

/-- Taking out and adding can be done one after the other. -/
theorem regrafts_iff_exists :
    d.Regrafts p R A d' ↔ ∃ m, d.Regrafts p R [] m ∧ m.Regrafts p [] A d' := by
  constructor
  · rintro ⟨hnodup, hup, hinsert, rfl⟩
    obtain ⟨⟨n, hn, -⟩, -⟩ := insertFault_eq_none_iff.mp hinsert
    have hp : d.contains p := contains_of_node? hn
    refine ⟨d.uproot p R, regrafts_nil_right_iff.mpr ⟨hp, hnodup, hup, rfl⟩, ?_⟩
    exact regrafts_nil_left_iff.mpr ⟨insertFault_uproot_iff.mpr hinsert, rfl⟩
  · rintro ⟨m, hremoval, haddition⟩
    obtain ⟨-, hnodup, hup, rfl⟩ := regrafts_nil_right_iff.mp hremoval
    obtain ⟨hinsert, rfl⟩ := regrafts_nil_left_iff.mp haddition
    exact ⟨hnodup, hup, insertFault_uproot_iff.mp hinsert, rfl⟩

/-- Removals can be cut anywhere. A child that is listed on both sides of the cut has lost its
parent by the time of the second removal, so both ways refuse it. -/
theorem regrafts_removal_append_iff :
    d.Regrafts p (R₁ ++ R₂) [] d' ↔ ∃ m, d.Regrafts p R₁ [] m ∧ m.Regrafts p R₂ [] d' := by
  simp only [regrafts_nil_right_iff]
  constructor
  · rintro ⟨hp, hnodup, hup, rfl⟩
    obtain ⟨hnodup₁, hnodup₂, hapart⟩ := List.nodup_append.mp hnodup
    obtain ⟨hup₁, hup₂⟩ := List.forall_mem_append.mp hup
    have hup₂' : ∀ c ∈ R₂, (d.uproot p R₁).Up c p := by
      intro c hc
      exact up_uproot_iff.mpr ⟨hup₂ c hc, fun hc₁ => hapart c hc₁ c hc rfl⟩
    exact ⟨d.uproot p R₁, ⟨hp, hnodup₁, hup₁, rfl⟩, by simpa using hp, hnodup₂, hup₂',
      (uproot_uproot d p R₁ R₂).symm⟩
  · rintro ⟨m, ⟨hp, hnodup₁, hup₁, rfl⟩, -, hnodup₂, hup₂, rfl⟩
    have hkept : ∀ c ∈ R₂, d.Up c p ∧ c ∉ R₁ := by
      intro c hc
      exact up_uproot_iff.mp (hup₂ c hc)
    refine ⟨hp, ?_, ?_, uproot_uproot d p R₁ R₂⟩
    · rw [List.nodup_append]
      refine ⟨hnodup₁, hnodup₂, ?_⟩
      rintro c hc₁ _ hc₂ rfl
      exact (hkept c hc₂).2 hc₁
    · rw [List.forall_mem_append]
      exact ⟨hup₁, fun c hc => (hkept c hc).1⟩

/-- What a node accepts in two steps it accepts in one, and the other way round: what was added first
leaves it the text or the element that it was, and has taken the numbers that it brought. -/
theorem insertFault_append_iff : d.insertFault p (A₁ ++ A₂) = none ↔
    d.insertFault p A₁ = none ∧ (d.plant (some p) A₁).insertFault p A₂ = none := by
  simp only [insertFault_eq_none_iff]
  cases hn : d.node? p with
  | none => simp
  | some n =>
      have hp : d.contains p := contains_of_node? hn
      rw [admits_append_iff hp]
      have hafter : d.Admits A₁ → (d.plant (some p) A₁).node? p =
          some { n with children := n.children ++ A₁.map Descriptor.id } := by
        intro hadm
        rw [node?_plant_of_notMem (hadm.notMem hp), if_pos rfl, hn, Option.map_some]
      -- The target is the same text or element before and after the first addition.
      constructor
      · rintro ⟨⟨m, hm, htext⟩, hadm₁, hadm₂⟩
        cases hm
        simp only [List.append_eq_nil_iff] at htext
        exact ⟨⟨⟨n, rfl, fun ht => (htext ht).1⟩, hadm₁⟩,
          ⟨_, hafter hadm₁, fun ht => (htext ht).2⟩, hadm₂⟩
      · rintro ⟨⟨⟨m, hm, htext₁⟩, hadm₁⟩, ⟨m', hm', htext₂⟩, hadm₂⟩
        cases hm
        rw [hafter hadm₁] at hm'
        cases hm'
        exact ⟨⟨n, rfl, fun ht => List.append_eq_nil_iff.mpr ⟨htext₁ ht, htext₂ ht⟩⟩, hadm₁, hadm₂⟩

/-- Additions can be cut anywhere. -/
theorem regrafts_addition_append_iff :
    d.Regrafts p [] (A₁ ++ A₂) d' ↔ ∃ m, d.Regrafts p [] A₁ m ∧ m.Regrafts p [] A₂ d' := by
  simp only [regrafts_nil_left_iff, insertFault_append_iff]
  have hwhole : d.insertFault p A₁ = none → (d.plant (some p) A₁).insertFault p A₂ = none →
      (d.plant (some p) A₁).plant (some p) A₂ = d.plant (some p) (A₁ ++ A₂) := by
    intro hinsert₁ hinsert₂
    have hinsert := insertFault_append_iff.mpr ⟨hinsert₁, hinsert₂⟩
    obtain ⟨⟨n, hn, -⟩, hadm⟩ := insertFault_eq_none_iff.mp hinsert
    exact plant_plant hadm.nodup (hadm.notMem (contains_of_node? hn))
  constructor
  · rintro ⟨⟨hinsert₁, hinsert₂⟩, rfl⟩
    exact ⟨_, ⟨hinsert₁, rfl⟩, hinsert₂, (hwhole hinsert₁ hinsert₂).symm⟩
  · rintro ⟨m, ⟨hinsert₁, rfl⟩, hinsert₂, rfl⟩
    exact ⟨⟨hinsert₁, hinsert₂⟩, hwhole hinsert₁ hinsert₂⟩

/-- A regrafting in three pieces, the middle one of which takes out and adds. -/
theorem regrafts_append_iff :
    d.Regrafts p (R₁ ++ R₂) (A₁ ++ A₂) d' ↔ ∃ d₁ d₂, d.Regrafts p R₁ [] d₁ ∧
      d₁.Regrafts p R₂ A₁ d₂ ∧ d₂.Regrafts p [] A₂ d' := by
  constructor
  · intro hwhole
    obtain ⟨m, hremoval, haddition⟩ := regrafts_iff_exists.mp hwhole
    obtain ⟨d₁, hfirst, hsecond⟩ := regrafts_removal_append_iff.mp hremoval
    obtain ⟨d₂, hthird, hfourth⟩ := regrafts_addition_append_iff.mp haddition
    exact ⟨d₁, d₂, hfirst, regrafts_iff_exists.mpr ⟨m, hsecond, hthird⟩, hfourth⟩
  · rintro ⟨d₁, d₂, hfirst, hmiddle, hfourth⟩
    obtain ⟨m, hsecond, hthird⟩ := regrafts_iff_exists.mp hmiddle
    exact regrafts_iff_exists.mpr ⟨m, regrafts_removal_append_iff.mpr ⟨d₁, hfirst, hsecond⟩,
      regrafts_addition_append_iff.mpr ⟨d₂, hthird, hfourth⟩⟩

theorem uproot_perm (h : R₁.Perm R₂) : d.uproot p R₁ = d.uproot p R₂ := by
  -- What becomes of a node depends on the entries of the list, not on their order.
  refine ext_node? rfl fun j => ?_
  rw [node?_uproot, node?_uproot]
  congr 1
  funext n
  simp only [h.mem_iff, List.Perm.diff_left n.children h]

/-- The removed children can be listed in any order. -/
theorem Regrafts.perm (h : d.Regrafts p R₁ A d') (hperm : R₁.Perm R₂) :
    d.Regrafts p R₂ A d' where
  nodup := hperm.nodup h.nodup
  up c hc := h.up c (hperm.mem_iff.mpr hc)
  insertFault := h.insertFault
  eq := by rw [h.eq, uproot_perm hperm]

/-! ## Accepted edits -/

/-- The document accepts the edit, and afterwards it is `d'`. -/
def Accepts (d : Document) (e : Edit) (d' : Document) : Prop := ∃ r, d.apply e = (.ok r, d')

namespace WellFormed

theorem of_accepts (hwf : d.WellFormed) {e : Edit} (h : d.Accepts e d') : d'.WellFormed := by
  obtain ⟨r, hr⟩ := h
  exact hwf.of_apply_eq hr

/-- An edit of a child list is accepted where the regrafting can be done, whatever its text. -/
theorem accepts_childList_iff (hwf : d.WellFormed) {t : Option String} :
    d.Accepts ⟨p, .childList, A, R, t⟩ d' ↔ d.Regrafts p R A d' := by
  constructor
  · rintro ⟨r, hr⟩
    obtain ⟨hfault, -, rfl⟩ := hwf.apply_eq_ok_iff.mp hr
    have hnone := childListFault_of_editFault rfl hfault
    obtain ⟨hnodup, hup, hinsert⟩ := childListFault_eq_none_iff.mp hnone
    exact ⟨hnodup, hup, hinsert, rfl⟩
  · rintro ⟨hnodup, hup, hinsert, rfl⟩
    have hnone : d.childListFault ⟨p, .childList, A, R, t⟩ = none :=
      childListFault_eq_none_iff.mpr ⟨hnodup, hup, hinsert⟩
    exact ⟨_, hwf.apply_eq_regraft rfl hnone⟩

/-- An edit that is not accepted leaves the document as it was. -/
theorem apply_snd_eq_self (hwf : d.WellFormed) {e : Edit} (h : ∀ d', ¬ d.Accepts e d') :
    (d.apply e).2 = d := by
  cases happly : d.apply e with
  | mk outcome after =>
      cases outcome with
      | ok r => exact absurd ⟨r, happly⟩ (h after)
      | error f => exact hwf.eq_of_apply_error happly

/-- Two edits that are accepted with the same outcome, if at all, leave the same document. -/
theorem apply_snd_eq_of_accepts_iff (hwf : d.WellFormed) {e e' : Edit}
    (h : ∀ d', d.Accepts e d' ↔ d.Accepts e' d') : (d.apply e).2 = (d.apply e').2 := by
  by_cases haccepts : ∃ d', d.Accepts e d'
  · obtain ⟨d', hd'⟩ := haccepts
    obtain ⟨r', hr'⟩ := (h d').mp hd'
    obtain ⟨r, hr⟩ := hd'
    rw [hr, hr']
  · rw [not_exists] at haccepts
    have haccepts' : ∀ d', ¬ d.Accepts e' d' := by
      intro d' hd'
      exact haccepts d' ((h d').mpr hd')
    rw [hwf.apply_snd_eq_self haccepts, hwf.apply_snd_eq_self haccepts']

end WellFormed

/-! ## Main result -/

/-- For every document that comes about an edit of a child list can be cut in three: the first children
taken out, then the others taken out and the first subtrees added, then the other subtrees added. It is
accepted exactly if the three are, one after the other, and leads to the document that they lead to. If
the children that it takes out are listed in another order, it is accepted or refused as before and
leaves the same document. -/
theorem childList_edit_in_pieces (h : Reachable d) (target : NodeId) :
    (∀ R₁ R₂ A₁ A₂ t t₁ t₂ t₃ d', d.Accepts ⟨target, .childList, A₁ ++ A₂, R₁ ++ R₂, t⟩ d' ↔
      ∃ d₁ d₂, d.Accepts ⟨target, .childList, [], R₁, t₁⟩ d₁ ∧
        d₁.Accepts ⟨target, .childList, A₁, R₂, t₂⟩ d₂ ∧
        d₂.Accepts ⟨target, .childList, A₂, [], t₃⟩ d') ∧
    (∀ R R' A t t', R.Perm R' →
      (∀ d', d.Accepts ⟨target, .childList, A, R, t⟩ d' ↔
        d.Accepts ⟨target, .childList, A, R', t'⟩ d') ∧
      (d.apply ⟨target, .childList, A, R, t⟩).2 =
        (d.apply ⟨target, .childList, A, R', t'⟩).2) := by
  have hwf := h.wellFormed
  constructor
  · intro R₁ R₂ A₁ A₂ t t₁ t₂ t₃ d'
    rw [hwf.accepts_childList_iff, regrafts_append_iff]
    refine exists₂_congr fun d₁ d₂ => ?_
    rw [hwf.accepts_childList_iff]
    -- Each piece finds a well-formed document, since the pieces before it were accepted.
    refine and_congr_right fun hfirst => ?_
    have hwf₁ : d₁.WellFormed :=
      hwf.of_accepts ((hwf.accepts_childList_iff (t := t₁)).mpr hfirst)
    rw [hwf₁.accepts_childList_iff]
    refine and_congr_right fun hsecond => ?_
    have hwf₂ : d₂.WellFormed :=
      hwf₁.of_accepts ((hwf₁.accepts_childList_iff (t := t₂)).mpr hsecond)
    rw [hwf₂.accepts_childList_iff]
  · intro R R' A t t' hperm
    have hiff : ∀ d', d.Accepts ⟨target, .childList, A, R, t⟩ d' ↔
        d.Accepts ⟨target, .childList, A, R', t'⟩ d' := by
      intro d'
      rw [hwf.accepts_childList_iff, hwf.accepts_childList_iff]
      exact ⟨fun hd' => hd'.perm hperm, fun hd' => hd'.perm hperm.symm⟩
    exact ⟨hiff, hwf.apply_snd_eq_of_accepts_iff hiff⟩

/-- Letters in italics, and the letter behind them. -/
def italics : Descriptor :=
  ⟨6, .element, some "i", none, ∅, none, [⟨7, .text, none, none, ∅, some "te", []⟩]⟩

def lastLetter : Descriptor := ⟨8, .text, none, none, ∅, some "h", []⟩

/-- The children of a word that was taken out are replaced at once, in three steps, or with the
removed ones listed the other way round. -/
theorem childList_edit_in_pieces_replaced :
    Reachable replaced ∧ ∃ d₁ d₂ d',
      replaced.Accepts ⟨2, .childList, [italics, lastLetter], [3, 5], none⟩ d' ∧
      replaced.Accepts ⟨2, .childList, [], [3], none⟩ d₁ ∧
      d₁.Accepts ⟨2, .childList, [italics], [5], none⟩ d₂ ∧
      d₂.Accepts ⟨2, .childList, [lastLetter], [], none⟩ d' ∧
      replaced.Accepts ⟨2, .childList, [italics, lastLetter], [5, 3], none⟩ d' := by
  have hwhole : replaced.Accepts ⟨2, .childList, [italics, lastLetter], [3, 5], none⟩
      (replaced.apply ⟨2, .childList, [italics, lastLetter], [3, 5], none⟩).2 :=
    ⟨⟨2, [6, 8], [3, 5], .childList⟩, Prod.ext (by rfl) rfl⟩
  obtain ⟨hpieces, horder⟩ := childList_edit_in_pieces reachable_replaced 2
  obtain ⟨d₁, d₂, hfirst, hsecond, hthird⟩ :=
    (hpieces [3] [5] [italics] [lastLetter] none none none none _).mp hwhole
  have hswap : [(3 : NodeId), 5].Perm [5, 3] := List.Perm.swap 5 3 []
  exact ⟨reachable_replaced, d₁, d₂, _, hwhole, hfirst, hsecond, hthird,
    ((horder _ _ _ _ none hswap).1 _).mp hwhole⟩

end EditWatch.Document
