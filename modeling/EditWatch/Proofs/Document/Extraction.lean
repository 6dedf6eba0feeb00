import EditWatch.Proofs.Document.Path

/-!
# EditWatch.Proofs.Document.Extraction -- paths put together

A dot between two texts makes a path of them just when each is a path, whatever brackets they open
and close: no group goes over a dot. What the whole names is what the second names inside the value
that the first names. Where a step finds nothing or a `null`, nothing further is found, so a `null`
is never the value of a path.
-/

namespace EditWatch.Document.Path

/-! ## Parsing -/

theorem parts_append_eq_ok_iff {ps qs : List (List Char)} {steps : List Segment} :
    parts (ps ++ qs) = .ok steps ↔
      ∃ own others, parts ps = .ok own ∧ parts qs = .ok others ∧ own ++ others = steps := by
  induction ps generalizing steps with
  | nil =>
      constructor
      · intro h
        exact ⟨[], steps, rfl, h, rfl⟩
      · rintro ⟨own, others, hown, hothers, rfl⟩
        obtain rfl := Except.ok.inj hown
        exact hothers
  | cons p ps ih =>
      simp only [List.cons_append, parts_cons_eq_ok_iff, ih]
      constructor
      · rintro ⟨first, _, hfirst, ⟨own, others, hown, hothers, rfl⟩, rfl⟩
        exact ⟨first ++ own, others, ⟨first, own, hfirst, hown, rfl⟩, hothers,
          List.append_assoc first own others⟩
      · rintro ⟨_, others, ⟨first, own, hfirst, hown, rfl⟩, hothers, rfl⟩
        exact ⟨first, own ++ others, hfirst, ⟨own, others, hown, hothers, rfl⟩,
          (List.append_assoc first own others).symm⟩

/-- Every dot ends a part, so the parts of the whole are those of its two sides. -/
theorem spelled_dot_iff {p q : List Char} {steps : List Segment} :
    Spelled (p ++ '.' :: q) steps ↔
      ∃ own others, Spelled p own ∧ Spelled q others ∧ own ++ others = steps := by
  have hcut : Text.pieces (· == '.') (p ++ '.' :: q) =
      Text.pieces (· == '.') p ++ Text.pieces (· == '.') q := Text.pieces_append_sep p rfl q
  rw [← parts_eq_ok_iff, hcut, parts_append_eq_ok_iff]
  simp only [parts_eq_ok_iff]

theorem toList_dot (p q : String) : (p ++ "." ++ q).toList = p.toList ++ '.' :: q.toList := by
  rw [String.toList_append, String.toList_append, List.append_assoc]
  rfl

theorem parse_dot_eq_ok_iff {p q : String} {path : Path} :
    parse (p ++ "." ++ q) = .ok path ↔
      ∃ first second, parse p = .ok first ∧ parse q = .ok second ∧
        path = ⟨p ++ "." ++ q, first.segments ++ second.segments⟩ := by
  rw [parse_eq_ok_iff, toList_dot, spelled_dot_iff]
  constructor
  · rintro ⟨hraw, own, others, hown, hothers, hsteps⟩
    refine ⟨⟨p, own⟩, ⟨q, others⟩, parse_eq_ok_iff.mpr ⟨rfl, hown⟩,
      parse_eq_ok_iff.mpr ⟨rfl, hothers⟩, ?_⟩
    obtain ⟨raw, segments⟩ := path
    obtain rfl : raw = p ++ "." ++ q := hraw
    obtain rfl : own ++ others = segments := hsteps
    rfl
  · rintro ⟨first, second, hfirst, hsecond, rfl⟩
    exact ⟨rfl, first.segments, second.segments, (parse_eq_ok_iff.mp hfirst).2,
      (parse_eq_ok_iff.mp hsecond).2, rfl⟩

/-! ## Following -/

/-- Steps are followed one leg after the other. -/
theorem follow_append (root : Json) (own others : List Segment) :
    follow root (own ++ others) = (follow root own).bind fun v => follow v others := by
  induction own generalizing root with
  | nil => rfl
  | cons s own ih =>
      rw [List.cons_append, follow, follow]
      split
      · rfl
      · rfl
      · exact ih _

/-- No step leads to a `null`. -/
theorem follow_ne_null {steps : List Segment} (hsteps : steps ≠ []) (root : Json) :
    follow root steps ≠ some .null := by
  induction steps generalizing root with
  | nil => exact absurd rfl hsteps
  | cons s steps ih =>
      rw [follow]
      split
      · exact fun h => nomatch h
      · exact fun h => nomatch h
      · rename_i v hnull _
        by_cases hlast : steps = []
        · subst hlast
          intro h
          exact hnull (Option.some.inj h)
        · exact ih hlast v

theorem parse_of_toOption {raw : String} {path : Path} (h : (parse raw).toOption = some path) :
    parse raw = .ok path := by
  cases hparse : parse raw with
  | error fault =>
      rw [hparse] at h
      exact nomatch h
  | ok found =>
      rw [hparse] at h
      exact congrArg Except.ok (Option.some.inj h)

theorem extract_of_parse {raw : String} {path : Path} (h : parse raw = .ok path) (root : Json) :
    extract root raw = follow root path.segments := by
  rw [extract, h]
  rfl

theorem extract_eq_some_iff {root v : Json} {raw : String} :
    extract root raw = some v ↔ ∃ path, parse raw = .ok path ∧ path.resolve root = some v := by
  rw [extract]
  constructor
  · intro h
    split at h
    · rename_i path hparse
      exact ⟨path, hparse, h⟩
    · exact nomatch h
  · rintro ⟨path, hparse, hv⟩
    rw [hparse]
    exact hv

theorem extract_ne_null (root : Json) (raw : String) : extract root raw ≠ some .null := by
  intro h
  obtain ⟨path, hparse, hnull⟩ := extract_eq_some_iff.mp h
  exact follow_ne_null (parse_eq_ok_iff.mp hparse).2.tellable.nonempty root hnull

theorem extract_dot (root : Json) (p q : String) :
    extract root (p ++ "." ++ q) = (extract root p).bind fun v => extract v q := by
  refine Option.ext fun v => ?_
  rw [Option.bind_eq_some_iff, extract_eq_some_iff]
  constructor
  · rintro ⟨path, hparse, hv⟩
    obtain ⟨first, second, hfirst, hsecond, rfl⟩ := parse_dot_eq_ok_iff.mp hparse
    rw [resolve, follow_append, Option.bind_eq_some_iff] at hv
    obtain ⟨w, hw, hv⟩ := hv
    exact ⟨w, (extract_of_parse hfirst root).trans hw, (extract_of_parse hsecond w).trans hv⟩
  · rintro ⟨w, hw, hv⟩
    obtain ⟨first, hfirst, hw⟩ := extract_eq_some_iff.mp hw
    obtain ⟨second, hsecond, hv⟩ := extract_eq_some_iff.mp hv
    refine ⟨_, parse_dot_eq_ok_iff.mpr ⟨first, second, hfirst, hsecond, rfl⟩, ?_⟩
    rw [resolve, follow_append, Option.bind_eq_some_iff]
    exact ⟨w, hw, hv⟩

/-! ## Main result -/

/-- Two texts with a dot between them are a path just when each of them is one, and the steps of the
whole are those of the first and then those of the second. What the whole names in a value is what the
second names in what the first names there, and nothing if either names nothing. A `null` is never
named. -/
theorem paths_compose :
    (∀ p q path, parse (p ++ "." ++ q) = .ok path ↔
      ∃ first second, parse p = .ok first ∧ parse q = .ok second ∧
        path = ⟨p ++ "." ++ q, first.segments ++ second.segments⟩) ∧
    (∀ root p q, extract root (p ++ "." ++ q) = (extract root p).bind fun v => extract v q) ∧
    ∀ root raw, extract root raw ≠ some .null :=
  ⟨fun _ _ _ => parse_dot_eq_ok_iff, extract_dot, extract_ne_null⟩

/-- A bracket that is open at the dot makes the whole no path, though what stands behind the dot is
one. -/
example : (parse "a[.0]").toOption = none ∧ (parse "0]").toOption.isSome := by decide +kernel

end EditWatch.Document.Path
