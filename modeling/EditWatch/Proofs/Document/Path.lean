import EditWatch.Document.Path
import EditWatch.Proofs.Text.Reading

/-!
# EditWatch.Proofs.Document.Path -- the texts that are property paths

What a path looks like is told by a grammar: parts between dots, each a name with index groups
behind it, or index groups alone. Reading accepts just the texts of the grammar and gives the steps
that it tells. Every list of steps that can be told has a canonical text, and reading this text
gives the steps back.
-/

namespace EditWatch.Document.Path

/-! ## The grammar -/

/-- Decimal digits, at least one of them, of a value that fits a word. -/
structure Digits (ds : List Char) (n : UInt64) : Prop where
  nonempty : ds ≠ []
  digits : ∀ c ∈ ds, c.isDigit
  value : Text.decimalValue ds = n.toNat

/-- The number in a group: digits, with a plus sign in front of them or not. -/
inductive Numeral : List Char → UInt64 → Prop
  | plain {ds : List Char} {n : UInt64} (h : Digits ds n) : Numeral ds n
  | signed {ds : List Char} {n : UInt64} (h : Digits ds n) : Numeral ('+' :: ds) n

/-- Index groups, one behind the other. -/
inductive Groups : List Char → List Segment → Prop
  | nil : Groups [] []
  | cons {cs rest : List Char} {n : UInt64} {steps : List Segment} (h : Numeral cs n)
      (hrest : Groups rest steps) : Groups ('[' :: (cs ++ ']' :: rest)) (.index n :: steps)

/-- What can be the name of a field. -/
structure Name (cs : List Char) : Prop where
  nonempty : cs ≠ []
  dot : '.' ∉ cs
  bracket : '[' ∉ cs

/-- A part between dots: a name with groups behind it, or at least one group. -/
inductive Part : List Char → List Segment → Prop
  | named {name rest : List Char} {steps : List Segment} (hname : Name name)
      (hrest : Groups rest steps) : Part (name ++ rest) (.field (String.ofList name) :: steps)
  | unnamed {cs : List Char} {steps : List Segment} (hcs : cs ≠ []) (h : Groups cs steps) :
      Part cs steps

/-- Parts with dots between them. -/
inductive Spelled : List Char → List Segment → Prop
  | part {p : List Char} {steps : List Segment} (h : Part p steps) : Spelled p steps
  | dot {p rest : List Char} {steps others : List Segment} (h : Part p steps)
      (hrest : Spelled rest others) : Spelled (p ++ '.' :: rest) (steps ++ others)

/-! ## Numbers -/

theorem digits_iff {ds : List Char} {n : UInt64} :
    Digits ds n ↔ Text.readDecimal? ds = some n.toNat := by
  rw [Text.readDecimal?_eq_some_iff]
  exact ⟨fun h => ⟨h.nonempty, h.digits, h.value⟩, fun h => ⟨h.1, h.2.1, h.2.2⟩⟩

theorem numeral_iff {cs : List Char} {n : UInt64} :
    Numeral cs n ↔ Text.readBounded? 0x10000000000000000 cs = some n.toNat := by
  rw [Text.readBounded?_eq_some_iff]
  constructor
  · intro h
    refine ⟨n.toNat_lt, ?_⟩
    cases h with
    | plain h => exact ⟨_, .inl rfl, digits_iff.mp h⟩
    | signed h => exact ⟨_, .inr rfl, digits_iff.mp h⟩
  · rintro ⟨-, ds, rfl | rfl, h⟩
    · exact .plain (digits_iff.mpr h)
    · exact .signed (digits_iff.mpr h)

/-- A number is made of digits and a plus sign. -/
theorem Numeral.notMem {cs : List Char} {n : UInt64} (h : Numeral cs n) {c : Char}
    (hplus : c ≠ '+') (hdigit : ¬ c.isDigit) : c ∉ cs := by
  intro hc
  cases h with
  | plain h => exact hdigit (h.digits c hc)
  | signed h =>
      rcases List.mem_cons.mp hc with rfl | hc
      · exact hplus rfl
      · exact hdigit (h.digits c hc)

/-- The canonical numeral of a word. -/
theorem digits_decimal (n : UInt64) : Digits (Text.decimal n.toNat) n :=
  digits_iff.mpr (Text.readDecimal?_decimal n.toNat)

/-! ## Groups -/

/-- What is inside a group goes as far as the first closing bracket. -/
theorem group_append {body : List Char} (hbody : ']' ∉ body) (seen rest : List Char) :
    group seen (body ++ ']' :: rest) = group (body.reverse ++ seen) (']' :: rest) := by
  induction body generalizing seen with
  | nil => rfl
  | cons c body ih =>
      obtain ⟨hc, hbody⟩ := List.ne_and_not_mem_of_not_mem_cons hbody
      have hopen : group seen (c :: (body ++ ']' :: rest)) =
          group (c :: seen) (body ++ ']' :: rest) := by
        rw [group]
        intro heq
        exact hc heq.symm
      rw [List.cons_append, hopen, ih hbody, List.reverse_cons, List.append_assoc,
        List.singleton_append]

theorem group_of_notMem {cs : List Char} (h : ']' ∉ cs) (seen : List Char) :
    group seen cs = .error .unterminatedIndex := by
  induction cs generalizing seen with
  | nil => rw [group]
  | cons c cs ih =>
      obtain ⟨hc, hcs⟩ := List.ne_and_not_mem_of_not_mem_cons h
      rw [group, ih hcs]
      intro heq
      exact hc heq.symm

theorem map_eq_ok_iff {α β : Type} {f : α → β} {r : Except PathFault α} {b : β} :
    r.map f = .ok b ↔ ∃ a, r = .ok a ∧ f a = b := by
  cases r with
  | error fault => exact ⟨fun h => (nomatch h), fun ⟨_, h, _⟩ => (nomatch h)⟩
  | ok a =>
      show Except.ok (f a) = .ok b ↔ ∃ a', Except.ok a = .ok a' ∧ f a' = b
      constructor
      · intro h
        exact ⟨a, rfl, Except.ok.inj h⟩
      · rintro ⟨a', ha, rfl⟩
        obtain rfl := Except.ok.inj ha
        rfl

theorem Groups.of_groups {cs : List Char} {steps : List Segment} (h : groups cs = .ok steps) :
    Groups cs steps := by
  -- Behind a group there is less to read, so the induction is on the length.
  induction hlength : cs.length using Nat.strongRecOn generalizing cs steps with
  | ind length ih =>
      cases cs with
      | nil =>
          rw [groups] at h
          obtain rfl := Except.ok.inj h
          exact .nil
      | cons c cs =>
          by_cases hopen : c = '['
          · subst hopen
            rw [groups] at h
            by_cases hclose : ']' ∈ cs
            · obtain ⟨body, rest, rfl, hbody⟩ := List.eq_append_cons_of_mem hclose
              rw [group_append hbody, List.append_nil, group, List.reverse_reverse] at h
              split at h
              · exact nomatch h
              · rename_i n hread
                obtain ⟨others, hothers, rfl⟩ := map_eq_ok_iff.mp h
                have hbound : n < 2 ^ 64 := (Text.readBounded?_eq_some_iff.mp hread).1
                have hn : (UInt64.ofNat n).toNat = n := UInt64.toNat_ofNat_of_lt' hbound
                have hshorter : rest.length < length := by
                  simp only [List.length_cons, List.length_append] at hlength
                  omega
                exact .cons (numeral_iff.mpr (hn.symm ▸ hread)) (ih _ hshorter hothers rfl)
            · rw [group_of_notMem hclose] at h
              exact nomatch h
          · rw [groups] at h
            · exact nomatch h
            · exact fun heq => nomatch heq
            · exact fun rest heq => hopen (List.cons.inj heq).1

theorem groups_eq_ok_iff {cs : List Char} {steps : List Segment} :
    groups cs = .ok steps ↔ Groups cs steps := by
  refine ⟨Groups.of_groups, fun h => ?_⟩
  induction h with
  | nil => rw [groups]
  | cons h _ ih =>
      have hclose := h.notMem (c := ']') (by decide) (by decide)
      rw [groups, group_append hclose, List.append_nil, group, List.reverse_reverse,
        numeral_iff.mp h]
      show (groups _).map _ = _
      rw [ih, UInt64.ofNat_toNat]
      rfl

theorem Groups.notMem_dot {cs : List Char} {steps : List Segment} (h : Groups cs steps) :
    '.' ∉ cs := by
  induction h with
  | nil => exact List.not_mem_nil
  | cons h _ ih =>
      have hnumeral := h.notMem (c := '.') (by decide) (by decide)
      simp [hnumeral, ih]

theorem Groups.head? {cs : List Char} {steps : List Segment} (h : Groups cs steps) :
    ∀ c ∈ cs.head?, c = '[' := by
  cases h with
  | nil => exact fun c hc => nomatch hc
  | cons h hrest => exact fun c hc => (Option.some.inj hc).symm

theorem Groups.eq_nil_iff {cs : List Char} {steps : List Segment} (h : Groups cs steps) :
    cs = [] ↔ steps = [] := by
  cases h with
  | nil => exact iff_of_true rfl rfl
  | cons h hrest => exact iff_of_false (List.cons_ne_nil _ _) (List.cons_ne_nil _ _)

theorem Groups.append {cs rest : List Char} {steps others : List Segment} (h : Groups cs steps)
    (hrest : Groups rest others) : Groups (cs ++ rest) (steps ++ others) := by
  induction h with
  | nil => exact hrest
  | cons h _ ih =>
      rw [List.cons_append, List.append_assoc, List.cons_append, List.cons_append]
      exact .cons h ih

/-- A group has an index in it. -/
theorem Groups.exists_index {cs : List Char} {steps : List Segment} (h : Groups cs steps) :
    ∀ step ∈ steps, ∃ n, step = .index n := by
  induction h with
  | nil => exact fun step hstep => nomatch hstep
  | @cons _ _ n _ _ _ ih => exact List.forall_mem_cons.mpr ⟨⟨n, rfl⟩, ih⟩

/-! ## Parts -/

theorem exists_name_append (cs : List Char) :
    ∃ name rest, cs = name ++ rest ∧ '[' ∉ name ∧ ∀ c ∈ rest.head?, c = '[' := by
  by_cases h : '[' ∈ cs
  · obtain ⟨name, rest, rfl, hname⟩ := List.eq_append_cons_of_mem h
    exact ⟨name, '[' :: rest, rfl, hname, fun c hc => (Option.some.inj hc).symm⟩
  · exact ⟨cs, [], (List.append_nil cs).symm, h, fun c hc => nomatch hc⟩

theorem part_of_bracket (cs : List Char) : part ('[' :: cs) = groups ('[' :: cs) := by
  show (groups ('[' :: cs)).map (fun steps => steps) = groups ('[' :: cs)
  cases groups ('[' :: cs) <;> rfl

theorem part_append {name rest : List Char} (hne : name ≠ []) (hname : '[' ∉ name)
    (hrest : ∀ c ∈ rest.head?, c = '[') :
    part (name ++ rest) = (groups rest).map (.field (String.ofList name) :: ·) := by
  have hkeep : ∀ c ∈ name, decide (c ≠ '[') = true := by
    intro c hc
    exact decide_eq_true fun heq => hname (heq ▸ hc)
  -- The name ends where the groups begin, and no sooner.
  have htake : rest.takeWhile (· ≠ '[') = [] ∧ rest.dropWhile (· ≠ '[') = rest := by
    cases rest with
    | nil => exact ⟨rfl, rfl⟩
    | cons c rest =>
        obtain rfl := hrest c rfl
        exact ⟨rfl, rfl⟩
  have hempty : ¬ (name ++ rest).isEmpty := by simp [hne]
  have hnamed : ¬ name.isEmpty := by simp [hne]
  unfold part
  simp only [if_neg hempty, List.takeWhile_append_of_pos hkeep, List.dropWhile_append_of_pos hkeep,
    htake.1, htake.2, List.append_nil, if_neg hnamed]

theorem part_eq_ok_iff {cs : List Char} {steps : List Segment} (hdot : '.' ∉ cs) :
    part cs = .ok steps ↔ Part cs steps := by
  constructor
  · intro h
    obtain ⟨name, rest, rfl, hname, hrest⟩ := exists_name_append cs
    by_cases hne : name = []
    · subst hne
      cases rest with
      | nil => exact nomatch h
      | cons c rest =>
          obtain rfl := hrest c rfl
          rw [List.nil_append, part_of_bracket, groups_eq_ok_iff] at h
          exact .unnamed (List.cons_ne_nil _ _) h
    · rw [part_append hne hname hrest, map_eq_ok_iff] at h
      obtain ⟨indices, hindices, rfl⟩ := h
      exact .named ⟨hne, fun h => hdot (List.mem_append_left _ h), hname⟩
        (groups_eq_ok_iff.mp hindices)
  · intro h
    cases h with
    | named hname hrest =>
        rw [part_append hname.nonempty hname.bracket hrest.head?, groups_eq_ok_iff.mpr hrest]
        rfl
    | unnamed hne h =>
        cases cs with
        | nil => exact absurd rfl hne
        | cons c cs =>
            obtain rfl := h.head? c rfl
            rw [part_of_bracket]
            exact groups_eq_ok_iff.mpr h

theorem Part.notMem_dot {cs : List Char} {steps : List Segment} (h : Part cs steps) :
    '.' ∉ cs := by
  cases h with
  | named hname hrest =>
      rw [List.mem_append, not_or]
      exact ⟨hname.dot, hrest.notMem_dot⟩
  | unnamed _ h => exact h.notMem_dot

theorem Part.ne_nil {cs : List Char} {steps : List Segment} (h : Part cs steps) : cs ≠ [] := by
  cases h with
  | named hname _ => exact List.append_ne_nil_of_left_ne_nil hname.nonempty _
  | unnamed hne _ => exact hne

theorem Part.append {cs rest : List Char} {steps others : List Segment} (h : Part cs steps)
    (hrest : Groups rest others) : Part (cs ++ rest) (steps ++ others) := by
  cases h with
  | named hname h =>
      rw [List.append_assoc, List.cons_append]
      exact .named hname (h.append hrest)
  | unnamed hne h => exact .unnamed (List.append_ne_nil_of_left_ne_nil hne _) (h.append hrest)

/-- Steps that can be told: at least one, and no field without a proper name. -/
structure Tellable (steps : List Segment) : Prop where
  nonempty : steps ≠ []
  names : ∀ name, .field name ∈ steps → Name name.toList

theorem Tellable.append {steps others : List Segment} (h : Tellable steps)
    (hothers : Tellable others) : Tellable (steps ++ others) where
  nonempty := List.append_ne_nil_of_left_ne_nil h.nonempty _
  names name hname := (List.mem_append.mp hname).elim (h.names name) (hothers.names name)

theorem Part.tellable {cs : List Char} {steps : List Segment} (h : Part cs steps) :
    Tellable steps := by
  -- No group tells a field, so the name in front of the groups is the only one.
  cases h with
  | named hname hrest =>
      refine ⟨List.cons_ne_nil _ _, fun other hother => ?_⟩
      rcases List.mem_cons.mp hother with heq | hmem
      · obtain rfl := Segment.field.inj heq
        rw [String.toList_ofList]
        exact hname
      · obtain ⟨n, heq⟩ := hrest.exists_index _ hmem
        exact nomatch heq
  | unnamed hne h =>
      refine ⟨fun hsteps => hne (h.eq_nil_iff.mpr hsteps), fun other hother => ?_⟩
      obtain ⟨n, heq⟩ := h.exists_index _ hother
      exact nomatch heq

/-! ## Paths -/

theorem parts_cons_eq_ok_iff {p : List Char} {ps : List (List Char)} {steps : List Segment} :
    parts (p :: ps) = .ok steps ↔
      ∃ own others, part p = .ok own ∧ parts ps = .ok others ∧ own ++ others = steps := by
  rw [parts]
  cases part p with
  | error fault => exact ⟨fun h => (nomatch h), fun ⟨_, _, h, _⟩ => (nomatch h)⟩
  | ok own =>
      cases parts ps with
      | error fault => exact ⟨fun h => (nomatch h), fun ⟨_, _, _, h, _⟩ => (nomatch h)⟩
      | ok others =>
          constructor
          · intro h
            exact ⟨own, others, rfl, rfl, Except.ok.inj h⟩
          · rintro ⟨own', others', hown, hothers, rfl⟩
            obtain rfl := Except.ok.inj hown
            obtain rfl := Except.ok.inj hothers
            rfl

theorem forall_not_dot {cs : List Char} (h : '.' ∉ cs) : ∀ c ∈ cs, ¬ (c == '.') := by
  intro c hc hdot
  exact h (eq_of_beq hdot ▸ hc)

theorem Spelled.of_parts {ps : List (List Char)} {cs : List Char} {steps : List Segment}
    (hps : Text.pieces (· == '.') cs = ps) (h : parts ps = .ok steps) : Spelled cs steps := by
  induction ps generalizing cs steps with
  | nil => exact nomatch hps
  | cons p ps ih =>
      obtain ⟨own, others, hown, hothers, rfl⟩ := parts_cons_eq_ok_iff.mp h
      -- The first piece ends at the first dot, or is the whole text.
      by_cases hdot : '.' ∈ cs
      · obtain ⟨first, rest, rfl, hfirst⟩ := List.eq_append_cons_of_mem hdot
        rw [Text.pieces_append_cons (forall_not_dot hfirst) rfl] at hps
        obtain ⟨rfl, hrest⟩ := List.cons.inj hps
        exact .dot ((part_eq_ok_iff hfirst).mp hown) (ih hrest hothers)
      · rw [Text.pieces_of_forall (forall_not_dot hdot)] at hps
        obtain ⟨rfl, rfl⟩ := List.cons.inj hps
        obtain rfl := Except.ok.inj hothers
        rw [List.append_nil]
        exact .part ((part_eq_ok_iff hdot).mp hown)

theorem parts_eq_ok_iff {cs : List Char} {steps : List Segment} :
    parts (Text.pieces (· == '.') cs) = .ok steps ↔ Spelled cs steps := by
  refine ⟨Spelled.of_parts rfl, fun h => ?_⟩
  induction h with
  | part h =>
      have hdot := h.notMem_dot
      rw [Text.pieces_of_forall (forall_not_dot hdot), parts_cons_eq_ok_iff]
      exact ⟨_, [], (part_eq_ok_iff hdot).mpr h, rfl, List.append_nil _⟩
  | dot h _ ih =>
      have hdot := h.notMem_dot
      rw [Text.pieces_append_cons (forall_not_dot hdot) rfl, parts_cons_eq_ok_iff]
      exact ⟨_, _, (part_eq_ok_iff hdot).mpr h, ih, rfl⟩

theorem Spelled.ne_nil {cs : List Char} {steps : List Segment} (h : Spelled cs steps) :
    cs ≠ [] := by
  cases h with
  | part h => exact h.ne_nil
  | dot h _ => exact List.append_ne_nil_of_left_ne_nil h.ne_nil _

theorem Spelled.tellable {cs : List Char} {steps : List Segment} (h : Spelled cs steps) :
    Tellable steps := by
  induction h with
  | part h => exact h.tellable
  | dot h _ ih => exact h.tellable.append ih

theorem parse_eq_ok_iff {raw : String} {path : Path} :
    parse raw = .ok path ↔ path.raw = raw ∧ Spelled raw.toList path.segments := by
  unfold parse segments?
  rw [map_eq_ok_iff]
  constructor
  · rintro ⟨steps, h, rfl⟩
    refine ⟨rfl, ?_⟩
    split at h
    · exact nomatch h
    · exact parts_eq_ok_iff.mp h
  · rintro ⟨rfl, h⟩
    refine ⟨path.segments, ?_, rfl⟩
    have hne : ¬ path.raw.isEmpty := by
      rw [String.isEmpty_iff]
      intro hempty
      rw [hempty] at h
      exact h.ne_nil rfl
    rw [if_neg hne]
    exact parts_eq_ok_iff.mpr h

/-! ## Canonical texts -/

theorem Spelled.append_groups {cs rest : List Char} {steps others : List Segment}
    (h : Spelled cs steps) (hrest : Groups rest others) :
    Spelled (cs ++ rest) (steps ++ others) := by
  induction h with
  | part h => exact .part (h.append hrest)
  | dot h _ ih =>
      rw [List.append_assoc, List.cons_append, List.append_assoc]
      exact .dot h ih

theorem Spelled.append_part {cs p : List Char} {steps others : List Segment}
    (h : Spelled cs steps) (hp : Part p others) : Spelled (cs ++ '.' :: p) (steps ++ others) := by
  induction h with
  | part h => exact .dot h (.part hp)
  | dot h _ ih =>
      rw [List.append_assoc, List.cons_append, List.append_assoc]
      exact .dot h ih

theorem part_field {name : String} (h : Name name.toList) : Part name.toList [.field name] := by
  have hpart := Part.named h .nil
  rw [List.append_nil, String.ofList_toList] at hpart
  exact hpart

theorem groups_index (n : UInt64) :
    Groups ('[' :: (Text.decimal n.toNat ++ [']'])) [.index n] :=
  .cons (.plain (digits_decimal n)) .nil

theorem Spelled.append_renderRest {cs : List Char} {steps rest : List Segment}
    (h : Spelled cs steps) (hrest : ∀ name, .field name ∈ rest → Name name.toList) :
    Spelled (cs ++ renderRest rest) (steps ++ rest) := by
  induction rest generalizing cs steps with
  | nil =>
      rw [renderRest, List.append_nil, List.append_nil]
      exact h
  | cons step rest ih =>
      -- A field opens a part of its own behind a dot, an index goes on with the last part.
      have hstep : Spelled (cs ++ renderStep false step) (steps ++ [step]) := by
        cases step with
        | field name => exact h.append_part (part_field (hrest name List.mem_cons_self))
        | index n => exact h.append_groups (groups_index n)
      have hall := ih hstep fun name hname => hrest name (List.mem_cons_of_mem _ hname)
      rw [List.append_assoc, List.append_assoc] at hall
      exact hall

/-- The canonical text tells the steps that it is made of. -/
theorem Tellable.spelled_render {steps : List Segment} (h : Tellable steps) :
    Spelled (render steps).toList steps := by
  cases steps with
  | nil => exact absurd rfl h.nonempty
  | cons step rest =>
      have hstep : Part (renderStep true step) [step] := by
        cases step with
        | field name => exact part_field (h.names name List.mem_cons_self)
        | index n => exact .unnamed (List.cons_ne_nil _ _) (groups_index n)
      show Spelled (String.ofList (renderStep true step ++ renderRest rest)).toList _
      rw [String.toList_ofList]
      exact (Spelled.part hstep).append_renderRest
        fun name hname => h.names name (List.mem_cons_of_mem _ hname)

theorem Tellable.parse_render {steps : List Segment} (h : Tellable steps) :
    parse (render steps) = .ok ⟨render steps, steps⟩ :=
  parse_eq_ok_iff.mpr ⟨rfl, h.spelled_render⟩

/-- A text is a path just when the grammar tells its steps, and these are the steps of the path.
Steps that can be told have a canonical text, which is a path with just these steps; so the steps of
every path can be written down and read again. -/
theorem parse_accepts_spelled :
    (∀ raw path, parse raw = .ok path ↔ path.raw = raw ∧ Spelled raw.toList path.segments) ∧
      (∀ steps, Tellable steps → parse (render steps) = .ok ⟨render steps, steps⟩) ∧
      ∀ raw path, parse raw = .ok path →
        parse (render path.segments) = .ok ⟨render path.segments, path.segments⟩ := by
  refine ⟨fun _ _ => parse_eq_ok_iff, fun _ h => h.parse_render, ?_⟩
  intro raw path h
  exact (parse_eq_ok_iff.mp h).2.tellable.parse_render

/-- A sign and a leading zero are no part of the canonical text, and a path may begin with an
index. -/
theorem parse_accepts_spelled_signed :
    Spelled "nodes[+07].id".toList [.field "nodes", .index 7, .field "id"] ∧
      parse "nodes[7].id" =
        .ok ⟨"nodes[7].id", [.field "nodes", .index 7, .field "id"]⟩ ∧
      Tellable [.index 0, .field "id"] ∧
      parse "[0].id" = .ok ⟨"[0].id", [.index 0, .field "id"]⟩ := by
  obtain ⟨haccepts, hrenders, hagain⟩ := parse_accepts_spelled
  have hparse : parse "nodes[+07].id" =
      .ok ⟨"nodes[+07].id", [.field "nodes", .index 7, .field "id"]⟩ := by
    have hsome : (parse "nodes[+07].id").toOption =
        some ⟨"nodes[+07].id", [.field "nodes", .index 7, .field "id"]⟩ := by decide +kernel
    cases hread : parse "nodes[+07].id" with
    | error fault =>
        rw [hread] at hsome
        exact nomatch hsome
    | ok path =>
        rw [hread] at hsome
        exact congrArg Except.ok (Option.some.inj hsome)
  have hcanonical : render [.field "nodes", .index 7, .field "id"] = "nodes[7].id" := by
    decide +kernel
  have hspelled := ((haccepts _ _).mp hparse).2
  have hparsed := hagain _ _ hparse
  rw [hcanonical] at hparsed
  have htellable : Tellable [.index 0, .field "id"] := by
    refine ⟨List.cons_ne_nil _ _, fun name hname => ?_⟩
    obtain rfl : name = "id" := by simpa using hname
    exact ⟨by decide, by decide, by decide⟩
  have hindex : render [.index 0, .field "id"] = "[0].id" := by decide +kernel
  have hrendered := hrenders _ htellable
  rw [hindex] at hrendered
  exact ⟨hspelled, hparsed, htellable, hrendered⟩

end EditWatch.Document.Path
