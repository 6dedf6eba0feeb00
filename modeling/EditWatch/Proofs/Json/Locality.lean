import EditWatch.Proofs.Json.Taking

/-!
# EditWatch.Proofs.Json.Locality -- what of a text a value takes

A reader that gives a value has taken a piece at the head of the text. It gives the same value for
this piece in front of anything else, as long as a numeral at its end does not go on there. The piece
does not end in white space, and two steps of the reader are enough for each character of it. So white
space behind a text makes no difference, although the reader is allowed more steps then.
-/

namespace EditWatch.Json

/-! ## Values -/

/-- The reader takes just this text for the value, whatever follows, as long as that is not taken
for the rest of a numeral. Two steps are enough for each character. -/
structure Takes {α : Type} (read : Nat → List Char → Option (α × List Char)) (taken : List Char)
    (a : α) : Prop where
  solid : Solid taken
  reads : ∀ fuel rest, 2 * taken.length ≤ fuel + 1 → Stops rest →
    read (fuel + 1) (taken ++ rest) = some (a, rest)

/-- What stands behind the white space at the head of a text is found behind it again, whatever
follows. -/
theorem exists_skip {cs t rest : List Char} (h : skipSpace cs = t ++ rest) (ht : 0 < t.length) :
    ∃ ws, (∀ c ∈ ws, isSpace c = true) ∧ cs = ws ++ (t ++ rest) ∧
      ∀ rest', skipSpace (ws ++ (t ++ rest')) = t ++ rest' := by
  obtain ⟨c, t, rfl⟩ := List.exists_cons_of_length_pos ht
  have hspace : isSpace c = false := by
    have hnot := List.head?_dropWhile_not isSpace cs
    rw [← skipSpace, h] at hnot
    simpa using hnot
  have hws : ∀ c ∈ cs.takeWhile isSpace, isSpace c = true := fun _ hc => List.mem_takeWhile_imp hc
  refine ⟨cs.takeWhile isSpace, hws, ?_, fun rest' => ?_⟩
  · rw [← h]
    exact List.takeWhile_append_dropWhile.symm
  · rw [skipSpace_append hws, List.cons_append, skipSpace_cons hspace]

/-- With so much fuel, what gives a value was taken from the head of the text. -/
structure Local (fuel : Nat) : Prop where
  value : ∀ {depth cs j rest}, readValue? fuel depth cs = some (j, rest) →
    ∃ taken, cs = taken ++ rest ∧ Takes (fun k => readValue? k depth) taken j
  items : ∀ {depth cs items rest}, readItems? fuel depth cs = some (items, rest) →
    ∃ taken, cs = taken ++ rest ∧ Takes (fun k => readItems? k depth) taken items
  members : ∀ {depth cs members rest}, readMembers? fuel depth cs = some (members, rest) →
    ∃ taken, cs = '"' :: taken ++ rest ∧
      Takes (fun k => readMembers? k depth) ('"' :: taken) members

variable {fuel depth : Nat} {cs rest : List Char}

theorem Takes.pos {α : Type} {read : Nat → List Char → Option (α × List Char)} {taken : List Char}
    {a : α} (h : Takes read taken a) : 0 < taken.length := h.solid.pos

/-- The steps may be counted as they are, for there are some. -/
theorem Takes.eq {α : Type} {read : Nat → List Char → Option (α × List Char)} {taken : List Char}
    {a : α} (h : Takes read taken a) {k : Nat} (hk : 2 * taken.length ≤ k) {rest : List Char}
    (hrest : Stops rest) : read k (taken ++ rest) = some (a, rest) := by
  have hpos := h.pos
  obtain ⟨k, rfl⟩ : ∃ m, k = m + 1 := ⟨k - 1, by omega⟩
  exact h.reads k rest hk hrest

theorem takes_string {j : Json}
    (hread : readValue? (fuel + 1) depth ('"' :: cs) = some (j, rest)) :
    ∃ taken, cs = taken ++ rest ∧ Takes (fun k => readValue? k depth) ('"' :: taken) j := by
  rw [readValue?] at hread
  obtain ⟨⟨string, _⟩, hstring, heq⟩ := Option.map_eq_some_iff.mp hread
  cases heq
  obtain ⟨body, rfl, hbody⟩ := exists_taken_of_readString? hstring
  refine ⟨body ++ ['"'], by simp, solid_append_singleton (by decide) ('"' :: body),
    fun k rest' _ _ => ?_⟩
  rw [List.cons_append, List.append_assoc, List.singleton_append, readValue?, hbody]
  rfl

theorem takes_array (h : Local fuel) {j : Json}
    (hread : readValue? (fuel + 1) depth ('[' :: cs) = some (j, rest)) :
    ∃ taken, cs = taken ++ rest ∧ Takes (fun k => readValue? k depth) ('[' :: taken) j := by
  rw [readValue?] at hread
  split at hread
  · rename_i heq
    cases hread
    obtain ⟨ws, hws, rfl, hskip⟩ := exists_skip (t := [']']) heq Nat.one_pos
    refine ⟨ws ++ [']'], (List.append_assoc ..).symm,
      solid_append_singleton (by decide) ('[' :: ws), fun k rest' _ _ => ?_⟩
    rw [List.cons_append, List.append_assoc, readValue?, hskip]
    rfl
  · rename_i hbracket
    obtain ⟨⟨items, _⟩, hitems, heq⟩ := Option.map_eq_some_iff.mp hread
    cases heq
    obtain ⟨taken, htaken, htakes⟩ := h.items hitems
    obtain ⟨ws, hws, rfl, hskip⟩ := exists_skip htaken htakes.pos
    obtain ⟨c, t, rfl⟩ := List.exists_cons_of_length_pos htakes.pos
    have hc : c ≠ ']' := by
      rintro rfl
      exact hbracket _ htaken
    refine ⟨ws ++ c :: t, (List.append_assoc ..).symm, htakes.solid.append ('[' :: ws),
      fun k rest' hk hrest => ?_⟩
    have hlength : 2 * (c :: t).length ≤ k := by
      rw [List.length_cons, List.length_append] at hk
      omega
    rw [List.cons_append, List.append_assoc, readValue?_items (hskip rest') hc]
    show (readItems? k (depth + 1) (c :: t ++ rest')).map _ = _
    rw [htakes.eq hlength hrest]
    rfl

theorem takes_object (h : Local fuel) {j : Json}
    (hread : readValue? (fuel + 1) depth ('\x7b' :: cs) = some (j, rest)) :
    ∃ taken, cs = taken ++ rest ∧ Takes (fun k => readValue? k depth) ('\x7b' :: taken) j := by
  rw [readValue?] at hread
  split at hread
  · rename_i heq
    cases hread
    obtain ⟨ws, hws, rfl, hskip⟩ := exists_skip (t := ['\x7d']) heq Nat.one_pos
    refine ⟨ws ++ ['\x7d'], (List.append_assoc ..).symm,
      solid_append_singleton (by decide) ('\x7b' :: ws), fun k rest' _ _ => ?_⟩
    rw [List.cons_append, List.append_assoc, readValue?, hskip]
    rfl
  · obtain ⟨⟨members, _⟩, hmembers, heq⟩ := Option.map_eq_some_iff.mp hread
    cases heq
    obtain ⟨t, htaken, htakes⟩ := h.members hmembers
    obtain ⟨ws, hws, rfl, hskip⟩ := exists_skip htaken htakes.pos
    refine ⟨ws ++ '"' :: t, (List.append_assoc ..).symm, htakes.solid.append ('\x7b' :: ws),
      fun k rest' hk hrest => ?_⟩
    have hlength : 2 * ('"' :: t).length ≤ k := by
      rw [List.length_cons, List.length_append] at hk
      omega
    rw [List.cons_append, List.append_assoc, readValue?_members (hskip rest')]
    show (readMembers? k (depth + 1) ('"' :: t ++ rest')).map _ = _
    rw [htakes.eq hlength hrest]
    rfl

theorem takes_value (h : Local fuel) {j : Json}
    (hread : readValue? (fuel + 1) depth cs = some (j, rest)) :
    ∃ taken, cs = taken ++ rest ∧ Takes (fun k => readValue? k depth) taken j := by
  have hcase := hread
  rw [readValue?.eq_def] at hcase
  dsimp only at hcase
  -- One case for each way in which a value can begin.
  split at hcase
  case h_1 =>
    cases hcase
    exact ⟨['n', 'u', 'l', 'l'], rfl, ⟨['n', 'u', 'l'], 'l', rfl, rfl⟩, fun k rest' _ _ => by
      simp only [List.cons_append, List.nil_append, readValue?]⟩
  case h_2 =>
    cases hcase
    exact ⟨['t', 'r', 'u', 'e'], rfl, ⟨['t', 'r', 'u'], 'e', rfl, rfl⟩, fun k rest' _ _ => by
      simp only [List.cons_append, List.nil_append, readValue?]⟩
  case h_3 =>
    cases hcase
    exact ⟨['f', 'a', 'l', 's', 'e'], rfl, ⟨['f', 'a', 'l', 's'], 'e', rfl, rfl⟩,
      fun k rest' _ _ => by simp only [List.cons_append, List.nil_append, readValue?]⟩
  case h_4 =>
    obtain ⟨taken, rfl, htakes⟩ := takes_string hread
    exact ⟨'"' :: taken, rfl, htakes⟩
  case h_5 =>
    obtain ⟨taken, rfl, htakes⟩ := takes_array h hread
    exact ⟨'[' :: taken, rfl, htakes⟩
  case h_6 =>
    obtain ⟨taken, rfl, htakes⟩ := takes_object h hread
    exact ⟨'\x7b' :: taken, rfl, htakes⟩
  case h_7 =>
    obtain ⟨⟨n, _⟩, hn, heq⟩ := Option.map_eq_some_iff.mp hcase
    cases heq
    obtain ⟨c, taken, rfl, hc, hends, hnumeral⟩ := Numeral.exists_taken_of_read? hn
    refine ⟨c :: taken, rfl, hends.solid, fun k rest' _ hrest => ?_⟩
    have hagain := hnumeral rest' hrest
    rw [List.cons_append] at hagain ⊢
    rw [readValue?_numeral hc, hagain]
    rfl

/-! ### Items and members -/

/-- What follows an item or a member: the closing bracket, or a comma and what is read then. -/
def more? {α : Type} (close : Char) (one : α) (add : α → α)
    (next : List Char → Option (α × List Char)) (cs : List Char) : Option (α × List Char) :=
  match skipSpace cs with
  | [] => none
  | c :: rest =>
    if c = close then some (one, rest)
    else if c = ',' then (next (skipSpace rest)).map fun p => (add p.1, p.2)
    else none

/-- A closing bracket is none of the characters that the readers have a use for otherwise. -/
structure Closing (close : Char) : Prop where
  space : isSpace close = false
  stops : close.isDigit = false ∧ close ≠ '.' ∧ close ≠ 'e' ∧ close ≠ 'E'

theorem takes_more {α : Type} (next : Nat → List Char → Option (α × List Char)) {close : Char}
    (hclose : Closing close) {one a : α} {add : α → α}
    (hread : more? close one add (next fuel) cs = some (a, rest))
    (hnext : ∀ {cs a rest}, next fuel cs = some (a, rest) →
      ∃ taken, cs = taken ++ rest ∧ Takes next taken a) :
    ∃ taken, cs = taken ++ rest ∧ Solid taken ∧ ∀ k rest', 2 * taken.length ≤ k + 1 → Stops rest' →
      Stops (taken ++ rest') ∧ more? close one add (next k) (taken ++ rest') = some (a, rest') := by
  rw [more?] at hread
  split at hread
  · cases hread
  · rename_i c tail heq
    obtain ⟨ws, hws, rfl, hskip⟩ := exists_skip (t := [c]) heq Nat.one_pos
    by_cases hc : c = close
    · rw [if_pos hc] at hread
      cases hread
      subst hc
      refine ⟨ws ++ [c], by simp, solid_append_singleton hclose.space ws, fun k rest' _ _ => ?_⟩
      rw [List.append_assoc, more?, hskip]
      exact ⟨stops_append hws (stops_cons hclose.stops _), if_pos rfl⟩
    · rw [if_neg hc] at hread
      obtain ⟨rfl, hmap⟩ := Option.ite_none_right_eq_some.mp hread
      obtain ⟨⟨others, _⟩, hothers, heq'⟩ := Option.map_eq_some_iff.mp hmap
      cases heq'
      obtain ⟨more, hmore, htakes⟩ := hnext hothers
      obtain ⟨ws', hws', rfl, hskip'⟩ := exists_skip hmore htakes.pos
      have hsolid : Solid (ws ++ ([','] ++ (ws' ++ more))) :=
        ((htakes.solid.append ws').append [',']).append ws
      refine ⟨ws ++ ([','] ++ (ws' ++ more)), by simp, hsolid, fun k rest' hk hrest => ?_⟩
      have hlength : 2 * more.length ≤ k := by
        simp only [List.length_append, List.length_singleton] at hk
        omega
      rw [List.append_assoc, List.append_assoc, List.append_assoc, more?, hskip]
      refine ⟨stops_append hws (stops_cons (by decide) _), ?_⟩
      show (if ',' = close then _ else if ',' = ',' then
        (next k (skipSpace (ws' ++ (more ++ rest')))).map _ else none) = _
      rw [if_neg hc, if_pos rfl, hskip', htakes.eq hlength hrest]
      rfl

theorem readItems?_succ (fuel depth : Nat) (cs : List Char) : readItems? (fuel + 1) depth cs =
    (readValue? fuel depth cs).bind fun p =>
      more? ']' [p.1] (p.1 :: ·) (readItems? fuel depth) p.2 := by
  rw [readItems?]
  cases readValue? fuel depth cs with
  | none => rfl
  | some p =>
      simp only [Option.bind_some, more?]
      cases skipSpace p.2 with
      | nil => rfl
      | cons c rest =>
          by_cases hclose : c = ']'
          · subst hclose
            rfl
          · by_cases hcomma : c = ','
            · subst hcomma
              rfl
            · simp [hclose, hcomma]

theorem takes_items (h : Local fuel) {items : List Json}
    (hread : readItems? (fuel + 1) depth cs = some (items, rest)) :
    ∃ taken, cs = taken ++ rest ∧ Takes (fun k => readItems? k depth) taken items := by
  rw [readItems?_succ] at hread
  obtain ⟨⟨j, _⟩, hvalue, hmore⟩ := Option.bind_eq_some_iff.mp hread
  obtain ⟨first, rfl, hfirst⟩ := h.value hvalue
  obtain ⟨t, rfl, hsolid, hreads⟩ := takes_more (fun k => readItems? k depth)
    ⟨by decide, by decide⟩ hmore h.items
  refine ⟨first ++ t, (List.append_assoc ..).symm, hsolid.append first, fun k rest' hk hrest => ?_⟩
  have hpos := hsolid.pos
  rw [List.length_append] at hk
  obtain ⟨hstops, hthen⟩ := hreads k rest' (by omega) hrest
  rw [List.append_assoc, readItems?_succ, hfirst.eq (by omega) hstops]
  exact hthen

/-- The name of a member is gone; the colon and the value follow, and then what `more?` reads. -/
def afterName? (fuel depth : Nat) (name : Option String) (cs : List Char) :
    Option (Option (List (String × Json)) × List Char) :=
  match skipSpace cs with
  | ':' :: rest => (readValue? fuel depth (skipSpace rest)).bind fun p =>
      let first := name.map fun k => (k, p.1)
      more? '\x7d' (first.map fun m => [m]) (fun ms => first.bind fun m => ms.map (m :: ·))
        (readMembers? fuel depth) p.2
  | _ => none

theorem readMembers?_succ (fuel depth : Nat) (cs : List Char) :
    readMembers? (fuel + 1) depth ('"' :: cs) =
      (readString? cs).bind fun p => afterName? fuel depth p.1 p.2 := by
  rw [readMembers?]
  cases readString? cs with
  | none => rfl
  | some p =>
      simp only [Option.bind_some, afterName?]
      cases skipSpace p.2 with
      | nil => rfl
      | cons colon tail =>
          by_cases hcolon : colon = ':'
          · subst hcolon
            cases hvalue : readValue? fuel depth (skipSpace tail) with
            | none => simp only [hvalue, Option.bind_none]
            | some q =>
                simp only [hvalue, Option.bind_some, more?]
                cases skipSpace q.2 with
                | nil => rfl
                | cons c rest =>
                    by_cases hclose : c = '\x7d'
                    · subst hclose
                      rfl
                    · by_cases hcomma : c = ','
                      · subst hcomma
                        rfl
                      · simp [hclose, hcomma]
          · simp [hcolon]

theorem takes_members (h : Local fuel) {members : Option (List (String × Json))}
    (hread : readMembers? (fuel + 1) depth cs = some (members, rest)) :
    ∃ taken, cs = '"' :: taken ++ rest ∧
      Takes (fun k => readMembers? k depth) ('"' :: taken) members := by
  obtain ⟨tail, rfl⟩ : ∃ tail, cs = '"' :: tail := by
    rw [readMembers?.eq_def] at hread
    dsimp only at hread
    split at hread
    · exact ⟨_, rfl⟩
    · cases hread
  rw [readMembers?_succ] at hread
  obtain ⟨⟨name, _⟩, hname, hmember⟩ := Option.bind_eq_some_iff.mp hread
  obtain ⟨body, rfl, hbody⟩ := exists_taken_of_readString? hname
  rw [afterName?] at hmember
  split at hmember
  · rename_i heq
    obtain ⟨ws, hws, rfl, hskip⟩ := exists_skip (t := [':']) heq Nat.one_pos
    obtain ⟨⟨j, _⟩, hvalue, hmore⟩ := Option.bind_eq_some_iff.mp hmember
    obtain ⟨value, hcs, htakes⟩ := h.value hvalue
    obtain ⟨ws', hws', rfl, hskip'⟩ := exists_skip hcs htakes.pos
    obtain ⟨t, rfl, hsolid, hreads⟩ := takes_more (fun k => readMembers? k depth)
      ⟨by decide, by decide⟩ hmore fun h' => by
        obtain ⟨taken, rfl, hmembers⟩ := h.members h'
        exact ⟨'"' :: taken, rfl, hmembers⟩
    have hsolid' : Solid ('"' :: (body ++ '"' :: (ws ++ ':' :: (ws' ++ (value ++ t))))) := by
      have happend := hsolid.append ('"' :: (body ++ '"' :: (ws ++ ':' :: (ws' ++ value))))
      simpa using happend
    refine ⟨body ++ '"' :: (ws ++ ':' :: (ws' ++ (value ++ t))), by simp, hsolid',
      fun k rest' hk hrest => ?_⟩
    have hpos := hsolid.pos
    simp only [List.length_append, List.length_cons] at hk
    obtain ⟨hstops, hthen⟩ := hreads k rest' (by omega) hrest
    rw [List.cons_append, List.append_assoc, List.cons_append, List.append_assoc, List.cons_append,
      List.append_assoc, List.append_assoc, readMembers?_succ, hbody]
    show afterName? k depth name (ws ++ ([':'] ++ (ws' ++ (value ++ (t ++ rest'))))) = _
    rw [afterName?, hskip]
    show (readValue? k depth (skipSpace (ws' ++ (value ++ (t ++ rest'))))).bind _ = _
    rw [hskip', htakes.eq (by omega) hstops]
    exact hthen
  · cases hmember

theorem readers_local (fuel : Nat) : Local fuel := by
  induction fuel with
  | zero =>
      refine ⟨fun h => ?_, fun h => ?_, fun h => ?_⟩
      · rw [readValue?] at h
        cases h
      · rw [readItems?] at h
        cases h
      · rw [readMembers?] at h
        cases h
  | succ fuel ih => exact ⟨takes_value ih, takes_items ih, takes_members ih⟩

/-! ## Whole texts -/

/-- A text is read as a value exactly if it is what the value takes, with white space around it. -/
theorem read?_eq_some_iff {j : Json} : read? cs = some j ↔ ∃ ws taken ws',
    cs = ws ++ (taken ++ ws') ∧ (∀ rest, skipSpace (ws ++ (taken ++ rest)) = taken ++ rest) ∧
      (∀ c ∈ ws', isSpace c = true) ∧ Takes (fun k => readValue? k 0) taken j := by
  constructor
  · intro h
    rw [read?] at h
    split at h
    · rename_i heq
      obtain ⟨hend, hj⟩ := Option.ite_none_right_eq_some.mp h
      cases hj
      obtain ⟨taken, htaken, htakes⟩ := (readers_local _).value heq
      obtain ⟨ws, -, rfl, hskip⟩ := exists_skip htaken htakes.pos
      refine ⟨ws, taken, _, rfl, hskip, ?_, htakes⟩
      exact List.dropWhile_eq_nil_iff.mp (List.isEmpty_iff.mp hend)
    · cases h
  · rintro ⟨ws, taken, ws', rfl, hskip, hws', htakes⟩
    have hstops : Stops ws' := by simpa using stops_append hws' stops_nil
    have hfuel : 2 * taken.length ≤ 2 * (ws ++ (taken ++ ws')).length + 1 := by
      simp only [List.length_append]
      omega
    rw [read?, hskip, htakes.eq hfuel hstops]
    exact if_pos (List.isEmpty_iff.mpr (List.dropWhile_eq_nil_iff.mpr hws'))

/-- White space behind a text makes no difference. -/
theorem read?_append_space (cs : List Char) {ws : List Char} (hws : ∀ c ∈ ws, isSpace c = true) :
    read? (cs ++ ws) = read? cs := by
  ext j
  simp only [read?_eq_some_iff]
  constructor
  · rintro ⟨front, taken, back, hcs, hskip, hback, htakes⟩
    rw [← List.append_assoc] at hcs
    rcases List.append_eq_append_iff.mp hcs with ⟨extra, hfront, rfl⟩ | ⟨extra, rfl, rfl⟩
    · have hextra : extra = [] :=
        (hfront ▸ htakes.solid.append front : Solid (cs ++ extra)).eq_nil_of_append
          (List.forall_mem_append.mp hws).1
      subst hextra
      rw [List.append_nil] at hfront
      exact ⟨front, taken, [], by rw [← hfront, List.append_nil], hskip,
        List.forall_mem_nil _, htakes⟩
    · exact ⟨front, taken, extra, List.append_assoc .., hskip, (List.forall_mem_append.mp hback).1,
        htakes⟩
  · rintro ⟨front, taken, back, rfl, hskip, hback, htakes⟩
    exact ⟨front, taken, back ++ ws, by simp, hskip,
      List.forall_mem_append.mpr ⟨hback, hws⟩, htakes⟩

theorem parse?_append_space (text : String) {ws : String}
    (hws : ∀ c ∈ ws.toList, isSpace c = true) : parse? (text ++ ws) = parse? text := by
  rw [parse?, parse?, String.toList_append, read?_append_space text.toList hws]

end EditWatch.Json
