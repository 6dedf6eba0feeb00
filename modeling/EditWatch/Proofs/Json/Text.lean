import EditWatch.Proofs.Json.Layout
import EditWatch.Proofs.Json.Numeral
import EditWatch.Proofs.Json.Parts
import EditWatch.Proofs.Json.Quoted

/-!
# EditWatch.Proofs.Json.Text -- what is written is read back

The text of a value in a layout is read as the value, whatever follows it, if all of the value is
readable, its numbers are integers, and it is not nested deeper than the reader goes: the reader skips
white space wherever a layout may put some. Two characters of text are worth four steps of the reader,
which is more than it takes.
-/

namespace EditWatch.Json

/-! ## Single steps -/

theorem skipSpace_cons {c : Char} (h : isSpace c = false) (cs : List Char) :
    skipSpace (c :: cs) = c :: cs := by
  rw [skipSpace, List.dropWhile_cons_of_neg (by simp [h])]

theorem skipSpace_append {ws : List Char} (h : ∀ c ∈ ws, isSpace c = true) (cs : List Char) :
    skipSpace (ws ++ cs) = skipSpace cs := by
  rw [skipSpace, List.dropWhile_append_of_pos h]
  rfl

theorem isSpace_of_isDigit {c : Char} (h : c.isDigit = true) : isSpace c = false := by
  rw [Bool.eq_false_iff]
  intro hspace
  simp only [isSpace, Bool.or_eq_true, beq_iff_eq] at hspace
  rcases hspace with ((rfl | rfl) | rfl) | rfl <;> exact absurd h (by decide)

/-- White space ends a numeral. -/
theorem stops_of_isSpace {c : Char} (h : isSpace c = true) (cs : List Char) : Stops (c :: cs) := by
  refine stops_cons ?_ cs
  simp only [isSpace, Bool.or_eq_true, beq_iff_eq] at h
  rcases h with ((rfl | rfl) | rfl) | rfl <;> decide

theorem stops_append {ws cs : List Char} (h : ∀ c ∈ ws, isSpace c = true) (hcs : Stops cs) :
    Stops (ws ++ cs) := by
  cases ws with
  | nil => exact hcs
  | cons c ws => exact stops_of_isSpace (h c List.mem_cons_self) _

theorem readValue?_numeral {c : Char} (h : c = '-' ∨ c.isDigit = true) (fuel depth : Nat)
    (cs : List Char) :
    readValue? (fuel + 1) depth (c :: cs) =
      (Numeral.read? (c :: cs)).map fun p => (p.1.toJson, p.2) := by
  have hne : ∀ d, d.isDigit = false → d ≠ '-' → c ≠ d := by
    rintro d hdigit hminus rfl
    rcases h with rfl | h
    · exact hminus rfl
    · exact nomatch hdigit.symm.trans h
  rw [readValue?]
  -- No other value begins with a digit or a minus sign.
  all_goals
    intro rest heq
    refine hne _ ?_ ?_ (List.cons.inj heq).1 <;> decide

/-- What reading back the text of a value takes: it does not begin with white space or a closing
bracket, and a reader with enough steps and containers left takes just this text for the value. -/
structure ReadBack (l : Layout) (level : Nat) (j : Json) : Prop where
  starts : ∃ c cs, renderIn l level j = c :: cs ∧ isSpace c = false ∧ c ≠ ']'
  reads : ∀ fuel depth rest, 2 * (renderIn l level j).length ≤ fuel →
    depth + j.depth ≤ maxDepth → Stops rest →
    readValue? fuel depth (renderIn l level j ++ rest) = some (j, rest)

variable {l : Layout} {level : Nat}

theorem ReadBack.skipSpace {j : Json} (h : ReadBack l level j) (rest : List Char) :
    skipSpace (renderIn l level j ++ rest) = renderIn l level j ++ rest := by
  obtain ⟨c, cs, hc, hspace, -⟩ := h.starts
  rw [hc, List.cons_append, skipSpace_cons hspace]

/-! ## Items and members -/

/-- A comma, a closing bracket or the white space in front of it ends a numeral. -/
theorem stops_renderItemsIn (hl : l.Blank) (items : List Json) (rest : List Char) :
    Stops (renderItemsIn l level items ++ rest) := by
  cases items with
  | nil =>
      rw [renderItemsIn, List.append_assoc]
      exact stops_append (hl.line level) (stops_cons (by decide) _)
  | cons j items => exact stops_cons (by decide) _

theorem stops_renderMembersIn (hl : l.Blank) (members : List (String × Json)) (rest : List Char) :
    Stops (renderMembersIn l level members ++ rest) := by
  cases members with
  | nil =>
      rw [renderMembersIn, List.append_assoc]
      exact stops_append (hl.line level) (stops_cons (by decide) _)
  | cons m members => exact stops_cons (by decide) _

theorem skipSpace_renderItemsIn_nil (hl : l.Blank) (rest : List Char) :
    skipSpace (renderItemsIn l level [] ++ rest) = ']' :: rest := by
  rw [renderItemsIn, List.append_assoc, skipSpace_append (hl.line level)]
  rfl

theorem skipSpace_renderMembersIn_nil (hl : l.Blank) (rest : List Char) :
    skipSpace (renderMembersIn l level [] ++ rest) = '\x7d' :: rest := by
  rw [renderMembersIn, List.append_assoc, skipSpace_append (hl.line level)]
  rfl

/-- Items are read one after the other; each takes a step, so the next has less fuel and less text. -/
theorem readItems?_render (hl : l.Blank) {j : Json} {items : List Json}
    (h : ∀ i ∈ j :: items, ReadBack l (level + 1) i) {fuel depth : Nat} {rest : List Char}
    (hfuel : 2 * (renderIn l (level + 1) j ++ renderItemsIn l level items).length < fuel)
    (hdepth : ∀ i ∈ j :: items, depth + i.depth ≤ maxDepth) :
    readItems? fuel depth (renderIn l (level + 1) j ++ (renderItemsIn l level items ++ rest)) =
      some (j :: items, rest) := by
  induction items generalizing j fuel with
  | nil =>
      obtain ⟨fuel, rfl⟩ : ∃ k, fuel = k + 1 := ⟨fuel - 1, by omega⟩
      rw [List.length_append] at hfuel
      have hfirst := (h j List.mem_cons_self).reads fuel depth (renderItemsIn l level [] ++ rest)
        (by omega) (hdepth j List.mem_cons_self) (stops_renderItemsIn hl _ _)
      simp only [readItems?, hfirst, skipSpace_renderItemsIn_nil hl]
  | cons i items ih =>
      obtain ⟨fuel, rfl⟩ : ∃ k, fuel = k + 1 := ⟨fuel - 1, by omega⟩
      rw [List.forall_mem_cons] at h hdepth
      have hlen : (renderItemsIn l level (i :: items)).length = (l.line (level + 1)).length +
          (renderIn l (level + 1) i ++ renderItemsIn l level items).length + 1 := by
        rw [renderItemsIn, List.length_cons, List.length_append]
      rw [List.length_append, hlen] at hfuel
      have hleft : 2 * (renderIn l (level + 1) i ++ renderItemsIn l level items).length < fuel := by
        omega
      have hfirst := h.1.reads fuel depth (renderItemsIn l level (i :: items) ++ rest) (by omega)
        hdepth.1 (stops_renderItemsIn hl _ _)
      have hothers := ih h.2 hleft hdepth.2
      -- Behind the comma and the white space of the layout the next item begins.
      have hnext := (h.2 i List.mem_cons_self).skipSpace (renderItemsIn l level items ++ rest)
      rw [readItems?, hfirst, renderItemsIn, List.cons_append, List.append_assoc, List.append_assoc]
      show (readItems? fuel depth (Json.skipSpace (l.line (level + 1) ++
        (renderIn l (level + 1) i ++ (renderItemsIn l level items ++ rest))))).map _ = _
      rw [skipSpace_append (hl.line _), hnext, hothers]
      rfl

theorem skipSpace_quote (k : String) (rest : List Char) :
    skipSpace (quote k ++ rest) = quote k ++ rest := skipSpace_cons (by decide) _

/-- A member from its name on: the name is read whatever it is, and the colon follows at once. -/
theorem readMembers?_name (k : String) (fuel depth : Nat) (rest : List Char) :
    readMembers? (fuel + 1) depth (quote k ++ ':' :: rest) =
      match readValue? fuel depth (skipSpace rest) with
      | none => none
      | some (j, rest) =>
        match skipSpace rest with
        | '\x7d' :: rest => some (some [(k, j)], rest)
        | ',' :: rest =>
          (readMembers? fuel depth (skipSpace rest)).map fun p => (p.1.map ((k, j) :: ·), p.2)
        | _ => none := by
  have hname := readString?_quote k (':' :: rest)
  rw [quote, List.cons_append, List.append_assoc, List.singleton_append, readMembers?, hname]
  rfl

/-- A member from its name on, without what goes in front of the name. -/
def renderMemberIn (l : Layout) (level : Nat) (m : String × Json) : List Char :=
  quote m.1 ++ ':' :: (l.colon ++ renderIn l level m.2)

theorem length_renderMemberIn (m : String × Json) :
    (renderMemberIn l level m).length =
      (quote m.1).length + l.colon.length + (renderIn l level m.2).length + 1 := by
  rw [renderMemberIn, List.length_append, List.length_cons, List.length_append]
  omega

theorem renderMemberIn_append (m : String × Json) (rest : List Char) :
    renderMemberIn l level m ++ rest =
      quote m.1 ++ ':' :: (l.colon ++ (renderIn l level m.2 ++ rest)) := by
  rw [renderMemberIn, List.append_assoc, List.cons_append, List.append_assoc]

theorem renderMembersIn_cons (m : String × Json) (members : List (String × Json)) :
    renderMembersIn l level (m :: members) =
      ',' :: (l.line (level + 1) ++
        (renderMemberIn l (level + 1) m ++ renderMembersIn l level members)) := by
  rw [renderMembersIn, renderMemberIn_append]

/-- Members are read like items. -/
theorem readMembers?_render (hl : l.Blank) {m : String × Json} {members : List (String × Json)}
    (h : ∀ i ∈ m :: members, ReadBack l (level + 1) i.2) {fuel depth : Nat} {rest : List Char}
    (hfuel : 2 * (renderMemberIn l (level + 1) m ++ renderMembersIn l level members).length < fuel)
    (hdepth : ∀ i ∈ m :: members, depth + i.2.depth ≤ maxDepth) :
    readMembers? fuel depth
        (renderMemberIn l (level + 1) m ++ (renderMembersIn l level members ++ rest)) =
      some (some (m :: members), rest) := by
  induction members generalizing m fuel with
  | nil =>
      obtain ⟨fuel, rfl⟩ : ∃ k, fuel = k + 1 := ⟨fuel - 1, by omega⟩
      have hvalue := h m List.mem_cons_self
      rw [List.length_append, length_renderMemberIn] at hfuel
      have hfirst := hvalue.reads fuel depth (renderMembersIn l level [] ++ rest) (by omega)
        (hdepth m List.mem_cons_self) (stops_renderMembersIn hl _ _)
      rw [renderMemberIn_append, readMembers?_name, skipSpace_append hl.colon, hvalue.skipSpace]
      simp only [hfirst, skipSpace_renderMembersIn_nil hl]
  | cons i members ih =>
      obtain ⟨fuel, rfl⟩ : ∃ k, fuel = k + 1 := ⟨fuel - 1, by omega⟩
      rw [List.forall_mem_cons] at h hdepth
      have hlen : (renderMembersIn l level (i :: members)).length = (l.line (level + 1)).length +
          (renderMemberIn l (level + 1) i ++ renderMembersIn l level members).length + 1 := by
        rw [renderMembersIn_cons, List.length_cons, List.length_append]
      rw [List.length_append, length_renderMemberIn, hlen] at hfuel
      have hleft : 2 * (renderMemberIn l (level + 1) i ++ renderMembersIn l level members).length <
          fuel := by
        omega
      have hfirst := h.1.reads fuel depth (renderMembersIn l level (i :: members) ++ rest) (by omega)
        hdepth.1 (stops_renderMembersIn hl _ _)
      have hothers := ih h.2 hleft hdepth.2
      rw [renderMemberIn_append, readMembers?_name, skipSpace_append hl.colon, h.1.skipSpace, hfirst,
        renderMembersIn_cons, List.cons_append, List.append_assoc, List.append_assoc]
      show (readMembers? fuel depth (Json.skipSpace (l.line (level + 1) ++
        (renderMemberIn l (level + 1) i ++ (renderMembersIn l level members ++ rest))))).map _ = _
      rw [skipSpace_append (hl.line _), renderMemberIn_append, skipSpace_quote,
        ← renderMemberIn_append, hothers]
      rfl

/-! ## Values -/

/-- The text of a value is read step by step behind its first character. -/
theorem ReadBack.of_head {j : Json} {c : Char} {cs : List Char}
    (hrender : renderIn l level j = c :: cs) (hspace : isSpace c = false) (hbracket : c ≠ ']')
    (hreads : ∀ fuel depth rest, 2 * cs.length < fuel → depth + j.depth ≤ maxDepth → Stops rest →
      readValue? (fuel + 1) depth (c :: (cs ++ rest)) = some (j, rest)) : ReadBack l level j where
  starts := ⟨c, cs, hrender, hspace, hbracket⟩
  reads fuel depth rest hfuel hdepth hrest := by
    rw [hrender, List.length_cons] at hfuel
    obtain ⟨fuel, rfl⟩ : ∃ k, fuel = k + 1 := ⟨fuel - 1, by omega⟩
    rw [hrender, List.cons_append]
    exact hreads fuel depth rest (by omega) hdepth hrest

theorem readBack_null : ReadBack l level .null :=
  .of_head rfl (by decide) (by decide) fun _ _ _ _ _ _ => rfl

theorem readBack_bool (b : Bool) : ReadBack l level (.bool b) := by
  cases b
  · exact .of_head rfl (by decide) (by decide) fun _ _ _ _ _ _ => rfl
  · exact .of_head rfl (by decide) (by decide) fun _ _ _ _ _ _ => rfl

theorem readBack_num (n : WordInt) : ReadBack l level (.num (.int n)) := by
  obtain ⟨c, cs, hrender, hc⟩ := exists_renderInt_eq_cons n.val
  have hhead : isSpace c = false ∧ c ≠ ']' := by
    rcases hc with rfl | hdigit
    · decide
    · exact ⟨isSpace_of_isDigit hdigit, by rintro rfl; exact absurd hdigit (by decide)⟩
  refine .of_head hrender hhead.1 hhead.2 fun fuel depth rest _ _ hrest => ?_
  have hread := Numeral.read?_renderInt n hrest
  rw [hrender, List.cons_append] at hread
  rw [readValue?_numeral hc, hread]

theorem readBack_str (s : String) : ReadBack l level (.str s) := by
  refine .of_head rfl (by decide) (by decide) fun fuel depth rest _ _ _ => ?_
  rw [List.append_assoc, List.singleton_append]
  show (readString? (escapeAll s.toList ++ '"' :: rest)).map _ = _
  rw [readString?_quote]
  rfl

theorem atDepth_of_depth {depth : Nat} {j : Json} (hcontainer : 0 < j.depth)
    (h : depth + j.depth ≤ maxDepth) : atDepth depth j = j := by
  rw [atDepth, if_pos (by omega)]

theorem readValue?_items {c : Char} {cs rest : List Char} (hskip : skipSpace cs = c :: rest)
    (hbracket : c ≠ ']') (fuel depth : Nat) :
    readValue? (fuel + 1) depth ('[' :: cs) =
      (readItems? fuel (depth + 1) (c :: rest)).map fun p => (atDepth depth (.arr p.1), p.2) := by
  rw [readValue?, hskip]
  split
  · rename_i heq
    exact absurd (List.cons.inj heq).1 hbracket
  · rfl

theorem readValue?_members {cs rest : List Char} (hskip : skipSpace cs = '"' :: rest)
    (fuel depth : Nat) :
    readValue? (fuel + 1) depth ('\x7b' :: cs) =
      (readMembers? fuel (depth + 1) ('"' :: rest)).map fun p =>
        (atDepth depth ((p.1.map Json.obj).getD .unreadable), p.2) := by
  rw [readValue?, hskip]
  rfl

theorem readBack_arr (hl : l.Blank) {items : List Json}
    (h : ∀ j ∈ items, ReadBack l (level + 1) j) : ReadBack l level (.arr items) := by
  cases items with
  | nil =>
      refine .of_head rfl (by decide) (by decide) fun fuel depth rest _ hdepth _ => ?_
      show some (atDepth depth (.arr []), rest) = _
      rw [atDepth_of_depth (by decide) hdepth]
  | cons j items =>
      refine .of_head (by rw [renderIn]) (by decide) (by decide)
        fun fuel depth rest hfuel hdepth _ => ?_
      have hfirst := h j List.mem_cons_self
      obtain ⟨c, cs, hstart, hspace, hbracket⟩ := hfirst.starts
      -- The parts stand one container deeper, and the array itself is within reach.
      have hinner : ∀ i ∈ j :: items, depth + 1 + i.depth ≤ maxDepth := by
        intro i hi
        have := depth_lt_of_mem_arr hi
        omega
      rw [List.length_append] at hfuel
      have hitems : readItems? fuel (depth + 1)
          (renderIn l (level + 1) j ++ (renderItemsIn l level items ++ rest)) = _ :=
        readItems?_render hl h (by omega) hinner
      have hskip := hfirst.skipSpace (renderItemsIn l level items ++ rest)
      rw [← skipSpace_append (hl.line (level + 1))] at hskip
      rw [hstart, List.cons_append] at hitems hskip
      rw [List.append_assoc, List.append_assoc, hstart, List.cons_append,
        readValue?_items hskip hbracket, hitems, Option.map_some,
        atDepth_of_depth (Nat.zero_lt_of_lt (depth_lt_of_mem_arr List.mem_cons_self)) hdepth]

theorem readBack_obj (hl : l.Blank) {members : List (String × Json)}
    (h : ∀ m ∈ members, ReadBack l (level + 1) m.2) : ReadBack l level (.obj members) := by
  cases members with
  | nil =>
      refine .of_head rfl (by decide) (by decide) fun fuel depth rest _ hdepth _ => ?_
      show some (atDepth depth (.obj []), rest) = _
      rw [atDepth_of_depth (by decide) hdepth]
  | cons m members =>
      refine .of_head (by rw [renderIn, ← renderMemberIn_append]) (by decide) (by decide)
        fun fuel depth rest hfuel hdepth _ => ?_
      have hinner : ∀ i ∈ m :: members, depth + 1 + i.2.depth ≤ maxDepth := by
        intro i hi
        have := depth_lt_of_mem_obj hi
        omega
      rw [List.length_append] at hfuel
      have hmembers : readMembers? fuel (depth + 1)
          (renderMemberIn l (level + 1) m ++ (renderMembersIn l level members ++ rest)) = _ :=
        readMembers?_render hl h (by omega) hinner
      -- Behind the brace and the white space of the layout the quote of a name follows.
      have hskip : skipSpace (l.line (level + 1) ++
          (renderMemberIn l (level + 1) m ++ (renderMembersIn l level members ++ rest))) =
          renderMemberIn l (level + 1) m ++ (renderMembersIn l level members ++ rest) := by
        rw [skipSpace_append (hl.line _), renderMemberIn_append, skipSpace_quote]
      rw [List.append_assoc, List.append_assoc]
      refine (readValue?_members hskip fuel depth).trans ?_
      refine (congrArg _ hmembers).trans ?_
      exact congrArg (fun j => some (j, rest)) (atDepth_of_depth
        (Nat.zero_lt_of_lt (depth_lt_of_mem_obj List.mem_cons_self)) hdepth)

/-- A readable value without any double is read back from every layout. -/
theorem readBack (hl : l.Blank) {j : Json} (hreadable : j.readable) (hintegral : j.integral) :
    ReadBack l level j := by
  induction j using partInduction generalizing level with
  | null => exact readBack_null
  | bool b => exact readBack_bool b
  | num n =>
      cases n with
      | int n => exact readBack_num n
      | real x => exact absurd hintegral (by rw [integral]; decide)
  | str s => exact readBack_str s
  | arr items ih =>
      rw [readable_arr_iff] at hreadable
      rw [integral_arr_iff] at hintegral
      exact readBack_arr hl fun j hj => ih j hj (hreadable j hj) (hintegral j hj)
  | obj members ih =>
      rw [readable_obj_iff] at hreadable
      rw [integral_obj_iff] at hintegral
      exact readBack_obj hl fun m hm => ih m hm (hreadable m hm) (hintegral m hm)
  | unreadable => exact absurd hreadable (by rw [readable]; decide)

/-- A readable value without any double that is not nested too deep is what its text says in any
layout. -/
theorem parse?_renderIn (hl : l.Blank) {j : Json} (hreadable : j.readable)
    (hintegral : j.integral) (hdepth : j.depth ≤ maxDepth) :
    parse? (String.ofList (renderIn l 0 j)) = some j := by
  have h : ReadBack l 0 j := readBack hl hreadable hintegral
  have hread := h.reads (2 * (renderIn l 0 j).length + 1) 0 [] (Nat.le_succ _) (by omega) stops_nil
  have hskip := h.skipSpace []
  rw [List.append_nil] at hread hskip
  rw [parse?, String.toList_ofList, read?, hskip, hread]
  rfl

theorem parse?_text {j : Json} (hreadable : j.readable) (hintegral : j.integral)
    (hdepth : j.depth ≤ maxDepth) : parse? j.text = some j := by
  rw [text, ← renderIn_compact 0]
  exact parse?_renderIn Layout.blank_compact hreadable hintegral hdepth

theorem parse?_indentedText {j : Json} (hreadable : j.readable) (hintegral : j.integral)
    (hdepth : j.depth ≤ maxDepth) : parse? j.indentedText = some j := by
  rw [indentedText, ← renderIn_indented 0]
  exact parse?_renderIn Layout.blank_indented hreadable hintegral hdepth

/-! ## No control characters -/

theorem le_toNat_of_all {cs : List Char} (h : (cs.all fun c => 0x20 ≤ c.toNat) = true) :
    ∀ c ∈ cs, 0x20 ≤ c.toNat := fun c hc => of_decide_eq_true (List.all_eq_true.mp h c hc)

theorem le_toNat_of_mem_renderItems {items : List Json}
    (h : ∀ j ∈ items, ∀ c ∈ render j, 0x20 ≤ c.toNat) : ∀ c ∈ renderItems items, 0x20 ≤ c.toNat := by
  induction items with
  | nil => exact le_toNat_of_all rfl
  | cons j items ih =>
      rw [List.forall_mem_cons] at h
      rw [renderItems, List.forall_mem_cons, List.forall_mem_append]
      exact ⟨by decide, h.1, ih h.2⟩

theorem le_toNat_of_mem_renderMembers {members : List (String × Json)}
    (h : ∀ m ∈ members, ∀ c ∈ render m.2, 0x20 ≤ c.toNat) :
    ∀ c ∈ renderMembers members, 0x20 ≤ c.toNat := by
  induction members with
  | nil => exact le_toNat_of_all rfl
  | cons m members ih =>
      rw [List.forall_mem_cons] at h
      rw [renderMembers, List.forall_mem_cons, List.forall_mem_append, List.forall_mem_cons,
        List.forall_mem_append]
      exact ⟨by decide, fun c => le_toNat_of_mem_quote, by decide, h.1, ih h.2⟩

/-- The text of a value without any double stands on one line. -/
theorem le_toNat_of_mem_render {j : Json} (h : j.integral) : ∀ c ∈ render j, 0x20 ≤ c.toNat := by
  induction j using partInduction with
  | null => exact le_toNat_of_all rfl
  | bool b => cases b <;> exact le_toNat_of_all rfl
  | num n =>
      cases n with
      | int n => exact fun c => le_toNat_of_mem_renderInt
      | real x => exact absurd h (by rw [integral]; decide)
  | str s => exact fun c => le_toNat_of_mem_quote
  | arr items ih =>
      rw [integral_arr_iff] at h
      have hparts := fun j hj => ih j hj (h j hj)
      cases items with
      | nil => exact le_toNat_of_all rfl
      | cons j items =>
          rw [List.forall_mem_cons] at hparts
          rw [render, List.forall_mem_cons, List.forall_mem_append]
          exact ⟨by decide, hparts.1, le_toNat_of_mem_renderItems hparts.2⟩
  | obj members ih =>
      rw [integral_obj_iff] at h
      have hparts := fun m hm => ih m hm (h m hm)
      cases members with
      | nil => exact le_toNat_of_all rfl
      | cons m members =>
          rw [List.forall_mem_cons] at hparts
          rw [render, List.forall_mem_cons, List.forall_mem_append, List.forall_mem_cons,
            List.forall_mem_append]
          exact ⟨by decide, fun c => le_toNat_of_mem_quote, by decide, hparts.1,
            le_toNat_of_mem_renderMembers hparts.2⟩
  | unreadable => exact List.forall_mem_nil _

end EditWatch.Json
