import EditWatch.Proofs.Json.Locality
import EditWatch.Proofs.Session.Trace

/-!
# EditWatch.Proofs.Session.Faults -- where the reading of a trace stops

A trace is read line by line, and no line has a say in what another one gives. So a trace that is put
behind whole lines is read as on its own, but that its lines have higher numbers; and the number that
is told of a senseless line counts the lines up to it, whatever they hold. A last line without a line
feed keeps a carriage return that it would lose with one; to a signal that is white space.
-/

namespace EditWatch.Session

namespace TraceFault

/-- The fault with `k` more lines in front of all. -/
def shift (k : Nat) : TraceFault → TraceFault
  | .encoding => .encoding
  | .parse n => .parse (n + k)

/-- The fault with one more line behind the first `k`. -/
def pastLine (k : Nat) : TraceFault → TraceFault
  | .encoding => .encoding
  | .parse n => .parse (if k < n then n + 1 else n)

end TraceFault

namespace Trace

variable {number n : Nat} {line : List UInt8} {before lines after : List (List UInt8)}
  {signals : List Signal} {f : TraceFault}

/-! ## One line -/

/-- The line is white space. -/
def Blank (line : List UInt8) : Prop :=
  ∃ text, Text.decode? line = some text ∧ Text.allBlank text

/-- The line is a signal. -/
def Tells (line : List UInt8) (s : Signal) : Prop :=
  ∃ text, Text.decode? line = some text ∧ ¬ Text.allBlank text ∧
    (Json.parse? text).bind Signal.ofJson? = some s

/-- The line is text, but neither white space nor a signal. -/
def Senseless (line : List UInt8) : Prop :=
  ∃ text, Text.decode? line = some text ∧ ¬ Text.allBlank text ∧
    (Json.parse? text).bind Signal.ofJson? = none

/-- The line does not stop the reading. -/
def Passes (line : List UInt8) : Prop := Blank line ∨ ∃ s, Tells line s

theorem readLine_of_blank (h : Blank line) (number : Nat) : readLine number line = .ok none := by
  obtain ⟨text, htext, hblank⟩ := h
  rw [readLine, htext]
  exact if_pos hblank

theorem readLine_of_tells {s : Signal} (h : Tells line s) (number : Nat) :
    readLine number line = .ok (some s) := by
  obtain ⟨text, htext, hblank, hsignal⟩ := h
  rw [readLine, htext]
  simp only [if_neg hblank, hsignal]

theorem readLine_of_senseless (h : Senseless line) (number : Nat) :
    readLine number line = .error (.parse number) := by
  obtain ⟨text, htext, hblank, hsignal⟩ := h
  rw [readLine, htext]
  simp only [if_neg hblank, hsignal]

theorem readLine_of_decode? (h : Text.decode? line = none) (number : Nat) :
    readLine number line = .error .encoding := by
  rw [readLine, h]

/-- A line is white space, a signal, senseless or no text. -/
theorem line_cases (line : List UInt8) :
    Blank line ∨ (∃ s, Tells line s) ∨ Senseless line ∨ Text.decode? line = none := by
  cases htext : Text.decode? line with
  | none => exact .inr (.inr (.inr rfl))
  | some text =>
      by_cases hblank : Text.allBlank text
      · exact .inl ⟨text, htext, hblank⟩
      · cases hsignal : (Json.parse? text).bind Signal.ofJson? with
        | some s => exact .inr (.inl ⟨s, text, htext, hblank, hsignal⟩)
        | none => exact .inr (.inr (.inl ⟨text, htext, hblank, hsignal⟩))

theorem exists_readLine_eq_ok_iff (number : Nat) :
    (∃ first, readLine number line = .ok first) ↔ Passes line := by
  constructor
  · rintro ⟨first, hfirst⟩
    rcases line_cases line with h | ⟨s, h⟩ | h | h
    · exact .inl h
    · exact .inr ⟨s, h⟩
    · exact nomatch (readLine_of_senseless h number).symm.trans hfirst
    · exact nomatch (readLine_of_decode? h number).symm.trans hfirst
  · rintro (h | ⟨s, h⟩)
    · exact ⟨none, readLine_of_blank h number⟩
    · exact ⟨some s, readLine_of_tells h number⟩

theorem blank_of_readLine (h : readLine number line = .ok none) : Blank line := by
  rcases line_cases line with hblank | ⟨s, hs⟩ | hsenseless | hcode
  · exact hblank
  · exact nomatch (readLine_of_tells hs number).symm.trans h
  · exact nomatch (readLine_of_senseless hsenseless number).symm.trans h
  · exact nomatch (readLine_of_decode? hcode number).symm.trans h

theorem readLine_eq_error_iff : readLine number line = .error f ↔
    (Senseless line ∧ f = .parse number) ∨ (Text.decode? line = none ∧ f = .encoding) := by
  constructor
  · intro hf
    rcases line_cases line with h | ⟨s, h⟩ | h | h
    · exact nomatch (readLine_of_blank h number).symm.trans hf
    · exact nomatch (readLine_of_tells h number).symm.trans hf
    · exact .inl ⟨h, Except.error.inj (hf.symm.trans (readLine_of_senseless h number))⟩
    · exact .inr ⟨h, Except.error.inj (hf.symm.trans (readLine_of_decode? h number))⟩
  · rintro (⟨h, rfl⟩ | ⟨h, rfl⟩)
    · exact readLine_of_senseless h number
    · exact readLine_of_decode? h number

/-! ## Line by line -/

theorem readLines_cons (number : Nat) (line : List UInt8) (lines : List (List UInt8)) :
    readLines number (line :: lines) = (readLine number line).bind fun first =>
      (readLines (number + 1) lines).map (first.toList ++ ·) := by
  rw [readLines]
  cases readLine number line with
  | error f => rfl
  | ok first => cases readLines (number + 1) lines <;> rfl

/-- Lines are read one part after the other. -/
theorem readLines_append (number : Nat) (before after : List (List UInt8)) :
    readLines number (before ++ after) = (readLines number before).bind fun first =>
      (readLines (number + before.length) after).map (first ++ ·) := by
  induction before generalizing number with
  | nil =>
      show readLines number after = (readLines number after).map ([] ++ ·)
      cases readLines number after <;> rfl
  | cons line before ih =>
      rw [List.cons_append, readLines_cons, readLines_cons, ih, List.length_cons, Nat.add_assoc,
        Nat.add_comm 1]
      cases readLine number line with
      | error f => rfl
      | ok first =>
          cases readLines (number + 1) before with
          | error f => rfl
          | ok others =>
              cases readLines (number + (before.length + 1)) after with
              | error f => rfl
              | ok rest => exact congrArg Except.ok (List.append_assoc ..).symm

/-- Higher numbers make no difference but in the fault. -/
theorem readLines_add (number k : Nat) (lines : List (List UInt8)) :
    readLines (number + k) lines = (readLines number lines).mapError (·.shift k) := by
  induction lines generalizing number with
  | nil => rfl
  | cons line lines ih =>
      rw [readLines_cons, readLines_cons, Nat.add_right_comm, ih]
      rcases line_cases line with h | ⟨s, h⟩ | h | h
      · rw [readLine_of_blank h, readLine_of_blank h]
        cases readLines (number + 1) lines <;> rfl
      · rw [readLine_of_tells h, readLine_of_tells h]
        cases readLines (number + 1) lines <;> rfl
      · rw [readLine_of_senseless h, readLine_of_senseless h]
        rfl
      · rw [readLine_of_decode? h, readLine_of_decode? h]
        rfl

/-- All lines are read exactly if each of them is white space or a signal. -/
theorem exists_readLines_eq_ok_iff (number : Nat) :
    (∃ signals, readLines number lines = .ok signals) ↔ ∀ l ∈ lines, Passes l := by
  induction lines generalizing number with
  | nil => exact iff_of_true ⟨[], rfl⟩ (List.forall_mem_nil _)
  | cons line lines ih =>
      simp only [readLines_cons_ok, List.forall_mem_cons]
      rw [← ih (number + 1), ← exists_readLine_eq_ok_iff number]
      constructor
      · rintro ⟨_, first, others, hfirst, hothers, -⟩
        exact ⟨⟨first, hfirst⟩, others, hothers⟩
      · rintro ⟨⟨first, hfirst⟩, others, hothers⟩
        exact ⟨_, first, others, hfirst, hothers, rfl⟩

theorem exists_line_of_readLines (h : readLines number lines = .error f) :
    ∃ before line after, lines = before ++ line :: after ∧ (∀ l ∈ before, Passes l) ∧
      readLine (number + before.length) line = .error f := by
  induction lines generalizing number with
  | nil => exact nomatch h
  | cons first lines ih =>
      rw [readLines_cons] at h
      cases hfirst : readLine number first with
      | error g =>
          rw [hfirst] at h
          obtain rfl : g = f := Except.error.inj h
          exact ⟨[], first, lines, rfl, List.forall_mem_nil _, hfirst⟩
      | ok x =>
          have hpasses : Passes first := (exists_readLine_eq_ok_iff number).mp ⟨x, hfirst⟩
          have hrest : readLines (number + 1) lines = .error f := by
            cases hlines : readLines (number + 1) lines with
            | error g =>
                rw [hfirst, hlines] at h
                exact h
            | ok others =>
                rw [hfirst, hlines] at h
                exact nomatch h
          obtain ⟨before, line, after, rfl, hbefore, hline⟩ := ih hrest
          refine ⟨first :: before, line, after, rfl, List.forall_mem_cons.mpr ⟨hpasses, hbefore⟩, ?_⟩
          rwa [List.length_cons, ← Nat.add_assoc, Nat.add_right_comm]

/-- Reading stops at the first line that is neither white space nor a signal. -/
theorem readLines_eq_error_iff : readLines number lines = .error f ↔
    ∃ before line after, lines = before ++ line :: after ∧ (∀ l ∈ before, Passes l) ∧
      readLine (number + before.length) line = .error f := by
  refine ⟨exists_line_of_readLines, ?_⟩
  rintro ⟨before, line, after, rfl, hbefore, hline⟩
  obtain ⟨signals, hsignals⟩ := (exists_readLines_eq_ok_iff number).mpr hbefore
  rw [readLines_append, hsignals, readLines_cons, hline]
  rfl

/-! ## A line more -/

/-- A fault within the first lines is told as before. -/
theorem pastLine_of_readLines {k : Nat} (h : readLines 1 lines = .error f)
    (hk : lines.length ≤ k) : f.pastLine k = f := by
  obtain ⟨before, line, after, rfl, -, hline⟩ := readLines_eq_error_iff.mp h
  rcases readLine_eq_error_iff.mp hline with ⟨-, rfl⟩ | ⟨-, rfl⟩
  · rw [List.length_append, List.length_cons] at hk
    exact congrArg TraceFault.parse (if_neg (by omega))
  · rfl

/-- A fault behind them is told with a number more. -/
theorem pastLine_of_readLines_behind {k : Nat} (h : readLines (1 + k) lines = .error f) :
    f.pastLine k = f.shift 1 := by
  obtain ⟨before, line, after, rfl, -, hline⟩ := readLines_eq_error_iff.mp h
  rcases readLine_eq_error_iff.mp hline with ⟨-, rfl⟩ | ⟨-, rfl⟩
  · exact congrArg TraceFault.parse (if_pos (by omega))
  · rfl

/-- White space on a line of its own changes nothing but the numbers of the lines behind it. -/
theorem readLines_insert_blank (h : Blank line) (before after : List (List UInt8)) :
    readLines 1 (before ++ line :: after) =
      (readLines 1 (before ++ after)).mapError (·.pastLine before.length) := by
  rw [readLines_append, readLines_append, readLines_cons, readLine_of_blank h,
    readLines_add (1 + before.length) 1]
  cases hbefore : readLines 1 before with
  | error f => exact congrArg Except.error (pastLine_of_readLines hbefore (Nat.le_refl _)).symm
  | ok first =>
      cases hafter : readLines (1 + before.length) after with
      | error f => exact congrArg Except.error (pastLine_of_readLines_behind hafter).symm
      | ok others => rfl

/-! ## Whole traces -/

/-- What whole lines give, and then what follows them. -/
theorem read_append {a : List UInt8} (ha : Text.Ended a) (b : List UInt8) :
    read (a ++ b) = (read a).bind fun first =>
      ((read b).mapError (·.shift (a.count 10))).map (first ++ ·) := by
  rw [read, Text.lines_append ha, readLines_append, Text.length_lines ha, readLines_add]
  rfl

/-- A text without line feeds that is white space makes a blank line. -/
theorem exists_lines_blank {text : String} (hblank : Text.allBlank text)
    (hline : '\n' ∉ text.toList) (rest : List UInt8) : ∃ line, Blank line ∧
      Text.lines (Text.encode (text ++ "\n") ++ rest) = line :: Text.lines rest := by
  have hrow : ∀ s, (Row.blank text hblank hline).signal? = some s → s.Recordable := nofun
  obtain ⟨line, hlines, hread⟩ := exists_readLine_row hrow .feed rest
  exact ⟨line, blank_of_readLine (hread 1), hlines⟩

/-- White space put on a line between whole lines and what follows them. -/
theorem read_insert_blank {a : List UInt8} (ha : Text.Ended a) {text : String}
    (hblank : Text.allBlank text) (hline : '\n' ∉ text.toList) (b : List UInt8) :
    read (a ++ (Text.encode (text ++ "\n") ++ b)) =
      (read (a ++ b)).mapError (·.pastLine (a.count 10)) := by
  obtain ⟨line, hblank, hlines⟩ := exists_lines_blank hblank hline b
  rw [read, read, Text.lines_append ha, Text.lines_append ha, hlines,
    readLines_insert_blank hblank, Text.length_lines ha]

/-! ## The end of a trace -/

/-- A carriage return at the end of a line is white space, also behind a signal. -/
theorem readLine_append_return (number : Nat) (line : List UInt8) :
    readLine number (line ++ [13]) = readLine number line := by
  rw [readLine, readLine, Text.decode?_append_return]
  cases Text.decode? line with
  | none => rfl
  | some text =>
      have hblank : Text.allBlank (text ++ "\r") = Text.allBlank text := by
        rw [Text.allBlank, Text.allBlank, String.toList_append, List.all_append]
        exact Bool.and_true _
      have hparse : Json.parse? (text ++ "\r") = Json.parse? text :=
        Json.parse?_append_space text (List.forall_mem_singleton.mpr rfl)
      simp only [Option.map_some, hblank, hparse]

/-- A last line is read as if it had its line feed. -/
theorem readLine_closeLine (number : Nat) (last : List UInt8) :
    readLine number (Text.closeLine last.reverse) = readLine number last := by
  by_cases hlast : last.getLast? = some 13
  · obtain ⟨line, rfl⟩ := List.getLast?_eq_some_iff.mp hlast
    rw [Text.closeLine_reverse_append, readLine_append_return]
  · rw [Text.closeLine_reverse hlast]

theorem readLines_blank {text : String} (hblank : Text.allBlank text)
    (hline : '\n' ∉ text.toList) (number : Nat) :
    readLines number (Text.lines (Text.encode text)) = .ok [] := by
  by_cases hnil : Text.encode text = []
  · rw [hnil]
    rfl
  · have hfeed : 10 ∉ Text.encode text := fun hmem =>
      hline (Text.mem_of_mem_encode (by decide) hmem)
    rw [Text.lines_rest hfeed hnil, readLines_cons,
      readLine_of_blank ⟨text, Text.decode?_encode text, hblank⟩]
    rfl

/-- White space behind the last line, be that ended or not. -/
theorem read_append_blank (bytes : List UInt8) {text : String} (hblank : Text.allBlank text)
    (hline : '\n' ∉ text.toList) :
    read (bytes ++ Text.encode ("\n" ++ text)) = read bytes := by
  obtain ⟨whole, last, rfl, hwhole, hlast⟩ := Text.exists_ended_append bytes
  have hfeed : Text.encode ("\n" ++ text) = 10 :: Text.encode text := Text.encode_append "\n" text
  have hlines : ∀ number, readLines number (Text.closeLine last.reverse ::
      Text.lines (Text.encode text)) = readLines number (Text.lines last) := by
    intro number
    rw [readLines_cons, readLine_closeLine, readLines_blank hblank hline]
    by_cases hnil : last = []
    · subst hnil
      have hempty : Blank [] := ⟨"", Text.decode?_encode "", rfl⟩
      rw [readLine_of_blank hempty]
      rfl
    · rw [Text.lines_rest hlast hnil, readLines_cons]
      rfl
  rw [read, read, hfeed, List.append_assoc, Text.lines_append hwhole, Text.lines_append hwhole,
    Text.lines_line hlast, readLines_append, readLines_append, hlines]

/-! ## Where reading stops -/

theorem read_eq_parse_iff {bytes : List UInt8} : read bytes = .error (.parse n) ↔
    ∃ before line after, Text.lines bytes = before ++ line :: after ∧ n = before.length + 1 ∧
      (∀ l ∈ before, Passes l) ∧ Senseless line := by
  rw [read, readLines_eq_error_iff]
  simp only [readLine_eq_error_iff, TraceFault.parse.injEq, reduceCtorEq, and_false, or_false,
    Nat.add_comm 1]
  constructor
  · rintro ⟨before, line, after, hsplit, hbefore, hline, hn⟩
    exact ⟨before, line, after, hsplit, hn, hbefore, hline⟩
  · rintro ⟨before, line, after, hsplit, hn, hbefore, hline⟩
    exact ⟨before, line, after, hsplit, hbefore, hline, hn⟩

theorem read_eq_encoding_iff {bytes : List UInt8} : read bytes = .error .encoding ↔
    ∃ before line after, Text.lines bytes = before ++ line :: after ∧
      (∀ l ∈ before, Passes l) ∧ Text.decode? line = none := by
  rw [read, readLines_eq_error_iff]
  simp only [readLine_eq_error_iff, reduceCtorEq, and_false, and_true, false_or]

/-! ## Main result -/

/-- Traces are read line by line. Behind whole lines `a` that give signals a trace `b` is read as on
its own: its signals follow theirs, and a fault of it is told with as many lines more as `a` has;
behind whole lines with a fault nothing is read, whatever it is, and the fault stays the same. The
number that is told with a fault is that of the first line that is text, but neither white space nor a
signal, all lines before being one or the other. White space that is put on a line of its own, between
whole lines and what follows them or at any other place of a trace, changes nothing but the numbers of
faults on the lines behind it; behind the last line, be that ended or not, it changes nothing. -/
theorem read_goes_by_lines :
    (∀ a b, Text.Ended a →
      (∀ first, read a = .ok first →
        (∀ others, read b = .ok others → read (a ++ b) = .ok (first ++ others)) ∧
        (∀ f, read b = .error f → read (a ++ b) = .error (f.shift (a.count 10)))) ∧
      (∀ f, read a = .error f → read (a ++ b) = .error f)) ∧
    (∀ bytes n, read bytes = .error (.parse n) ↔
      ∃ before line after, Text.lines bytes = before ++ line :: after ∧ n = before.length + 1 ∧
        (∀ l ∈ before, Passes l) ∧ Senseless line) ∧
    (∀ bytes, read bytes = .error .encoding ↔
      ∃ before line after, Text.lines bytes = before ++ line :: after ∧
        (∀ l ∈ before, Passes l) ∧ Text.decode? line = none) ∧
    (∀ a text b, Text.Ended a → Text.allBlank text → '\n' ∉ text.toList →
      read (a ++ (Text.encode (text ++ "\n") ++ b)) =
        (read (a ++ b)).mapError (·.pastLine (a.count 10))) ∧
    (∀ bytes text, Text.allBlank text → '\n' ∉ text.toList →
      read (bytes ++ Text.encode ("\n" ++ text)) = read bytes) ∧
    (∀ bytes bytes' before line after, Text.lines bytes = before ++ after →
      Text.lines bytes' = before ++ line :: after → Blank line →
      read bytes' = (read bytes).mapError (·.pastLine before.length)) := by
  refine ⟨fun a b ha => ?_, fun bytes n => read_eq_parse_iff, fun bytes => read_eq_encoding_iff,
    fun a text b ha hblank hline => read_insert_blank ha hblank hline b,
    fun bytes text hblank hline => read_append_blank bytes hblank hline, ?_⟩
  · constructor
    · intro first hfirst
      constructor
      · intro others hothers
        rw [read_append ha, hfirst, hothers]
        rfl
      · intro f hf
        rw [read_append ha, hfirst, hf]
        rfl
    · intro f hf
      rw [read_append ha, hf]
      rfl
  · intro bytes bytes' before line after hlines hlines' hblank
    rw [read, read, hlines, hlines', readLines_insert_blank hblank]

/-- The end of loading, and a line with a space. -/
def quiet : List (Row × Text.LineEnd) :=
  [(.signal .loaded, .feed), (.blank " " (by decide) (by decide), .feed)]

/-- A word that is no signal stands on the third line behind the two, and on the fourth behind
another line of white space. -/
theorem read_goes_by_lines_quiet :
    let a := Text.encode (written quiet)
    let b := Text.encode "x\n"
    Text.Ended a ∧ read a = .ok [.loaded] ∧ read b = .error (.parse 1) ∧
      read (a ++ b) = .error (.parse 3) ∧ Text.allBlank "\t\r" ∧ '\n' ∉ "\t\r".toList ∧
      read (a ++ (Text.encode ("\t\r" ++ "\n") ++ b)) = .error (.parse 4) := by
  intro a b
  obtain ⟨happend, hparse, -, hinsert, -⟩ := read_goes_by_lines
  have ha : Text.Ended a := .inr (by decide +kernel)
  have hcount : a.count 10 = 2 := by decide +kernel
  have hloaded : ∀ s ∈ recorded quiet, s.Recordable :=
    List.forall_mem_singleton.mpr
      (recordable_sketch .loaded (List.mem_cons_of_mem _ List.mem_cons_self))
  have hfirst : read a = .ok [.loaded] := readLines_written hloaded 1
  have hsenseless : Senseless (Text.encode "x") :=
    ⟨"x", Text.decode?_encode "x", by decide, by rfl⟩
  have hlines : Text.lines b = [] ++ Text.encode "x" :: [] := by decide +kernel
  have hb : read b = .error (.parse 1) :=
    (hparse b 1).mpr ⟨[], _, [], hlines, rfl, List.forall_mem_nil _, hsenseless⟩
  have hab : read (a ++ b) = .error (.parse 3) := by
    rw [((happend a b ha).1 _ hfirst).2 _ hb, hcount]
    rfl
  have hblank : Text.allBlank "\t\r" := by decide
  have hline : '\n' ∉ "\t\r".toList := by decide
  refine ⟨ha, hfirst, hb, hab, hblank, hline, ?_⟩
  rw [hinsert a _ b ha hblank hline, hab, hcount]
  rfl

end Trace

end EditWatch.Session
