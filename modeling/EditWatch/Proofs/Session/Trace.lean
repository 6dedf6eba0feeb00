import EditWatch.Proofs.Session.Signal
import EditWatch.Proofs.Text.Lines
import EditWatch.Session.Trace

/-!
# EditWatch.Proofs.Session.Trace -- recorded signals are read back

A trace is written with the record of each signal on a line of its own and any number of blank lines
about them; lines end with or without a carriage return. No record has a control character or is
blank, so the lines that are read are those that were written, and each gives its signal again.
-/

namespace EditWatch.Session

open EditWatch.Document
open Text (LineEnd)

/-! ## Writing a trace -/

/-- What stands on a line of a trace: the record of a signal, or white space. -/
inductive Row where
  | signal (s : Signal)
  | blank (text : String) (hblank : Text.allBlank text = true) (hline : '\n' ∉ text.toList)

namespace Row

def text : Row → String
  | .signal s => s.wire
  | .blank text _ _ => text

def signal? : Row → Option Signal
  | .signal s => some s
  | .blank _ _ _ => none

end Row

namespace Trace

/-- The text of a trace, line by line. -/
def written : List (Row × LineEnd) → String
  | [] => ""
  | (row, e) :: rows => row.text ++ e.text ++ written rows

/-- The signals of a trace, in their order. -/
def recorded (rows : List (Row × LineEnd)) : List Signal := rows.filterMap fun r => r.1.signal?

/-! ## Reading single lines -/

theorem readLine_blank (number : Nat) {text : String} (h : Text.allBlank text) :
    readLine number (Text.encode text) = .ok none := by
  rw [readLine, Text.decode?_encode]
  exact if_pos h

theorem readLine_wire (number : Nat) {s : Signal} (h : s.Recordable) :
    readLine number (Text.encode s.wire) = .ok (some s) := by
  rw [readLine, Text.decode?_encode]
  simp only [Signal.allBlank_wire, Bool.false_eq_true, if_false, h.parse?_wire]

/-- A line that gave a signal holds a value that is one. -/
theorem parse?_of_readLine {number : Nat} {bytes : List UInt8} {s : Signal}
    (h : readLine number bytes = .ok (some s)) :
    ∃ line, (Json.parse? line).bind Signal.ofJson? = some s := by
  rw [readLine] at h
  split at h
  · exact nomatch h
  · rename_i line _
    split at h
    · exact nomatch h
    · split at h
      · rename_i hread
        cases h
        exact ⟨line, hread⟩
      · exact nomatch h

/-! ## Reading a trace -/

theorem readLines_cons_ok {number : Nat} {line : List UInt8} {lines : List (List UInt8)}
    {signals : List Signal} :
    readLines number (line :: lines) = .ok signals ↔ ∃ first others,
      readLine number line = .ok first ∧ readLines (number + 1) lines = .ok others ∧
        signals = first.toList ++ others := by
  rw [readLines]
  cases readLine number line with
  | error f => exact ⟨nofun, nofun⟩
  | ok first =>
      cases readLines (number + 1) lines with
      | error f => exact ⟨nofun, nofun⟩
      | ok others =>
          constructor
          · intro h
            exact ⟨first, others, rfl, rfl, (Except.ok.inj h).symm⟩
          · rintro ⟨_, _, ⟨⟩, ⟨⟩, rfl⟩
            rfl

/-- Each signal of a trace was read from a line of it. -/
theorem parse?_of_readLines {number : Nat} {lines : List (List UInt8)} {signals : List Signal}
    (h : readLines number lines = .ok signals) :
    ∀ s ∈ signals, ∃ line, (Json.parse? line).bind Signal.ofJson? = some s := by
  induction lines generalizing number signals with
  | nil =>
      cases h
      exact List.forall_mem_nil _
  | cons line lines ih =>
      obtain ⟨first, others, hfirst, hothers, rfl⟩ := readLines_cons_ok.mp h
      rw [List.forall_mem_append]
      refine ⟨fun s hs => ?_, ih hothers⟩
      rw [Option.mem_toList] at hs
      exact parse?_of_readLine (hs ▸ hfirst)

/-- The line of a row gives the signal of the row, whatever follows. -/
theorem exists_readLine_row {row : Row} (hrow : ∀ s, row.signal? = some s → s.Recordable)
    (e : LineEnd) (rest : List UInt8) :
    ∃ line, Text.lines (Text.encode (row.text ++ e.text) ++ rest) = line :: Text.lines rest ∧
      ∀ number, readLine number line = .ok row.signal? := by
  cases row with
  | signal s =>
      have hs := hrow s rfl
      have habsent : ∀ c : Char, c.toNat < 0x20 → c ∉ s.wire.toList := fun c hc hmem =>
        absurd (hs.le_toNat_of_mem_wire c hmem) (Nat.not_le.mpr hc)
      obtain ⟨u, hu, hlines⟩ := Text.exists_lines_encode (habsent '\n' (by decide)) e rest
      refine ⟨_, hlines, fun number => ?_⟩
      rcases hu with rfl | hreturn
      · exact readLine_wire number hs
      -- A carriage return of its own at the end would be lost, but a record has none.
      · refine absurd ?_ (habsent '\r' (by decide))
        rw [hreturn, String.toList_append]
        exact List.mem_append_right _ List.mem_cons_self
  | blank text hblank hline =>
      obtain ⟨u, hu, hlines⟩ := Text.exists_lines_encode hline e rest
      refine ⟨_, hlines, fun number => readLine_blank number ?_⟩
      rcases hu with rfl | hreturn
      · exact hblank
      -- White space may lose one, and what is left is white space still.
      · rw [hreturn, Text.allBlank, String.toList_append, List.all_append, Bool.and_eq_true] at hblank
        exact hblank.1

/-- What is written of recordable signals is read back, line by line. -/
theorem readLines_written {rows : List (Row × LineEnd)}
    (hrecordable : ∀ s ∈ recorded rows, s.Recordable) (number : Nat) :
    readLines number (Text.lines (Text.encode (written rows))) = .ok (recorded rows) := by
  induction rows generalizing number with
  | nil => rfl
  | cons r rows ih =>
      obtain ⟨row, e⟩ := r
      have hsplit : recorded ((row, e) :: rows) = row.signal?.toList ++ recorded rows := by
        rw [recorded, List.filterMap_cons]
        cases row <;> rfl
      rw [hsplit, List.forall_mem_append] at hrecordable
      have hrow : ∀ s, row.signal? = some s → s.Recordable := fun s hs =>
        hrecordable.1 s (Option.mem_toList.mpr hs)
      obtain ⟨line, hlines, hread⟩ := exists_readLine_row hrow e (Text.encode (written rows))
      rw [written, Text.encode_append, hlines, readLines_cons_ok, hsplit]
      exact ⟨_, _, hread number, ih hrecordable.2 _, rfl⟩

/-! ## Round trip -/

/-- The signals of a trace, recorded anew with white space about them as one likes, are read again,
as long as their free values have only integers for numbers. None of them has a class that is a
string or `null` in the place of tokens or no class. -/
theorem read_written {bytes : List UInt8} {signals : List Signal} (hread : read bytes = .ok signals)
    (hintegral : ∀ s ∈ signals, ∀ v ∈ s.freeValues, v.integral) {rows : List (Row × LineEnd)}
    (hrows : recorded rows = signals) :
    (∀ s ∈ signals, s.Kept) ∧ read (Text.encode (written rows)) = .ok signals := by
  subst hrows
  have hrecordable : ∀ s ∈ recorded rows, s.Recordable := by
    intro s hs
    obtain ⟨line, hline⟩ := parse?_of_readLines hread s hs
    exact .of_parse? hline (hintegral s hs)
  exact ⟨fun s hs => (hrecordable s hs).kept, readLines_written hrecordable 1⟩

/-- The class of a drawing, and the payload of a key press with a count. -/
def drawingClass : Json := .obj [("baseVal", .str "kix")]

def keyCount : Json := .arr [.str "a", .num (.int ⟨-7, by decide, by decide⟩)]

/-- A page with a drawing and a text of two lines; the drawing is taken out, and a key pressed. -/
def sketch : List Signal :=
  [.snapshot ⟨none, some "Sketch", ⟨1, .element, some "body", none, ∅, none,
      [⟨2, .element, some "svg", some (.structured drawingClass), ∅, none, []⟩,
        ⟨3, .text, none, none, ∅, some "two\nlines", []⟩]⟩⟩,
    .loaded, .mutations [⟨1, .childList, [], [2], none⟩], .interaction "keydown" keyCount]

/-- Each signal on a line. -/
def plain : List (Row × LineEnd) := sketch.map fun s => (.signal s, .feed)

/-- Each signal behind a line of white space, with carriage returns at the ends of its lines. -/
def spaced : List (Row × LineEnd) :=
  sketch.flatMap fun s => [(.blank " \t\r" (by decide) (by decide), .feed), (.signal s, .returnFeed)]

theorem recordable_sketch : ∀ s ∈ sketch, s.Recordable := by
  have hclass : KeptAsClass drawingClass := ⟨rfl, nofun, nofun⟩
  have hdrawing : drawingClass.integral := rfl
  simp only [sketch, List.forall_mem_cons]
  refine ⟨⟨?_, ?_, by decide⟩, ⟨?_, ?_, by decide⟩, ⟨?_, ?_, by decide⟩, ⟨rfl, ?_, by decide⟩,
    List.forall_mem_nil _⟩
  · exact List.forall_mem_singleton.mpr hclass
  · exact List.forall_mem_singleton.mpr hdrawing
  · exact List.forall_mem_nil _
  · exact List.forall_mem_nil _
  · exact List.forall_mem_nil _
  · exact List.forall_mem_nil _
  · exact List.forall_mem_singleton.mpr rfl

/-- The sketch, read from a plain trace, is read from the spaced one. -/
theorem read_written_sketch :
    read (Text.encode (written plain)) = .ok sketch ∧
      (∀ s ∈ sketch, ∀ v ∈ s.freeValues, v.integral) ∧ recorded spaced = sketch ∧
      (∀ s ∈ sketch, s.Kept) ∧ read (Text.encode (written spaced)) = .ok sketch := by
  have hread : read (Text.encode (written plain)) = .ok sketch :=
    @readLines_written plain recordable_sketch 1
  have hintegral : ∀ s ∈ sketch, ∀ v ∈ s.freeValues, v.integral := fun s hs =>
    (recordable_sketch s hs).integral
  exact ⟨hread, hintegral, rfl, read_written hread hintegral rfl⟩

end Trace

end EditWatch.Session
