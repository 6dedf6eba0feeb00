import EditWatch.Yaml.Scalar

/-!
# EditWatch.Yaml.Modern.Scalar -- scalars by version 1.2

Line ends are line feeds and carriage returns only. The lines of a scalar have to be indented like
what is around it, also in quotes. A plain scalar in brackets may begin with a colon or a question
mark that a word follows.
-/

namespace EditWatch.Yaml.Modern

/-- The characters that end a line. -/
def isLineEnd (c : Char) : Bool := c == '\n' || c == '\r'

/-- Blanks and line ends. -/
def isSpace (c : Char) : Bool := isGap c || isLineEnd c

/-- Whether a word ends before the rest of a text. -/
def endsWord : List Char → Bool
  | [] => true
  | c :: _ => isSpace c

/-- Whether a line ends before the rest of a text. -/
def endsLine : List Char → Bool
  | [] => true
  | c :: _ => isLineEnd c

/-- Whether a mark of three equal characters stands at the beginning of a line. -/
def atMark (c : Cursor) (m : Char) : Bool :=
  c.column == 0 && c.rest.take 3 == [m, m, m] && endsWord (c.rest.drop 3)

/-- The blanks at a place and the place behind them and behind a comment after them. A comment
without a blank before it is refused. -/
def restOfLine? (c : Cursor) : Option (List Char × Cursor) :=
  let blanks := c.rest.takeWhile isGap
  let behind := c.skip blanks.length
  if behind.peek == some '#' then
    if blanks.isEmpty then none else some (blanks, behind.skipWhile (!isLineEnd ·))
  else some (blanks, behind)

/-! ## Gaps -/

/-- What stands between two words of a scalar: the blanks of a line, or line ends, of which the
first is told apart from the others. -/
structure Gap where
  blanks : List Char
  broken : Bool
  others : Nat
  /-- Whether only blanks have been passed since the last line end. -/
  fresh : Bool
  deriving Repr

namespace Gap

/-- The gap before the first word of a line or of a text. -/
def empty (fresh : Bool) : Gap := ⟨[], false, 0, fresh⟩

/-- What a gap adds to the text: its blanks; or, of a line end, a space; of several line ends all
but the first. -/
def text (g : Gap) : List Char :=
  if !g.fresh then g.blanks
  else if g.broken && g.others == 0 then [' ']
  else List.replicate g.others '\n'

/-- A line end passed. -/
def addBreak (g : Gap) : Gap :=
  if g.fresh then { g with others := g.others + 1 }
  else { g with blanks := [], broken := true, fresh := true }

end Gap

/-- The gap at a place inside a plain scalar. A tab to the left of the margin is allowed on lines
without a word only. -/
def plainGap? (margin : Int) : Nat → Gap → Cursor → Option (Gap × Cursor)
  | 0, g, c => some (g, c)
  | fuel + 1, g, c =>
    match c.rest with
    | [] => some (g, c)
    | x :: _ =>
      if isLineEnd x then plainGap? margin fuel g.addBreak c.skipBreak
      else if !isGap x then some (g, c)
      else if !g.fresh then
        plainGap? margin fuel { g with blanks := g.blanks ++ [x] } (c.skip 1)
      else if x == '\t' && decide ((c.column : Int) < margin) then
        match restOfLine? c with
        | some (blanks, behind) =>
          if !endsLine behind.rest then none
          else
            let commented := behind.index != c.index + blanks.length
            plainGap? margin fuel { g with fresh := !commented } behind
        | none => none
      else plainGap? margin fuel g (c.skip 1)

/-- The gap at a place inside a quoted scalar. A tab to the left of the margin is refused. -/
def quotedGap? (margin : Int) : Nat → Gap → Cursor → Option (Gap × Cursor)
  | 0, g, c => some (g, c)
  | fuel + 1, g, c =>
    match c.rest with
    | [] => some (g, c)
    | x :: _ =>
      if isLineEnd x then quotedGap? margin fuel g.addBreak c.skipBreak
      else if !isGap x then some (g, c)
      else if !g.fresh then
        quotedGap? margin fuel { g with blanks := g.blanks ++ [x] } (c.skip 1)
      else if x == '\t' && decide ((c.column : Int) < margin) then none
      else quotedGap? margin fuel g (c.skip 1)

/-! ## Plain -/

open Scalar (isFlowMark)

/-- Whether a plain scalar ends before a word or part of a word. -/
def endsPlain (inFlow : Bool) : List Char → Bool
  | [] => true
  | ':' :: rest => endsWord rest || (inFlow && rest.head?.any isFlowMark)
  | c :: _ => isSpace c || (inFlow && isFlowMark c)

/-- The part of a plain scalar at the head of a text. -/
def plainWord (inFlow : Bool) : List Char → List Char
  | [] => []
  | c :: cs => if endsPlain inFlow (c :: cs) then [] else c :: plainWord inFlow cs

/-- A dash before a mark of brackets, which no plain scalar holds at the beginning of a word. -/
def strayDash (inFlow : Bool) : List Char → Bool
  | '-' :: c :: _ => inFlow && isFlowMark c
  | _ => false

/-- The text of a plain scalar from a place inside it on, the place behind it, and whether a line
end was passed at last. The scalar ends where the next line begins to the left of the margin. -/
def readPlain? (inFlow : Bool) (margin : Int) :
    Nat → List Char → Gap → Cursor → Option (List Char × Cursor × Bool)
  | 0, _, _, _ => none
  | fuel + 1, seen, g, c =>
    if atMark c '-' || atMark c '.' || c.peek == some '#' then some (seen.reverse, c, g.fresh)
    else if strayDash inFlow c.rest then none
    else
      let word := plainWord inFlow c.rest
      let (seen, g) := if word.isEmpty then (seen, g)
        else (word.reverse ++ (g.text.reverse ++ seen), Gap.empty false)
      let c := c.skip word.length
      if !c.peek.any isSpace then some (seen.reverse, c, g.fresh)
      else
        match plainGap? margin (c.rest.length + 1) g c with
        | none => none
        | some (g, c) =>
          if !inFlow && decide ((c.column : Int) < margin) then some (seen.reverse, c, g.fresh)
          else readPlain? inFlow margin fuel seen g c

/-! ## Quoted -/

/-- The text of a quoted scalar from a place inside it on, and the place behind its end. -/
def readQuoted? (quote : Char) (margin : Int) :
    Nat → List Char → Cursor → Option (List Char × Cursor)
  | 0, _, _ => none
  | fuel + 1, seen, c =>
    if atMark c '-' || atMark c '.' || decide ((c.column : Int) < margin) then none
    else match c.rest with
      | [] => none
      | x :: rest =>
        if x == quote then
          if quote == '\'' && rest.head? == some '\'' then
            readQuoted? quote margin fuel ('\'' :: seen) (c.skip 2)
          else some (seen.reverse, c.skip 1)
        else if x == '\\' && quote == '"' then
          if rest.head?.any isLineEnd then
            match quotedGap? margin rest.length (Gap.empty true) (c.skip 1).skipBreak with
            | none => none
            | some (g, c) => readQuoted? quote margin fuel (g.text.reverse ++ seen) c
          else match Scalar.escape? rest with
            | none => none
            | some (y, n) => readQuoted? quote margin fuel (y :: seen) (c.skip (n + 1))
        else if isSpace x then
          match quotedGap? margin (rest.length + 1) (Gap.empty false) c with
          | none => none
          | some (g, c) => readQuoted? quote margin fuel (g.text.reverse ++ seen) c
        else readQuoted? quote margin fuel (x :: seen) (c.skip 1)

/-! ## Blocks -/

/-- The place behind spaces up to a column and behind lines without more, and how many of these. -/
def skipIndent (indent : Nat) : Nat → Nat → Cursor → Nat × Cursor
  | 0, breaks, c => (breaks, c)
  | fuel + 1, breaks, c =>
    let c := c.skip ((c.rest.take (indent - c.column)).takeWhile (· == ' ')).length
    if c.peek.any isLineEnd then skipIndent indent fuel (breaks + 1) c.skipBreak
    else (breaks, c)

/-- The place behind the spaces of a line and behind lines of spaces before it, how many of these,
and the widest of all. -/
def skipSpaces : Nat → Nat → Nat → Cursor → Nat × Nat × Cursor
  | 0, widest, breaks, c => (widest, breaks, c)
  | fuel + 1, widest, breaks, c =>
    let c := c.skipWhile (· == ' ')
    let widest := max widest c.column
    if c.peek.any isLineEnd then skipSpaces fuel widest (breaks + 1) c.skipBreak
    else (widest, breaks, c)

/-- The lines of a block as far as they are read. -/
structure Lines where
  text : List Char
  /-- The line end behind the last line, and how many line ends follow. -/
  ended : Bool
  others : Nat
  /-- Whether the last line began with a blank. -/
  spaced : Bool
  cursor : Cursor

/-- The lines of a block from one of them on. -/
def readLines (folded : Bool) (indent : Nat) : Nat → Lines → Lines
  | 0, l => l
  | fuel + 1, l =>
    let c := l.cursor
    if c.column != indent || c.rest.isEmpty || (indent == 0 && atMark c '.') then l
    else
      let blank := c.peek.any isGap
      let breaks := List.replicate l.others '\n'
      let glue :=
        if folded && l.ended && !l.spaced && !blank then (if l.others == 0 then [' '] else breaks)
        else if l.ended then '\n' :: breaks else breaks
      let line := c.rest.takeWhile (!isLineEnd ·)
      let c := c.skip line.length
      let text := l.text ++ glue ++ line
      if c.rest.isEmpty then ⟨text, false, 0, blank, c⟩
      else
        let (others, c) := skipIndent indent (c.rest.length + 1) 0 c.skipBreak
        readLines folded indent fuel ⟨text, true, others, blank, c⟩

open Scalar (Chomping)

/-- What is left of a block that has a header and no lines. -/
def bareText (chomping : Chomping) (newLine : Bool) (breaks : Nat) : List Char :=
  match chomping, newLine with
  | .strip, _ | _, false => []
  | .clip, true => ['\n']
  | .keep, true => List.replicate (max breaks 1) '\n'

/-- The text of the lines of a block with the line ends behind it. The last line counts as ended,
and so does one of spaces only. -/
def chomped (chomping : Chomping) (indent : Nat) (l : Lines) : List Char :=
  let last := if l.ended then ['\n'] else []
  let more := if l.cursor.rest.isEmpty && max indent 1 ≤ l.cursor.column then ['\n'] else []
  match chomping with
  | .strip => l.text
  | .clip => l.text ++ last ++ more
  | .keep => l.text ++ last ++ more ++ List.replicate l.others '\n'

/-- A block behind its mark, in a context that is indented by `outer`. -/
def readBlock? (folded : Bool) (outer : Int) (c : Cursor) : Option (List Char × Cursor) := do
  let (chomping, increment, c) := Scalar.blockHeader c
  let (_, c) ← restOfLine? c
  if !endsLine c.rest then none
  else
    let newLine := !c.rest.isEmpty
    let c := c.skipBreak
    if c.peek == some '\t' then none
    else
      let (indent, breaks, c) := match increment with
        | some n =>
          let indent := (max outer 0).toNat + n
          let (breaks, c) := skipIndent indent (c.rest.length + 1) 0 c
          (indent, breaks, c)
        | none =>
          let (widest, breaks, c) := skipSpaces (c.rest.length + 1) 0 0 c
          let indent := max widest (outer + 1).toNat
          (if 0 < outer then max indent 1 else indent, breaks, c)
      if c.rest.isEmpty then return (bareText chomping newLine breaks, c)
      else if c.column < indent && decide (outer < (c.column : Int)) then none
      else
        let l := readLines folded indent (c.rest.length + 1) ⟨[], false, breaks, false, c⟩
        return (chomped chomping indent l, l.cursor)

end EditWatch.Yaml.Modern
