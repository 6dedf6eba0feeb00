/-!
# EditWatch.Yaml.Cursor -- a place in a text

Indentation is counted in columns and keys have to stand on one line, so a place in a text knows
its line and its column beside the characters that follow.
-/

namespace EditWatch.Yaml

/-- A place in a text. -/
structure Cursor where
  rest : List Char
  line : Nat
  column : Nat
  /-- How many characters lie before. -/
  index : Nat
  deriving Repr

/-- The characters that end a line. -/
def isBreak (c : Char) : Bool :=
  c == '\n' || c == '\r' || c == '\x85' || c == '\u2028' || c == '\u2029'

/-- Space and tab. -/
def isGap (c : Char) : Bool := c == ' ' || c == '\t'

/-- A character that ends a word. -/
def isWordEnd (c : Char) : Bool := isGap c || isBreak c

/-- Whether a word ends before the rest of a text. -/
def wordEnds : List Char → Bool
  | [] => true
  | c :: _ => isWordEnd c

namespace Cursor

def ofText (cs : List Char) : Cursor := ⟨cs, 0, 0, 0⟩

/-- The next character. -/
def peek (c : Cursor) : Option Char := c.rest.head?

/-- The place behind the next `n` characters, none of which ends a line. -/
def skip (c : Cursor) (n : Nat) : Cursor :=
  { c with rest := c.rest.drop n, column := c.column + n, index := c.index + n }

/-- The place behind the characters of a class, none of which ends a line. -/
def skipWhile (c : Cursor) (p : Char → Bool) : Cursor :=
  c.skip (c.rest.takeWhile p).length

/-- The place at the beginning of the next line; a carriage return and a line feed are one end. -/
def skipBreak (c : Cursor) : Cursor :=
  match c.rest with
  | '\r' :: '\n' :: rest => ⟨rest, c.line + 1, 0, c.index + 2⟩
  | _ :: rest => ⟨rest, c.line + 1, 0, c.index + 1⟩
  | [] => c

/-- A line end as it counts in the text of a scalar. -/
def breakText (b : Char) : Char := if b == '\u2028' || b == '\u2029' then b else '\n'

/-- Whether a mark of three equal characters stands at the beginning of a line. -/
def atMark (c : Cursor) (m : Char) : Bool :=
  c.column == 0 && c.rest.take 3 == [m, m, m] && wordEnds (c.rest.drop 3)

/-- Whether one of the marks between documents stands here. -/
def atDocumentMark (c : Cursor) : Bool := c.atMark '-' || c.atMark '.'

/-- The place behind a comment, if there is one here. -/
def skipComment (c : Cursor) : Cursor :=
  if c.peek == some '#' then c.skipWhile (!isBreak ·) else c

end Cursor

/-! ## Gaps -/

/-- What stands between two words of a scalar: blanks, or line ends with blanks around them. -/
structure Gap where
  blanks : List Char
  breaks : List Char
  deriving Repr

namespace Gap

/-- What a gap adds to the text: its blanks; or, of a line end, a space; of several line ends all
but the first. -/
def text (g : Gap) : List Char :=
  match g.breaks with
  | [] => g.blanks
  | ['\n'] => [' ']
  | '\n' :: others => others
  | all => all

/-- The gap at a place and the place behind it. Behind a line end a tab may not stand to the left
of column `margin`. -/
def read (margin : Nat) : Nat → Gap → Cursor → Option (Gap × Cursor)
  | 0, g, c => some (g, c)
  | fuel + 1, g, c =>
    match c.peek with
    | none => some (g, c)
    | some x =>
      if isGap x then
        if g.breaks.isEmpty then read margin fuel { g with blanks := g.blanks ++ [x] } (c.skip 1)
        else if x == '\t' && c.column < margin then none
        else read margin fuel g (c.skip 1)
      else if isBreak x then
        read margin fuel { g with breaks := g.breaks ++ [Cursor.breakText x] } c.skipBreak
      else some (g, c)

end Gap

/-- The gap at a place. -/
def Cursor.gap? (c : Cursor) (margin : Nat) : Option (Gap × Cursor) :=
  Gap.read margin c.rest.length ⟨[], []⟩ c

end EditWatch.Yaml
