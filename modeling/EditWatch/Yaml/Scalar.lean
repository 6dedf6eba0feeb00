import EditWatch.Text.Numeral
import EditWatch.Yaml.Cursor

/-!
# EditWatch.Yaml.Scalar -- scalars in a text

A scalar is plain, stands in single or double quotes, or is a block of lines. Lines of the first
three are joined; the gap between two words tells how. In a block each line counts, or lines are
joined as well if the block is folded.
-/

namespace EditWatch.Yaml.Scalar

open EditWatch.Text

/-! ## Plain -/

/-- The characters between the items of a list in brackets, and around them. -/
def isFlowMark (c : Char) : Bool := c == ',' || c == '[' || c == ']' || c == '\x7b' || c == '\x7d'

/-- Whether a plain scalar ends before a word or part of a word. -/
def endsPlain (inFlow : Bool) : List Char → Bool
  | [] => true
  | ':' :: rest => wordEnds rest
  | c :: _ => inFlow && isFlowMark c

/-- Whether a colon stands between a plain scalar and a mark, where it means nothing. -/
def strayColon (inFlow : Bool) : List Char → Bool
  | ':' :: c :: _ => inFlow && (isFlowMark c || c == '?')
  | _ => false

/-- The text of a plain scalar from a place inside it on, the place behind it, and whether a line
end was passed at last. The scalar ends where the next line begins to the left of `margin`. -/
def readPlain (inFlow : Bool) (margin : Nat) :
    Nat → List Char → Cursor → Option (List Char × Cursor × Bool)
  | 0, _, _ => none
  | fuel + 1, seen, c =>
    match c.rest with
    | [] => some (seen.reverse, c, false)
    | x :: _ =>
      if isWordEnd x then
        match c.gap? margin with
        | none => none
        | some (g, c) =>
          let left := !inFlow && decide (c.column < margin)
          let stops := left || c.atDocumentMark || c.peek == some '#' || wordEnds c.rest ||
            (endsPlain inFlow c.rest && !strayColon inFlow c.rest)
          if stops then some (seen.reverse, c, !g.breaks.isEmpty)
          else readPlain inFlow margin fuel (g.text.reverse ++ seen) c
      else if strayColon inFlow c.rest then none
      else if endsPlain inFlow c.rest then some (seen.reverse, c, false)
      else readPlain inFlow margin fuel (x :: seen) (c.skip 1)

/-! ## Quoted -/

/-- The character that a backslash and a letter stand for. -/
def simpleEscape? (c : Char) : Option Char :=
  match c with
  | '0' => some '\x00'
  | 'a' => some '\x07'
  | 'b' => some '\x08'
  | 't' | '\t' => some '\t'
  | 'n' => some '\n'
  | 'v' => some '\x0b'
  | 'f' => some '\x0c'
  | 'r' => some '\r'
  | 'e' => some '\x1b'
  | ' ' => some ' '
  | '"' => some '"'
  | '/' => some '/'
  | '\\' => some '\\'
  | 'N' => some '\x85'
  | '_' => some '\xa0'
  | 'L' => some '\u2028'
  | 'P' => some '\u2029'
  | _ => none

/-- How many hexadecimal digits follow a backslash and a letter. -/
def escapeWidth? (c : Char) : Option Nat :=
  match c with
  | 'x' => some 2
  | 'u' => some 4
  | 'U' => some 8
  | _ => none

/-- The character of an escape, given what follows the backslash, and the length of that. -/
def escape? : List Char → Option (Char × Nat)
  | [] => none
  | c :: rest =>
    match simpleEscape? c, escapeWidth? c with
    | some x, _ => some (x, 1)
    | none, some n =>
      let digits := rest.take n
      match readHex? digits with
      | some v => if digits.length = n ∧ v.isValidChar then some (Char.ofNat v, n + 1) else none
      | none => none
    | none, none => none

/-- The text of a quoted scalar from a place inside it on, and the place behind its end. -/
def readQuoted (quote : Char) : Nat → List Char → Cursor → Option (List Char × Cursor)
  | 0, _, _ => none
  | fuel + 1, seen, c =>
    if c.atDocumentMark then none
    else match c.rest with
      | [] => none
      | x :: rest =>
        if x == quote then
          if quote == '\'' && rest.head? == some '\'' then
            readQuoted quote fuel ('\'' :: seen) (c.skip 2)
          else some (seen.reverse, c.skip 1)
        else if x == '\\' && quote == '"' then
          if rest.head?.any isBreak then
            match (c.skip 1).skipBreak.gap? 0 with
            | none => none
            | some (g, c) => readQuoted quote fuel (g.breaks.reverse ++ seen) c
          else match escape? rest with
            | none => none
            | some (y, n) => readQuoted quote fuel (y :: seen) (c.skip (n + 1))
        else if isWordEnd x then
          match c.gap? 0 with
          | none => none
          | some (g, c) => readQuoted quote fuel (g.text.reverse ++ seen) c
        else readQuoted quote fuel (x :: seen) (c.skip 1)

/-! ## Blocks -/

/-- What becomes of the line ends behind a block: one stays, all stay, or none. -/
inductive Chomping where
  | clip
  | keep
  | strip
  deriving Repr, DecidableEq

/-- The chomping that a sign asks for. -/
def chomping? (c : Char) : Option Chomping :=
  if c == '+' then some .keep else if c == '-' then some .strip else none

/-- The indentation that a digit asks for. -/
def increment? (c : Char) : Option Nat :=
  if '1' ≤ c ∧ c ≤ '9' then some (c.toNat - 48) else none

/-- The sign and the digit behind the mark of a block, in any order, and the place behind them. -/
def blockHeader (c : Cursor) : Chomping × Option Nat × Cursor :=
  match c.rest with
  | a :: b :: _ =>
    match chomping? a, increment? a, chomping? b, increment? b with
    | some k, _, _, some n => (k, some n, c.skip 2)
    | some k, _, _, none => (k, none, c.skip 1)
    | none, some n, some k, _ => (k, some n, c.skip 2)
    | none, some n, none, _ => (.clip, some n, c.skip 1)
    | none, none, _, _ => (.clip, none, c)
  | [a] =>
    match chomping? a, increment? a with
    | some k, _ => (k, none, c.skip 1)
    | none, some n => (.clip, some n, c.skip 1)
    | none, none => (.clip, none, c)
  | [] => (.clip, none, c)

/-- The line ends before the next line of a block and the place at it; `widest` is the widest
column of a blank line. Without a known indentation every space counts to it. -/
def readBlockBreaks (indent : Option Nat) :
    Nat → Nat → List Char → Cursor → Option (List Char × Nat × Cursor)
  | 0, _, _, _ => none
  | fuel + 1, widest, breaks, c =>
    let wanted := match indent with
      | some n => (c.rest.take (n - c.column)).takeWhile (· == ' ')
      | none => c.rest.takeWhile (· == ' ')
    let c := c.skip wanted.length
    let widest := max widest c.column
    let short := match indent with
      | some n => decide (c.column < n)
      | none => true
    match c.peek with
    | none => some (breaks, widest, c)
    | some x =>
      if x == '\t' && short then none
      else if isBreak x then
        readBlockBreaks indent fuel widest (breaks ++ [Cursor.breakText x]) c.skipBreak
      else some (breaks, widest, c)

/-- Whether the next line of a folded block is joined to the line before it. -/
def joins (folded : Bool) (lastBreak : List Char) (spaced : Bool) : Bool :=
  folded && lastBreak == ['\n'] && !spaced

/-- The lines of a block from one of them on: the text with the line ends behind it apart, and
the place behind the block. `spaced` tells whether the line before began with a blank. -/
def readBlockLines (folded : Bool) (indent : Nat) :
    Nat → List Char → List Char → List Char → Bool → Cursor →
      Option (List Char × List Char × List Char × Cursor)
  | 0, _, _, _, _, _ => none
  | fuel + 1, seen, lastBreak, breaks, spaced, c =>
    if c.column == indent && !c.rest.isEmpty then
      let blank := c.peek.any isGap
      let glue :=
        if joins folded lastBreak (spaced || blank) then (if breaks.isEmpty then [' '] else breaks)
        else lastBreak ++ breaks
      let line := c.rest.takeWhile (!isBreak ·)
      let c := c.skip line.length
      let (newBreak, c) := match c.peek with
        | some b => ([Cursor.breakText b], c.skipBreak)
        | none => ([], c)
      match readBlockBreaks (some indent) (c.rest.length + 1) 0 [] c with
      | none => none
      | some (breaks, _, c) =>
        readBlockLines folded indent fuel (seen ++ glue ++ line) newBreak breaks blank c
    else some (seen, lastBreak, breaks, c)

/-- A block behind its mark, in a context that is indented by `outer`. -/
def readBlock (folded : Bool) (outer : Int) (c : Cursor) : Option (List Char × Cursor) :=
  let (chomping, increment, c) := blockHeader c
  let c := (c.skipWhile isGap).skipComment
  if c.peek.any (!isBreak ·) then none
  else
    let c := c.skipBreak
    let asked := increment.map fun n => (max outer 0).toNat + n
    match readBlockBreaks asked (c.rest.length + 1) 0 [] c with
    | none => none
    | some (breaks, widest, c) =>
      let indent := asked.getD (max widest (max (outer + 1) 1).toNat)
      match readBlockLines folded indent (c.rest.length + 1) [] [] breaks false c with
      | none => none
      | some (text, lastBreak, breaks, c) =>
        some (text ++ (match chomping with
          | .strip => []
          | .clip => lastBreak
          | .keep => lastBreak ++ breaks), c)

end EditWatch.Yaml.Scalar
