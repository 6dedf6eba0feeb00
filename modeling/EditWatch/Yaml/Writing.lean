import EditWatch.Json.Numeral
import EditWatch.Number.Reading
import EditWatch.Text.Blank

/-!
# EditWatch.Yaml.Writing -- values as YAML

A value is written in blocks, a line for every scalar. A text stands without quotes where it can
be read back as a text, as a block of lines if it has several, in single quotes where it might be
taken for something else, and in double quotes where a character has to be escaped.
-/

namespace EditWatch.Yaml

open EditWatch.Number EditWatch.Text

/-! ## Texts that look like something else -/

/-- A number with zeros before its first digit, which is none. -/
def hasLeadingZeros (cs : List Char) : Bool :=
  match (Double.splitSign cs).2 with
  | '0' :: d :: rest => (d :: rest).all Char.isDigit
  | _ => false

/-- Whether the text is digits of a base, at least one, that make a number below `2 ^ 128`. -/
def isBased (base : Nat) (cs : List Char) : Bool :=
  match cs.mapM hexValue? with
  | some (d :: rest) =>
    (d :: rest).all (· < base) && (d :: rest).foldl (fun n d => base * n + d) 0 < Nat.pow 2 128
  | _ => false

/-- Whether the text without its sign is an integer in one of the bases. -/
def isInteger (cs : List Char) : Bool :=
  match (Double.splitSign cs).2 with
  | '0' :: 'x' :: rest => isBased 16 rest
  | '0' :: 'o' :: rest => isBased 8 rest
  | '0' :: 'b' :: rest => isBased 2 rest
  | rest => isBased 10 rest

/-- Whether the text is a double: a finite one, or one of the words for the others. -/
def isDouble (cs : List Char) : Bool :=
  let unsigned := match cs with
    | '+' :: rest => rest
    | cs => cs
  [".inf", ".Inf", ".INF"].contains (String.ofList unsigned) ||
    ["-.inf", "-.Inf", "-.INF", ".nan", ".NaN", ".NAN"].contains (String.ofList cs) ||
    ((Double.read? unsigned).any Double.isFinite &&
      !(cs.head? == some '+' && (unsigned.head? == some '+' || unsigned.head? == some '-')))

/-- The words for nothing and for the truth values. -/
def reservedWords : List String :=
  ["", "null", "Null", "NULL", "~", "true", "True", "TRUE", "false", "False", "FALSE"]

/-- Whether a text without quotes would be taken for something else, or might be. -/
def isAmbiguous (s : String) : Bool :=
  let cs := s.toList
  reservedWords.contains s || isInteger cs || isDouble cs || hasLeadingZeros cs

/-! ## Forms of a scalar -/

/-- The characters that are written as they are. -/
def isPrintable (c : Char) : Bool :=
  let n := c.toNat
  n == 0x0A || (0x20 ≤ n && n ≤ 0x7E) || (0xA0 ≤ n && n ≤ 0xFFFD && n ≠ 0xFEFF) || 0x10000 ≤ n

/-- Line ends and what counts as such. -/
def isLineEnd (c : Char) : Bool :=
  c == '\n' || c == '\r' || c == '\x85' || c == '\u2028' || c == '\u2029'

/-- Space, tab, line end, or the end of the text. -/
def isBlankOrEnd : List Char → Bool
  | [] => true
  | c :: _ => c == ' ' || c == '\t' || isLineEnd c

/-- The marks that a text without quotes does not begin with. -/
def leadingMarks : List Char :=
  ['#', ',', '[', ']', '\x7b', '\x7d', '&', '*', '!', '|', '>', '\'', '"', '%', '@', '\x60']

/-- Whether the head of a text has a meaning of its own there. -/
def hasLeadingMark (cs : List Char) : Bool :=
  match cs with
  | [] => false
  | c :: rest =>
    leadingMarks.contains c || ((c == '?' || c == ':' || c == '-') && isBlankOrEnd rest) ||
      cs.take 3 == ['-', '-', '-'] || cs.take 3 == ['.', '.', '.']

/-- Whether a colon before a blank or a number sign behind one stands in the text behind the
character `before`. -/
def hasInnerMark (before : Char) : List Char → Bool
  | [] => false
  | c :: rest =>
    (c == ':' && isBlankOrEnd rest) || (c == '#' && isBlankOrEnd [before]) || hasInnerMark c rest

/-- Whether a character of one class stands right before a character of another. -/
def hasPair (p q : Char → Bool) : List Char → Bool
  | c :: d :: rest => (p c && q d) || hasPair p q (d :: rest)
  | _ => false

/-- The form in which a text is written. -/
inductive Form where
  | plain
  | single
  | double
  | block
  deriving Repr, DecidableEq

/-- Whether every character may stand as it is, and no line but the last ends in a space. -/
def needsNoEscape (cs : List Char) : Bool :=
  cs.all isPrintable && !hasPair (· == ' ') isLineEnd cs

/-- Whether a text may stand without quotes. -/
def mayBePlain (cs : List Char) : Bool :=
  match cs with
  | [] => true
  | c :: rest =>
    needsNoEscape cs && !cs.any isLineEnd && c != ' ' && cs.getLast? != some ' ' &&
      !hasLeadingMark cs && !hasInnerMark c rest

/-- Whether a text may stand in single quotes. -/
def mayBeSingle (cs : List Char) : Bool := needsNoEscape cs && !hasPair isLineEnd (· == ' ') cs

/-- Whether a text may stand as a block of lines. -/
def mayBeBlock (cs : List Char) : Bool :=
  !cs.isEmpty && needsNoEscape cs && cs.getLast? != some ' '

/-- The form of a text. -/
def formOf (s : String) : Form :=
  let cs := s.toList
  if cs.contains '\n' then (if mayBeBlock cs then .block else .double)
  else if !isAmbiguous s && mayBePlain cs then .plain
  else if mayBeSingle cs then .single
  else .double

/-! ## Writing a scalar -/

/-- A number in hexadecimal with a fixed count of digits. -/
def hexDigits (width n : Nat) : List Char :=
  let ds := (Nat.toDigits 16 n).map Char.toUpper
  List.replicate (width - ds.length) '0' ++ ds

/-- The letter behind the backslash for a character that has one. -/
def escapeLetter? (c : Char) : Option Char :=
  match c.toNat with
  | 0x00 => some '0'
  | 0x07 => some 'a'
  | 0x08 => some 'b'
  | 0x09 => some 't'
  | 0x0A => some 'n'
  | 0x0B => some 'v'
  | 0x0C => some 'f'
  | 0x0D => some 'r'
  | 0x1B => some 'e'
  | 0x22 => some '"'
  | 0x5C => some '\\'
  | 0x85 => some 'N'
  | 0xA0 => some '_'
  | 0x2028 => some 'L'
  | 0x2029 => some 'P'
  | _ => none

/-- A character in double quotes. -/
def escape (c : Char) : List Char :=
  if isPrintable c && !isLineEnd c && c != '"' && c != '\\' then [c]
  else match escapeLetter? c with
    | some l => ['\\', l]
    | none =>
      let n := c.toNat
      if n ≤ 0xFF then '\\' :: 'x' :: hexDigits 2 n
      else if n ≤ 0xFFFF then '\\' :: 'u' :: hexDigits 4 n
      else '\\' :: 'U' :: hexDigits 8 n

/-- What tells a reader of a block of its indentation and of the line ends behind it. -/
def blockHints (cs : List Char) : List Char :=
  let lead := match cs with
    | c :: _ => if c == ' ' || isLineEnd c then ['2'] else []
    | [] => []
  let tail := match cs.reverse with
    | [] => ['-']
    | c :: [] => if isLineEnd c then ['+'] else ['-']
    | c :: b :: _ => if !isLineEnd c then ['-'] else if isLineEnd b then ['+'] else []
  lead ++ tail

/-- The lines of a block with their ends. The last line gets an end unless the text ends in one. -/
def blockLines (cs : List Char) : List (List Char) :=
  let parts := pieces (· == '\n') cs
  let last := match parts.getLast? with
    | none | some [] => []
    | some l => [if l.getLast?.any isLineEnd then l else l ++ ['\n']]
  parts.dropLast.map (· ++ ['\n']) ++ last

/-- A text on one line. -/
def inlineText (form : Form) (cs : List Char) : List Char :=
  match form with
  | .plain => cs
  | .single => '\'' :: (cs.flatMap fun c => if c == '\'' then ['\'', '\''] else [c]) ++ ['\'']
  | .double | .block => '"' :: (cs.flatMap escape ++ ['"'])

/-- A text as lines with their ends. -/
def textLines (s : String) : List (List Char) :=
  let cs := s.toList
  match formOf s with
  | .block => ('|' :: (blockHints cs ++ ['\n'])) :: blockLines cs
  | form => [inlineText form cs ++ ['\n']]

/-! ## Writing a value -/

/-- A line moved right by two columns. Separators of lines inside the text of a scalar begin new
lines, too; the flag tells whether the head of the text is such a beginning. A line without text
stays empty. -/
def shiftLine : Bool → List Char → List Char
  | _, [] => []
  | begins, c :: cs =>
    if isLineEnd c then c :: shiftLine true cs
    else if begins then ' ' :: ' ' :: c :: shiftLine false cs
    else c :: shiftLine false cs

/-- Lines moved right by two columns. -/
def shift (lines : List (List Char)) : List (List Char) := lines.map (shiftLine true)

/-- Lines behind a text on the first of them, the others moved right. -/
def hang (text : List Char) : List (List Char) → List (List Char)
  | [] => [text ++ ['\n']]
  | first :: rest => (text ++ shiftLine false first) :: shift rest

mutual

/-- A value as lines with their ends. -/
def valueLines : Json → List (List Char)
  | .null => ["null\n".toList]
  | .bool b => [(if b then "true\n" else "false\n").toList]
  | .num n => [n.render ++ ['\n']]
  | .str s => textLines s
  | .arr [] => [['[', ']', '\n']]
  | .arr (j :: js) => itemLines (j :: js)
  | .obj [] => [['\x7b', '\x7d', '\n']]
  | .obj (m :: ms) => entryLines (m :: ms)
  | .unreadable => []

/-- The items of a list, each behind a dash. -/
def itemLines : List Json → List (List Char)
  | [] => []
  | j :: js => hang ['-', ' '] (valueLines j) ++ itemLines js

/-- The entries of a mapping. A key has one line. A list stands in the column of its key, a mapping
right of it. -/
def entryLines : List (String × Json) → List (List Char)
  | [] => []
  | (k, j) :: ms =>
    let key := inlineText (formOf k) k.toList
    let own := match j with
      | .arr (_ :: _) => (key ++ [':', '\n']) :: valueLines j
      | .obj (_ :: _) => (key ++ [':', '\n']) :: shift (valueLines j)
      | _ => hang (key ++ [':', ' ']) (valueLines j)
    own ++ entryLines ms

end

/-- A value as a text. -/
def text (j : Json) : String := String.ofList (valueLines j).flatten

end EditWatch.Yaml
