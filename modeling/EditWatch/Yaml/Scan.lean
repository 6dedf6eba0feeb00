import EditWatch.Text.Blank
import EditWatch.Yaml.Scalar
import EditWatch.Yaml.Token

/-!
# EditWatch.Yaml.Scan -- tokens out of a text

Whether a node is a key shows only at the colon behind it. So a node that may be a key leaves a
slot before its tokens, and the slots are filled when the end of the text is reached; what was
once written is never changed.

This is version 1.1 of the language, by which rule tables are read.
-/

namespace EditWatch.Yaml

open EditWatch.Text

/-- A node that may turn out to be a key. -/
structure KeyCandidate where
  slot : Nat
  /-- In this place there can be nothing but a key. -/
  required : Bool
  line : Nat
  column : Nat
  index : Nat

/-- How far a text has been read. -/
structure Scan where
  cursor : Cursor
  /-- The tokens so far, the last one first. -/
  written : List Token
  /-- The slots that were filled. -/
  filled : List (Nat × List Token)
  slots : Nat
  /-- The column of the innermost block; `-1` outside of all. -/
  indent : Int
  /-- The columns of the blocks around it, the innermost first. -/
  outer : List Int
  /-- Whether a key may stand here. -/
  keyAllowed : Bool
  /-- The last key candidate of the innermost brackets, then of those around them, and last of
  the text outside of all brackets. -/
  candidates : List (Option KeyCandidate)

namespace Scan

def ofText (cs : List Char) : Scan := ⟨.ofText cs, [], [], 0, -1, [], true, [none]⟩

/-- Whether the place is inside brackets. -/
def inFlow (s : Scan) : Bool := s.candidates.length > 1

def emit (s : Scan) (t : Token) : Scan := { s with written := t :: s.written }

/-! ## Indentation -/

/-- Whether a token in the column begins a new block. -/
def opensAt (s : Scan) (column : Nat) : Bool := !s.inFlow && decide (s.indent < column)

/-- The innermost block begins in the column. -/
def indentTo (s : Scan) (column : Nat) : Scan :=
  { s with indent := column, outer := s.indent :: s.outer }

/-- A block opened at the place, if its column is right of that of the innermost block. -/
def openHere (s : Scan) (mark : Token) : Scan :=
  if s.opensAt s.cursor.column then (s.indentTo s.cursor.column).emit mark else s

/-- The blocks that begin right of the column, as marks of their ends. -/
def closed (column : Int) (indent : Int) : List Int → Int × List Int × List Token
  | [] => (indent, [], [])
  | next :: outer =>
    if column < indent then
      let (indent, outer, marks) := closed column next outer
      (indent, outer, .blockEnd :: marks)
    else (indent, next :: outer, [])

/-- All blocks that begin right of the column closed. -/
def closeTo (s : Scan) (column : Int) : Scan :=
  if s.inFlow then s
  else
    let (indent, outer, marks) := closed column s.indent s.outer
    { s with indent := indent, outer := outer, written := marks ++ s.written }

/-! ## Keys -/

/-- The last candidate given up; refused if it had to be a key. -/
def dropKey (s : Scan) : Option Scan :=
  match s.candidates with
  | some k :: rest => if k.required then none else some { s with candidates := none :: rest }
  | _ => some s

/-- A candidate at the place, if a key may stand there. -/
def offerKey (s : Scan) : Option Scan :=
  if s.keyAllowed then do
    let s ← s.dropKey
    let k : KeyCandidate :=
      { slot := s.slots
        required := !s.inFlow && s.indent == (s.cursor.column : Int)
        line := s.cursor.line
        column := s.cursor.column
        index := s.cursor.index }
    return { s with
      slots := s.slots + 1
      written := .slot k.slot :: s.written
      candidates := some k :: s.candidates.drop 1 }
  else some s

/-- How many characters a key may have. -/
def maxKeyLength : Nat := 1024

/-- The candidate that the colon at the place makes a key: on the same line and not too long. -/
def keyHere (s : Scan) : Option (Option KeyCandidate) :=
  match s.candidates with
  | some k :: _ =>
    if k.line < s.cursor.line || k.index + maxKeyLength < s.cursor.index then
      (if k.required then none else some none)
    else some (some k)
  | _ => some none

/-! ## Marks -/

/-- A mark of one character written and passed. -/
def mark (s : Scan) (t : Token) : Scan := { s.emit t with cursor := s.cursor.skip 1 }

def withKeys (s : Scan) (allowed : Bool) : Scan := { s with keyAllowed := allowed }

/-- The dash before an item of a block. -/
def blockItem (s : Scan) : Option Scan := do
  let s ← if s.inFlow then some s
    else if !s.keyAllowed then none
    else some (s.openHere .blockListStart)
  let s ← s.dropKey
  return (s.withKeys true).mark .blockItem

/-- The question mark before a key. -/
def explicitKey (s : Scan) : Option Scan := do
  let s ← if s.inFlow then some s
    else if !s.keyAllowed then none
    else some (s.openHere .blockMappingStart)
  let s ← s.dropKey
  return (s.withKeys !s.inFlow).mark .key

/-- The colon before a value. -/
def value (s : Scan) : Option Scan := do
  match ← s.keyHere with
  | some k =>
    let opens := s.opensAt k.column
    let s := if opens then s.indentTo k.column else s
    let s := { s with
      filled := (k.slot, if opens then [.blockMappingStart, .key] else [.key]) :: s.filled
      candidates := none :: s.candidates.drop 1 }
    return (s.withKeys false).mark .value
  | none =>
    let s := { s with candidates := none :: s.candidates.drop 1 }
    if s.inFlow then return (s.withKeys false).mark .value
    else if !s.keyAllowed then none
    else return ((s.openHere .blockMappingStart).withKeys true).mark .value

/-- A bracket that opens. -/
def openFlow (s : Scan) (t : Token) : Option Scan := do
  let s ← s.offerKey
  return ({ s with candidates := none :: s.candidates }.withKeys true).mark t

/-- A bracket that closes. -/
def closeFlow (s : Scan) (t : Token) : Option Scan := do
  let s ← s.dropKey
  let outer := if s.inFlow then s.candidates.drop 1 else s.candidates
  return ({ s with candidates := outer }.withKeys false).mark t

/-- The comma between items in brackets. -/
def flowItem (s : Scan) : Option Scan := do
  let s ← s.dropKey
  return (s.withKeys true).mark .flowItem

/-- Three equal characters between documents. -/
def documentMark (s : Scan) (t : Token) : Option Scan := do
  let s ← (s.closeTo (-1)).dropKey
  let s := (s.withKeys false).emit t
  return { s with cursor := s.cursor.skip 3 }

/-! ## Names -/

/-- The characters that may follow a name besides the end of a word. -/
def isNameEnd (c : Char) : Bool :=
  ['?', ':', ',', ']', '\x7d', '%', '@', '\x60'].contains c

/-- The name behind an asterisk or an ampersand. -/
def name (s : Scan) (token : String → Token) : Option Scan := do
  let s ← s.offerKey
  let name := (s.cursor.rest.drop 1).takeWhile isNameChar
  let c := s.cursor.skip (name.length + 1)
  if name.isEmpty || !(wordEnds c.rest || c.rest.head?.any isNameEnd) then none
  else return { (s.withKeys false).emit (token (String.ofList name)) with cursor := c }

/-- The characters of the text of a tag, without the marks of lists and mappings. -/
def isTagChar (c : Char) : Bool :=
  isNameChar c || [';', '/', '?', ':', '@', '&', '=', '+', '$', '.', '%', '!', '~', '*', '\'', '(',
    ')'].contains c

/-- The characters of a tag in angle brackets. -/
def isUriChar (c : Char) : Bool := isTagChar c || c == ',' || c == '[' || c == ']'

/-- The text of a tag or of a part of it, and what follows. A byte in percent encoding stands as
the character of its number, and a null character ends the text. -/
def tagText? (isUri : Char → Bool) (cs : List Char) : Option (List Char × List Char) :=
  (uriText? isUri (fun bytes => some (bytes.map Char.ofNat)) cs.length cs).map fun p =>
    (p.1.takeWhile (· ≠ '\x00'), p.2)

/-- The handle and the suffix of the tag at the head of a text, and what follows it. -/
def readTag? (cs : List Char) : Option (String × String × List Char) := do
  match cs with
  | '!' :: '<' :: inside =>
    let (uri, rest) ← tagText? isUriChar inside
    match rest with
    | '>' :: behind =>
      if rest.length = inside.length then none else return ("", String.ofList uri, behind)
    | _ => none
  | _ =>
    let (handle, rest) := tagHandle cs
    let (suffix, behind) ← tagText? isTagChar rest
    if handle = ['!'] then
      if suffix.isEmpty then return ("", "!", behind)
      else return ("!", String.ofList suffix, behind)
    else if behind.length = rest.length then none
    else return (String.ofList handle, String.ofList suffix, behind)

/-- The place at which so much of the text is left, on the same line. -/
def goTo (s : Scan) (rest : List Char) : Cursor :=
  s.cursor.skip (s.cursor.rest.length - rest.length)

/-- A tag. -/
def tag (s : Scan) : Option Scan := do
  let s ← s.offerKey
  let (handle, suffix, behind) ← readTag? s.cursor.rest
  if wordEnds behind || (s.inFlow && behind.head? == some ',') then
    return { (s.withKeys false).emit (.tag handle suffix) with cursor := s.goTo behind }
  else none

/-! ## Directives -/

/-- A number of at most nine digits, and what follows it. -/
def versionNumber? (cs : List Char) : Option (Nat × List Char) :=
  let ds := cs.takeWhile Char.isDigit
  if ds.isEmpty || 9 < ds.length then none else some (decimalValue ds, cs.drop ds.length)

/-- The version of the language behind the name of its directive, and what follows. -/
def version? (cs : List Char) : Option (Token × List Char) := do
  match ← versionNumber? (cs.dropWhile isGap) with
  | (major, '.' :: rest) =>
    let (minor, rest) ← versionNumber? rest
    return (.version major minor, rest)
  | _ => none

/-- A handle and what it stands for, behind the name of their directive, and what follows. -/
def handle? (cs : List Char) : Option (Token × List Char) := do
  let cs := cs.dropWhile isGap
  let (handle, rest) := tagHandle cs
  if cs.head? = some '!' ∧ rest.head?.any isGap then
    let rest := rest.dropWhile isGap
    let (start, behind) ← tagText? isUriChar rest
    if behind.length = rest.length ∨ !wordEnds behind then none
    else return (.handle (String.ofList handle) (String.ofList start), behind)
  else none

/-- The directive behind its percent sign, and what follows it. -/
def directive? (cs : List Char) : Option (Token × List Char) :=
  let name := cs.takeWhile isNameChar
  let rest := cs.drop name.length
  if !wordEnds rest then none
  else match String.ofList name with
    | "YAML" => version? rest
    | "TAG" => handle? rest
    | _ => none

/-- A line that begins with a percent sign. -/
def directive (s : Scan) : Option Scan := do
  let s ← (s.closeTo (-1)).dropKey
  let (t, behind) ← directive? (s.cursor.rest.drop 1)
  let c := ((s.goTo behind).skipWhile isGap).skipComment
  if c.peek.any (!isBreak ·) then none
  else return { (s.withKeys false).emit t with cursor := c.skipBreak }

/-! ## Scalars -/

/-- A scalar without quotes. -/
def plain (s : Scan) : Option Scan := do
  let s ← s.offerKey
  let margin := (s.indent + 1).toNat
  let (text, c, newLine) ←
    Scalar.readPlain s.inFlow margin (s.cursor.rest.length + 1) [] s.cursor
  return { (s.withKeys newLine).emit (.scalar true (String.ofList text)) with cursor := c }

/-- A scalar in quotes. -/
def quoted (s : Scan) (quote : Char) : Option Scan := do
  let s ← s.offerKey
  let c := s.cursor.skip 1
  let (text, c) ← Scalar.readQuoted quote (c.rest.length + 1) [] c
  return { (s.withKeys false).emit (.scalar false (String.ofList text)) with cursor := c }

/-- A scalar that is a block of lines. -/
def block (s : Scan) (folded : Bool) : Option Scan := do
  let s ← s.dropKey
  let (text, c) ← Scalar.readBlock folded s.indent (s.cursor.skip 1)
  return { (s.withKeys true).emit (.scalar false (String.ofList text)) with cursor := c }

/-! ## The text -/

/-- The marks that no plain scalar begins with. -/
def indicators : List Char :=
  ['-', '?', ':', ',', '[', ']', '\x7b', '\x7d', '#', '&', '*', '!', '|', '>', '\'', '"', '%',
   '@', '\x60']

/-- Whether a plain scalar begins here. -/
def startsPlain (inFlow : Bool) : List Char → Bool
  | [] => false
  | c :: rest =>
    !(isWordEnd c || indicators.contains c) || (c == '-' && !(rest.head?.any isGap)) ||
      (!inFlow && (c == '?' || c == ':') && !wordEnds rest)

/-- The place behind a byte order mark at the beginning of a line. -/
def skipOrderMark (c : Cursor) : Cursor :=
  if c.column == 0 && c.peek == some '\uFEFF' then c.skip 1 else c

/-- The place of the next token: behind blanks, comments and line ends. A line end outside of
brackets allows a key. -/
def skipToToken : Nat → Scan → Scan
  | 0, s => s
  | fuel + 1, s =>
    let tabs := s.inFlow || !s.keyAllowed
    let c := (skipOrderMark s.cursor).skipWhile fun x => x == ' ' || (x == '\t' && tabs)
    let c := c.skipComment
    if c.peek.any isBreak then
      skipToToken fuel { s with cursor := c.skipBreak, keyAllowed := s.keyAllowed || !s.inFlow }
    else { s with cursor := c }

/-- The token at the place, which is not the end of the text. -/
def token (s : Scan) : Option Scan :=
  let c := s.cursor
  let ends := wordEnds (c.rest.drop 1)
  match c.peek with
  | none => none
  | some x =>
    if c.column == 0 && x == '%' then s.directive
    else if c.atMark '-' then s.documentMark .documentStart
    else if c.atMark '.' then s.documentMark .documentEnd
    else if x == '[' then s.openFlow .flowListStart
    else if x == '\x7b' then s.openFlow .flowMappingStart
    else if x == ']' then s.closeFlow .flowListEnd
    else if x == '\x7d' then s.closeFlow .flowMappingEnd
    else if x == ',' then s.flowItem
    else if x == '-' && ends then s.blockItem
    else if x == '?' && (s.inFlow || ends) then s.explicitKey
    else if x == ':' && (s.inFlow || ends) then s.value
    else if x == '*' then s.name .alias
    else if x == '&' then s.name .anchor
    else if x == '!' then s.tag
    else if x == '|' && !s.inFlow then s.block false
    else if x == '>' && !s.inFlow then s.block true
    else if x == '\'' || x == '"' then s.quoted x
    else if startsPlain s.inFlow c.rest then s.plain
    else none

/-- All tokens from the place on. -/
def run : Nat → Scan → Option Scan
  | 0, _ => none
  | fuel + 1, s =>
    let s := skipToToken (s.cursor.rest.length + 1) s
    if s.cursor.rest.isEmpty then (s.closeTo (-1)).dropKey
    else
      match (s.closeTo s.cursor.column).token with
      | some s => run fuel s
      | none => none

end Scan

/-! ## Whole texts -/

/-- The characters that a text may hold. -/
def isAllowed (c : Char) : Bool :=
  let n := c.toNat
  n == 0x09 || n == 0x0A || n == 0x0D || (0x20 ≤ n && n ≤ 0x7E) || n == 0x85 ||
    (0xA0 ≤ n && n ≠ 0xFFFE && n ≠ 0xFFFF)

/-- The tokens of a text. -/
def tokens? (cs : List Char) : Option (List Token) :=
  if cs.all isAllowed then
    ((Scan.ofText cs).run (cs.length + 1)).map fun s => Token.inOrder s.written s.filled
  else none

end EditWatch.Yaml
