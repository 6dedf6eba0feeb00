import EditWatch.Text.Blank
import EditWatch.Yaml.Modern.Scalar
import EditWatch.Yaml.Token

/-!
# EditWatch.Yaml.Modern.Scan -- tokens by version 1.2

As for version 1.1, a node that may be a key leaves a slot before its tokens, which is filled when
its colon is found. Beside the columns of blocks there are columns that open none: what follows a
colon, a dash or an opening bracket has to stand right of the block around it, even in brackets.
An entry that stands in a list without braces gets the marks of a mapping of its own.
-/

namespace EditWatch.Yaml.Modern

open EditWatch.Text

/-- A node that may turn out to be a key. -/
structure KeyCandidate where
  slot : Nat
  /-- In this place there can be nothing but a key. -/
  required : Bool
  line : Nat
  column : Nat
  index : Nat

/-- How far a text has been read. -/
structure Scan where
  cursor : Cursor
  /-- Whether only blanks have been passed on this line. -/
  fresh : Bool
  /-- The tokens so far, the last one first. -/
  written : List Token
  /-- The slots that were filled. -/
  filled : List (Nat × List Token)
  slots : Nat
  /-- The column that what follows may not stand left of; `-1` outside of all blocks. -/
  indent : Int
  /-- The columns around it, the innermost first; whether a block ends when each is returned to. -/
  outer : List (Int × Bool)
  /-- Whether a key may stand here. -/
  keyAllowed : Bool
  /-- The last key candidate of the innermost brackets, then of those around them, and last of
  the text outside of all brackets. -/
  candidates : List (Option KeyCandidate)
  /-- The place where a colon may be followed by its value at once. -/
  valueAt : Nat
  /-- Whether the entry at hand belongs to a mapping in braces, or to a marked key. -/
  braced : Bool
  /-- For the lists in brackets around the place, whether an entry has begun in each. -/
  entered : List Bool

namespace Scan

def ofText (cs : List Char) : Scan :=
  ⟨.ofText cs, true, [], [], 0, -1, [], true, [none], 0, false, []⟩

/-- Whether the place is inside brackets. -/
def inFlow (s : Scan) : Bool := s.candidates.length > 1

def emit (s : Scan) (t : Token) : Scan := { s with written := t :: s.written }

def withKeys (s : Scan) (allowed : Bool) : Scan := { s with keyAllowed := allowed }

/-- The scan at a place on the same line, behind something that is no blank. -/
def goTo (s : Scan) (c : Cursor) : Scan := { s with cursor := c, fresh := false }

/-- The scan at a place on the same line where so much of the text is left. -/
def goToRest (s : Scan) (rest : List Char) : Scan :=
  s.goTo (s.cursor.skip (s.cursor.rest.length - rest.length))

/-! ## Indentation -/

/-- Whether the innermost column is that of a block. -/
def inBlock (s : Scan) : Bool := s.outer.head?.any Prod.snd

/-- A block opened in a column, if that is right of the innermost block; whether it is new. A
column that opens no block gives way to it. -/
def openAt (s : Scan) (column : Nat) : Scan × Bool :=
  if s.inFlow then (s, false)
  else
    let s := match s.outer with
      | (indent, false) :: outer =>
        if s.indent ≤ (column : Int) then { s with indent := indent, outer := outer } else s
      | _ => s
    if s.indent < (column : Int) then
      ({ s with indent := column, outer := (s.indent, true) :: s.outer }, true)
    else (s, false)

/-- A block opened at a column, with the mark of its beginning if it is new. -/
def openBlock (s : Scan) (column : Nat) (mark : Token) : Scan :=
  match s.openAt column with
  | (s, true) => s.emit mark
  | (s, false) => s

/-- What follows has to stand right of the block at hand. -/
def moveIn (s : Scan) : Scan :=
  if !s.inFlow && s.inBlock then
    { s with indent := s.indent + 1, outer := (s.indent, false) :: s.outer }
  else s

/-- The columns without those at the head that open no block. -/
def blockColumns (indent : Int) : List (Int × Bool) → Int × List (Int × Bool)
  | (next, false) :: outer => blockColumns next outer
  | outer => (indent, outer)

/-- The innermost column is that of a block again. -/
def moveOut (s : Scan) : Scan :=
  let (indent, outer) := blockColumns s.indent s.outer
  { s with indent := indent, outer := outer }

/-- The columns up to one, with the marks of the ends of blocks right of it. -/
def closed (column indent : Int) : List (Int × Bool) → Int × List (Int × Bool) × List Token
  | [] => (indent, [], [])
  | (next, isBlock) :: outer =>
    if column < indent then
      let (indent, outer, marks) := closed column next outer
      (indent, outer, if isBlock then marks ++ [.blockEnd] else marks)
    else (indent, (next, isBlock) :: outer, [])

/-- All that begins right of the column closed. -/
def closeTo (s : Scan) (column : Int) : Scan :=
  if s.inFlow then s
  else
    let (indent, outer, marks) := closed column s.indent s.outer
    { s with indent := indent, outer := outer, written := marks ++ s.written }

/-! ## Keys -/

def setCandidate (s : Scan) (k : Option KeyCandidate) : Scan :=
  { s with candidates := k :: s.candidates.drop 1 }

/-- The last candidate given up; refused if it had to be a key. -/
def dropKey (s : Scan) : Option Scan :=
  match s.candidates with
  | some k :: _ => if k.required then none else some (s.setCandidate none)
  | _ => some s

/-- A candidate at the place, if a key may stand there. -/
def offerKey (s : Scan) : Scan :=
  if s.keyAllowed then
    let k : KeyCandidate :=
      { slot := s.slots
        required := !s.inFlow && s.indent == (s.cursor.column : Int) && s.inBlock
        line := s.cursor.line
        column := s.cursor.column
        index := s.cursor.index }
    { s with slots := s.slots + 1, written := .slot k.slot :: s.written }.setCandidate (some k)
  else s

/-- How many characters a key may have. -/
def maxKeyLength : Nat := 1024

/-- A candidate outside of brackets is given up behind its line and when it is too long. -/
def dropStaleKey (s : Scan) : Option Scan :=
  match s.candidates with
  | [some k] =>
    if k.line < s.cursor.line || k.index + maxKeyLength < s.cursor.index then s.dropKey else some s
  | _ => some s

/-! ## Blanks -/

/-- The rest of a line passed as far as it is blanks and a comment. -/
def skipBlanks (s : Scan) : Option Scan := do
  let (_, c) ← restOfLine? s.cursor
  return s.goTo c

/-- A line end passed. One outside of brackets allows a key. -/
def newLine (s : Scan) : Scan :=
  { s with cursor := s.cursor.skipBreak, fresh := true, keyAllowed := s.keyAllowed || !s.inFlow }

/-- The place of the next token: behind blanks, comments and line ends. A tab to the left of the
innermost column is allowed on lines without a token only. -/
def skipToToken : Nat → Scan → Option Scan
  | 0, s => some s
  | fuel + 1, s =>
    let c := s.cursor
    match c.rest with
    | [] => some s
    | x :: _ =>
      if x == '\t' && !s.outer.isEmpty && s.fresh && decide ((c.column : Int) < s.indent) then
        match restOfLine? c with
        | some (_, behind) =>
          if endsLine behind.rest then skipToToken fuel { s with cursor := behind } else none
        | none => none
      else if isGap x then skipToToken fuel { s with cursor := c.skip 1 }
      else if isLineEnd x then skipToToken fuel s.newLine
      else if x == '#' then skipToToken fuel (s.goTo (c.skipWhile (!isLineEnd ·)))
      else some s

/-- The spaces, comments and line ends behind the mark of a key. -/
def skipSpaces : Nat → Scan → Scan
  | 0, s => s
  | fuel + 1, s =>
    let c := s.cursor
    match c.rest with
    | [] => s
    | x :: _ =>
      if x == ' ' then skipSpaces fuel { s with cursor := c.skip 1 }
      else if isLineEnd x then skipSpaces fuel s.newLine
      else if x == '#' then skipSpaces fuel (s.goTo (c.skipWhile (!isLineEnd ·)))
      else s

/-! ## Marks -/

/-- The place behind a mark of so many characters. -/
def pass (s : Scan) (n : Nat) : Scan := s.goTo (s.cursor.skip n)

/-- The dash before an item of a block. -/
def blockItem (s : Scan) : Option Scan := do
  if s.inFlow || !s.keyAllowed then none
  else
    let s := (s.pass 1).openBlock s.cursor.column .blockListStart
    let (blanks, c) ← restOfLine? s.cursor
    if blanks.contains '\t' && c.peek == some '-' && endsWord (c.rest.drop 1) then none
    else
      let s := s.goTo c
      let s := if c.peek.any fun x => isLineEnd x || Scalar.isFlowMark x then s.moveIn else s
      return ((← s.dropKey).withKeys true).emit .blockItem

/-- The question mark before a key. A blank other than a tab has to follow. -/
def explicitKey (s : Scan) : Option Scan := do
  let column := s.cursor.column
  let s ← if s.inFlow then some { s with braced := true }
    else if !s.keyAllowed then none
    else some (s.openBlock column .blockMappingStart)
  let s := ((← s.dropKey).withKeys !s.inFlow).pass 1
  let before := s.cursor.index
  let s := skipSpaces (s.cursor.rest.length + 1) s
  if s.cursor.index = before ∨ s.cursor.peek = some '\t' then none else return s.emit .key

/-- The colon before a value passed. A tab right behind it has to be followed by a space or by
something that is no word. -/
def passColon (s : Scan) : Option Scan := do
  let s := s.pass 1
  if s.cursor.peek = some '\t' then
    let (blanks, c) ← restOfLine? s.cursor
    if !blanks.contains ' ' && c.peek.any isNameChar then none else return s.goTo c
  else return s

/-- The colon before a value. -/
def value (s : Scan) : Option Scan := do
  let column := s.cursor.column
  let line := s.cursor.line
  let bare := !s.entered.isEmpty && !s.braced
  let s := if bare then { s with entered := true :: s.entered.drop 1 } else s
  let s ← s.passColon
  match s.candidates with
  | some k :: _ =>
    if bare && k.line < line then none
    else
      let (s, opened) := s.openAt k.column
      let marks : List Token :=
        if opened then [.blockMappingStart, .key]
        else if bare then [.flowMappingStart, .key]
        else [.key]
      let s := { s with filled := (k.slot, marks) :: s.filled }
      return ((s.moveIn.setCandidate none).withKeys false).emit .value
  | _ =>
    let s := if bare then s.emit .flowMappingStart else s
    if s.inFlow then return (s.withKeys false).emit .value
    else if !s.keyAllowed then none
    else return ((s.openBlock column .blockMappingStart).moveIn.withKeys true).emit .value

/-- The entry of a list that stands without braces ends. -/
def leaveEntry (s : Scan) : Scan :=
  match s.entered with
  | true :: outer => { s with braced := false, entered := false :: outer }.emit .flowMappingEnd
  | _ => s

/-- How deep brackets may be. -/
def maxDepth : Nat := 255

/-- A bracket that opens. -/
def openFlow (s : Scan) (t : Token) : Option Scan := do
  let s := s.offerKey.moveIn
  if maxDepth < s.candidates.length then none
  else
    let s := { s with candidates := none :: s.candidates }
    let s := if t = .flowMappingStart then { s with braced := true }
      else { s with entered := false :: s.entered }
    return (← ((s.withKeys true).pass 1).skipBlanks).emit t

/-- A bracket that closes. -/
def closeFlow (s : Scan) (t : Token) : Option Scan := do
  let s ← s.dropKey
  let s := if s.inFlow then { s with candidates := s.candidates.drop 1 } else s
  let s := if t = .flowListEnd then { s.leaveEntry with entered := s.entered.drop 1 } else s
  let s ← ((s.withKeys false).pass 1).skipBlanks
  let s := if s.inFlow then { s with valueAt := s.cursor.index } else s
  return s.emit t

/-- The comma between items in brackets. -/
def flowItem (s : Scan) : Option Scan := do
  let s := ((← s.dropKey).withKeys true).leaveEntry
  return (← (s.pass 1).skipBlanks).emit .flowItem

/-- Three equal characters between documents. Nothing but a comment follows the end of one. -/
def documentMark (s : Scan) (t : Token) : Option Scan := do
  let s ← (s.closeTo (-1)).dropKey
  let s := ((s.withKeys false).pass 3).emit t
  if t = .documentEnd then
    let s ← s.skipBlanks
    if endsLine s.cursor.rest then return s else none
  else return s

/-! ## Names and tags -/

/-- The characters of the name of a node. -/
def isAnchorChar (c : Char) : Bool := !isSpace c && !Scalar.isFlowMark c && c != '\uFEFF'

/-- The name behind an asterisk or an ampersand. -/
def name (s : Scan) (token : String → Token) : Option Scan :=
  let s := s.offerKey
  let name := (s.cursor.rest.drop 1).takeWhile isAnchorChar
  if name.isEmpty then none
  else some (((s.withKeys false).pass (name.length + 1)).emit (token (String.ofList name)))

/-- The characters of a tag in angle brackets. -/
def isUriChar (c : Char) : Bool :=
  c.isAlphanum || ['-', '#', ';', '/', '?', ':', '@', '&', '=', '+', '$', ',', '_', '.', '!', '~',
    '*', '\'', '(', ')', '[', ']', '%'].contains c

/-- The characters of the text of a tag, without the marks of lists and mappings. -/
def isTagChar (c : Char) : Bool := isUriChar c && !Scalar.isFlowMark c && c != '!'

/-- The character whose number the bytes make in base 256. -/
def charOfBytes (bytes : List Nat) : Option (List Char) :=
  let n := bytes.foldl (fun n b => 256 * n + b) 0
  if n.isValidChar then some [Char.ofNat n] else none

/-- The text of a tag or of a part of it, and what follows. -/
def tagText? (isUri : Char → Bool) (cs : List Char) : Option (List Char × List Char) :=
  uriText? isUri charOfBytes cs.length cs

/-- The handle and the suffix of the tag at the head of a text, and what follows it. -/
def readTag? (cs : List Char) : Option (String × String × List Char) := do
  match cs with
  | '!' :: '<' :: inside =>
    match ← tagText? isUriChar inside with
    | (uri, '>' :: behind) => return ("", String.ofList uri, behind)
    | _ => none
  | _ =>
    let (handle, rest) := tagHandle cs
    let (suffix, behind) ← tagText? isTagChar rest
    if handle = ['!'] then
      if suffix.isEmpty then return ("", "!", behind)
      else return ("!", String.ofList suffix, behind)
    else if suffix.isEmpty then none
    else return (String.ofList handle, String.ofList suffix, behind)

/-- A tag. -/
def tag (s : Scan) : Option Scan := do
  let s := s.offerKey
  let (handle, suffix, behind) ← readTag? s.cursor.rest
  if endsWord behind || (s.inFlow && behind.head?.any Scalar.isFlowMark) then
    return ((s.withKeys false).goToRest behind).emit (.tag handle suffix)
  else none

/-! ## Directives -/

/-- A number of at most nine digits, and what follows it. -/
def versionNumber? (cs : List Char) : Option (Nat × List Char) :=
  let ds := cs.takeWhile Char.isDigit
  if ds.isEmpty || 9 < ds.length then none else some (decimalValue ds, cs.drop ds.length)

/-- The version of the language behind the name of its directive, and what follows. -/
def version? (cs : List Char) : Option (Token × List Char) := do
  match ← versionNumber? (cs.dropWhile isGap) with
  | (major, '.' :: rest) =>
    let (minor, rest) ← versionNumber? rest
    return (.version major minor, rest)
  | _ => none

/-- A handle and what it stands for, behind the name of their directive, and what follows. -/
def handle? (cs : List Char) : Option (Token × List Char) := do
  let cs := cs.dropWhile isGap
  let (handle, rest) := tagHandle cs
  if cs.head? ≠ some '!' ∨ (handle = ['!'] ∧ rest.head?.any isNameChar) then none
  else
    let rest := rest.dropWhile isGap
    let (start, behind) ← match rest with
      | '!' :: more => (tagText? isUriChar more).map fun p => ('!' :: p.1, p.2)
      | c :: _ => if isTagChar c then tagText? isUriChar rest else none
      | [] => none
    if endsWord behind then return (.handle (String.ofList handle) (String.ofList start), behind)
    else none

/-- The directive behind its percent sign, and what follows it. One that is not known counts as a
handle without a name. -/
def directive? (cs : List Char) : Option (Token × List Char) :=
  let name := cs.takeWhile isNameChar
  let rest := cs.drop name.length
  if name.isEmpty || !endsWord rest then none
  else match String.ofList name with
    | "YAML" => version? rest
    | "TAG" => handle? rest
    | _ => some (.handle "" "", rest.dropWhile (!isLineEnd ·))

/-- A line that begins with a percent sign. -/
def directive (s : Scan) : Option Scan := do
  let s ← (s.closeTo (-1)).dropKey
  let (t, behind) ← directive? (s.cursor.rest.drop 1)
  let s ← ((s.withKeys false).goToRest behind).skipBlanks
  if endsLine s.cursor.rest then
    return { s with cursor := s.cursor.skipBreak, fresh := true }.emit t
  else none

/-! ## Scalars -/

/-- A scalar without quotes. -/
def plain (s : Scan) : Option Scan := do
  let s := s.offerKey.moveOut
  let margin := s.indent + 1
  if s.inFlow && decide ((s.cursor.column : Int) < margin) then none
  else
    let (text, c, newLine) ←
      readPlain? s.inFlow margin (s.cursor.rest.length + 1) [] (.empty s.fresh) s.cursor
    if text.isEmpty then none
    else
      let s := { s with cursor := c, fresh := newLine, keyAllowed := newLine }
      return s.emit (.scalar true (String.ofList text))

/-- Whether a quoted scalar that began on a line may be followed by what comes next. -/
def endsQuoted (s : Scan) (line : Nat) : Bool :=
  match s.cursor.peek with
  | none => true
  | some x =>
    isLineEnd x || (s.inFlow && (x == ',' || x == '\x7d' || x == ']' || x == ':')) ||
      (x == ':' && line == s.cursor.line)

/-- A scalar in quotes. -/
def quoted (s : Scan) (quote : Char) : Option Scan := do
  let s := s.offerKey
  let line := s.cursor.line
  let inside := s.cursor.skip 1
  let (text, c) ← readQuoted? quote s.indent (inside.rest.length + 1) [] inside
  let s ← ((s.withKeys false).goTo c).skipBlanks
  if !s.endsQuoted line then none
  else
    let s ← skipToToken (s.cursor.rest.length + 1) s
    return { s with valueAt := s.cursor.index }.emit (.scalar false (String.ofList text))

/-- A scalar that is a block of lines. -/
def block (s : Scan) (folded : Bool) : Option Scan := do
  let s := (s.offerKey.withKeys true).moveOut
  let (text, c) ← readBlock? folded s.indent (s.cursor.skip 1)
  return { s with cursor := c, fresh := true }.emit (.scalar false (String.ofList text))

/-! ## The text -/

/-- Whether the colon at a place is the mark of a value. -/
def isValueMark (s : Scan) : Bool :=
  let behind := s.cursor.rest.drop 1
  endsWord behind ||
    (s.inFlow && (behind.head?.any Scalar.isFlowMark || s.cursor.index == s.valueAt))

/-- The token at the place, which is not the end of the text. -/
def token (s : Scan) : Option Scan :=
  let c := s.cursor
  let ends := endsWord (c.rest.drop 1)
  match c.peek with
  | none => none
  | some x =>
    if c.column == 0 && x == '%' then s.directive
    else if atMark c '-' then s.documentMark .documentStart
    else if atMark c '.' then s.documentMark .documentEnd
    else if (c.column : Int) < s.indent then none
    else if x == '[' then s.openFlow .flowListStart
    else if x == '\x7b' then s.openFlow .flowMappingStart
    else if x == ']' then s.closeFlow .flowListEnd
    else if x == '\x7d' then s.closeFlow .flowMappingEnd
    else if x == ',' then s.flowItem
    else if x == '-' && ends then s.blockItem
    else if x == '?' && ends then s.explicitKey
    else if x == ':' && s.isValueMark then s.value
    else if x == '*' then s.name .alias
    else if x == '&' then s.name .anchor
    else if x == '!' then s.tag
    else if x == '|' && !s.inFlow then s.block false
    else if x == '>' && !s.inFlow then s.block true
    else if x == '\'' || x == '"' then s.quoted x
    else if x == '%' || x == '@' || x == '\x60' then none
    else s.plain

/-- All tokens from the place on. -/
def run : Nat → Scan → Option Scan
  | 0, _ => none
  | fuel + 1, s =>
    match (skipToToken (s.cursor.rest.length + 1) s).bind dropStaleKey with
    | none => none
    | some s =>
      if s.cursor.rest.isEmpty then
        if s.candidates.any fun k => k.any KeyCandidate.required then none
        else some (s.closeTo (-1))
      else
        match (s.closeTo s.cursor.column).token with
        | some s => run fuel s
        | none => none

end Scan

/-- The tokens of a text; it ends at its first null character. -/
def tokens? (cs : List Char) : Option (List Token) :=
  let cs := cs.takeWhile (· ≠ '\x00')
  ((Scan.ofText cs).run (cs.length + 1)).map fun s => Token.inOrder s.written s.filled

end EditWatch.Yaml.Modern
