import EditWatch.Config.Layer
import EditWatch.Text.Blank

/-!
# EditWatch.Config.Ini -- settings in INI

A text is a sequence of properties, in sections or in front of all of them. Every value is a text.
A name goes on until the next equals sign or colon, even over several lines, and a value until the
end of its line; either may be escaped in part. A comment needs a line of its own.
-/

namespace EditWatch.Config.Ini

open EditWatch.Text

/-- A text without white space around it. -/
def trim (cs : List Char) : List Char :=
  ((cs.dropWhile isBlank).reverse.dropWhile isBlank).reverse

/-- The character of a number of four hexadecimal digits, or of three behind a plus sign. -/
def charOfCode? (code : List Char) : Option Char :=
  let digits := match code with
    | '+' :: rest => rest
    | _ => code
  (readHex? digits).bind fun n => if h : n.isValidChar then some (Char.ofNatAux n h) else none

/-- An escape behind its backslash, and what follows it: a letter with a meaning, a line break
that does not count, a character by its number, or any other character itself. -/
def escape? : List Char → Option (List Char × List Char)
  | [] => none
  | '0' :: rest => some (['\x00'], rest)
  | 'a' :: rest => some (['\x07'], rest)
  | 'b' :: rest => some (['\x08'], rest)
  | 't' :: rest => some (['\t'], rest)
  | 'r' :: rest => some (['\r'], rest)
  | 'n' :: rest => some (['\n'], rest)
  | '\n' :: rest => some ([], rest)
  | 'x' :: rest =>
    if rest.length < 4 then none
    else (charOfCode? (rest.take 4)).map fun c => ([c], rest.drop 4)
  | c :: rest => some ([c], rest)

/-- The text up to the first character of a class that is not escaped, and the text from there
on. The flag tells whether the end of the text will do as well. -/
def readUntil? (stop : Char → Bool) (mayEnd : Bool) :
    Nat → List Char → Option (List Char × List Char)
  | 0, _ => none
  | _, [] => if mayEnd then some ([], []) else none
  | fuel + 1, c :: cs =>
    if stop c then some ([], c :: cs)
    else if c == '\\' then
      (escape? cs).bind fun e =>
        (readUntil? stop mayEnd fuel e.2).map fun p => (e.1 ++ p.1, p.2)
    else (readUntil? stop mayEnd fuel cs).map fun p => (c :: p.1, p.2)

def isLineEnd (c : Char) : Bool := c == '\n' || c == '\r'

/-- The rest of a line, and what follows it. -/
def readLine? (cs : List Char) : Option (List Char × List Char) :=
  readUntil? isLineEnd true (cs.length + 1) cs

/-- A value behind its sign with the space around it, and what follows it. What stands behind the
closing quote of a text in quotes belongs to the value. -/
def readSpaced? (cs : List Char) : Option (List Char × List Char) :=
  match cs.dropWhile fun c => isBlank c && !isLineEnd c with
  | [] => some ([], [])
  | c :: rest =>
    if c == '"' || c == '\'' then
      match readUntil? (· == c) false (rest.length + 1) rest with
      | some (inside, rest) => (readLine? rest.tail).map fun p => (inside ++ p.1, p.2)
      | none => none
    else readLine? (c :: rest)

/-- A value behind its sign, and what follows it. Space around it does not count, not even in
quotes. -/
def readValue? (cs : List Char) : Option (List Char × List Char) :=
  (readSpaced? cs).map fun p => (trim p.1, p.2)

/-- The text behind white space, and whether it begins a line. -/
def skipBlank (begins : Bool) : List Char → Bool × List Char
  | [] => (begins, [])
  | c :: cs => if isBlank c then skipBlank (c == '\n') cs else (begins, c :: cs)

/-- The values of a text. Those of a section lead into a table of its name. -/
def read? : Nat → Bool → Option String → List Char → Option (List (String × Value))
  | 0, _, _, _ => none
  | fuel + 1, begins, table, cs =>
    match skipBlank begins cs with
    | (_, []) => some []
    | (begins, c :: rest) =>
      if c == ';' || c == '#' then
        if begins then read? fuel true table ((rest.dropWhile (· ≠ '\n')).drop 1) else none
      else if c == '[' then
        match readUntil? (· == ']') false (rest.length + 1) rest with
        | some (name, rest) =>
          let name := String.ofList (trim name)
          (read? fuel false (some name) rest.tail).map fun es => (name, .compound) :: es
        | none => none
      else
        match readUntil? (fun c => c == '=' || c == ':') false (rest.length + 2) (c :: rest) with
        | none => none
        | some (key, rest) =>
          let key := String.ofList (trim key)
          match readValue? rest.tail with
          | none => none
          | some (value, rest) =>
            let entry := match table with
              | none => (key, .text (String.ofList value))
              | some name => (name, .compound)
            if key.isEmpty then none else (read? fuel false table rest).map (entry :: ·)

end EditWatch.Config.Ini

namespace EditWatch.Config.Layer

/-- The layer of an INI text. -/
def ofIniText? (text : String) : Option Layer :=
  let cs := text.toList
  (Ini.read? (cs.length + 1) true none cs).map ofEntries

end EditWatch.Config.Layer
