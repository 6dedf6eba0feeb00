import EditWatch.Text.Numeral

/-!
# EditWatch.Json.Quoted -- strings in quotes

Writing escapes the quote, the backslash and the control characters below the space, and nothing
else. Reading goes in two steps. The first finds the closing quote and resolves each escape on
its own; it fails on a text that has not the form of a string. The second joins surrogate halves
to characters and fails on a half without its partner.
-/

namespace EditWatch.Json

open EditWatch.Text

/-- The escape of one character. -/
def escape (c : Char) : List Char :=
  match c with
  | '"' => ['\\', '"']
  | '\\' => ['\\', '\\']
  | '\n' => ['\\', 'n']
  | '\r' => ['\\', 'r']
  | '\t' => ['\\', 't']
  | '\x08' => ['\\', 'b']
  | '\x0c' => ['\\', 'f']
  | c =>
    if c.toNat < 0x20 then
      ['\\', 'u', '0', '0', hexDigit (c.toNat / 16), hexDigit (c.toNat % 16)]
    else [c]

/-- The characters of a string with their escapes, without the quotes. -/
def escapeAll : List Char → List Char
  | [] => []
  | c :: cs => escape c ++ escapeAll cs

/-- A string in quotes. -/
def quote (s : String) : List Char := '"' :: (escapeAll s.toList ++ ['"'])

/-- One element of a string in quotes: a character, or the 16-bit unit of a `\u` escape. -/
inductive Piece where
  | char (c : Char)
  | unit (n : Nat)
  deriving Repr, DecidableEq

/-- The character that a backslash and `c` stand for. -/
def simpleEscape? (c : Char) : Option Char :=
  match c with
  | '"' => some '"'
  | '\\' => some '\\'
  | '/' => some '/'
  | 'b' => some '\x08'
  | 'f' => some '\x0c'
  | 'n' => some '\n'
  | 'r' => some '\r'
  | 't' => some '\t'
  | _ => none

/-- The pieces up to the closing quote, and what follows it. A control character below the space
may not stand in a string. -/
def readPieces : List Char → Option (List Piece × List Char)
  | [] => none
  | '"' :: rest => some ([], rest)
  | '\\' :: 'u' :: a :: b :: c :: d :: rest =>
    match readHex? [a, b, c, d] with
    | some n => (readPieces rest).map fun p => (.unit n :: p.1, p.2)
    | none => none
  | '\\' :: c :: rest =>
    match simpleEscape? c with
    | some c => (readPieces rest).map fun p => (.char c :: p.1, p.2)
    | none => none
  | c :: rest =>
    if c.toNat < 0x20 ∨ c = '\\' then none
    else (readPieces rest).map fun p => (.char c :: p.1, p.2)

/-- The characters that the pieces spell. A unit from D800 to DBFF needs one from DC00 to DFFF
right behind it, and the latter may stand nowhere else. -/
def joinPieces : List Piece → Option (List Char)
  | [] => some []
  | .char c :: rest => (joinPieces rest).map (c :: ·)
  | .unit n :: .unit m :: rest =>
    if 0xD800 ≤ n ∧ n < 0xDC00 then
      if 0xDC00 ≤ m ∧ m < 0xE000 then
        (joinPieces rest).map (Char.ofNat (0x10000 + (n - 0xD800) * 0x400 + (m - 0xDC00)) :: ·)
      else none
    else if 0xDC00 ≤ n ∧ n < 0xE000 then none
    else (joinPieces (.unit m :: rest)).map (Char.ofNat n :: ·)
  | .unit n :: rest =>
    if 0xD800 ≤ n ∧ n < 0xE000 then none
    else (joinPieces rest).map (Char.ofNat n :: ·)

end EditWatch.Json
