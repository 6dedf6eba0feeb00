import EditWatch.Text.Numeral
import EditWatch.Yaml.Cursor

/-!
# EditWatch.Yaml.Token -- tokens

The tokens of a text make its indentation explicit: each block of items or entries has a mark at
its beginning and at its end. The names in tokens are made of few characters; those of tags may
stand in percent encoding.
-/

namespace EditWatch.Yaml

open EditWatch.Text

inductive Token where
  | version (major minor : Nat)
  | handle (name start : String)
  | documentStart
  | documentEnd
  | blockListStart
  | blockMappingStart
  | blockEnd
  | flowListStart
  | flowListEnd
  | flowMappingStart
  | flowMappingEnd
  | blockItem
  | flowItem
  | key
  | value
  | alias (name : String)
  | anchor (name : String)
  | tag (handle suffix : String)
  | scalar (plain : Bool) (text : String)
  /-- A place where tokens may belong that are found later. -/
  | slot (n : Nat)
  deriving Repr, DecidableEq

/-- The tokens written, the last one first, with every slot filled. -/
def Token.inOrder (written : List Token) (filled : List (Nat × List Token)) : List Token :=
  written.reverse.flatMap fun t => match t with
    | .slot n => ((filled.find? fun f => f.1 == n).map Prod.snd).getD []
    | t => [t]

/-! ## Names -/

/-- The characters of names and handles. -/
def isNameChar (c : Char) : Bool := c.isAlphanum || c == '-' || c == '_'

/-- The handle of a tag: an exclamation mark, alone or before a name and another one. What is
neither is no handle, and only its exclamation mark is passed. -/
def tagHandle (cs : List Char) : List Char × List Char :=
  let name := cs.tail.takeWhile isNameChar
  match cs.tail.drop name.length with
  | '!' :: rest => ('!' :: (name ++ ['!']), rest)
  | _ => (['!'], cs.tail)

/-! ## Percent encoding -/

/-- The byte that stands in percent encoding at the head of a text, and what follows it. -/
def escapedByte? : List Char → Option (Nat × List Char)
  | '%' :: a :: b :: rest =>
    match hexValue? a, hexValue? b with
    | some x, some y => some (16 * x + y, rest)
    | _, _ => none
  | _ => none

/-- How many bytes follow a first byte in UTF-8. -/
def followers? (lead : Nat) : Option Nat :=
  if lead < 0x80 then some 0
  else if 0xC0 ≤ lead ∧ lead < 0xE0 then some 1
  else if 0xE0 ≤ lead ∧ lead < 0xF0 then some 2
  else if 0xF0 ≤ lead ∧ lead < 0xF8 then some 3
  else none

/-- So many bytes in percent encoding that cannot be the first of a character. -/
def escapedFollowers? : Nat → List Char → Option (List Nat × List Char)
  | 0, cs => some ([], cs)
  | n + 1, cs => do
    let (b, rest) ← escapedByte? cs
    if 0x80 ≤ b ∧ b < 0xC0 then
      let (bs, rest) ← escapedFollowers? n rest
      return (b :: bs, rest)
    else none

/-- The bytes of one character in percent encoding at the head of a text, and what follows. -/
def escapedBytes? (cs : List Char) : Option (List Nat × List Char) := do
  let (lead, rest) ← escapedByte? cs
  let (bs, rest) ← escapedFollowers? (← followers? lead) rest
  return (lead :: bs, rest)

/-- The longest text of characters of a class at the head of a text, and what follows it. What
stands in percent encoding is written by `write`, which may refuse it. -/
def uriText? (isUri : Char → Bool) (write : List Nat → Option (List Char)) :
    Nat → List Char → Option (List Char × List Char)
  | 0, cs => some ([], cs)
  | _, [] => some ([], [])
  | fuel + 1, c :: cs =>
    if !isUri c then some ([], c :: cs)
    else if c == '%' then do
      let (bytes, rest) ← escapedBytes? (c :: cs)
      let text ← write bytes
      let (more, rest) ← uriText? isUri write fuel rest
      return (text ++ more, rest)
    else (uriText? isUri write fuel cs).map fun p => (c :: p.1, p.2)

end EditWatch.Yaml
