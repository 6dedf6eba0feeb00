import EditWatch.Config.Layer
import EditWatch.Text.Lines

/-!
# EditWatch.Config.Ron -- settings in RON

The root is a map, or a structure in parentheses. The name in front of parentheses does not count,
and a name alone is nothing, like an empty pair of parentheses. A structure has names for its
keys, a map has texts or characters. A value that may be absent stands for itself when it is
there. A comma may follow the last member, and comments may be nested.
-/

namespace EditWatch.Config.Ron

open EditWatch.Number EditWatch.Text

/-! ## Space -/

def isSpace (c : Char) : Bool := c == ' ' || c == '\t' || c == '\n' || c == '\r'

/-- What follows a comment behind its mark, which so many others are open around. -/
def behindComment? (depth : Nat) : List Char → Option (List Char)
  | [] => none
  | '/' :: '*' :: rest => behindComment? (depth + 1) rest
  | '*' :: '/' :: rest => match depth with
    | 0 => some rest
    | depth + 1 => behindComment? depth rest
  | _ :: rest => behindComment? depth rest

/-- The text behind white space and comments. A slash that begins no comment is refused. -/
def skipSpace? : Nat → List Char → Option (List Char)
  | 0, _ => none
  | fuel + 1, cs =>
    match cs.dropWhile isSpace with
    | '/' :: '/' :: rest => skipSpace? fuel (rest.dropWhile (· ≠ '\n'))
    | '/' :: '*' :: rest => (behindComment? 0 rest).bind (skipSpace? fuel)
    | '/' :: _ => none
    | rest => some rest

/-- The text behind all white space and comments at its head. -/
def skip? (cs : List Char) : Option (List Char) := skipSpace? (cs.length + 1) cs

/-- The text behind marks at its head, with space behind each of them. -/
def behindAll? : List String → List Char → Option (List Char)
  | [], cs => some cs
  | m :: ms, cs =>
    if m.toList.isPrefixOf cs then (skip? (cs.drop m.length)).bind (behindAll? ms) else none

/-- The text behind a comma, if one comes next, and behind the space around it. -/
def comma? (cs : List Char) : Option (Bool × List Char) :=
  (skip? cs).bind fun cs =>
    match cs with
    | ',' :: rest => (skip? rest).map fun rest => (true, rest)
    | rest => some (false, rest)

/-! ## Names -/

/-- A character at the beginning of a name. -/
def isNameStart (c : Char) : Bool := c.isAlpha || c == '_'

/-- A character of a name. -/
def isNameChar (c : Char) : Bool := isNameStart c || c.isDigit

/-- A character of a name behind the mark `r#`. -/
def isRawChar (c : Char) : Bool := isNameChar c || c == '.' || c == '+' || c == '-'

/-- The name at the head of a text, and what follows it. A text in quotes behind `r` is no name,
and a name has to have its mark if it needs it. -/
def name? (cs : List Char) : Option (String × List Char) :=
  match cs with
  | 'r' :: '"' :: _ => none
  | ['r'] => none
  | 'r' :: '#' :: rest =>
    let name := rest.takeWhile isRawChar
    if name.isEmpty then none else some (String.ofList name, rest.drop name.length)
  | cs =>
    let name := cs.takeWhile isNameChar
    if !cs.head?.any isNameStart || (cs.takeWhile isRawChar).length > name.length then none
    else some (String.ofList name, cs.drop name.length)

/-- What follows a word at the head of a text, if the word ends there. -/
def behindWord? (word : String) (cs : List Char) : Option (List Char) :=
  let rest := cs.drop word.length
  if word.toList.isPrefixOf cs && !rest.head?.any isNameChar then some rest else none

/-! ## Texts -/

/-- The character of a number. -/
def charOf? (n : Nat) : Option Char :=
  if h : n.isValidChar then some (Char.ofNatAux n h) else none

/-- An escape behind its backslash, and what follows it. -/
def escape? : List Char → Option (Char × List Char)
  | '\'' :: rest => some ('\'', rest)
  | '"' :: rest => some ('"', rest)
  | '\\' :: rest => some ('\\', rest)
  | 'n' :: rest => some ('\n', rest)
  | 'r' :: rest => some ('\r', rest)
  | 't' :: rest => some ('\t', rest)
  | '0' :: rest => some ('\x00', rest)
  | 'x' :: a :: b :: rest => ((readHex? [a, b]).bind charOf?).map fun c => (c, rest)
  | 'u' :: '\x7b' :: rest =>
    let digits := (rest.take 6).takeWhile (· ≠ '\x7d')
    match (readHex? digits).bind charOf?, rest.drop digits.length with
    | some c, '\x7d' :: rest => if digits.isEmpty then none else some (c, rest)
    | _, _ => none
  | _ => none

/-- A text behind its first quote, and what follows it. -/
def readQuoted? : Nat → List Char → Option (List Char × List Char)
  | 0, _ => none
  | fuel + 1, cs =>
    match cs with
    | [] => none
    | '"' :: rest => some ([], rest)
    | '\\' :: rest =>
      (escape? rest).bind fun e => (readQuoted? fuel e.2).map fun p => (e.1 :: p.1, p.2)
    | c :: rest => (readQuoted? fuel rest).map fun p => (c :: p.1, p.2)

/-- The text up to a mark, and what follows the mark. -/
def upTo? (mark : List Char) : List Char → Option (List Char × List Char)
  | [] => none
  | c :: cs =>
    if mark.isPrefixOf (c :: cs) then some ([], (c :: cs).drop mark.length)
    else (upTo? mark cs).map fun p => (c :: p.1, p.2)

/-- A text without escapes behind its `r`, and what follows it. As many number signs as in front
of its first quote stand behind its last. -/
def readRaw? (cs : List Char) : Option (List Char × List Char) :=
  let signs := cs.takeWhile (· == '#')
  match cs.drop signs.length with
  | '"' :: rest => upTo? ('"' :: signs) rest
  | _ => none

/-- A character behind its first quote, and what follows it. -/
def readChar? (cs : List Char) : Option (Char × List Char) :=
  let read := match cs with
    | [] => none
    | '\\' :: rest => escape? rest
    | '\'' :: _ => none
    | c :: rest => some (c, rest)
  match read with
  | some (c, '\'' :: rest) => some (c, rest)
  | _ => none

/-! ## Numbers -/

/-- The value of digits of a base, of which the first is no underscore. -/
def digitsValue? (base : Nat) (cs : List Char) : Option Nat :=
  match cs with
  | [] | '_' :: _ => none
  | cs =>
    (cs.filter (· ≠ '_')).foldl (fun n c => match n, hexValue? c with
      | some n, some d => if d < base then some (base * n + d) else none
      | _, _ => none) (some 0)

/-- A character that can stand in an integer. -/
def isIntegerChar (c : Char) : Bool := (hexValue? c).isSome || c == '_'

/-- A character that can stand in a number with a fraction or an exponent. -/
def isRealChar (c : Char) : Bool :=
  c.isDigit || ['e', 'E', '.', '+', '-', '_'].contains c

/-- An integer without its sign, and what follows it. -/
def readInteger? (cs : List Char) : Option (Nat × List Char) :=
  let (base, cs) := match cs with
    | '0' :: 'x' :: rest => (16, rest)
    | '0' :: 'b' :: rest => (2, rest)
    | '0' :: 'o' :: rest => (8, rest)
    | cs => (10, cs)
  let digits := cs.takeWhile isIntegerChar
  (digitsValue? base digits).map fun n => (n, cs.drop digits.length)

/-- A number as a double, and what follows it. -/
def readReal? (cs : List Char) : Option (Value × List Char) :=
  let text := cs.takeWhile isRealChar
  if text.contains '_' then none
  else (Double.read? text).map fun x => (.real x, cs.drop text.length)

/-- The value of an integer. One without sign beyond 63 bits counts as a double. -/
def wholeValue? (signed minus : Bool) (n : Nat) : Option Value :=
  let size : Int := n
  let value := if minus then -size else size
  if -0x8000000000000000 ≤ value ∧ value < 0x8000000000000000 then some (.whole value)
  else if !signed ∧ n < 0x10000000000000000 then some (.real (Double.ofNat n))
  else none

/-- A number, and what follows it. What is no integer of 64 bits is read as a double. -/
def readNumber? (cs : List Char) : Option (Value × List Char) :=
  let (minus, unsigned) := Double.splitSign cs
  let signed := unsigned.length ≠ cs.length
  let whole :=
    if (unsigned.takeWhile isIntegerChar).length < (unsigned.takeWhile isRealChar).length then none
    else (readInteger? unsigned).bind fun p =>
      (wholeValue? signed minus p.1).map fun v => (v, p.2)
  whole.or (readReal? cs)

/-! ## Values -/

/-- The words that are values, and what they stand for. -/
def words : List (String × Value) :=
  [("true", .flag true), ("false", .flag false), ("None", .nothing),
   ("inf", .real (.infinite false)), ("-inf", .real (.infinite true)), ("NaN", .real .nan)]

/-- A value that one word spells, and what follows it. -/
def readWord? (cs : List Char) : Option (Value × List Char) :=
  words.findSome? fun w => (behindWord? w.1 cs).map fun rest => (w.2, rest)

/-- What a text holds: a value without members, or members by their keys. -/
inductive Tree where
  | leaf (v : Value)
  | node (members : List (String × Value))

/-- What is made of it as a setting. -/
def Tree.value : Tree → Value
  | .leaf v => v
  | .node _ => .compound

/-- Whether the text behind a parenthesis begins with the name and the colon of a member. -/
def beginsMember? (cs : List Char) : Option Bool :=
  match name? cs with
  | none => some false
  | some (_, rest) => (skip? rest).bind fun rest => rest.head?.map (· == ':')

mutual

/-- The tree at the head of a text, and what follows it. Lists, maps and structures count twice
for the depth that is left, values that may be absent once. The flag tells whether what stands
without parentheses behind `Some` counts as a value that is there. -/
def read? (bare : Bool) : Nat → Nat → List Char → Option (Tree × List Char)
  | 0, _, _ => none
  | fuel + 1, depth, cs =>
    match readWord? cs with
    | some (v, rest) => some (.leaf v, rest)
    | none =>
      match behindWord? "Some" cs with
      | some rest => (skip? rest).bind (readPresent? bare fuel depth)
      | none =>
        match cs, name? cs with
        | '(' :: ')' :: rest, _ => some (.leaf .nothing, rest)
        | _, some (_, rest) => (skip? rest).bind fun rest =>
          match rest with
          | '(' :: rest => (skip? rest).bind (readStructure? bare fuel depth)
          | rest => some (.leaf .nothing, rest)
        | '(' :: rest, none => (skip? rest).bind (readStructure? bare fuel depth)
        | '[' :: rest, none => (readItems? bare fuel depth ']' true rest).map fun rest =>
          (.leaf .compound, rest)
        | '\x7b' :: rest, none =>
          (readMembers? bare fuel depth false true rest).map fun p => (.node p.1, p.2)
        | '"' :: rest, none =>
          (readQuoted? (rest.length + 1) rest).map fun p => (.leaf (.text (String.ofList p.1)), p.2)
        | 'r' :: rest, none =>
          (readRaw? rest).map fun p => (.leaf (.text (String.ofList p.1)), p.2)
        | '\'' :: rest, none =>
          (readChar? rest).map fun p => (.leaf (.text (String.singleton p.1)), p.2)
        | cs, none =>
          (if cs.head? = some '.' then readReal? cs else readNumber? cs).map fun p =>
            (.leaf p.1, p.2)

/-- The tree behind the word `Some`. -/
def readPresent? (bare : Bool) : Nat → Nat → List Char → Option (Tree × List Char)
  | fuel + 1, depth + 1, '(' :: rest =>
    (skip? rest).bind fun rest =>
      (read? bare fuel depth rest).bind fun p =>
        (comma? p.2).bind fun q => match q.2 with
          | ')' :: rest => some (p.1, rest)
          | _ => none
  | fuel + 1, depth + 1, cs => if bare then read? bare fuel depth cs else none
  | _, _, _ => none

/-- A structure or a row of values behind its parenthesis. -/
def readStructure? (bare : Bool) : Nat → Nat → List Char → Option (Tree × List Char)
  | 0, _, _ => none
  | fuel + 1, depth, cs =>
    match beginsMember? cs with
    | none => none
    | some true => (readMembers? bare fuel depth true true cs).map fun p => (.node p.1, p.2)
    | some false => (readItems? bare fuel depth ')' true cs).map fun rest =>
      (.leaf .compound, rest)

/-- What follows values up to a mark. The flag tells whether a value may come next. -/
def readItems? (bare : Bool) : Nat → Nat → Char → Bool → List Char → Option (List Char)
  | fuel + 1, depth + 1, close, ready, cs =>
    (skip? cs).bind fun cs =>
      if cs.head? = some close then some (cs.drop 1)
      else
        match ready, depth with
        | true, inner + 1 =>
          (read? bare fuel inner cs).bind fun p =>
            (comma? p.2).bind fun q => readItems? bare fuel (depth + 1) close q.1 q.2
        | _, _ => none
  | _, _, _, _, _ => none

/-- Members of a structure or of a map, and what follows them. -/
def readMembers? (bare : Bool) :
    Nat → Nat → Bool → Bool → List Char → Option (List (String × Value) × List Char)
  | fuel + 1, depth + 1, named, ready, cs =>
    (skip? cs).bind fun cs =>
      if cs.head? = some (if named then ')' else '\x7d') then some ([], cs.drop 1)
      else
        match ready, depth with
        | true, inner + 1 =>
          let key :=
            if named then name? cs
            else if (behindWord? "Some" cs).isSome then none
            else (read? bare fuel inner cs).bind fun p => match p.1 with
              | .leaf (.text s) => some (s, p.2)
              | _ => none
          key.bind fun k =>
            (skip? k.2).bind fun rest => match rest with
              | ':' :: rest =>
                (skip? rest).bind fun rest =>
                  (read? bare fuel inner rest).bind fun p =>
                    (comma? p.2).bind fun q =>
                      (readMembers? bare fuel (depth + 1) named q.1 q.2).map fun r =>
                        ((k.1, p.1.value) :: r.1, r.2)
              | _ => none
        | _, _ => none
  | _, _, _, _, _ => none

end

/-! ## Attributes -/

/-- The attributes that are known. -/
def attributes : List String := ["unwrap_newtypes", "implicit_some", "unwrap_variant_newtypes"]

/-- The names of attributes up to their end, and what follows them. -/
def attributeNames? : Nat → List Char → Option (List String × List Char)
  | 0, _ => none
  | fuel + 1, cs =>
    (name? cs).bind fun n =>
      if !attributes.contains n.1 then none
      else
        (comma? n.2).bind fun q =>
          if q.1 && q.2.head?.any isNameChar then
            (attributeNames? fuel q.2).map fun p => (n.1 :: p.1, p.2)
          else some ([n.1], q.2)

/-- The attributes in front of a text, and the text behind them. -/
def readAttributes? : Nat → List Char → Option (List String × List Char)
  | 0, _ => none
  | fuel + 1, cs =>
    match cs with
    | '#' :: _ =>
      (behindAll? ["#", "!", "[", "enable", "("] cs).bind fun cs =>
        (attributeNames? (cs.length + 1) cs).bind fun p =>
          (behindAll? [")", "]"] p.2).bind fun rest =>
            (readAttributes? fuel rest).map fun q => (p.1 ++ q.1, q.2)
    | cs => some ([], cs)

/-- How deep values may be nested. -/
def depthLimit : Nat := 128

end EditWatch.Config.Ron

namespace EditWatch.Config.Layer

/-- The layer of a RON text, which has to be a map or a structure. -/
def ofRonText? (text : String) : Option Layer := do
  let cs ← Ron.skip? text.toList
  let (attributes, cs) ← Ron.readAttributes? (cs.length + 1) cs
  let bare := attributes.contains "implicit_some"
  match ← Ron.read? bare (4 * cs.length + 4) Ron.depthLimit cs with
  | (.node members, rest) =>
    if (← Ron.skip? rest).isEmpty then some (ofEntries members) else none
  | _ => none

end EditWatch.Config.Layer
