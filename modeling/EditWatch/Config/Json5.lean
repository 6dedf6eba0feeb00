import EditWatch.Config.Layer
import EditWatch.Text.Blank
import EditWatch.Text.Letter

/-!
# EditWatch.Config.Json5 -- settings in JSON5

The root is an object. A key may be a word without quotes, texts may stand in quotes of either
kind, numbers have the forms of a programming language, a comma may follow the last member, and
comments count as white space.
-/

namespace EditWatch.Config.Json5

open EditWatch.Number EditWatch.Text

/-! ## Space -/

/-- The characters that end a line. -/
def isLineEnd (c : Char) : Bool := c == '\n' || c == '\r' || c == '\u2028' || c == '\u2029'

/-- White space: that of all scripts, without the next line, and the byte order mark. -/
def isSpace (c : Char) : Bool := (Text.isBlank c && c != '\x85') || c == '\uFEFF'

/-- What follows a comment behind its mark. -/
def behindComment? : List Char → Option (List Char)
  | [] => none
  | '*' :: '/' :: rest => some rest
  | _ :: rest => behindComment? rest

/-- The text behind white space and comments. A comment that does not end is none. -/
def skipSpace : Nat → List Char → List Char
  | 0, cs => cs
  | fuel + 1, cs =>
    match cs.dropWhile isSpace with
    | '/' :: '/' :: rest => skipSpace fuel (rest.dropWhile (!isLineEnd ·))
    | '/' :: '*' :: rest =>
      match behindComment? rest with
      | some rest => skipSpace fuel rest
      | none => '/' :: '*' :: rest
    | rest => rest

/-- The text behind all white space and comments at its head. -/
def skip (cs : List Char) : List Char := skipSpace (cs.length + 1) cs

/-! ## Texts -/

/-- The 16-bit unit of four hexadecimal digits, and what follows it. -/
def readUnit? : List Char → Option (Json.Piece × List Char)
  | a :: b :: c :: d :: rest => (readHex? [a, b, c, d]).map fun n => (.unit n, rest)
  | _ => none

/-- The character that a letter behind a backslash stands for; most stand for themselves. -/
def plainEscape (c : Char) : Char :=
  match c with
  | 'b' => '\x08'
  | 'f' => '\x0c'
  | 'n' => '\n'
  | 'r' => '\r'
  | 't' => '\t'
  | 'v' => '\x0b'
  | '0' => '\x00'
  | c => c

/-- An escape behind its backslash, and what follows it. One that ends a line adds nothing. -/
def escape? : List Char → Option (List Json.Piece × List Char)
  | [] => none
  | 'u' :: rest => (readUnit? rest).map fun p => ([p.1], p.2)
  | 'x' :: a :: b :: rest => (readHex? [a, b]).map fun n => ([.char (Char.ofNat n)], rest)
  | '\r' :: '\n' :: rest => some ([], rest)
  | c :: rest =>
    if isLineEnd c then some ([], rest)
    else if c == 'x' || (c.isDigit && c != '0') then none
    else some ([.char (plainEscape c)], rest)

/-- The pieces of a text up to its closing quote, and what follows it. -/
def readPieces? (quote : Char) : Nat → List Char → Option (List Json.Piece × List Char)
  | 0, _ => none
  | fuel + 1, cs =>
    match cs with
    | [] => none
    | c :: rest =>
      if c == quote then some ([], rest)
      else if c == '\\' then
        (escape? rest).bind fun e =>
          (readPieces? quote fuel e.2).map fun p => (e.1 ++ p.1, p.2)
      else if isLineEnd c then none
      else (readPieces? quote fuel rest).map fun p => (.char c :: p.1, p.2)

/-- The text of pieces. -/
def textOf? (p : List Json.Piece × List Char) : Option (String × List Char) :=
  (Json.joinPieces p.1).map fun cs => (String.ofList cs, p.2)

/-- A text behind its first quote, and what follows it. -/
def readQuoted? (quote : Char) (cs : List Char) : Option (String × List Char) :=
  (readPieces? quote (cs.length + 1) cs).bind textOf?

/-- The pieces of a word, and what follows it; the flag tells whether its first is gone. -/
def wordPieces (inside : Bool) : Nat → List Char → List Json.Piece × List Char
  | 0, cs => ([], cs)
  | fuel + 1, cs =>
    let next := match cs with
      | '\\' :: 'u' :: rest => readUnit? rest
      | c :: rest =>
        if c == '$' || c == '_' || startsWord c || (inside && continuesWord c) then
          some (.char c, rest)
        else none
      | [] => none
    match next with
    | none => ([], cs)
    | some (piece, rest) =>
      let (pieces, behind) := wordPieces true fuel rest
      (piece :: pieces, behind)

/-- A key, and what follows it. -/
def readKey? (cs : List Char) : Option (String × List Char) :=
  match cs with
  | '"' :: rest => readQuoted? '"' rest
  | '\'' :: rest => readQuoted? '\'' rest
  | cs =>
    let word := wordPieces false (cs.length + 1) cs
    if word.1.isEmpty then none else textOf? word

/-! ## Numbers -/

/-- The text behind a word at its head. -/
def behind? (word : String) (cs : List Char) : Option (List Char) :=
  if word.toList.isPrefixOf cs then some (cs.drop word.length) else none

/-- The exponent at the head of a text; nothing if there are no digits in it. -/
def exponentText (cs : List Char) : List Char :=
  match cs with
  | e :: rest =>
    let sign := rest.takeWhile fun c => c == '+' || c == '-'
    let digits := (rest.drop sign.length).takeWhile Char.isDigit
    if (e == 'e' || e == 'E') && sign.length ≤ 1 && !digits.isEmpty then e :: (sign ++ digits)
    else []
  | [] => []

/-- The digits in front of a point: zero stands alone. -/
def wholeText (cs : List Char) : List Char :=
  match cs with
  | '0' :: _ => ['0']
  | cs => cs.takeWhile Char.isDigit

/-- The decimal number without a sign at the head of a text, and what follows it. -/
def decimalText? (cs : List Char) : Option (List Char × List Char) :=
  let whole := wholeText cs
  let fraction := match cs.drop whole.length with
    | '.' :: rest => '.' :: rest.takeWhile Char.isDigit
    | _ => []
  if whole.isEmpty && fraction.length ≤ 1 then none
  else
    let mantissa := whole ++ fraction
    let text := mantissa ++ exponentText (cs.drop mantissa.length)
    some (text, cs.drop text.length)

/-- The value of a decimal number. One without point and exponent has to be an integer of 64 bits,
and any other a finite double. -/
def decimalValue? (text : List Char) : Option Value :=
  if text.any fun c => c == '.' || c == 'e' || c == 'E' then
    match Double.read? text with
    | some (.finite negative m e) => some (.real (.finite negative m e))
    | _ => none
  else (readSigned64? text).map .whole

/-- A number in hexadecimal behind its mark, and what follows it. It has 32 bits and no sign. -/
def readHexadecimal? (sign : List Char) (cs : List Char) : Option (Value × List Char) :=
  let digits := cs.takeWhile fun c => (hexValue? c).isSome
  match readHex? digits with
  | some n =>
    if sign.isEmpty && n < 0x100000000 then some (.whole n, cs.drop digits.length) else none
  | none => none

/-- A number behind its sign, and what follows it. -/
def readUnsigned? (sign : List Char) (cs : List Char) : Option (Value × List Char) :=
  let decimal := (decimalText? cs).bind fun p =>
    (decimalValue? (sign ++ p.1)).map fun v => (v, p.2)
  match cs with
  | '0' :: x :: d :: rest =>
    if (x == 'x' || x == 'X') && (hexValue? d).isSome then readHexadecimal? sign (d :: rest)
    else decimal
  | cs =>
    match behind? "Infinity" cs, behind? "NaN" cs with
    | some rest, _ =>
      if sign == ['+'] then none else some (.real (.infinite (sign == ['-'])), rest)
    | none, some rest => if sign == ['+'] then none else some (.real .nan, rest)
    | none, none => decimal

/-- A number, and what follows it. -/
def readNumber? (cs : List Char) : Option (Value × List Char) :=
  match cs with
  | '+' :: rest => readUnsigned? ['+'] rest
  | '-' :: rest => readUnsigned? ['-'] rest
  | cs => readUnsigned? [] cs

/-! ## Values -/

/-- A value that one word spells, and what follows it. -/
def readWord? (cs : List Char) : Option (Value × List Char) :=
  match behind? "null" cs, behind? "true" cs, behind? "false" cs with
  | some rest, _, _ => some (.nothing, rest)
  | none, some rest, _ => some (.flag true, rest)
  | none, none, some rest => some (.flag false, rest)
  | none, none, none => none

mutual

/-- The value at the head of a text, and what follows it. -/
def readValue? : Nat → List Char → Option (Value × List Char)
  | 0, _ => none
  | fuel + 1, cs =>
    match cs with
    | '"' :: rest => (readQuoted? '"' rest).map fun p => (.text p.1, p.2)
    | '\'' :: rest => (readQuoted? '\'' rest).map fun p => (.text p.1, p.2)
    | '[' :: rest => (readItems? fuel true (skip rest)).map fun rest => (.compound, rest)
    | '\x7b' :: rest => (readMembers? fuel true (skip rest)).map fun p => (.compound, p.2)
    | cs => (readWord? cs).or (readNumber? cs)

/-- What follows an array whose bracket is gone. The flag tells whether an item or the end may
come next. -/
def readItems? : Nat → Bool → List Char → Option (List Char)
  | 0, _, _ => none
  | fuel + 1, ready, cs =>
    match cs with
    | ']' :: rest => some rest
    | cs =>
      if !ready then none
      else
        (readValue? fuel cs).bind fun p =>
          match skip p.2 with
          | ',' :: rest => readItems? fuel true (skip rest)
          | rest => readItems? fuel false rest

/-- The members of an object whose brace is gone, and what follows it. -/
def readMembers? : Nat → Bool → List Char → Option (List (String × Value) × List Char)
  | 0, _, _ => none
  | fuel + 1, ready, cs =>
    match cs with
    | '\x7d' :: rest => some ([], rest)
    | cs =>
      if !ready then none
      else
        (readKey? cs).bind fun k =>
          match skip k.2 with
          | ':' :: rest =>
            (readValue? fuel (skip rest)).bind fun v =>
              let others := match skip v.2 with
                | ',' :: rest => readMembers? fuel true (skip rest)
                | rest => readMembers? fuel false rest
              others.map fun p => ((k.1, v.1) :: p.1, p.2)
          | _ => none

end

end EditWatch.Config.Json5

namespace EditWatch.Config.Layer

/-- The layer of a JSON5 text, which has to be an object. -/
def ofJson5Text? (text : String) : Option Layer :=
  match Json5.skip text.toList with
  | '\x7b' :: rest =>
    (Json5.readMembers? (2 * rest.length + 2) true (Json5.skip rest)).bind fun p =>
      if (Json5.skip p.2).isEmpty then some (ofEntries p.1) else none
  | _ => none

end EditWatch.Config.Layer
