import EditWatch.Config.Layer

/-!
# EditWatch.Config.Toml -- settings in TOML

A text is a sequence of lines: assignments, and headers that open a table for the assignments
below. Settings stand above all headers; what is said below one leads into a table. No name may be
given twice, and none may be both a value and a table.
-/

namespace EditWatch.Config.Toml

open EditWatch.Number EditWatch.Text

/-! ## Space -/

def isBlank (c : Char) : Bool := c == ' ' || c == '\t'

def skipBlank (cs : List Char) : List Char := cs.dropWhile isBlank

/-- A control character that may not stand in a line. -/
def isControl (c : Char) : Bool := (c.toNat < 0x20 && c != '\t') || c.toNat == 0x7F

/-- What follows a line break at the head of a text. -/
def lineBreak? : List Char → Option (List Char)
  | '\n' :: rest => some rest
  | '\r' :: '\n' :: rest => some rest
  | _ => none

/-- A comment at the head of a text, and what follows it. -/
def skipComment? (cs : List Char) : Option (List Char) :=
  match cs with
  | '#' :: rest =>
    let line := rest.takeWhile (· ≠ '\n')
    let behind := rest.dropWhile (· ≠ '\n')
    let line := if behind.isEmpty || line.getLast? ≠ some '\r' then line else line.dropLast
    if line.any isControl then none else some behind
  | _ => some cs

/-- The end of a line: blanks, a comment, and a line break or the end of the text. -/
def lineEnd? (cs : List Char) : Option (List Char) :=
  match skipComment? (skipBlank cs) with
  | some [] => some []
  | some rest => lineBreak? rest
  | none => none

/-- The text behind blanks, comments and line breaks. -/
def skipLines : Nat → List Char → List Char
  | 0, cs => cs
  | fuel + 1, cs =>
    match skipBlank cs with
    | [] => []
    | rest => match lineEnd? rest with
      | some behind => skipLines fuel behind
      | none => rest

/-! ## Texts in quotes -/

/-- The character of a number in hexadecimal, if there is one. -/
def charOfHex? (ds : List Char) : Option Char :=
  (readHex? ds).bind fun n => if h : n.isValidChar then some (Char.ofNatAux n h) else none

/-- An escape behind its backslash, and what follows it. -/
def escape? : List Char → Option (Char × List Char)
  | 'b' :: rest => some ('\x08', rest)
  | 't' :: rest => some ('\t', rest)
  | 'n' :: rest => some ('\n', rest)
  | 'f' :: rest => some ('\x0c', rest)
  | 'r' :: rest => some ('\r', rest)
  | '"' :: rest => some ('"', rest)
  | '\\' :: rest => some ('\\', rest)
  | 'u' :: rest =>
    if rest.length < 4 then none else (charOfHex? (rest.take 4)).map fun c => (c, rest.drop 4)
  | 'U' :: rest =>
    if rest.length < 8 then none else (charOfHex? (rest.take 8)).map fun c => (c, rest.drop 8)
  | _ => none

/-- A text up to its closing quote, on one line. Escapes count in double quotes only. -/
def readQuoted? (quote : Char) : Nat → List Char → Option (List Char × List Char)
  | 0, _ => none
  | fuel + 1, cs =>
    match cs with
    | [] => none
    | c :: rest =>
      if c == quote then some ([], rest)
      else if c == '\\' && quote == '"' then
        (escape? rest).bind fun e => (readQuoted? quote fuel e.2).map fun p => (e.1 :: p.1, p.2)
      else if isControl c then none
      else (readQuoted? quote fuel rest).map fun p => (c :: p.1, p.2)

/-- The text behind blanks and line breaks. -/
def skipSpace : Nat → List Char → List Char
  | 0, cs => cs
  | fuel + 1, cs =>
    match lineBreak? (skipBlank cs) with
    | some rest => skipSpace fuel rest
    | none => skipBlank cs

/-- A text up to three closing quotes, on several lines. Up to two quotes more belong to the text.
Every line break counts as a line feed. In double quotes a backslash takes away all space behind
it if a line break is in it. -/
def readLong? (quote : Char) : Nat → List Char → Option (List Char × List Char)
  | 0, _ => none
  | fuel + 1, cs =>
    match cs with
    | [] => none
    | c :: rest =>
      let quotes := cs.takeWhile (· == quote)
      if c == quote && quotes.length ≥ 3 then
        if quotes.length ≤ 5 then some (quotes.drop 3, cs.drop quotes.length) else none
      else if c == '\\' && quote == '"' then
        match lineBreak? (skipBlank rest) with
        | some behind => readLong? quote fuel (skipSpace (behind.length + 1) behind)
        | none =>
          (escape? rest).bind fun e => (readLong? quote fuel e.2).map fun p => (e.1 :: p.1, p.2)
      else match lineBreak? cs with
        | some behind => (readLong? quote fuel behind).map fun p => ('\n' :: p.1, p.2)
        | none =>
          if isControl c then none
          else (readLong? quote fuel rest).map fun p => (c :: p.1, p.2)

/-! ## Keys -/

/-- A character of a key without quotes. -/
def isKeyChar (c : Char) : Bool := c.isAlphanum || c == '_' || c == '-'

/-- One part of a key, and what follows it. -/
def keyPart? (fuel : Nat) (cs : List Char) : Option (String × List Char) :=
  match cs with
  | '"' :: rest => (readQuoted? '"' fuel rest).map fun p => (String.ofList p.1, p.2)
  | '\'' :: rest => (readQuoted? '\'' fuel rest).map fun p => (String.ofList p.1, p.2)
  | cs =>
    let name := cs.takeWhile isKeyChar
    if name.isEmpty then none else some (String.ofList name, cs.drop name.length)

/-- The parts of a key between dots, and what follows it. -/
def keyParts? : Nat → List Char → Option (List String × List Char)
  | 0, _ => none
  | fuel + 1, cs =>
    (keyPart? (cs.length + 1) (skipBlank cs)).bind fun p =>
      match skipBlank p.2 with
      | '.' :: rest => (keyParts? fuel rest).map fun q => (p.1 :: q.1, q.2)
      | rest => some ([p.1], rest)

/-- Keys have fewer parts, and lists and tables are nested less deeply. -/
def depthLimit : Nat := 80

/-- The key at the head of a text, and what follows it. -/
def key? (cs : List Char) : Option (List String × List Char) :=
  (keyParts? (cs.length + 1) cs).filter fun p => p.1.length < depthLimit

/-! ## Numbers and dates -/

/-- Digits, with an underscore allowed between two of them. -/
def digits? (isDigit : Char → Bool) (cs : List Char) : Option (List Char) :=
  let parts := pieces (· == '_') cs
  if parts.all fun p => !p.isEmpty && p.all isDigit then some parts.flatten else none

/-- Decimal digits without a zero in front of others. -/
def wholeDigits? (cs : List Char) : Option (List Char) :=
  (digits? Char.isDigit cs).bind fun ds =>
    match ds with
    | '0' :: _ :: _ => none
    | ds => some ds

/-- A number of 64 bits. -/
def bounded? (n : Int) : Option Value :=
  if -0x8000000000000000 ≤ n ∧ n < 0x8000000000000000 then some (.whole n) else none

/-- A number in another base, behind its mark. -/
def based? (base : Nat) (cs : List Char) : Option Value :=
  let isDigit (c : Char) : Bool := (hexValue? c).any (· < base)
  (digits? isDigit cs).bind fun ds =>
    let n : Nat := (ds.filterMap hexValue?).foldl (fun n d => base * n + d) 0
    bounded? n

/-- A fraction behind its point and an exponent behind its mark, either of which may be missing,
have digits. -/
def fractionFits (cs : List Char) : Bool :=
  let isMark (c : Char) : Bool := c == 'e' || c == 'E'
  let fits (ds : List Char) : Bool := (digits? Char.isDigit ds).isSome
  let before := cs.takeWhile fun c => !isMark c
  let exponent := cs.drop before.length
  (match before with
    | [] => true
    | c :: ds => c == '.' && fits ds) &&
    (match exponent with
      | [] => true
      | _ :: ds => fits (Double.splitSign ds).2)

/-- A number with a point or an exponent. None is above all doubles. -/
def real? (cs : List Char) : Option Value :=
  match Double.read? cs with
  | none | some (.infinite false) => none
  | some x => some (.real x)

/-- A decimal number. -/
def decimal? (cs : List Char) : Option Value :=
  let (minus, unsigned) := Double.splitSign cs
  let whole := unsigned.takeWhile fun c => c.isDigit || c == '_'
  let rest := unsigned.drop whole.length
  (wholeDigits? whole).bind fun ds =>
    if rest.isEmpty then
      bounded? (if minus then -(decimalValue ds : Int) else decimalValue ds)
    else if fractionFits rest then real? (cs.filter (· ≠ '_'))
    else none

/-- Whether a word has the form of digits at the zeros of a pattern and its marks elsewhere. -/
def matchesForm (form : String) (cs : List Char) : Bool :=
  form.length == cs.length &&
    (form.toList.zip cs).all fun p => if p.1 == '0' then p.2.isDigit else p.1 == p.2

/-- How many days a month has. -/
def monthLength (year month : Nat) : Nat :=
  if month = 2 then (if year % 4 = 0 ∧ (year % 100 ≠ 0 ∨ year % 400 = 0) then 29 else 28)
  else if month = 4 ∨ month = 6 ∨ month = 9 ∨ month = 11 then 30
  else 31

/-- A day of the calendar. -/
def isDay (cs : List Char) : Bool :=
  matchesForm "0000-00-00" cs &&
    (let month := decimalValue ((cs.drop 5).take 2)
     let day := decimalValue (cs.drop 8)
     1 ≤ month && month ≤ 12 && 1 ≤ day && day ≤ monthLength (decimalValue (cs.take 4)) month)

/-- Hours and minutes. -/
def isHour (cs : List Char) : Bool :=
  matchesForm "00:00" cs && decimalValue (cs.take 2) < 24 && decimalValue (cs.drop 3) < 60

/-- The text without zeros at its end. -/
def withoutZeros (ds : List Char) : List Char := (ds.reverse.dropWhile (· == '0')).reverse

/-- A time of day, and what follows it. A fraction of a second has nine digits at most, and no
zeros at its end. -/
def time? (cs : List Char) : Option (List Char × List Char) :=
  let clock := cs.take 8
  if isHour (clock.take 5) && matchesForm ":00" (clock.drop 5) &&
      decimalValue (clock.drop 6) ≤ 60 then
    match cs.drop 8 with
    | '.' :: rest =>
      let ds := rest.takeWhile Char.isDigit
      if ds.isEmpty then none
      else
        let kept := withoutZeros (ds.take 9)
        some (clock ++ (if kept.isEmpty then [] else '.' :: kept), rest.drop ds.length)
    | rest => some (clock, rest)
  else none

/-- The offset of a time. That of zero is positive. -/
def offset? (cs : List Char) : Option (List Char) :=
  match cs with
  | [] => some []
  | ['Z'] => some ['Z']
  | c :: rest =>
    if (c == '+' || c == '-') && isHour rest then
      some ((if rest == "00:00".toList then '+' else c) :: rest)
    else none

/-- A date or a time counts as a text, with large letters in it. -/
def date? (cs : List Char) : Option Value :=
  let cs := cs.map fun c => if c == 't' then 'T' else if c == 'z' then 'Z' else c
  let text? := match time? cs with
    | some (time, []) => some time
    | _ =>
      if !isDay (cs.take 10) then none
      else match cs.drop 10 with
        | [] => some cs
        | 'T' :: rest =>
          (time? rest).bind fun p => (offset? p.2).map fun o => cs.take 11 ++ p.1 ++ o
        | _ => none
  text?.map fun t => .text (String.ofList t)

/-- The value of a word. -/
def word? (cs : List Char) : Option Value :=
  match cs with
  | '0' :: 'x' :: rest => based? 16 rest
  | '0' :: 'o' :: rest => based? 8 rest
  | '0' :: 'b' :: rest => based? 2 rest
  | cs =>
    match String.ofList cs with
    | "true" => some (.flag true)
    | "false" => some (.flag false)
    | "inf" | "+inf" => some (.real (.infinite false))
    | "-inf" => some (.real (.infinite true))
    | "nan" | "+nan" | "-nan" => some (.real .nan)
    | _ => (decimal? cs).or (date? cs)

/-- A character of a word. -/
def isWordChar (c : Char) : Bool := isKeyChar c || c == '+' || c == '.' || c == ':'

/-- The word at the head of a text, and what follows it. Between a day and a time of day a space
may stand. -/
def splitWord (cs : List Char) : List Char × List Char :=
  let word := cs.takeWhile isWordChar
  let rest := cs.drop word.length
  match rest with
  | ' ' :: more =>
    let time := more.takeWhile isWordChar
    if isDay word && time.head?.any Char.isDigit then
      (word ++ 'T' :: time, more.drop time.length)
    else (word, rest)
  | _ => (word, rest)

/-! ## Names -/

/-- What a name stands for: a value, a table that has a header of its own, a table that only
headers of its tables mention, a table that dotted keys fill, or a list of tables. -/
inductive Role where
  | value
  | headed
  | mentioned
  | dotted
  | tables (count : Nat)
  deriving Repr, DecidableEq

/-- The roles of names, the latest first. A name is a path from the root. -/
abbrev Names := List (List String × Role)

namespace Names

def role? (ns : Names) (path : List String) : Option Role :=
  (ns.find? fun n => n.1 == path).map Prod.snd

/-- The part of a name that stands for one table of a list. -/
def inList (path : List String) (count : Nat) : List String := path ++ ["#" ++ toString count]

/-- A value given to a key below a table. A key with dots ends in a table that dotted keys fill;
it may lead there through tables without a header and through lists of tables. The flag tells
whether the table at hand is one for the end of the key. -/
def assignTo? (ns : Names) (fits : Bool) (table : List String) : List String → Option Names
  | [] => none
  | [k] =>
    let path := table ++ [k]
    match fits, ns.role? path with
    | true, none => some ((path, .value) :: ns)
    | _, _ => none
  | k :: ks =>
    let path := table ++ [k]
    match ns.role? path with
    | none => assignTo? ((path, .dotted) :: ns) true path ks
    | some .dotted => ns.assignTo? true path ks
    | some .mentioned => ns.assignTo? false path ks
    | some (.tables n) => ns.assignTo? false (inList path n) ks
    | some _ => none

/-- A value given to a key below the table of the last header. -/
def assign? (ns : Names) (table path : List String) : Option Names := ns.assignTo? true table path

/-- A header: the names afterwards, and the table that it opens. -/
def opened? (ns : Names) (isList : Bool) (table : List String) :
    List String → Option (Names × List String)
  | [] => none
  | [k] =>
    let path := table ++ [k]
    match isList, ns.role? path with
    | false, none | false, some .mentioned => some ((path, .headed) :: ns, path)
    | true, none => some ((path, .tables 0) :: ns, inList path 0)
    | true, some (.tables n) => some ((path, .tables (n + 1)) :: ns, inList path (n + 1))
    | _, _ => none
  | k :: ks =>
    let path := table ++ [k]
    match ns.role? path with
    | none => opened? ((path, .mentioned) :: ns) isList path ks
    | some .value => none
    | some (.tables n) => ns.opened? isList (inList path n) ks
    | some _ => ns.opened? isList path ks

end Names

/-! ## Values -/

mutual

/-- The value at the head of a text, inside so many lists and tables, and what follows it. -/
def readValue? : Nat → Nat → List Char → Option (Value × List Char)
  | 0, _, _ => none
  | fuel + 1, depth, cs =>
    let textOf (p : List Char × List Char) : Value × List Char := (.text (String.ofList p.1), p.2)
    let long (quote : Char) (rest : List Char) : Option (Value × List Char) :=
      let inside := (lineBreak? rest).getD rest
      (readLong? quote (inside.length + 1) inside).map textOf
    let inner := depth + 1
    match cs with
    | '"' :: '"' :: '"' :: rest => long '"' rest
    | '\'' :: '\'' :: '\'' :: rest => long '\'' rest
    | '"' :: rest => (readQuoted? '"' (rest.length + 1) rest).map textOf
    | '\'' :: rest => (readQuoted? '\'' (rest.length + 1) rest).map textOf
    | '[' :: rest =>
      if inner < depthLimit then (readItems? fuel inner rest).map fun rest => (.compound, rest)
      else none
    | '\x7b' :: rest =>
      if inner < depthLimit then
        (readPairs? fuel inner true [] rest).map fun rest => (.compound, rest)
      else none
    | cs => (word? (splitWord cs).1).map fun v => (v, (splitWord cs).2)

/-- What follows a list whose bracket is gone. -/
def readItems? : Nat → Nat → List Char → Option (List Char)
  | 0, _, _ => none
  | fuel + 1, depth, cs =>
    match skipLines (cs.length + 1) cs with
    | ']' :: rest => some rest
    | rest =>
      match readValue? fuel depth rest with
      | none => none
      | some (_, rest) =>
        match skipLines (rest.length + 1) rest with
        | ',' :: rest => readItems? fuel depth rest
        | ']' :: rest => some rest
        | _ => none

/-- What follows a table in braces whose first brace is gone; the flag tells whether it may end
here. -/
def readPairs? : Nat → Nat → Bool → Names → List Char → Option (List Char)
  | 0, _, _, _, _ => none
  | fuel + 1, depth, mayEnd, ns, cs =>
    match skipBlank cs with
    | '\x7d' :: rest => if mayEnd then some rest else none
    | rest =>
      match key? rest with
      | some (path, '=' :: rest) =>
        match ns.assign? [] path, readValue? fuel depth (skipBlank rest) with
        | some ns, some (_, rest) =>
          match skipBlank rest with
          | ',' :: rest => readPairs? fuel depth false ns rest
          | '\x7d' :: rest => some rest
          | _ => none
        | _, _ => none
      | _ => none

end

/-! ## Lines -/

/-- A header whose first bracket is gone: whether it opens a table of a list, its key, and what
follows the line. -/
def header? (cs : List Char) : Option (Bool × List String × List Char) :=
  match cs with
  | '[' :: rest =>
    match key? rest with
    | some (path, ']' :: ']' :: rest) => (lineEnd? rest).map fun rest => (true, path, rest)
    | _ => none
  | rest =>
    match key? rest with
    | some (path, ']' :: rest) => (lineEnd? rest).map fun rest => (false, path, rest)
    | _ => none

/-- The values of a text, each under the first part of its name. -/
def readLines? : Nat → Names → List String → List Char → Option (List (String × Value))
  | 0, _, _, _ => none
  | fuel + 1, ns, table, cs =>
    match skipLines (cs.length + 1) cs with
    | [] => some []
    | '[' :: rest =>
      match header? rest with
      | none => none
      | some (isList, path, rest) =>
        match ns.opened? isList [] path with
        | none => none
        | some (ns, table) =>
          (readLines? fuel ns table rest).map fun es => (path.headD "", .compound) :: es
    | rest =>
      match key? rest with
      | some (path, '=' :: rest) =>
        match ns.assign? table path, readValue? (2 * rest.length + 1) 0 (skipBlank rest) with
        | some ns, some (v, rest) =>
          let entry := match table ++ path with
            | [k] => (k, v)
            | ks => (ks.headD "", .compound)
          (lineEnd? rest).bind fun rest => (readLines? fuel ns table rest).map (entry :: ·)
        | _, _ => none
      | _ => none

end EditWatch.Config.Toml

namespace EditWatch.Config.Layer

/-- The layer of a TOML text, before which a byte order mark may stand. -/
def ofTomlText? (text : String) : Option Layer :=
  let cs := match text.toList with
    | '\uFEFF' :: rest => rest
    | cs => cs
  (Toml.readLines? (cs.length + 1) [] [] cs).map ofEntries

end EditWatch.Config.Layer
