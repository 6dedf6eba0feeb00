import EditWatch.Json.Numeral
import EditWatch.Json.Quoted

/-!
# EditWatch.Json.Text -- JSON as text

The reader accepts the grammar of JSON and nothing more: no comments, no comma before a closing
bracket, nothing behind the value but white space. A container inside `maxDepth` others, a number
out of range and a string with half of a surrogate pair keep their form but lose their value; they
become `Json.unreadable`.

The writer is compact; `renderIndented` is the same with a line for every item and member.
-/

namespace EditWatch.Json

/-- The characters that may stand between tokens. -/
def isSpace (c : Char) : Bool := c == ' ' || c == '\t' || c == '\n' || c == '\r'

/-- How many containers may stand around and at a value that is read. -/
def maxDepth : Nat := 127

/-- The text without the white space at its head. -/
def skipSpace (cs : List Char) : List Char := cs.dropWhile isSpace

/-- The value of a string in quotes whose opening quote is gone; the flag tells whether its
escapes make sense. -/
def readString? (cs : List Char) : Option (Option String × List Char) :=
  (readPieces cs).map fun p => ((joinPieces p.1).map String.ofList, p.2)

/-- A container at a depth: out of reach below `maxDepth`. -/
def atDepth (depth : Nat) (j : Json) : Json :=
  if depth < maxDepth then j else .unreadable

mutual

/-- The value at the head of a text without leading space, and what follows it. `depth` counts
the containers around it. The fuel bounds the number of steps. -/
def readValue? : Nat → Nat → List Char → Option (Json × List Char)
  | 0, _, _ => none
  | fuel + 1, depth, cs =>
    match cs with
    | 'n' :: 'u' :: 'l' :: 'l' :: rest => some (.null, rest)
    | 't' :: 'r' :: 'u' :: 'e' :: rest => some (.bool true, rest)
    | 'f' :: 'a' :: 'l' :: 's' :: 'e' :: rest => some (.bool false, rest)
    | '"' :: rest => (readString? rest).map fun p => ((p.1.map Json.str).getD .unreadable, p.2)
    | '[' :: rest =>
      match skipSpace rest with
      | ']' :: rest => some (atDepth depth (.arr []), rest)
      | rest => (readItems? fuel (depth + 1) rest).map fun p => (atDepth depth (.arr p.1), p.2)
    | '{' :: rest =>
      match skipSpace rest with
      | '}' :: rest => some (atDepth depth (.obj []), rest)
      | rest =>
        (readMembers? fuel (depth + 1) rest).map fun p =>
          (atDepth depth ((p.1.map Json.obj).getD .unreadable), p.2)
    | cs => (Numeral.read? cs).map fun p => (p.1.toJson, p.2)

/-- The items of an array from the one at the head on, and what follows the closing bracket. -/
def readItems? : Nat → Nat → List Char → Option (List Json × List Char)
  | 0, _, _ => none
  | fuel + 1, depth, cs =>
    match readValue? fuel depth cs with
    | none => none
    | some (j, rest) =>
      match skipSpace rest with
      | ']' :: rest => some ([j], rest)
      | ',' :: rest => (readItems? fuel depth (skipSpace rest)).map fun p => (j :: p.1, p.2)
      | _ => none

/-- The members of an object from the one at the head on, and what follows the closing brace.
The members are missing if the name of one of them is unreadable. -/
def readMembers? : Nat → Nat → List Char → Option (Option (List (String × Json)) × List Char)
  | 0, _, _ => none
  | fuel + 1, depth, cs =>
    match cs with
    | '"' :: rest =>
      match readString? rest with
      | none => none
      | some (name, rest) =>
        match skipSpace rest with
        | ':' :: rest =>
          match readValue? fuel depth (skipSpace rest) with
          | none => none
          | some (j, rest) =>
            let first := name.map fun k => (k, j)
            match skipSpace rest with
            | '}' :: rest => some (first.map fun m => [m], rest)
            | ',' :: rest =>
              (readMembers? fuel depth (skipSpace rest)).map fun p =>
                (first.bind fun m => p.1.map (m :: ·), p.2)
            | _ => none
        | _ => none
    | _ => none

end

/-- The value that a text consists of, apart from white space around it. -/
def read? (cs : List Char) : Option Json :=
  match readValue? (2 * cs.length + 1) 0 (skipSpace cs) with
  | some (j, rest) => if (skipSpace rest).isEmpty then some j else none
  | none => none

/-- The value that a text consists of. -/
def parse? (text : String) : Option Json := read? text.toList

/-! ## Compact writing -/

mutual

/-- A value as text without any white space. -/
def render : Json → List Char
  | .null => "null".toList
  | .bool true => "true".toList
  | .bool false => "false".toList
  | .num n => n.render
  | .str s => quote s
  | .arr [] => ['[', ']']
  | .arr (j :: js) => '[' :: (render j ++ renderItems js)
  | .obj [] => ['\x7b', '\x7d']
  | .obj ((k, j) :: ms) => '\x7b' :: (quote k ++ ':' :: (render j ++ renderMembers ms))
  | .unreadable => []

/-- The items of an array behind the first one, and the closing bracket. -/
def renderItems : List Json → List Char
  | [] => [']']
  | j :: js => ',' :: (render j ++ renderItems js)

/-- The members of an object behind the first one, and the closing brace. -/
def renderMembers : List (String × Json) → List Char
  | [] => ['\x7d']
  | (k, j) :: ms => ',' :: (quote k ++ ':' :: (render j ++ renderMembers ms))

end

/-- The compact text of a value. -/
def text (j : Json) : String := String.ofList j.render

/-! ## Indented writing -/

/-- A line break and two spaces for every level. -/
def newLine (level : Nat) : List Char := '\n' :: List.replicate (2 * level) ' '

mutual

/-- A value as text with a line for every item and member. -/
def renderIndented (level : Nat) : Json → List Char
  | .arr (j :: js) =>
    '[' :: (newLine (level + 1) ++ (renderIndented (level + 1) j ++ renderItemLines level js))
  | .obj ((k, j) :: ms) =>
    '\x7b' :: (newLine (level + 1) ++ (quote k ++ ':' :: ' ' ::
      (renderIndented (level + 1) j ++ renderMemberLines level ms)))
  | .null => "null".toList
  | .bool b => (if b then "true" else "false").toList
  | .num n => n.render
  | .str s => quote s
  | .arr [] => ['[', ']']
  | .obj [] => ['\x7b', '\x7d']
  | .unreadable => []

def renderItemLines (level : Nat) : List Json → List Char
  | [] => newLine level ++ [']']
  | j :: js =>
    ',' :: (newLine (level + 1) ++ (renderIndented (level + 1) j ++ renderItemLines level js))

def renderMemberLines (level : Nat) : List (String × Json) → List Char
  | [] => newLine level ++ ['\x7d']
  | (k, j) :: ms =>
    ',' :: (newLine (level + 1) ++ (quote k ++ ':' :: ' ' ::
      (renderIndented (level + 1) j ++ renderMemberLines level ms)))

end

/-- The indented text of a value. -/
def indentedText (j : Json) : String := String.ofList (j.renderIndented 0)

end EditWatch.Json
