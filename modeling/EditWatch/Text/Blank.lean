/-!
# EditWatch.Text.Blank -- white space

Two classes of white space are in use. The narrow one, of five ASCII characters, separates class
tokens. The wide one is the Unicode property `White_Space`; a text made of it alone is blank.
-/

namespace EditWatch.Text

/-- Space, tab, line feed, form feed and carriage return. -/
def isAsciiBlank (c : Char) : Bool :=
  c == ' ' || c == '\t' || c == '\n' || c == '\x0c' || c == '\r'

/-- The closed ranges of code points with the property `White_Space`. -/
def whiteSpaceRanges : List (Nat × Nat) :=
  [(0x09, 0x0D), (0x20, 0x20), (0x85, 0x85), (0xA0, 0xA0), (0x1680, 0x1680), (0x2000, 0x200A),
   (0x2028, 0x2029), (0x202F, 0x202F), (0x205F, 0x205F), (0x3000, 0x3000)]

/-- A character with the property `White_Space`. -/
def isBlank (c : Char) : Bool :=
  whiteSpaceRanges.any fun r => r.1 ≤ c.toNat && c.toNat ≤ r.2

/-- A text without any character that is not white space; the empty text is one. -/
def allBlank (s : String) : Bool := s.toList.all isBlank

/-! ## Words -/

/-- The text cut at every character of the class: the piece before the first one, then the
others. -/
def cutAt (sep : Char → Bool) : List Char → List Char × List (List Char)
  | [] => ([], [])
  | c :: cs =>
    let (first, others) := cutAt sep cs
    if sep c then ([], first :: others) else (c :: first, others)

/-- All pieces of the text between characters of the class, empty ones included. -/
def pieces (sep : Char → Bool) (cs : List Char) : List (List Char) :=
  (cutAt sep cs).1 :: (cutAt sep cs).2

/-- The words of a text: its longest runs without ASCII white space. -/
def words (s : String) : List String :=
  ((pieces isAsciiBlank s.toList).filter fun w => !w.isEmpty).map String.ofList

end EditWatch.Text
