/-!
# EditWatch.Text.Lines -- lines of bytes

A line ends at a line feed or at the end of the input; a carriage return right before the line
feed belongs to the line end. Each line is decoded for itself.
-/

namespace EditWatch.Text

/-- A line whose bytes were gathered in reverse, without a carriage return at its end. -/
def closeLine : List UInt8 → List UInt8
  | 13 :: seen => seen.reverse
  | seen => seen.reverse

/-- The lines of the input behind the bytes of the current line, which `seen` holds in reverse. -/
def linesFrom (seen : List UInt8) : List UInt8 → List (List UInt8)
  | [] => if seen.isEmpty then [] else [seen.reverse]
  | b :: bytes =>
    if b = 10 then closeLine seen :: linesFrom [] bytes else linesFrom (b :: seen) bytes

/-- The lines of the input, without their ends. -/
def lines (bytes : List UInt8) : List (List UInt8) := linesFrom [] bytes

/-- The text that bytes encode in UTF-8. -/
def decode? (bytes : List UInt8) : Option String := String.fromUTF8? ⟨bytes.toArray⟩

/-- The bytes of a text in UTF-8. -/
def encode (s : String) : List UInt8 := s.toByteArray.data.toList

end EditWatch.Text
