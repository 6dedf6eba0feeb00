import EditWatch.Json.Basic
import EditWatch.Text.Blank

/-!
# EditWatch.Document.Class -- the class of an element

Most elements carry a class string, which is a list of tokens between ASCII white space. Some,
drawings above all, carry a structured value in its place; it is kept as it is and has no tokens.
-/

namespace EditWatch.Document

/-- The class of an element as the page reports it. -/
inductive ClassValue where
  | tokens (raw : String)
  | structured (value : Json)
  deriving Repr, Inhabited

namespace ClassValue

/-- The class string, if there is one. -/
def string? : ClassValue → Option String
  | .tokens raw => some raw
  | .structured _ => none

/-- The tokens of a class, in order. -/
def tokenList : ClassValue → List String
  | .tokens raw => Text.words raw
  | .structured _ => []

/-- Whether the token is one of the class's. -/
def has (c : ClassValue) (token : String) : Bool := c.tokenList.contains token

/-- A string is a class string, anything else is kept as a structured value. -/
def ofJson? : Json → Option ClassValue
  | .str raw => some (.tokens raw)
  | j => j.free?.map .structured

def toJson : ClassValue → Json
  | .tokens raw => .str raw
  | .structured value => value

end ClassValue

end EditWatch.Document
