import EditWatch.Text.Blank
import EditWatch.Text.Composed
import EditWatch.Text.Mark
import EditWatch.Text.Percent
import EditWatch.Url.Direction
import EditWatch.Url.Folding
import EditWatch.Url.Joiner
import EditWatch.Url.Punycode

/-!
# EditWatch.Url.Domain -- domain names

A domain name is decoded from percent encoding and brought into the one form in which names are
compared: every character is folded, and the text is composed. Its labels stand between dots. A
label behind the mark `xn--` stands for one beyond ASCII, and that one has to be in the form in
which names are compared already. What a label may hold is settled by what it stands for.
-/

namespace EditWatch.Url.Domain

open EditWatch.Text

/-- The characters of ASCII that no name holds. -/
def isRefused (c : Char) : Bool :=
  c.toNat ≤ 0x20 || c.toNat == 0x7F ||
    ['%', '#', '/', ':', '<', '>', '?', '@', '[', '\\', ']', '^', '|'].contains c

/-! ## Labels -/

/-- The mark before a label in Punycode. -/
def punycodeMark : List Char := ['x', 'n', '-', '-']

/-- How many characters there may be behind the mark. -/
def longestMarked : Nat := 2000

/-- How many characters a label with one beyond ASCII may have. -/
def longestBeyondAscii : Nat := 1000

/-- Whether a label is in the form in which names are compared. -/
def isFolded (label : List Char) : Bool :=
  label.all (fun c => foldChar? c == some [c]) && composed label == label

/-- The label that a text behind the mark stands for. A text that ends in a hyphen tells no
character beyond ASCII, so its label would need no mark. -/
def unmarked? (cs : List Char) : Option (List Char) :=
  if cs.all (·.toNat < 0x80) && cs.getLast?.any (· != '-') && cs.length ≤ longestMarked then
    (Punycode.decode? cs).filter fun label =>
      isFolded label && !label.any (fun c => isRefused c || c == '.') &&
        !punycodeMark.isPrefixOf label
  else none

/-- What a label stands for. -/
def meant? (label : List Char) : Option (List Char) :=
  if punycodeMark.isPrefixOf label then unmarked? (label.drop punycodeMark.length) else some label

/-- Whether a label may stand in a name: it does not begin with a mark that would belong to the
character before it, its joiners have something to join, and it is not too long. -/
def isLabel (label : List Char) : Bool :=
  !label.head?.any isMark && joinersFit [] label &&
    (label.all (·.toNat < 0x80) || label.length ≤ longestBeyondAscii)

/-! ## Names -/

/-- The labels of the domain name that a text spells. -/
def labels? (cs : List Char) : Option (List (List Char)) := do
  let spelled ← decode? (percentDecode cs)
  let parts ← spelled.toList.mapM foldChar?
  let name := composed parts.flatten
  let labels := pieces (· == '.') name
  let meant ← labels.mapM meant?
  if !name.any isRefused && meant.all isLabel && directionsAgree meant then some labels else none

end EditWatch.Url.Domain
