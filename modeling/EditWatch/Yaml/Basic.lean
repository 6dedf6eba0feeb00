/-!
# EditWatch.Yaml.Basic -- YAML nodes

A node is a scalar, a list or a mapping, or the name of another node. What a scalar means is left
to its reader: it keeps its text, its tag, and whether it stood without quotes. A mapping keeps
its entries in the order of the text, repeats included.
-/

namespace EditWatch.Yaml

/-- A tag: what its handle stands for, and the name behind the handle. -/
structure Tag where
  start : String
  name : String
  deriving Repr, DecidableEq

/-- The tags that the language itself defines begin so. -/
def coreTag : String := "tag:yaml.org,2002:"

namespace Tag

/-- The tag as one text. -/
def text (t : Tag) : String := t.start ++ t.name

end Tag

inductive Node where
  | scalar (tag : Option Tag) (plain : Bool) (text : String)
  | list (items : List Node)
  | mapping (entries : List (Node × Node))
  /-- The node that a document keeps under a number. -/
  | alias (number : Nat)
  deriving Repr, Inhabited

/-- The scalar that stands where a node is left out. -/
def Node.absent : Node := .scalar none true ""

/-- Whether the node is left out, or an empty text without quotes. -/
def Node.isAbsent : Node → Bool
  | .scalar _ true "" => true
  | _ => false

/-- The text of a scalar, whatever its tag and quotes. -/
def Node.text? : Node → Option String
  | .scalar _ _ text => some text
  | _ => none

/-- A document: its node, and the nodes that aliases stand for. -/
structure Document where
  root : Node
  numbered : List (Nat × Node)
  deriving Repr, Inhabited

/-- The node that a node stands for. An alias of a node that is not kept stands for itself. -/
def Document.follow (d : Document) : Node → Node
  | .alias n => ((d.numbered.find? fun e => e.1 == n).map Prod.snd).getD (.alias n)
  | n => n

end EditWatch.Yaml
