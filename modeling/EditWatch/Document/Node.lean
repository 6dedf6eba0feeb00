import EditWatch.Document.Class

/-!
# EditWatch.Document.Node -- nodes and their descriptors

A `Node` is one entry of a document: it knows its parent and its children by number. A
`Descriptor` is a whole subtree written out, as the page sends it when nodes are added; its
`rows` are the nodes it becomes.
-/

namespace EditWatch.Document

/-- The number by which the page knows a node as long as it lives. -/
abbrev NodeId := UInt64

/-- How a node is named in messages. -/
def nodeName (id : NodeId) : String := "#" ++ toString id.toNat

inductive NodeKind where
  | element
  | text
  deriving Repr, DecidableEq, Inhabited

namespace NodeKind

/-- The node type as the page counts it. -/
def number : NodeKind → UInt16
  | .element => 1
  | .text => 3

def name : NodeKind → String
  | .element => "element"
  | .text => "text"

end NodeKind

/-- Attribute names with their values. -/
abbrev Attributes := Std.ExtTreeMap String String

/-- A node of a document. -/
structure Node where
  id : NodeId
  kind : NodeKind
  tag : Option String
  classValue : Option ClassValue
  attrs : Attributes
  data : Option String
  parent : Option NodeId
  children : List NodeId

namespace Node

def isText (n : Node) : Bool := n.kind == .text

/-- The class string, if the node has one. -/
def className? (n : Node) : Option String := n.classValue.bind ClassValue.string?

/-- Whether the class of the node has the token. -/
def hasClass (n : Node) (token : String) : Bool :=
  match n.classValue with
  | some c => c.has token
  | none => false

end Node

/-- A subtree written out. -/
structure Descriptor where
  id : NodeId
  kind : NodeKind
  tag : Option String
  classValue : Option ClassValue
  attrs : Attributes
  text : Option String
  children : List Descriptor

namespace Descriptor

mutual

/-- The descriptor and all below it, in document order. -/
def preorder : Descriptor → List Descriptor
  | d@⟨_, _, _, _, _, _, children⟩ => d :: preorderAll children

/-- The descriptors of several subtrees, in document order. -/
def preorderAll : List Descriptor → List Descriptor
  | [] => []
  | d :: ds => preorder d ++ preorderAll ds

end

/-- The numbers of all nodes of the subtree, in document order. -/
def ids (d : Descriptor) : List NodeId := d.preorder.map Descriptor.id

/-- The node that the top of a descriptor becomes under a parent. -/
def toNode (parent : Option NodeId) (d : Descriptor) : Node where
  id := d.id
  kind := d.kind
  tag := d.tag
  classValue := d.classValue
  attrs := d.attrs
  data := d.text
  parent := parent
  children := d.children.map Descriptor.id

mutual

/-- The nodes that a subtree becomes under a parent, in document order. -/
def rows (parent : Option NodeId) : Descriptor → List Node
  | d@⟨id, _, _, _, _, _, children⟩ => d.toNode parent :: rowsAll (some id) children

/-- The nodes that several subtrees become under one parent. -/
def rowsAll (parent : Option NodeId) : List Descriptor → List Node
  | [] => []
  | d :: ds => rows parent d ++ rowsAll parent ds

end

/-- Whether the descriptor is a text node with children, which no document holds. -/
def isTextWithChildren (d : Descriptor) : Bool := d.kind == .text && !d.children.isEmpty

end Descriptor

end EditWatch.Document
