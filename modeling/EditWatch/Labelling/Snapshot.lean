import EditWatch.Document.Wire
import EditWatch.Document.Walk

/-!
# EditWatch.Labelling.Snapshot -- what an event tells of the nodes

A snapshot copies a fixed choice of properties out of the document when a record is read. What a
node does not have is left out; a node that is gone has no snapshot.
-/

namespace EditWatch.Labelling

open EditWatch.Document

/-- The properties of a node. Text nodes show their data and no inner text. -/
structure NodeSnapshot where
  className : Option String
  data : Option String
  id : Option String
  innerText : Option String
  nodeType : Option UInt16
  deriving Repr, DecidableEq

/-- The properties of the parent of a target. -/
structure ParentSnapshot where
  className : Option String
  id : Option String
  deriving Repr, DecidableEq

/-- The nodes of a record: the first added, the first removed, the target and its parent. -/
structure RecordSnapshot where
  addedNode : Option NodeSnapshot
  removedNode : Option NodeSnapshot
  target : Option NodeSnapshot
  targetParent : Option ParentSnapshot
  kind : EditKind
  deriving Repr, DecidableEq

def NodeSnapshot.capture (d : Document) (id : NodeId) : Option NodeSnapshot :=
  match d.node? id with
  | none => none
  | some n => some
    { className := n.className?
      data := n.data
      id := n.attrs["id"]?
      innerText := if n.isText then none else d.innerText id
      nodeType := some n.kind.number }

def ParentSnapshot.capture (d : Document) (parent : NodeId) : ParentSnapshot where
  className := d.className? parent
  id := d.idAttr? parent

def RecordSnapshot.capture (d : Document) (r : Record) : RecordSnapshot where
  addedNode := r.added.head?.bind (NodeSnapshot.capture d)
  removedNode := r.removed.head?.bind (NodeSnapshot.capture d)
  target := NodeSnapshot.capture d r.target
  targetParent := (d.parent? r.target).map (ParentSnapshot.capture d)
  kind := r.kind

/-! ## JSON -/

namespace NodeSnapshot

def fieldNames : List String := ["className", "data", "id", "innerText", "nodeType"]

def ofJson? (j : Json) : Option NodeSnapshot := do
  let fs ← Json.fields? fieldNames j
  let className ← fs.optional? "className" Json.string?
  let data ← fs.optional? "data" Json.string?
  let id ← fs.optional? "id" Json.string?
  let innerText ← fs.optional? "innerText" Json.string?
  let nodeType ← fs.optional? "nodeType" Json.uint16?
  return ⟨className, data, id, innerText, nodeType⟩

def toJson (s : NodeSnapshot) : Json :=
  .obj (Json.optionalMember "className" (s.className.map .str)
    ++ Json.optionalMember "data" (s.data.map .str)
    ++ Json.optionalMember "id" (s.id.map .str)
    ++ Json.optionalMember "innerText" (s.innerText.map .str)
    ++ Json.optionalMember "nodeType" (s.nodeType.map fun n => Json.ofNat n.toNat))

end NodeSnapshot

namespace ParentSnapshot

def fieldNames : List String := ["className", "id"]

def ofJson? (j : Json) : Option ParentSnapshot := do
  let fs ← Json.fields? fieldNames j
  let className ← fs.optional? "className" Json.string?
  let id ← fs.optional? "id" Json.string?
  return ⟨className, id⟩

def toJson (s : ParentSnapshot) : Json :=
  .obj (Json.optionalMember "className" (s.className.map .str)
    ++ Json.optionalMember "id" (s.id.map .str))

end ParentSnapshot

namespace RecordSnapshot

def fieldNames : List String := ["addedNode", "removedNode", "target", "targetParent", "type"]

def ofJson? (how : Json.Held) (j : Json) : Option RecordSnapshot := do
  let fs ← Json.fields? fieldNames j
  let addedNode ← fs.optional? "addedNode" NodeSnapshot.ofJson?
  let removedNode ← fs.optional? "removedNode" NodeSnapshot.ofJson?
  let target ← fs.optional? "target" NodeSnapshot.ofJson?
  let targetParent ← fs.optional? "targetParent" ParentSnapshot.ofJson?
  let kind ← fs.required? "type" (EditKind.ofJson? how)
  return ⟨addedNode, removedNode, target, targetParent, kind⟩

def toJson (s : RecordSnapshot) : Json :=
  .obj (Json.optionalMember "addedNode" (s.addedNode.map NodeSnapshot.toJson)
    ++ Json.optionalMember "removedNode" (s.removedNode.map NodeSnapshot.toJson)
    ++ Json.optionalMember "target" (s.target.map NodeSnapshot.toJson)
    ++ Json.optionalMember "targetParent" (s.targetParent.map ParentSnapshot.toJson)
    ++ [("type", s.kind.toJson)])

end RecordSnapshot

end EditWatch.Labelling
