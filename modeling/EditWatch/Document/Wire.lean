import EditWatch.Document.Edit
import EditWatch.Json.Fields

/-!
# EditWatch.Document.Wire -- descriptors and edits in JSON

A descriptor and an edit leave out what is absent or empty; the kind is always written.
-/

namespace EditWatch.Document

open Json (Held)

/-! ## Kinds -/

def NodeKind.ofName? : String → Option NodeKind
  | "element" => some .element
  | "text" => some .text
  | _ => none

def NodeKind.ofJson? (how : Held) (j : Json) : Option NodeKind :=
  (Json.name? how j).bind NodeKind.ofName?

def NodeKind.toJson (k : NodeKind) : Json := .str k.name

def EditKind.ofName? : String → Option EditKind
  | "childList" => some .childList
  | "characterData" => some .characterData
  | _ => none

def EditKind.ofJson? (how : Held) (j : Json) : Option EditKind :=
  (Json.name? how j).bind EditKind.ofName?

def EditKind.toJson (k : EditKind) : Json := .str k.name

/-! ## Numbers and attributes -/

def NodeId.toJson (id : NodeId) : Json := Json.ofUInt64 id

def NodeId.ofJson? (j : Json) : Option NodeId := j.uint64?

/-- Attributes in the order in which they are given; of two with one name the later wins. -/
def Attributes.ofMembers? : Attributes → List (String × Json) → Option Attributes
  | acc, [] => some acc
  | acc, (k, .str v) :: ms => Attributes.ofMembers? (acc.insert k v) ms
  | _, _ :: _ => none

def Attributes.ofJson? : Json → Option Attributes
  | .obj ms => Attributes.ofMembers? ∅ ms
  | _ => none

def Attributes.toJson (attrs : Attributes) : Json :=
  .obj (attrs.toList.map fun a => (a.1, .str a.2))

/-! ## Descriptors -/

/-- The fields of a descriptor, in the order in which they are written. -/
def Descriptor.fieldNames : List String :=
  ["id", "kind", "tag", "class", "attrs", "text", "children"]

/-- The descriptor that a value nested at most `fuel` deep gives. -/
def Descriptor.ofJsonFrom? (how : Held) : Nat → Json → Option Descriptor
  | 0, _ => none
  | fuel + 1, j => do
    let fs ← Json.fields? fieldNames j
    let id ← fs.required? "id" NodeId.ofJson?
    let kind ← fs.withDefault? "kind" (NodeKind.ofJson? how) .element
    let tag ← fs.optional? "tag" Json.string?
    let classValue ← fs.optional? "class" ClassValue.ofJson?
    let attrs ← fs.withDefault? "attrs" Attributes.ofJson? ∅
    let text ← fs.optional? "text" Json.string?
    let children ← fs.withDefault? "children" (Json.list? (ofJsonFrom? how fuel)) []
    return ⟨id, kind, tag, classValue, attrs, text, children⟩

def Descriptor.ofJson? (how : Held) (j : Json) : Option Descriptor :=
  Descriptor.ofJsonFrom? how (j.depth + 1) j

mutual

def Descriptor.toJson : Descriptor → Json
  | ⟨id, kind, tag, classValue, attrs, text, children⟩ =>
    .obj ([("id", NodeId.toJson id), ("kind", kind.toJson)]
      ++ Json.optionalMember "tag" (tag.map .str)
      ++ Json.optionalMember "class" (classValue.map ClassValue.toJson)
      ++ (if attrs.isEmpty then [] else [("attrs", Attributes.toJson attrs)])
      ++ Json.optionalMember "text" (text.map .str)
      ++ Json.listMember "children" (Descriptor.allToJson children))

def Descriptor.allToJson : List Descriptor → List Json
  | [] => []
  | d :: ds => d.toJson :: Descriptor.allToJson ds

end

/-! ## Edits -/

/-- The fields of an edit, in the order in which they are written. -/
def Edit.fieldNames : List String := ["target", "kind", "added", "removed", "text"]

def Edit.ofJson? (how : Held) (j : Json) : Option Edit := do
  let fs ← Json.fields? fieldNames j
  let target ← fs.required? "target" NodeId.ofJson?
  let kind ← fs.withDefault? "kind" (EditKind.ofJson? how) .childList
  let added ← fs.withDefault? "added" (Json.list? (Descriptor.ofJson? how)) []
  let removed ← fs.withDefault? "removed" (Json.list? NodeId.ofJson?) []
  let text ← fs.optional? "text" Json.string?
  return ⟨target, kind, added, removed, text⟩

def Edit.toJson (e : Edit) : Json :=
  .obj ([("target", NodeId.toJson e.target), ("kind", e.kind.toJson)]
    ++ Json.listMember "added" (Descriptor.allToJson e.added)
    ++ Json.listMember "removed" (e.removed.map NodeId.toJson)
    ++ Json.optionalMember "text" (e.text.map .str))

end EditWatch.Document
