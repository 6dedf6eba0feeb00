import EditWatch.Json.Fields

/-!
# EditWatch.Stamp -- which document an event belongs to

Every event that leaves the watcher carries the identity of the document, its title and the index
of the frame in which it was seen. Who knows the identity may fail to tell it; the event is sent
all the same, without the part that is missing.
-/

namespace EditWatch

/-- The frame an event was seen in, if the watcher was told. -/
inductive FrameIndex where
  | unset
  | index (n : UInt32)
  deriving Repr, DecidableEq, Inhabited

namespace FrameIndex

/-- What stands for a frame index that was never set. -/
def unsetMarker : String := "NOT_SET"

def ofOption : Option UInt32 → FrameIndex
  | some n => .index n
  | none => .unset

def display : FrameIndex → String
  | .unset => unsetMarker
  | .index n => toString n.toNat

/-- Why a value is no frame index. -/
inductive Fault where
  | unknownMarker (text : String)
  | wrongShape
  deriving Repr, DecidableEq

def Fault.message : Fault → String
  | .unknownMarker text => "invalid frame index: " ++ text
  | .wrongShape => "data did not match any variant of untagged enum Repr"

/-- A number of 32 bits, or the marker. -/
def read (j : Json) : Except Fault FrameIndex :=
  match j.uint32?, j.string? with
  | some n, _ => .ok (.index n)
  | none, some s => if s = unsetMarker then .ok .unset else .error (.unknownMarker s)
  | none, none => .error .wrongShape

def ofJson? (j : Json) : Option FrameIndex := (read j).toOption

def toJson : FrameIndex → Json
  | .unset => .str unsetMarker
  | .index n => Json.ofNat n.toNat

end FrameIndex

/-- The identity of a document, as an event carries it. -/
structure Stamp where
  docId : Option String
  title : Option String
  frame : FrameIndex
  deriving Repr, DecidableEq, Inhabited

namespace Stamp

/-- The fields of a stamp, in the order in which they are written. -/
def fieldNames : List String := ["doc_id", "title", "frameindex"]

def ofFields? (fs : Json.Fields) : Option Stamp := do
  let docId ← fs.optional? "doc_id" Json.string?
  let title ← fs.optional? "title" Json.string?
  let frame ← fs.required? "frameindex" FrameIndex.ofJson?
  return ⟨docId, title, frame⟩

def ofJson? (j : Json) : Option Stamp := (Json.fields? fieldNames j).bind ofFields?

/-- The members that a stamp adds to the object of its event. -/
def members (s : Stamp) : List (String × Json) :=
  [("doc_id", Json.ofString? s.docId), ("title", Json.ofString? s.title),
   ("frameindex", s.frame.toJson)]

def toJson (s : Stamp) : Json := .obj s.members

end Stamp

/-- Why the identity of a document could not be told. -/
structure IdentityFault where
  message : String
  deriving Repr, DecidableEq

/-- What is known of the identity of a document. -/
structure Identity where
  docId : Except IdentityFault (Option String)
  title : Except IdentityFault (Option String)

namespace Identity

/-- What was told, or nothing. -/
def told : Except IdentityFault (Option String) → Option String
  | .ok s => s
  | .error _ => none

/-- The stamp for a frame; what could not be told is left out. -/
def stamp (i : Identity) (frame : FrameIndex) : Stamp := ⟨told i.docId, told i.title, frame⟩

end Identity

end EditWatch
