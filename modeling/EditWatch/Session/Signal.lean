import EditWatch.Document.Wire
import EditWatch.Json.Text

/-!
# EditWatch.Session.Signal -- what the page reports

A page first reports its whole content, then batches of edits, raw interactions, and once that it
has loaded. In JSON a signal is an object with its name under `signal`, or an array that begins
with the name. It is held back until the name is known, so all of it has to be readable.
-/

namespace EditWatch.Session

open EditWatch.Document

/-- The page at the start: its address, its title, and its content. -/
structure Opening where
  url : Option String
  title : Option String
  root : Descriptor

/-- One report of the page. -/
inductive Signal where
  | snapshot (opening : Opening)
  | mutations (edits : List Edit)
  | interaction (event : String) (payload : Json)
  | loaded

namespace Opening

def fieldNames : List String := ["url", "title", "root"]

def ofJson? (how : Json.Held) (j : Json) : Option Opening := do
  let fs ← Json.fields? fieldNames j
  let url ← fs.optional? "url" Json.string?
  let title ← fs.optional? "title" Json.string?
  let root ← fs.required? "root" (Descriptor.ofJson? how)
  return ⟨url, title, root⟩

def members (o : Opening) : List (String × Json) :=
  [("url", Json.ofString? o.url), ("title", Json.ofString? o.title), ("root", o.root.toJson)]

def toJson (o : Opening) : Json := .obj o.members

end Opening

namespace Signal

/-- The member that names a signal. -/
def tag : String := "signal"

/-- The name of a signal and the rest of its value. -/
def split? : Json → Option (String × Json)
  | .arr (.str name :: rest) => some (name, .arr rest)
  | .obj ms =>
    match ms.filter fun m => m.1 == tag with
    | [(_, .str name)] => some (name, .obj (ms.filter fun m => m.1 != tag))
    | _ => none
  | _ => none

/-- A batch of edits. -/
def mutations? (j : Json) : Option Signal := do
  let fs ← Json.fields? ["records"] j
  let edits ← fs.required? "records" (Json.list? (Edit.ofJson? .held))
  return .mutations edits

/-- A raw interaction; without a payload it has `null`. -/
def interaction? (j : Json) : Option Signal := do
  let fs ← Json.fields? ["event", "payload"] j
  let event ← fs.required? "event" Json.string?
  let payload ← fs.withDefault? "payload" Json.free? .null
  return .interaction event payload

/-- The end of loading, with whatever members besides, but without items. -/
def loaded? : Json → Option Signal
  | .arr [] => some .loaded
  | .obj _ => some .loaded
  | _ => none

/-- The signal that a value gives. -/
def ofJson? (j : Json) : Option Signal :=
  if j.readable then
    match split? j with
    | some ("snapshot", rest) => (Opening.ofJson? .held rest).map .snapshot
    | some ("mutations", rest) => mutations? rest
    | some ("interaction", rest) => interaction? rest
    | some ("loaded", rest) => loaded? rest
    | _ => none
  else none

def toJson : Signal → Json
  | .snapshot o => .obj ((tag, .str "snapshot") :: o.members)
  | .mutations edits =>
    .obj [(tag, .str "mutations"), ("records", .arr (edits.map Edit.toJson))]
  | .interaction event payload =>
    .obj [(tag, .str "interaction"), ("event", .str event), ("payload", payload)]
  | .loaded => .obj [(tag, .str "loaded")]

/-- The line by which a signal is recorded. -/
def wire (s : Signal) : String := s.toJson.text

end Signal

end EditWatch.Session
