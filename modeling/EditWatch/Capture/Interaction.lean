import EditWatch.Capture.Region

/-!
# EditWatch.Capture.Interaction -- forwarding interactions

An event that the table lists is reduced to the properties of its category and forwarded. A move
of the focus also binds the region anew. Events that no category lists leave no trace.
-/

namespace EditWatch.Capture

open EditWatch.Document

/-- Values by the text of the path that leads to them. -/
abbrev Properties := Std.ExtTreeMap String Json

/-- A captured interaction. -/
structure InteractionEvent where
  event : String
  category : String
  properties : Properties
  stamp : Stamp

/-- What became of a captured event. -/
structure CaptureReport where
  category : String
  properties : Nat
  rebound : Option RebindReport
  deriving Repr, DecidableEq

/-- The properties of a payload that the paths lead to; what is absent is left out. -/
def resolveAll (payload : Json) (paths : List Path) : Properties :=
  paths.foldl (fun found path => match path.resolve payload with
    | some v => found.insert path.raw v
    | none => found) ∅

/-- What capturing needs besides the page and its listeners. -/
structure Capturer where
  table : Table
  rebinder : Rebinder
  identity : Identity
  frame : FrameIndex

namespace Capturer

/-- The event that a spec makes of a payload. -/
def event (c : Capturer) (spec : Spec) (name : String) (payload : Json) : InteractionEvent where
  event := name
  category := spec.category
  properties := resolveAll payload spec.properties
  stamp := c.identity.stamp c.frame

/-- One raw event handled: the listeners afterwards, and the event to forward with its report if
the table lists it. -/
def handle (c : Capturer) (d : Document) (l : Listeners) (name : String) (payload : Json) :
    Listeners × Option (InteractionEvent × CaptureReport) :=
  match c.table.lookup name with
  | none => (l, none)
  | some spec =>
    let e := c.event spec name payload
    if spec.category = Table.attentionCategory then
      let (l, report) := c.rebinder.rebind d l
      (l, some (e, ⟨spec.category, e.properties.size, some report⟩))
    else (l, some (e, ⟨spec.category, e.properties.size, none⟩))

end Capturer

/-! ## JSON -/

def Properties.toJson (p : Properties) : Json := .obj p.toList

/-- The members of an object as free values. -/
def Properties.ofMembers? : Properties → List (String × Json) → Option Properties
  | acc, [] => some acc
  | acc, (k, j) :: ms => match j.free? with
    | some v => Properties.ofMembers? (acc.insert k v) ms
    | none => none

def Properties.ofJson? : Json → Option Properties
  | .obj ms => Properties.ofMembers? ∅ ms
  | _ => none

namespace InteractionEvent

/-- The fields of an event, in the order in which they are written; those of the stamp follow. -/
def fieldNames : List String := ["event", "event_type", "properties"]

/-- An event is always an object, and its stamp is read from the members that are left over. -/
def ofJson? (j : Json) : Option InteractionEvent := do
  let fs ← Json.objectFields? fieldNames j
  let event ← fs.required? "event" Json.string?
  let category ← fs.required? "event_type" Json.string?
  let properties ← fs.required? "properties" Properties.ofJson?
  let rest ← Json.heldObject? fieldNames j
  let stamp ← (Json.objectFields? Stamp.fieldNames rest).bind Stamp.ofFields?
  return ⟨event, category, properties, stamp⟩

def toJson (e : InteractionEvent) : Json :=
  .obj ([("event", .str e.event), ("event_type", .str e.category),
    ("properties", e.properties.toJson)] ++ e.stamp.members)

end InteractionEvent

end EditWatch.Capture
