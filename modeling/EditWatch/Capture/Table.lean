import EditWatch.Document.Path
import EditWatch.Json.Fields

/-!
# EditWatch.Capture.Table -- which interactions are captured

A capture table groups event names into categories. For each category it says where the page has
to listen and which properties of an event are kept. Every category names at least one event, and
no event belongs to two categories or is named twice.
-/

namespace EditWatch.Capture

open EditWatch.Document (Path)

/-- Where the page listens for the events of a category. -/
inductive Scope where
  | document
  | window
  deriving Repr, DecidableEq

namespace Scope

def name : Scope → String
  | .document => "document"
  | .window => "window"

def ofName? : String → Option Scope
  | "document" => some .document
  | "window" => some .window
  | _ => none

def ofJson? (j : Json) : Option Scope := (Json.name? .direct j).bind ofName?

def toJson (s : Scope) : Json := .str s.name

end Scope

/-- A property that is kept of events, by the path that its text spells. -/
structure Property where
  path : Path
  parsed : Path.parse path.raw = .ok path
  deriving Repr, DecidableEq

namespace Property

/-- The property that a text names. -/
def ofText? (raw : String) : Option Property :=
  match h : Path.parse raw with
  | .ok path => some ⟨path, by rw [Path.raw_of_parse h, h]⟩
  | .error _ => none

def ofJson? : Json → Option Property
  | .str raw => ofText? raw
  | _ => none

end Property

/-- One category: its events, what is kept of them, and the scope. -/
structure Spec where
  category : String
  events : List String
  kept : List Property
  scope : Scope
  deriving Repr, DecidableEq

namespace Spec

/-- The paths of what is kept. -/
def properties (s : Spec) : List Path := s.kept.map Property.path

/-- The fields of a spec, in the order in which they are written. -/
def fieldNames : List String := ["category", "events", "properties", "scope"]

def ofJson? (j : Json) : Option Spec := do
  let fs ← Json.fields? fieldNames j
  let category ← fs.required? "category" Json.string?
  let events ← fs.required? "events" (Json.list? Json.string?)
  let kept ← fs.required? "properties" (Json.list? Property.ofJson?)
  let scope ← fs.required? "scope" Scope.ofJson?
  return ⟨category, events, kept, scope⟩

def toJson (s : Spec) : Json :=
  .obj [("category", .str s.category), ("events", .arr (s.events.map .str)),
    ("properties", .arr (s.properties.map Path.toJson)), ("scope", s.scope.toJson)]

end Spec

/-- Why specs make no table. -/
inductive TableFault where
  | duplicateEvent (event first second : String)
  | noEvents (category : String)
  deriving Repr, DecidableEq

def TableFault.message : TableFault → String
  | .duplicateEvent event first second =>
    "event `" ++ event ++ "` is claimed by both `" ++ first ++ "` and `" ++ second ++ "`"
  | .noEvents category => "capture category `" ++ category ++ "` lists no events"

namespace Table

/-- The events claimed so far, each with the position of the spec that claimed it. -/
abbrev Claims := Std.ExtTreeMap String Nat

/-- The category of the spec at a position. -/
def categoryAt (specs : List Spec) (position : Nat) : String :=
  (specs[position]?.map Spec.category).getD ""

/-- One event claimed for the spec at a position, unless it was claimed before. -/
def claim (specs : List Spec) (s : Spec) (position : Nat) (seen : Claims) (event : String) :
    Except TableFault Claims :=
  match seen[event]? with
  | some first => .error (.duplicateEvent event (categoryAt specs first) s.category)
  | none => .ok (seen.insert event position)

/-- The events of one spec claimed, in order. There has to be one. -/
def claimSpec (specs : List Spec) (seen : Claims) (s : Spec × Nat) : Except TableFault Claims :=
  if s.1.events.isEmpty then .error (.noEvents s.1.category)
  else s.1.events.foldlM (claim specs s.1 s.2) seen

/-- The events of all specs claimed, in order. -/
def claims (specs : List Spec) : Except TableFault Claims :=
  specs.zipIdx.foldlM (claimSpec specs) ∅

/-- The events of one spec entered under its position, whatever was there before. -/
def enterSpec (seen : Claims) (s : Spec × Nat) : Claims :=
  s.1.events.foldl (fun seen event => seen.insert event s.2) seen

/-- The events of all specs entered, in order and without a check. -/
def entries (specs : List Spec) : Claims := specs.zipIdx.foldl enterSpec ∅

section Entries

variable {specs : List Spec} {seen seen' : Claims}

/-- A loop that did not stop did what its steps do where they succeed. -/
theorem eq_foldl_of_foldlM {α β ε : Type} {f : β → α → Except ε β} {g : β → α → β}
    (hstep : ∀ b a c, f b a = .ok c → c = g b a) {xs : List α} {b d : β}
    (h : xs.foldlM f b = .ok d) : d = xs.foldl g b := by
  induction xs generalizing b with
  | nil => exact (Except.ok.inj h).symm
  | cons x xs ih =>
      rw [List.foldlM_cons] at h
      cases hx : f b x with
      | error e =>
          rw [hx] at h
          cases h
      | ok c =>
          rw [hx] at h
          obtain rfl := hstep b x c hx
          exact ih h

theorem eq_insert_of_claim {s : Spec} {position : Nat} {event : String}
    (h : claim specs s position seen event = .ok seen') : seen' = seen.insert event position := by
  rw [claim] at h
  cases hseen : seen[event]? with
  | some first =>
      rw [hseen] at h
      cases h
  | none =>
      rw [hseen] at h
      exact (Except.ok.inj h).symm

theorem eq_enterSpec_of_claimSpec {s : Spec × Nat} (h : claimSpec specs seen s = .ok seen') :
    seen' = enterSpec seen s := by
  rw [claimSpec] at h
  by_cases hempty : s.1.events.isEmpty
  · rw [if_pos hempty] at h
    cases h
  · rw [if_neg hempty] at h
    exact eq_foldl_of_foldlM (fun _ _ _ => eq_insert_of_claim) h

/-- Events that are claimed without a fault come to be where they are entered without a check. -/
theorem claims_eq_entries (h : (claims specs).isOk) : claims specs = .ok (entries specs) := by
  cases hclaims : claims specs with
  | error f =>
      rw [hclaims] at h
      cases h
  | ok seen =>
      exact congrArg _ (eq_foldl_of_foldlM (fun _ _ _ => eq_enterSpec_of_claimSpec) hclaims)

end Entries

end Table

/-- A capture table: its specs, and the index of their events that came out of the check. -/
structure Table where
  specs : List Spec
  /-- The position of the spec that lists each event. -/
  index : Table.Claims
  checked : Table.claims specs = .ok index

namespace Table

/-- The table that the specs make up. -/
def ofSpecs (specs : List Spec) : Except TableFault Table :=
  match h : claims specs with
  | .error f => .error f
  | .ok index => .ok ⟨specs, index, h⟩

/-- The table of specs that are known to be without a fault; their events are entered as they are. -/
def ofKnown (specs : List Spec) (h : (claims specs).isOk) : Table :=
  ⟨specs, entries specs, claims_eq_entries h⟩

/-- The spec that lists the event. -/
def lookup (t : Table) (event : String) : Option Spec :=
  t.index[event]?.bind fun position => t.specs[position]?

/-- The specs of one scope. -/
def ofScope (t : Table) (scope : Scope) : List Spec := t.specs.filter fun s => s.scope = scope

def ofJson? (j : Json) : Option Table :=
  (Json.list? Spec.ofJson? j).bind fun specs => (ofSpecs specs).toOption

def toJson (t : Table) : Json := .arr (t.specs.map Spec.toJson)

/-! ## The table at hand -/

/-- The category whose events report a move of the focus. -/
def attentionCategory : String := "attention"

/-- The properties that the texts name; a text that is no path is left out. -/
def named (raws : List String) : List Property := raws.filterMap Property.ofText?

def keyProperties : List String :=
  ["altKey", "charCode", "code", "ctrlKey", "isComposing", "key", "keyCode", "location",
   "metaKey", "repeat", "shiftKey", "target.className", "target.id", "target.nodeType",
   "target.localName"]

def pointerProperties : List String :=
  ["button", "buttons", "clientX", "clientY", "offsetX", "offsetY", "screenX", "screenY",
   "altKey", "ctrlKey", "metaKey", "shiftKey", "detail", "target.id", "target.className",
   "target.innerText", "target.nodeType", "target.localName", "target.parentNode.id",
   "target.parentNode.className", "target.parentNode.nodeType", "target.parentNode.localName"]

def focusProperties : List String :=
  ["target.className", "target.id", "target.nodeType", "target.localName",
   "relatedTarget.className", "relatedTarget.id"]

def visibilityProperties : List String :=
  ["target.visibilityState", "target.activeElement.className", "target.activeElement.id"]

def saveProperties : List String := ["detail.status", "detail.revision"]

/-- Keys, pointer, focus, visibility, saving and loading. -/
def builtinSpecs : List Spec :=
  [⟨"keystroke", ["keypress", "keydown", "keyup"], named keyProperties, .document⟩,
   ⟨"mouseclick", ["mouseup", "mousedown", "click", "contextmenu", "dblclick"],
     named pointerProperties, .document⟩,
   ⟨attentionCategory, ["focusin", "focusout"], named focusProperties, .window⟩,
   ⟨"visibility", ["visibilitychange"], named visibilityProperties, .document⟩,
   ⟨"save", ["google_docs_save"], named saveProperties, .document⟩,
   ⟨"load", ["load"], [], .window⟩]

/-- The table that every session uses. -/
def builtin : Table := ofKnown builtinSpecs (by decide +kernel)

end Table

end EditWatch.Capture
