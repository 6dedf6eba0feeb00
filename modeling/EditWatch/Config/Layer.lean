import EditWatch.Config.Value
import EditWatch.Json.Text
import EditWatch.Session.Settings

/-!
# EditWatch.Config.Layer -- layers of settings

Settings come in layers: what is built in, a file, the environment. A layer lists values by key,
and keys do not depend on the case of letters. Of several values for one setting the last one
counts.
-/

namespace EditWatch.Config

open EditWatch.Session EditWatch.Text

/-- Values by key, in the order in which they were given. -/
abbrev Layer := List (String × Value)

namespace Layer

/-- A character of a part of a key. -/
def isKeyChar (c : Char) : Bool := c.isAlphanum || c == '_' || c == '-' || c == ' '

def isBlank (c : Char) : Bool := c == ' ' || c == '\t'

/-- What follows a place in a list whose bracket is gone: an integer of 64 bits. -/
def behindPlace? (cs : List Char) : Option (List Char) :=
  let (sign, cs) := match cs.dropWhile isBlank with
    | '-' :: rest => (['-'], rest)
    | rest => ([], rest)
  let digits := cs.takeWhile Char.isDigit
  match readSigned64? (sign ++ digits), (cs.drop digits.length).dropWhile isBlank with
  | some _, ']' :: rest => some rest
  | _, _ => none

/-- The rest of a key behind its first part, if it leads into a list or a table: parts behind
dots, and places in brackets. -/
def leadsInside : Nat → List Char → Bool
  | 0, _ => false
  | _, [] => true
  | fuel + 1, '.' :: rest =>
    let part := rest.takeWhile isKeyChar
    !part.isEmpty && leadsInside fuel (rest.drop part.length)
  | fuel + 1, '[' :: rest => (behindPlace? rest).any (leadsInside fuel)
  | _, _ => false

/-- A value under its key. A key that leads into a list or a table makes its first part one. -/
def entryOf (key : String) (v : Value) : String × Value :=
  let key := Value.lower key
  let first := key.toList.takeWhile isKeyChar
  let rest := key.toList.drop first.length
  if !first.isEmpty && !rest.isEmpty && leadsInside (rest.length + 1) rest then
    (String.ofList first, .compound)
  else (key, v)

/-- The values of a source. -/
def ofEntries (es : List (String × Value)) : Layer := es.map fun e => entryOf e.1 e.2

/-- The last value for a key. -/
def get? (l : Layer) (key : String) : Option Value :=
  (l.reverse.find? fun e => e.1 == key).map Prod.snd

/-- The values of the second layer count before those of the first. -/
def toppedBy (lower upper : Layer) : Layer := lower ++ upper

/-! ## The environment -/

/-- The variables that hold settings begin so. -/
def mark : List Char := "docwatch_".toList

/-- The setting that a variable names, if it names one. -/
def settingOf? (v : String) : Option String :=
  let name := (Value.lower v).toList
  if mark.isPrefixOf name then some (String.ofList (name.drop mark.length)) else none

/-- The settings of the environment, whose types are guessed. -/
def ofEnvironment (environment : List (String × String)) : Layer :=
  ofEntries (environment.filterMap fun v => (settingOf? v.1).map fun key => (key, Value.guess v.2))

/-! ## JSON -/

/-- The value of a member. Integers beyond 64 signed bits count as doubles. -/
def Value.ofJson : Json → Value
  | .null => .nothing
  | .bool b => .flag b
  | .num (.int n) =>
    if n.val < 0x8000000000000000 then .whole n.val else .real (Number.Double.ofNat n.val.toNat)
  | .num (.real x) => .real x
  | .str s => .text s
  | .arr _ | .obj _ | .unreadable => .compound

/-- The layer of a JSON text, which has to be an object. -/
def ofJsonText? (text : String) : Option Layer :=
  match (Json.parse? text).bind Json.free? with
  | some (.obj ms) => some (ofEntries (ms.map fun m => (m.1, Value.ofJson m.2)))
  | _ => none

/-! ## Settings -/

/-- A setting that may be absent or nothing. -/
def optional? {α : Type} (l : Layer) (key : String) (read? : Value → Option α) :
    Option (Option α) :=
  match l.get? key with
  | none | some .nothing => some none
  | some v => (read? v).map some

/-- A setting with a value for the case that it is absent. -/
def withDefault? {α : Type} (l : Layer) (key : String) (read? : Value → Option α) (default : α) :
    Option α :=
  match l.get? key with
  | none => some default
  | some v => read? v

/-- The settings that a layer gives, on top of those that are built in. -/
def settings? (l : Layer) : Option Settings := do
  let frameIndex ← l.optional? "frame_index" fun v =>
    v.number?.bind fun n => if n < 0x100000000 then some (UInt32.ofNat n) else none
  let rulesPath ← l.optional? "rules_path" Value.text?
  let region ← l.withDefault? "dynamic_region" Value.text? Settings.default.dynamicRegion
  let capacity ← l.withDefault? "bus_capacity" (fun v => v.number?.map UInt64.ofNat)
    Settings.default.busCapacity
  return ⟨frameIndex, rulesPath, region, capacity⟩

end Layer

end EditWatch.Config
