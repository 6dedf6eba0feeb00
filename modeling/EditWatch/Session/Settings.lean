import EditWatch.Capture.Region

/-!
# EditWatch.Session.Settings -- settings of a session
-/

namespace EditWatch.Session

/-- What can be set: the frame index stamped on events, a rule table in the place of the one at
hand, the token of the region that is bound anew, and the capacity of the channel. -/
structure Settings where
  frameIndex : Option UInt32
  rulesPath : Option String
  dynamicRegion : String
  busCapacity : UInt64
  deriving Repr, DecidableEq

namespace Settings

def default : Settings := ⟨none, none, Capture.defaultRegion, 1024⟩

def frame (s : Settings) : FrameIndex := FrameIndex.ofOption s.frameIndex

def fieldNames : List String := ["frame_index", "rules_path", "dynamic_region", "bus_capacity"]

def ofJson? (j : Json) : Option Settings := do
  let fs ← Json.fields? fieldNames j
  let frameIndex ← fs.optional? "frame_index" Json.uint32?
  let rulesPath ← fs.optional? "rules_path" Json.string?
  let dynamicRegion ← fs.withDefault? "dynamic_region" Json.string? default.dynamicRegion
  let busCapacity ← fs.withDefault? "bus_capacity" Json.uint64? default.busCapacity
  return ⟨frameIndex, rulesPath, dynamicRegion, busCapacity⟩

def toJson (s : Settings) : Json :=
  .obj [("frame_index", match s.frameIndex with
      | some n => Json.ofNat n.toNat
      | none => .null),
    ("rules_path", Json.ofString? s.rulesPath), ("dynamic_region", .str s.dynamicRegion),
    ("bus_capacity", Json.ofUInt64 s.busCapacity)]

end Settings

end EditWatch.Session
