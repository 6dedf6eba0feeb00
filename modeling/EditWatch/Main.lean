import EditWatch.Command.Run

/-!
# EditWatch.Main -- the command line program
-/

namespace EditWatch.Command

/-- Reading and writing of real files, and the clock of the machine. -/
def machine : Host IO where
  read path := do
    try
      return some (← IO.FS.readBinFile path).data.toList
    catch _ => return none
  write path text := do
    try
      IO.FS.writeFile path text
      return true
    catch _ => return false
  clock := return (← IO.monoNanosNow) / 1000

/-- This release. -/
def release : Report.Release := ⟨"0.1.0", "unknown", "unknown"⟩

/-- Settings are kept in the directory for settings, or else below the home directory. -/
def usualSettings : IO (Option String) := do
  let file := "/docwatch/config.yaml"
  match ← IO.getEnv "XDG_CONFIG_HOME", ← IO.getEnv "HOME" with
  | some dir, home =>
    if dir.startsWith "/" then return some (dir ++ file)
    else return home.map fun h => h ++ "/.config" ++ file
  | none, home => return home.map fun h => h ++ "/.config" ++ file

/-! ## The environment -/

/-- A variable out of its entry in a listing: the name, `=` and the value. An entry that is no text
holds no setting. -/
def entry? (bytes : List UInt8) : Option (String × String) := do
  let text ← Text.decode? bytes
  match Text.splitAt '=' text.toList with
  | (name, some value) => return (String.ofList name, String.ofList value)
  | (_, none) => none

/-- The variables of a listing in their order. A zero byte ends each entry. -/
def variablesOf (listing : List UInt8) : List (String × String) :=
  (listing.splitBy fun b _ => b ≠ 0).filterMap fun bytes => entry? (bytes.takeWhile (· ≠ 0))

/-- The listing that the system keeps of the environment of a running program. -/
def listingFile : String := "/proc/self/environ"

/-- The variables whose names are those of settings in capital letters. -/
def capitalVariables : IO (List (String × String)) := do
  let names := ["FRAME_INDEX", "RULES_PATH", "DYNAMIC_REGION", "BUS_CAPACITY"]
  let mut found := []
  for name in names do
    let name := "DOCWATCH_" ++ name
    if let some value ← IO.getEnv name then found := (name, value) :: found
  return found.reverse

/-- All variables of the environment: a setting may be named in letters of either case. A system
without a listing can only be asked for one name after the other, so there they have to be in
capital letters. -/
def environment : IO (List (String × String)) := do
  match ← machine.read listingFile with
  | some listing => return variablesOf listing
  | none => capitalVariables

end EditWatch.Command

/-- The program on real files. -/
def main (words : List String) : IO UInt32 := do
  let surroundings : EditWatch.Command.Surroundings :=
    ⟨← EditWatch.Command.environment, ← EditWatch.Command.usualSettings,
      EditWatch.Command.release⟩
  let response ← EditWatch.Command.run EditWatch.Command.machine surroundings words
  (← IO.getStdout).putStr response.out
  (← IO.getStderr).putStr response.err
  return response.status.toUInt32
