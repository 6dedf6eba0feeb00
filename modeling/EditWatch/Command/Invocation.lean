import EditWatch.Command.Grammar
import EditWatch.Text.Numeral

/-!
# EditWatch.Command.Invocation -- what can be asked for

There are four tasks: replay a trace, list the rules, classify a single record, and tell about
the program. Parameters in front of the task concern all of them. A line without a single
parameter or word is answered like a question for help, but as a failure.
-/

namespace EditWatch.Command

/-- The form of reports. -/
inductive Form where
  | human
  | json
  | yaml
  deriving Repr, DecidableEq

namespace Form

def all : List Form := [.human, .json, .yaml]

def name : Form → String
  | .human => "human"
  | .json => "json"
  | .yaml => "yaml"

def ofName? (s : String) : Option Form := all.find? fun f => f.name == s

end Form

/-- What is to be done. -/
inductive Task where
  /-- Emissions go to `output` if it is given; `stats` asks for counters at the end. -/
  | replay (trace : String) (output : Option String) (stats : Bool)
  | rules
  | classify (record : String) (loading : Bool)
  | info
  deriving Repr, DecidableEq

/-- A task and what concerns all tasks. The log level is kept as it was given. -/
structure Invocation where
  config : Option String
  logLevel : String
  debug : Bool
  form : Form
  task : Task
  deriving Repr, DecidableEq

/-- What a command line asks for. -/
inductive Request where
  | run (invocation : Invocation)
  | help
  | version
  /-- The line is empty. -/
  | nothing
  deriving Repr, DecidableEq

/-! ## The levels -/

def programName : String := "docwatch"

/-- What may stand in front of the task. -/
def rootLevel : Level where
  parameters := [
    ⟨"config", some 'c', "FILE", .path⟩,
    ⟨"log-level", some 'l', "LOG_LEVEL", .text⟩,
    ⟨"debug", some 'd', "", .nothing⟩,
    ⟨"output", some 'o', "OUTPUT", .oneOf (Form.all.map Form.name)⟩,
    .help, .version]
  place := none
  tasks := ["replay", "rules", "classify", "info", "help"]

def replayLevel : Level where
  parameters := [⟨"output", none, "FILE", .path⟩, ⟨"stats", none, "", .nothing⟩, .help]
  place := some "TRACE"
  tasks := []

def classifyLevel : Level where
  parameters := [⟨"loading", none, "", .nothing⟩, .help]
  place := some "RECORD"
  tasks := []

/-- The level of a task that takes nothing. -/
def bareLevel : Level := ⟨[.help], none, []⟩

/-! ## Reading a command line -/

/-- A level that follows the name of a task, read to the end; `none` if help is asked for. -/
def readTaskWords (l : Level) (words : List String) : Except UsageFault (Option Told) := do
  let (t, e) ← l.read true .nothing words
  match e with
  | .words => return some (← t.settle l)
  | _ => return none

/-- The word without a name, which a task needs. -/
def needPlace (l : Level) (t : Told) : Except UsageFault String :=
  match t.place with
  | some word => .ok word
  | none => .error (.missingPlace (l.place.getD ""))

/-- The task of a name that the root level knows, with its own words. -/
def readTask (name : String) (words : List String) : Except UsageFault (Option Task) :=
  match name with
  | "replay" => do
    match ← readTaskWords replayLevel words with
    | none => return none
    | some t =>
      let trace ← needPlace replayLevel t
      return some (.replay trace (t.value? "output") (t.has "stats"))
  | "classify" => do
    match ← readTaskWords classifyLevel words with
    | none => return none
    | some t =>
      let record ← needPlace classifyLevel t
      return some (.classify record (t.has "loading"))
  | "rules" => return (← readTaskWords bareLevel words).map fun _ => .rules
  | _ => return (← readTaskWords bareLevel words).map fun _ => .info

/-- Help may be asked for by the names of tasks, which have no tasks of their own. -/
def readHelp : List String → Except UsageFault Request
  | [] => .ok .help
  | name :: rest =>
    if rootLevel.tasks.contains name then
      match rest with
      | [] => .ok .help
      | word :: _ => .error (.unknownTask word)
    else .error (.unknownTask name)

/-- What a command line asks for. The words of the task are read before the last value in front
of it is checked. -/
def Request.ofWords (words : List String) : Except UsageFault Request := do
  let (t, e) ← rootLevel.read true .nothing words
  match e with
  | .help => return .help
  | .version => return .version
  | .words =>
    let t ← t.settle rootLevel
    if t.values.isEmpty then return .nothing else throw (.missingTask programName)
  | .task "help" rest => readHelp rest
  | .task name rest =>
    match ← readTask name rest with
    | none => return .help
    | some task =>
      let t ← t.settle rootLevel
      let form := ((t.value? "output").bind Form.ofName?).getD .human
      return .run ⟨t.value? "config", (t.value? "log-level").getD "warn", t.has "debug", form, task⟩

/-! ## Log levels -/

/-- The log levels, from the most to the least severe. -/
def logLevels : List String := ["error", "warn", "info", "debug", "trace"]

/-- A log level is named in letters of either case, or by its number counted from one. -/
def isLogLevel (s : String) : Bool :=
  (match Text.readBounded? (logLevels.length + 1) s.toList with
    | some n => 0 < n
    | none => false) ||
    logLevels.contains (String.ofList (s.toList.map Char.toLower))

end EditWatch.Command
