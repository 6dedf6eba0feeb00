import EditWatch.Command.Report
import EditWatch.Config.Loading
import EditWatch.Session.Replay
import EditWatch.Session.Trace

/-!
# EditWatch.Command.Run -- the program

The program reads what its command line names, does the task, and tells the outcome in three
parts: an exit status, a text for standard output and a text for standard error. The machine is
known only by the few things asked of it, so that a run can be followed without one.

A command line that is not understood ends with status 2, a task that fails with status 1 and the
chain of causes.
-/

namespace EditWatch.Command

open EditWatch.Labelling EditWatch.Session

/-- What is asked of the machine besides reading files. -/
structure Host (m : Type → Type) extends Config.Reader m where
  /-- Puts a text into a file; tells whether the file could be made. -/
  write : String → String → m Bool
  /-- The time in microseconds from some moment on. -/
  clock : m Nat

/-- Where the program runs: variables with values, and the usual place of settings. -/
structure Surroundings where
  environment : List (String × String)
  usualSettings : Option String
  release : Report.Release

/-- What the program leaves behind. -/
structure Response where
  status : UInt8
  out : String
  err : String
  deriving Repr, DecidableEq

/-! ## Failures -/

/-- Why a task failed, with the causes, the nearest first. -/
structure Failure where
  message : String
  causes : List String
  deriving Repr, DecidableEq

namespace Failure

/-- Causes in lines, with numbers from zero if there are several. -/
def causeLines : List String → List String
  | [] => []
  | [c] => ["", "Caused by:", "    " ++ c]
  | cs => "" :: "Caused by:" :: cs.zipIdx.map fun c => "    " ++ toString c.2 ++ ": " ++ c.1

def text (f : Failure) : String :=
  Report.joinLines (("Error: " ++ f.message) :: causeLines f.causes)

/-- A failure of which no more is told. -/
def bare (message : String) : Failure := ⟨message, []⟩

end Failure

/-- A session that cannot start: a fault of the document is a cause of its own. -/
def sessionCauses (f : Session.Fault) : List String :=
  f.message :: match f with
    | .missingSnapshot => []
    | .invalidSnapshot g => [g.message]

/-! ## One record -/

/-- A record on its own: the content of the page and one edit of it. -/
structure LoneRecord where
  root : Document.Descriptor
  edit : Document.Edit

def LoneRecord.ofJson? (j : Json) : Option LoneRecord := do
  let fs ← Json.fields? ["root", "mutation"] j
  let root ← fs.required? "root" (Document.Descriptor.ofJson? .direct)
  let edit ← fs.required? "mutation" (Document.Edit.ofJson? .direct)
  return ⟨root, edit⟩

/-- The document of a record after its edit, and what was seen of it. -/
def LoneRecord.perform (r : LoneRecord) : Except Failure (Document × Document.Record) :=
  match Document.ofRoot r.root with
  | .error f => .error ⟨"Invalid tree", [f.message]⟩
  | .ok d =>
    match d.apply r.edit with
    | (.error f, _) => .error ⟨"Mutation does not apply", [f.message]⟩
    | (.ok record, d) => .ok (d, record)

/-! ## The tasks -/

/-- A task either fails or tells something on the two outputs. -/
abbrev Outcome := Except Failure (String × String)

/-- Emissions as lines. -/
def emissionText (sent : List Emission) : String := Report.joinLines (sent.map Emission.wire)

section Host

variable {m : Type → Type} [Monad m]

/-- The rules that settings ask for. -/
def rulesOf (h : Host m) (s : Settings) : m (Except Failure RuleTable) := do
  return (← Config.rulesFor h.toReader s).mapError fun f => .bare f.message

def classifyTask (h : Host m) (s : Settings) (form : Form) (path : String) (loading : Bool) :
    m Outcome := do
  match (← h.read path).bind Text.decode? with
  | none => return .error (.bare ("Failed to read " ++ path))
  | some text =>
    match (Json.parse? text).bind LoneRecord.ofJson? with
    | none => return .error (.bare ("Failed to parse " ++ path))
    | some r =>
      match r.perform with
      | .error f => return .error f
      | .ok (d, record) =>
        match ← rulesOf h s with
        | .error f => return .error f
        | .ok rules =>
          let category := Labelling.classify d record
          let remark := remark? d rules loading record category
          return .ok ((Report.ofRecord category remark).text form, "")

def rulesTask (h : Host m) (s : Settings) (form : Form) : m Outcome := do
  match ← rulesOf h s with
  | .error f => return .error f
  | .ok rules => return .ok ((Report.ofRules s.rulesPath rules).text form, "")

def infoTask (h : Host m) (e : Surroundings) (s : Settings) (form : Form) : m Outcome := do
  match ← rulesOf h s with
  | .error f => return .error f
  | .ok rules =>
    return .ok ((Report.ofProgram e.release e.usualSettings s rules).text form, "")

/-- The emissions of a session go to the file or to standard output, and the counters, if they
are asked for, to standard error. -/
def tellReplay (h : Host m) (form : Form) (output : Option String) (stats : Bool) (w : Watch)
    (sent : List Emission) (elapsed : Nat) : m Outcome := do
  let summary := Report.ofReplay sent.length w.stats w.tally (elapsed / w.tally.batches)
  let err := if stats then summary.text form else ""
  match output with
  | none => return .ok (emissionText sent, err)
  | some path =>
    if ← h.write path (emissionText sent) then return .ok ("", err)
    else return .error (.bare ("Failed to create " ++ path))

def replayTask (h : Host m) (s : Settings) (form : Form) (path : String)
    (output : Option String) (stats : Bool) : m Outcome := do
  match ← h.read path with
  | none => return .error (.bare ("Failed to open trace " ++ path))
  | some bytes =>
    match Trace.read bytes with
    | .error _ => return .error (.bare ("Failed to parse trace " ++ path))
    | .ok signals =>
      match ← rulesOf h s with
      | .error f => return .error f
      | .ok rules =>
        match Watch.ofSignals s rules signals with
        | .error f => return .error ⟨"Replay aborted", sessionCauses f⟩
        | .ok (w, rest) =>
          let before ← h.clock
          let (w, sent) := w.run rest
          let after ← h.clock
          tellReplay h form output stats w sent (after - before)

/-- A task, once its settings are known. -/
def Task.run (h : Host m) (e : Surroundings) (s : Settings) (form : Form) : Task → m Outcome
  | .replay trace output stats => replayTask h s form trace output stats
  | .rules => rulesTask h s form
  | .classify record loading => classifyTask h s form record loading
  | .info => infoTask h e s form

/-- The log level is looked at first, unless the most talkative one is asked for; then the
settings are loaded. -/
def Invocation.run (h : Host m) (e : Surroundings) (i : Invocation) : m Outcome := do
  if !i.debug && !isLogLevel i.logLevel then return .error (.bare "Invalid log level")
  else
    match ← Config.loadSettings h.toReader i.config e.usualSettings e.environment with
    | .error f => return .error (.bare f.message)
    | .ok s => i.task.run h e s i.form

/-! ## Help -/

/-- What the program is for. -/
def purpose : String := "Semantic edit telemetry for hosted document editors"

/-- What is shown when help is asked for. -/
def helpText : String :=
  Report.joinLines
    [purpose, "",
      "Usage: " ++ programName ++ " [OPTIONS] <COMMAND>", "",
      "Commands:",
      "  replay TRACE [--output FILE] [--stats]  Replay a recorded trace",
      "  rules                                   Print the active rule table",
      "  classify RECORD [--loading]             Classify and annotate a single record",
      "  info                                    Show build and configuration details", "",
      "Options:",
      "  -c, --config <FILE>          Configuration file path",
      "  -l, --log-level <LOG_LEVEL>  Log level [default: warn]",
      "  -d, --debug                  Enable debug mode",
      "  -o, --output <OUTPUT>        Output format: human, json or yaml [default: human]",
      "  -h, --help                   Print help",
      "  -V, --version                Print version"]

/-- The program on the words behind its name. -/
def run (h : Host m) (e : Surroundings) (words : List String) : m Response := do
  match Request.ofWords words with
  | .error f =>
    return ⟨2, "", Report.joinLines ["error: " ++ f.message, "",
      "For more information, try '--help'."]⟩
  | .ok .nothing => return ⟨2, "", helpText⟩
  | .ok .help => return ⟨0, helpText, ""⟩
  | .ok .version => return ⟨0, Report.joinLines [programName ++ " " ++ e.release.version], ""⟩
  | .ok (.run i) =>
    match ← i.run h e with
    | .error f => return ⟨1, "", f.text⟩
    | .ok (out, err) => return ⟨0, out, err⟩

end Host

end EditWatch.Command
