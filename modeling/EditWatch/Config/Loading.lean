import EditWatch.Config.Ini
import EditWatch.Config.Json5
import EditWatch.Config.Ron
import EditWatch.Config.Toml
import EditWatch.Config.Yaml
import EditWatch.Labelling.RuleText
import EditWatch.Text.Lines

/-!
# EditWatch.Config.Loading -- settings and rules out of files

What is loaded depends on the host only through the bytes that it gives for a file name. The
format of a file follows from the extension of its name. A file of settings that is asked for has
to be there; the one in the usual place may be missing.
-/

namespace EditWatch.Config

open EditWatch.Labelling EditWatch.Session

/-- What is needed of the machine to read files. -/
structure Reader (m : Type → Type) where
  /-- The bytes of a file, if it can be read. -/
  read : String → m (Option (List UInt8))

/-! ## Names -/

/-- The extension of a file name: what follows its last dot, unless that is its first character. -/
def extension? (name : String) : Option String :=
  let file := (name.toList.reverse.takeWhile (· ≠ '/')).reverse
  let ext := (file.reverse.takeWhile (· ≠ '.')).reverse
  if ext.length + 1 < file.length then some (String.ofList ext) else none

/-- The characters of a path whose end is given first, without what stands for the directory
itself. -/
def trimmed : List Char → List Char
  | '/' :: rest => trimmed rest
  | ['.'] => []
  | '.' :: '/' :: rest => trimmed rest
  | cs => cs

/-- A path to which an extension can be added: without the directory itself at its end, and if it
does not end in the directory above. -/
def stem? (path : String) : Option String :=
  match trimmed path.toList.reverse with
  | [] | ['.', '.'] => none
  | '.' :: '.' :: '/' :: _ => none
  | cs => some (String.ofList cs.reverse)

/-- The formats of settings. -/
inductive Format where
  | json
  | yaml
  | toml
  | ini
  | ron
  | json5
  deriving Repr, DecidableEq

namespace Format

/-- The extensions that are known. -/
def extensions : List (String × Format) :=
  [("json", .json), ("yaml", .yaml), ("yml", .yaml), ("toml", .toml), ("ini", .ini), ("ron", .ron),
   ("json5", .json5)]

def ofExtension? (ext : String) : Option Format :=
  (extensions.find? fun e => e.1 == ext).map Prod.snd

/-- The names under which settings are looked for, with the format that each one means: the given
name, and with each extension. -/
def candidates (name : String) : List (String × Option Format) :=
  let others := match stem? name with
    | some stem => extensions.map fun e => (stem ++ "." ++ e.1, some e.2)
    | none => []
  (name, (extension? name).bind ofExtension?) :: others

/-- The layer that a text gives. -/
def layer? : Format → String → Option Layer
  | .json, text => Layer.ofJsonText? text
  | .yaml, text => Layer.ofYamlText? text
  | .toml, text => Layer.ofTomlText? text
  | .ini, text => Layer.ofIniText? text
  | .ron, text => Layer.ofRonText? text
  | .json5, text => Layer.ofJson5Text? text

end Format

/-! ## Settings -/

/-- Why there are no settings. -/
inductive Fault where
  | load
  | parse
  deriving Repr, DecidableEq

def Fault.message : Fault → String
  | .load => "Failed to load configuration"
  | .parse => "Failed to parse configuration"

/-- The settings of a file's layer below that of the environment. -/
def settingsOf (file environment : Layer) : Except Fault Settings :=
  match (file.toppedBy environment).settings? with
  | some s => .ok s
  | none => .error .parse

section Host

variable {m : Type → Type} [Monad m]

/-- The first file of a list that can be read, with its format. -/
def firstFile (r : Reader m) :
    List (String × Option Format) → m (Option (Option Format × List UInt8))
  | [] => return none
  | (name, format) :: rest => do
    match ← r.read name with
    | some bytes => return some (format, bytes)
    | none => firstFile r rest

/-- The format and the text of the file that a name means. There is none if the format is not
known or the bytes are no UTF-8. -/
def findText (r : Reader m) (name : String) : m (Option (Format × String)) := do
  match ← firstFile r (Format.candidates name) with
  | some (some format, bytes) => return (Text.decode? bytes).map fun text => (format, text)
  | _ => return none

/-- The layer of the file that is asked for, or else of the usual one if there is one. -/
def loadLayer (r : Reader m) (asked usual : Option String) : m (Except Fault Layer) := do
  let found ← match asked.or usual with
    | some name => findText r name
    | none => return .ok []
  match found, asked with
  | some (format, text), _ =>
    match format.layer? text with
    | some l => return .ok l
    | none => return .error .load
  | none, some _ => return .error .load
  | none, none => return .ok []

/-- The settings of a file and the environment. -/
def loadSettings (r : Reader m) (asked usual : Option String)
    (environment : List (String × String)) : m (Except Fault Settings) := do
  match ← loadLayer r asked usual with
  | .error f => return .error f
  | .ok l => return settingsOf l (Layer.ofEnvironment environment)

/-! ## Rules -/

/-- Why there is no rule table. -/
inductive RulesFault where
  | unreadable (path : String)
  | invalid (path : String)
  deriving Repr, DecidableEq

def RulesFault.message : RulesFault → String
  | .unreadable path => "Failed to read rule table " ++ path
  | .invalid path => "Invalid rule table " ++ path

/-- The rule table that a text gives, in JSON or YAML. -/
def rulesOfText (path text : String) : Except RuleFault RuleTable :=
  if extension? path = some "json" then RuleTable.ofJsonText text else RuleTable.ofYamlText text

/-- The rule table of a file. -/
def loadRules (r : Reader m) (path : String) : m (Except RulesFault RuleTable) := do
  match (← r.read path).bind Text.decode? with
  | none => return .error (.unreadable path)
  | some text =>
    match rulesOfText path text with
    | .ok t => return .ok t
    | .error _ => return .error (.invalid path)

/-- The rule table that settings ask for: the one at hand unless they name a file. -/
def rulesFor (r : Reader m) (s : Settings) : m (Except RulesFault RuleTable) :=
  match s.rulesPath with
  | some path => loadRules r path
  | none => return .ok RuleTable.builtin

end Host

end EditWatch.Config
