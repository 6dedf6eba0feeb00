import EditWatch.Capture.Table
import EditWatch.Command.Invocation
import EditWatch.Json.Text
import EditWatch.Labelling.Batch
import EditWatch.Session.Watch
import EditWatch.Yaml.Writing

/-!
# EditWatch.Command.Report -- what the tasks tell

A report has two forms: a value, written as JSON or YAML, and lines for people. Either way it ends
in a line break of its own.
-/

namespace EditWatch.Command

open EditWatch.Document (Path)
open EditWatch.Labelling

/-- What a task tells. -/
structure Report where
  value : Json
  lines : List String

namespace Report

/-- Lines as a text, each with a line break behind it. -/
def joinLines (lines : List String) : String := String.join (lines.map fun l => l ++ "\n")

/-- The report in a form. -/
def text (r : Report) : Form → String
  | .human => joinLines r.lines
  | .json => joinLines [r.value.indentedText]
  | .yaml => joinLines [Yaml.text r.value]

/-! ## One record -/

/-- The category of a record and the remark that the rules make on it. -/
def ofRecord (category : Category) (remark : Option Remark) : Report where
  value := .obj [("category", category.toJson),
    ("label", Json.ofString? (remark.map Remark.label)),
    ("context_content", Json.ofString? (remark.bind Remark.contextContent)),
    ("change", match remark with
      | some m => m.change.toJson
      | none => .null)]
  lines :=
    ["category: " ++ category.name,
      "label:    " ++ (remark.map Remark.label).getD "(no matching rule)"]
    ++ ((remark.bind Remark.contextContent).map fun c => "context:  " ++ c).toList

/-! ## Rules -/

/-- A rule in a line. A rule for any target shows a star. -/
def ruleLine (r : Rule) : String :=
  "  " ++ r.source ++ " in " ++ (if r.ancestor.isEmpty then "*" else r.ancestor)
    ++ " -> " ++ r.label
    ++ (match r.context with
      | some c => " [context: " ++ c ++ "]"
      | none => "")

/-- The rules of a category below its name. A category without rules is not shown. -/
def categoryLines (t : RuleTable) (c : Category) : List String :=
  match t.get c with
  | [] => []
  | rules => "" :: (c.name ++ " (" ++ toString rules.length ++ ")") :: rules.map ruleLine

/-- A rule table, and the file that it is from. -/
def ofRules (path : Option String) (t : RuleTable) : Report where
  value := t.toJson
  lines := ("Rule table: " ++ path.getD "built-in") :: Category.all.flatMap (categoryLines t)

/-! ## The program -/

/-- Which program this is. -/
structure Release where
  version : String
  date : String
  revision : String
  deriving Repr, DecidableEq

/-- The categories of interactions, with the place where the page listens for them. -/
def captureNames : List String :=
  Capture.Table.builtin.specs.map fun s => s.category ++ " (" ++ s.scope.name ++ ")"

/-- The program, where its settings usually are, and what they come to. -/
def ofProgram (release : Release) (usual : Option String) (s : Session.Settings)
    (rules : RuleTable) : Report where
  value := .obj [("version", .str release.version), ("build_date", .str release.date),
    ("git_hash", .str release.revision), ("config_path", Json.ofString? usual),
    ("frameindex", .str s.frame.display), ("dynamic_region", .str s.dynamicRegion),
    ("rules", Json.ofNat rules.size), ("capture_categories", .arr (captureNames.map .str))]
  lines :=
    [programName ++ " v" ++ release.version,
      "  built:          " ++ release.date ++ " (" ++ release.revision ++ ")",
      "  config:         " ++ usual.getD "(no config directory)",
      "  frame index:    " ++ s.frame.display,
      "  dynamic region: " ++ s.dynamicRegion,
      "  rules:          " ++ toString rules.size,
      "  capture:        " ++ String.intercalate ", " captureNames]

/-! ## A replay -/

/-- Thousandths as a decimal with three places. -/
def thousandths (n : Nat) : String :=
  let places := toString (n % 1000)
  toString (n / 1000) ++ "." ++ String.ofList (List.replicate (3 - places.length) '0') ++ places

/-- The records of one category. -/
def countJson (t : Tally) (c : Category) : Json :=
  .obj [("category", c.toJson), ("records", Json.ofNat (t.byCategory.get c))]

/-- The records of one category in a line, if there are any. -/
def countLine? (t : Tally) (c : Category) : Option String :=
  let n : Nat := t.byCategory.get c
  if n = 0 then none
  else some ("  " ++ c.name ++ String.ofList (List.replicate (18 - c.name.length) ' ') ++ "  "
    ++ toString n)

/-- The counters of a replay: how many emissions were written, and the average time that a batch
took, in microseconds. -/
def ofReplay (written : Nat) (s : Session.Stats) (t : Tally) (average : Nat) : Report where
  value := .obj [("written", Json.ofNat written), ("session", s.toJson),
    ("engine", .obj [("by_category", .arr (Category.all.map (countJson t))),
      ("matched", Json.ofNat t.matched), ("dropped", Json.ofNat t.dropped),
      ("batches", Json.ofNat t.batches),
      ("avg_batch_ms", .num (.real (Number.Double.ofRatio false average 1000)))])]
  lines :=
    ["Replay summary",
      "  events written:     " ++ toString written,
      "  batches:            " ++ toString s.batches,
      "  records:            " ++ toString s.records,
      "  annotated:          " ++ toString s.emitted,
      "  skipped mutations:  " ++ toString s.skippedMutations,
      "  interactions:       " ++ toString s.interactions,
      "  region rebinds:     " ++ toString s.rebinds,
      "  avg batch:          " ++ thousandths average ++ " ms"]
    ++ Category.all.filterMap (countLine? t)

end Report

end EditWatch.Command
