import EditWatch.Labelling.Category
import EditWatch.Json.Text
import EditWatch.Text.Blank

/-!
# EditWatch.Labelling.RuleTable -- rules

A rule table lists the rules of each category in the order in which they are tried. A table that
is loaded has to name a source and a label in every rule, and a context where it mentions one:
texts of white space alone do not count.
-/

namespace EditWatch.Labelling

/-- A rule: the class token that the changed fragment has to carry, the token that the target has
to carry besides (any target if empty), the label, and the token of the element whose text goes
along. -/
structure Rule where
  source : String
  ancestor : String
  label : String
  context : Option String
  deriving Repr, DecidableEq

/-- The rules of every category. -/
abbrev RuleTable := PerCategory (List Rule)

/-- The fields of a rule that have to say something. -/
inductive RuleField where
  | source
  | label
  | context
  deriving Repr, DecidableEq

def RuleField.name : RuleField → String
  | .source => "source"
  | .label => "label"
  | .context => "context"

/-- Why a rule table is not accepted. -/
inductive RuleFault where
  | emptyField (category : Category) (index : Nat) (field : RuleField)
  | parse
  deriving Repr, DecidableEq

/-- The fault in words; what a text that is no rule table lacks is told by `parse`. -/
def RuleFault.message : RuleFault → String
  | .emptyField category index field =>
    "rule " ++ toString index ++ " in `" ++ category.name ++ "` has an empty " ++ field.name
  | .parse => "rule table could not be parsed"

namespace Rule

/-- The first field that says nothing. -/
def emptyField? (r : Rule) : Option RuleField :=
  if Text.allBlank r.source then some .source
  else if Text.allBlank r.label then some .label
  else match r.context with
    | some c => if Text.allBlank c then some .context else none
    | none => none

/-- The fields of a rule, in the order in which they are written. -/
def fieldNames : List String := ["source", "ancestor", "label", "context"]

def ofJson? (j : Json) : Option Rule := do
  let fs ← Json.fields? fieldNames j
  let source ← fs.required? "source" Json.string?
  let ancestor ← fs.withDefault? "ancestor" Json.string? ""
  let label ← fs.required? "label" Json.string?
  let context ← fs.optional? "context" Json.string?
  return ⟨source, ancestor, label, context⟩

def toJson (r : Rule) : Json :=
  .obj ([("source", .str r.source)]
    ++ (if r.ancestor.isEmpty then [] else [("ancestor", .str r.ancestor)])
    ++ [("label", .str r.label)]
    ++ Json.optionalMember "context" (r.context.map .str))

end Rule

namespace RuleTable

def empty : RuleTable := .ofFn fun _ => []

/-- The table with a rule added behind the others of a category. -/
def push (t : RuleTable) (c : Category) (r : Rule) : RuleTable := t.modify c (· ++ [r])

/-- The number of rules of all categories. -/
def size (t : RuleTable) : Nat := (Category.all.flatMap t.get).length

/-- The first rule of a category with a field that says nothing, counted from `index`. -/
def faultFrom (c : Category) (index : Nat) : List Rule → Option RuleFault
  | [] => none
  | r :: rs => match r.emptyField? with
    | some field => some (.emptyField c index field)
    | none => faultFrom c (index + 1) rs

/-- The first field that says nothing: by category, then by rule, then by field. -/
def fault? (t : RuleTable) : Option RuleFault :=
  Category.all.findSome? fun c => faultFrom c 0 (t.get c)

/-! ## JSON -/

/-- The rules of each category under its name. -/
def fieldNames : List String := Category.all.map Category.name

/-- A table without any check of its rules. No other members are allowed. -/
def ofJson? (j : Json) : Option RuleTable := do
  if Json.declaresAll fieldNames j then
    let fs ← Json.fields? fieldNames j
    let rules (c : Category) := fs.withDefault? c.name (Json.list? Rule.ofJson?) []
    return ⟨← rules .insert, ← rules .delete, ← rules .clear, ← rules .input, ← rules .replace,
      ← rules .suggest, ← rules .other⟩
  else none

def toJson (t : RuleTable) : Json :=
  .obj (Category.all.map fun c => (c.name, .arr ((t.get c).map Rule.toJson)))

/-- The table if all its rules say what they have to. -/
def checked (t : RuleTable) : Except RuleFault RuleTable :=
  match t.fault? with
  | some f => .error f
  | none => .ok t

/-- The table that a JSON text gives. -/
def ofJsonText (text : String) : Except RuleFault RuleTable :=
  match (Json.parse? text).bind ofJson? with
  | some t => checked t
  | none => .error .parse

/-! ## The rules at hand -/

/-- Rules for the comment sidebar, the spelling bubbles and the body text of the editor. -/
def builtin : RuleTable where
  insert := [
    ⟨"docos-docoview-resolve-button-visible", "add-comment", "add-comment",
      some "kix-discussion-plugin"⟩,
    ⟨"docos-replyview", "docos-docoview-replycontainer", "add-reply",
      some "docos-anchoreddocoview"⟩,
    ⟨"docos-anchoredsuggestionview", "docos-stream-view", "suggestion-card",
      some "docos-anchoredsuggestionview-content"⟩,
    ⟨"kix-spell-bubble", "", "spelling-bubble", none⟩,
    ⟨"docs-findandreplacedialog", "", "find-and-replace-opened", none⟩]
  delete := [
    ⟨"docos-anchoreddocoview", "docos-stream-view", "resolve-comment", none⟩,
    ⟨"docos-anchoredsuggestionview", "docos-stream-view", "resolve-suggestion", none⟩,
    ⟨"kix-spell-bubble", "", "spelling-bubble-dismissed", none⟩]
  clear := [
    ⟨"docos-input-contenteditable", "", "clear-comment-draft", some "docos-anchoreddocoview"⟩]
  input := [
    ⟨"kix-wordhtmlgenerator-word-node", "", "text-input", some "kix-paragraphrenderer"⟩,
    ⟨"docos-input-contenteditable", "", "comment-draft-input", some "docos-anchoreddocoview"⟩]
  replace := [
    ⟨"kix-wordhtmlgenerator-word-node", "", "text-replace", some "kix-paragraphrenderer"⟩,
    ⟨"docos-input-contenteditable", "", "comment-draft-replace", some "docos-anchoreddocoview"⟩]
  suggest := [
    ⟨"kix-lineview-text-block", "", "suggestion-edit", some "kix-paragraphrenderer"⟩]
  other := []

end RuleTable

end EditWatch.Labelling
