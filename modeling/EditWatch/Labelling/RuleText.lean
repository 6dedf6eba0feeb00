import EditWatch.Labelling.RuleTable
import EditWatch.Yaml.Reading

/-!
# EditWatch.Labelling.RuleText -- rule tables in YAML

A text holds one table. Every scalar counts as a string, whatever it looks like; only a context
may be nothing. A list, a rule or a table that is left out is empty.
-/

namespace EditWatch.Labelling

open EditWatch.Yaml (Node)

/-- The words for nothing. -/
def nullWords : List String := ["null", "Null", "NULL", "~"]

/-- A text that may be nothing: left out or one of the words for it, without quotes. -/
def optionalText? : Node → Option (Option String)
  | .scalar tag plain text =>
    if !plain then some (some text)
    else if tag.map Yaml.Tag.text = some (Yaml.coreTag ++ "null") then
      (if nullWords.contains text then some none else none)
    else if tag.isSome then some (some text)
    else if text.isEmpty || nullWords.contains text then some none
    else some (some text)
  | _ => none

/-- The entries of a mapping by the text of their keys; a declared name may not come twice. -/
def entries? (d : Yaml.Document) (names : List String) (n : Node) : Option (List (String × Node)) :=
  if n.isAbsent then some []
  else match n with
    | .mapping es => do
      let named ← es.mapM fun e => (d.follow e.1).text?.map fun k => (k, d.follow e.2)
      if names.all fun x => (named.filter fun e => e.1 == x).length ≤ 1 then some named else none
    | _ => none

/-- The value of an entry. -/
def valueOf? (name : String) (es : List (String × Node)) : Option Node :=
  (es.find? fun e => e.1 == name).map Prod.snd

/-- The items of a list. -/
def items? (d : Yaml.Document) (n : Node) : Option (List Node) :=
  if n.isAbsent then some []
  else match n with
    | .list items => some (items.map d.follow)
    | _ => none

def Rule.ofYaml? (d : Yaml.Document) (n : Node) : Option Rule := do
  let es ← entries? d Rule.fieldNames n
  let source ← (valueOf? "source" es).bind Node.text?
  let ancestor ← match valueOf? "ancestor" es with
    | some v => v.text?
    | none => some ""
  let label ← (valueOf? "label" es).bind Node.text?
  let context ← match valueOf? "context" es with
    | some v => optionalText? v
    | none => some none
  return ⟨source, ancestor, label, context⟩

namespace RuleTable

/-- The rules of one category; none if it is not mentioned. -/
def rulesOf? (d : Yaml.Document) (es : List (String × Node)) (c : Category) : Option (List Rule) :=
  match valueOf? c.name es with
  | some v => (items? d v).bind fun ns => ns.mapM (Rule.ofYaml? d)
  | none => some []

def ofYaml? (d : Yaml.Document) : Option RuleTable := do
  let es ← entries? d fieldNames d.root
  if es.all fun e => fieldNames.contains e.1 then
    let rules := rulesOf? d es
    return ⟨← rules .insert, ← rules .delete, ← rules .clear, ← rules .input, ← rules .replace,
      ← rules .suggest, ← rules .other⟩
  else none

/-- The table of the only document of a text; a text without documents is an empty table. -/
def ofYamlDocuments? : List Yaml.Document → Option RuleTable
  | [] => some empty
  | [d] => ofYaml? d
  | _ => none

/-- The table that a YAML text gives. -/
def ofYamlText (text : String) : Except RuleFault RuleTable :=
  match (Yaml.documents? text).bind ofYamlDocuments? with
  | some t => checked t
  | none => .error .parse

end RuleTable

end EditWatch.Labelling
