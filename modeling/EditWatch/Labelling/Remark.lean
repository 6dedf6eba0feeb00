import EditWatch.Labelling.RuleTable
import EditWatch.Labelling.Snapshot
import EditWatch.Stamp

/-!
# EditWatch.Labelling.Remark -- what the rules say of a record

Of the rules of a record's category the first that fits decides, and no other is looked at. Its
label and the text of the element it names as context make up the remark. While the page is
loading, labels of insertions are marked; the phase never decides whether a rule fits.
-/

namespace EditWatch.Labelling

open EditWatch.Document

/-- Marks labels of insertions that were seen while the page was loading. -/
def loadingMark : String := "loading_"

/-- What a rule says of a record. -/
structure Remark where
  category : Category
  label : String
  contextContent : Option String
  change : RecordSnapshot
  deriving Repr, DecidableEq

/-- Whether a changed fragment and the target carry the tokens of a rule. -/
def Rule.fitsFragment (d : Document) (fragment : Option NodeId) (target : NodeId) (rule : Rule) :
    Bool :=
  match fragment with
  | none => false
  | some f =>
    d.hasClass f rule.source && (rule.ancestor.isEmpty || d.hasClass target rule.ancestor)

/-- Whether a rule fits a record. Insertions and deletions look at the changed fragment and the
target; the other categories look at the parent of the target only. -/
def Rule.fits (d : Document) (r : Record) (category : Category) (rule : Rule) : Bool :=
  match category with
  | .insert => rule.fitsFragment d r.added.head? r.target
  | .delete => rule.fitsFragment d r.removed.head? r.target
  | _ => match d.parent? r.target with
    | some p => d.hasClass p rule.source
    | none => false

/-- The text of the nearest element, from the target upwards, that carries the token. -/
def contextText (d : Document) (target : NodeId) (token : String) : Option String :=
  (d.closestWithClass target token).bind d.innerText

/-- The label as it is reported. -/
def reportedLabel (loading : Bool) (category : Category) (rule : Rule) : String :=
  if category = .insert ∧ loading then loadingMark ++ rule.label else rule.label

/-- The remark that one rule makes. -/
def Rule.remark (d : Document) (loading : Bool) (r : Record) (category : Category) (rule : Rule) :
    Remark where
  category := category
  label := reportedLabel loading category rule
  contextContent := rule.context.bind (contextText d r.target)
  change := RecordSnapshot.capture d r

/-- The remark of the first rule of the category that fits. -/
def remark? (d : Document) (rules : RuleTable) (loading : Bool) (r : Record)
    (category : Category) : Option Remark :=
  ((rules.get category).find? fun rule => rule.fits d r category).map fun rule =>
    rule.remark d loading r category

/-! ## Events -/

/-- A remark together with the identity of the document. -/
structure AnnotatedEvent where
  category : Category
  label : String
  change : RecordSnapshot
  contextContent : Option String
  stamp : Stamp
  deriving Repr, DecidableEq

def Remark.toEvent (m : Remark) (stamp : Stamp) : AnnotatedEvent :=
  ⟨m.category, m.label, m.change, m.contextContent, stamp⟩

namespace AnnotatedEvent

/-- The fields of an event, in the order in which they are written; those of the stamp follow. -/
def fieldNames : List String := ["event_type", "type", "change", "context_content"]

/-- An event is always an object. The stamp is read from the members that are no fields of the
event itself; these are held back until all of them are known, so none may be unreadable. -/
def ofJson? (how : Json.Held) (j : Json) : Option AnnotatedEvent := do
  let fs ← Json.objectFields? fieldNames j
  let category ← fs.required? "event_type" (Category.ofJson? how)
  let label ← fs.required? "type" Json.string?
  let change ← fs.required? "change" (RecordSnapshot.ofJson? how)
  let contextContent ← fs.optional? "context_content" Json.string?
  let rest ← Json.heldObject? fieldNames j
  let stamp ← (Json.objectFields? Stamp.fieldNames rest).bind Stamp.ofFields?
  return ⟨category, label, change, contextContent, stamp⟩

def toJson (e : AnnotatedEvent) : Json :=
  .obj ([("event_type", e.category.toJson), ("type", .str e.label), ("change", e.change.toJson)]
    ++ Json.optionalMember "context_content" (e.contextContent.map .str)
    ++ e.stamp.members)

end AnnotatedEvent

end EditWatch.Labelling
