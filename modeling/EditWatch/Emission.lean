import EditWatch.Capture.Interaction
import EditWatch.Json.Text
import EditWatch.Labelling.Remark

/-!
# EditWatch.Emission -- what leaves the watcher

An emission is an annotated event or an interaction, written without any mark of which it is. A
value is read as an annotated event if it is one, and as an interaction otherwise.
-/

namespace EditWatch

inductive Emission where
  | annotated (event : Labelling.AnnotatedEvent)
  | interaction (event : Capture.InteractionEvent)

namespace Emission

/-- What the emission calls its type: the category in either case. -/
def eventType : Emission → String
  | .annotated e => e.category.name
  | .interaction e => e.category

def toJson : Emission → Json
  | .annotated e => e.toJson
  | .interaction e => e.toJson

/-- The value is lent to one reader and then to the other, not handed over, so names stand in it as they
do in a text. -/
def ofJson? (j : Json) : Option Emission :=
  if j.readable then
    match Labelling.AnnotatedEvent.ofJson? .direct j with
    | some e => some (.annotated e)
    | none => (Capture.InteractionEvent.ofJson? j).map .interaction
  else none

/-- The line by which the emission is handed on. -/
def wire (e : Emission) : String := e.toJson.text

end Emission

end EditWatch
