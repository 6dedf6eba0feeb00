import EditWatch.Capture.Listeners
import EditWatch.Capture.Table
import EditWatch.Document.Walk

/-!
# EditWatch.Capture.Region -- binding a region that is replaced

The page renders one region anew whenever the focus moves. The rebinder then removes its own
registrations from the region, however many there are, and adds each once more, so that any
number of runs leaves one registration of each.
-/

namespace EditWatch.Capture

open EditWatch.Document

/-- The class token of the region that the page replaces. -/
def defaultRegion : String := "docos-stream-view"

/-- The token of a region and the registrations it is to have. -/
structure Rebinder where
  region : String
  bindings : List Binding
  deriving Repr, DecidableEq

/-- The region that was found, and how many registrations were removed and added. -/
structure RebindReport where
  region : Option NodeId
  removed : Nat
  added : Nat
  deriving Repr, DecidableEq

namespace Rebinder

/-- All events that a spec lists, each with the spec's handler. -/
def specBindings (frame : FrameIndex) (s : Spec) : List Binding :=
  s.events.map fun e => ⟨e, ⟨s.category, frame⟩⟩

/-- The rebinder for the events of document scope. -/
def ofTable (region : String) (table : Table) (frame : FrameIndex) : Rebinder where
  region := region
  bindings := (table.ofScope .document).flatMap (specBindings frame)

/-- Removes registrations of a binding until there is none left or the steps are used up; counts
them. -/
def removeFrom (node : NodeId) (b : Binding) : Nat → Listeners → Listeners × Nat
  | 0, l => (l, 0)
  | fuel + 1, l =>
    match l.remove node b with
    | (l, true) =>
      let (l, n) := removeFrom node b fuel l
      (l, n + 1)
    | (l, false) => (l, 0)

/-- All registrations of a binding removed from a node, and their number. -/
def removeAll (l : Listeners) (node : NodeId) (b : Binding) : Listeners × Nat :=
  removeFrom node b (l.bindings node).length l

/-- Each binding removed from the node altogether and added once; counts both. -/
def rebindAll (node : NodeId) : List Binding → Listeners → Listeners × Nat × Nat
  | [], l => (l, 0, 0)
  | b :: bs, l =>
    let (l, removed) := removeAll l node b
    let (l, r, a) := rebindAll node bs (l.add node b)
    (l, removed + r, a + 1)

/-- The region bound anew, if it is there. -/
def rebind (r : Rebinder) (d : Document) (l : Listeners) : Listeners × RebindReport :=
  match d.findByClass r.region with
  | none => (l, ⟨none, 0, 0⟩)
  | some node =>
    let (l, removed, added) := rebindAll node r.bindings l
    (l, ⟨some node, removed, added⟩)

end Rebinder

end EditWatch.Capture
