import EditWatch.Document.Node
import EditWatch.Stamp

/-!
# EditWatch.Capture.Listeners -- who listens where

The page keeps a list of registrations for each node. Registering the same handler twice gives
two registrations, and removing takes one of them away, the first. A node keeps its entry when
the last registration goes; it loses it only when the node is forgotten.
-/

namespace EditWatch.Capture

open EditWatch.Document (NodeId)

/-- A handler forwards the events of one category for one frame. -/
structure Handler where
  category : String
  frame : FrameIndex
  deriving Repr, DecidableEq

/-- A handler registered for an event. -/
structure Binding where
  event : String
  handler : Handler
  deriving Repr, DecidableEq

namespace Handler

def display (h : Handler) : String := h.category ++ "@" ++ h.frame.display

def fieldNames : List String := ["category", "frameindex"]

def ofJson? (j : Json) : Option Handler := do
  let fs ← Json.fields? fieldNames j
  let category ← fs.required? "category" Json.string?
  let frame ← fs.required? "frameindex" FrameIndex.ofJson?
  return ⟨category, frame⟩

def toJson (h : Handler) : Json :=
  .obj [("category", .str h.category), ("frameindex", h.frame.toJson)]

end Handler

namespace Binding

def display (b : Binding) : String := b.event ++ " " ++ b.handler.display

def fieldNames : List String := ["event", "handler"]

def ofJson? (j : Json) : Option Binding := do
  let fs ← Json.fields? fieldNames j
  let event ← fs.required? "event" Json.string?
  let handler ← fs.required? "handler" Handler.ofJson?
  return ⟨event, handler⟩

def toJson (b : Binding) : Json := .obj [("event", .str b.event), ("handler", b.handler.toJson)]

end Binding

/-- The registrations of every node that has an entry. -/
abbrev Listeners := Std.ExtTreeMap NodeId (List Binding)

namespace Listeners

/-- The registrations on a node, in order. -/
def bindings (l : Listeners) (node : NodeId) : List Binding := l[node]?.getD []

/-- The number of registrations of one binding on a node. -/
def countOf (l : Listeners) (node : NodeId) (b : Binding) : Nat := (l.bindings node).count b

/-- One more registration behind the others. -/
def add (l : Listeners) (node : NodeId) (b : Binding) : Listeners :=
  l.insert node (l.bindings node ++ [b])

/-- The first registration of the binding taken away, and whether there was one. -/
def remove (l : Listeners) (node : NodeId) (b : Binding) : Listeners × Bool :=
  if (l.bindings node).contains b then (l.insert node ((l.bindings node).erase b), true)
  else (l, false)

/-- The entry of a node dropped. -/
def forget (l : Listeners) (node : NodeId) : Listeners := l.erase node

/-- The entries of the nodes that are kept, and the number of the others. -/
def retain (l : Listeners) (keep : NodeId → Bool) : Listeners × Nat :=
  let kept := l.filter fun node _ => keep node
  (kept, l.size - kept.size)

end Listeners

end EditWatch.Capture
