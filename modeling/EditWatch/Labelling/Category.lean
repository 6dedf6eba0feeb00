import EditWatch.Document.Edit
import EditWatch.Json.Fields

/-!
# EditWatch.Labelling.Category -- what kind of change a record is

The category is decided by the first added and the first removed node and by the kind of the
edit; the order of the questions matters. Whether a node is text is asked of the document as it
is when the question comes, and a node that is gone counts as an element.
-/

namespace EditWatch.Labelling

open EditWatch.Document (NodeId Record)

inductive Category where
  | insert
  | delete
  | clear
  | input
  | replace
  | suggest
  | other
  deriving Repr, DecidableEq, Inhabited

namespace Category

/-- All categories in their order. -/
def all : List Category := [.insert, .delete, .clear, .input, .replace, .suggest, .other]

theorem mem_all (c : Category) : c ∈ all := by cases c <;> decide

def name : Category → String
  | .insert => "insert"
  | .delete => "delete"
  | .clear => "clear"
  | .input => "input"
  | .replace => "replace"
  | .suggest => "suggest"
  | .other => "other"

def ofName? (s : String) : Option Category := all.find? fun c => c.name == s

theorem ofName?_name (c : Category) : ofName? c.name = some c := by cases c <;> decide

def toJson (c : Category) : Json := .str c.name

def ofJson? (how : Json.Held) (j : Json) : Option Category := (Json.name? how j).bind ofName?

end Category

/-- One thing for every category. -/
structure PerCategory (α : Type) where
  insert : α
  delete : α
  clear : α
  input : α
  replace : α
  suggest : α
  other : α
  deriving Repr, DecidableEq, Inhabited

namespace PerCategory

variable {α : Type}

def get (p : PerCategory α) : Category → α
  | .insert => p.insert
  | .delete => p.delete
  | .clear => p.clear
  | .input => p.input
  | .replace => p.replace
  | .suggest => p.suggest
  | .other => p.other

def ofFn (f : Category → α) : PerCategory α :=
  ⟨f .insert, f .delete, f .clear, f .input, f .replace, f .suggest, f .other⟩

/-- The entry of one category replaced by its image. -/
def modify (p : PerCategory α) (c : Category) (f : α → α) : PerCategory α :=
  ofFn fun k => if k = c then f (p.get k) else p.get k

@[simp] theorem get_ofFn (f : Category → α) (c : Category) : (ofFn f).get c = f c := by
  cases c <;> rfl

@[simp] theorem get_modify (p : PerCategory α) (c k : Category) (f : α → α) :
    (p.modify c f).get k = if k = c then f (p.get k) else p.get k := by
  simp only [modify, get_ofFn]

theorem ext_get {p q : PerCategory α} (h : ∀ c, p.get c = q.get c) : p = q := by
  cases p
  cases q
  have h₁ := h .insert
  have h₂ := h .delete
  have h₃ := h .clear
  have h₄ := h .input
  have h₅ := h .replace
  have h₆ := h .suggest
  have h₇ := h .other
  simp only [get] at h₁ h₂ h₃ h₄ h₅ h₆ h₇
  simp only [h₁, h₂, h₃, h₄, h₅, h₆, h₇]

end PerCategory

/-- The category of a record. Replacing one text node by another is asked for before the kind of
the edit, and a new child together with a removed one is a suggestion otherwise. -/
def classify (d : Document) (r : Record) : Category :=
  match r.added.head?, r.removed.head? with
  | some _, none => .insert
  | none, some removed => if d.isText removed then .clear else .delete
  | some added, some removed =>
    if d.isText added && d.isText removed then .replace
    else if r.kind = .characterData then .input
    else .suggest
  | none, none => if r.kind = .characterData then .input else .other

end EditWatch.Labelling
