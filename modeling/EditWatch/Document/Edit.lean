import EditWatch.Document.Basic

/-!
# EditWatch.Document.Edit -- edits of the page

An `Edit` is a change as the page performed it; applied to a document it gives the `Record` that
an observer of the page would have received. The edit is checked as a whole before anything is
written; then its changes are made one by one, each with an outcome of its own.
-/

namespace EditWatch.Document

inductive EditKind where
  | childList
  | characterData
  deriving Repr, DecidableEq

def EditKind.name : EditKind → String
  | .childList => "childList"
  | .characterData => "characterData"

/-- A change of one node: children taken out and subtrees added, or new character data. -/
structure Edit where
  target : NodeId
  kind : EditKind
  added : List Descriptor
  removed : List NodeId
  text : Option String

/-- What was seen of an edit, by number. The nodes may be gone when the record is read. -/
structure Record where
  target : NodeId
  added : List NodeId
  removed : List NodeId
  kind : EditKind
  deriving Repr, DecidableEq

/-- The first entry that is no child of `parent` or repeats an earlier one. -/
def firstStranger (d : Document) (parent : NodeId) (seen : Std.ExtTreeSet NodeId) :
    List NodeId → Option NodeId
  | [] => none
  | c :: cs =>
    if d.parent? c = some parent ∧ ¬ seen.contains c then
      firstStranger d parent (seen.insert c) cs
    else some c

/-- All the children taken out, one after the other, up to the first that cannot be. -/
def detachAll (d : Document) (parent : NodeId) : List NodeId → Except Fault Unit × Document
  | [] => (.ok (), d)
  | c :: cs =>
    match d.detach parent c with
    | (.error f, d) => (.error f, d)
    | (.ok (), d) => detachAll d parent cs

/-- All the subtrees added, one after the other, up to the first that cannot be; with the numbers
of their tops. -/
def insertAll (d : Document) (parent : NodeId) :
    List Descriptor → Except Fault (List NodeId) × Document
  | [] => (.ok [], d)
  | x :: xs =>
    match d.insert (some parent) x with
    | (.error f, d) => (.error f, d)
    | (.ok id, d) =>
      match insertAll d parent xs with
      | (.error f, d) => (.error f, d)
      | (.ok ids, d) => (.ok (id :: ids), d)

/-- What speaks against an edit of a child list: first an entry of `removed`, then `added`. -/
def childListFault (d : Document) (e : Edit) : Option Fault :=
  match d.firstStranger e.target ∅ e.removed with
  | some c => some (.notAChild c e.target)
  | none => d.insertFault e.target e.added

/-- The edit applied: its record or the reason why it is refused, and the document afterwards. -/
def apply (d : Document) (e : Edit) : Except Fault Record × Document :=
  if !d.contains e.target then (.error (.unknownNode e.target), d)
  else match e.kind with
    | .characterData =>
      match d.setText e.target (e.text.getD "") with
      | (.error f, d) => (.error f, d)
      | (.ok (), d) => (.ok ⟨e.target, [], [], .characterData⟩, d)
    | .childList =>
      match d.childListFault e with
      | some f => (.error f, d)
      | none =>
        match d.detachAll e.target e.removed with
        | (.error f, d) => (.error f, d)
        | (.ok (), d) =>
          match d.insertAll e.target e.added with
          | (.error f, d) => (.error f, d)
          | (.ok ids, d) => (.ok ⟨e.target, ids, e.removed, .childList⟩, d)

end EditWatch.Document
