import EditWatch.Labelling.Remark

/-!
# EditWatch.Labelling.Batch -- a batch of records

The records of a batch are taken in order, each for itself: its category is found, the rules are
asked, and a remark becomes an event. Records without a remark are dropped. Both outcomes are
counted.
-/

namespace EditWatch.Labelling

open EditWatch.Document

/-- A counter of the engine: a word of 64 bits, which starts anew behind its greatest value. -/
structure Counter where
  word : UInt64
  deriving Repr, DecidableEq

namespace Counter

instance : Coe Counter Nat := ⟨fun c => c.word.toNat⟩

def zero : Counter := ⟨0⟩

/-- The counter one further. -/
def next (c : Counter) : Counter := ⟨c.word + 1⟩

end Counter

/-- Counts over all batches: records by category, records with and without a remark, batches. -/
structure Tally where
  byCategory : PerCategory Counter
  matched : Counter
  dropped : Counter
  batches : Counter
  deriving Repr, DecidableEq

namespace Tally

def zero : Tally := ⟨.ofFn fun _ => .zero, .zero, .zero, .zero⟩

/-- The counts after one more record. -/
def count (t : Tally) (c : Category) (hasRemark : Bool) : Tally :=
  let t := { t with byCategory := t.byCategory.modify c Counter.next }
  if hasRemark then { t with matched := t.matched.next } else { t with dropped := t.dropped.next }

/-- The counts after one more batch. -/
def closeBatch (t : Tally) : Tally := { t with batches := t.batches.next }

end Tally

/-- How many records a batch had and for how many an event was sent. -/
structure BatchReport where
  records : Nat
  emitted : Nat
  deriving Repr, DecidableEq

/-- What the engine needs besides the document and the records. -/
structure Engine where
  rules : RuleTable
  loading : Bool
  identity : Identity
  frame : FrameIndex

namespace Engine

/-- The event for one record, if a rule fits. -/
def event? (g : Engine) (d : Document) (r : Record) : Option AnnotatedEvent :=
  (remark? d g.rules g.loading r (classify d r)).map fun m => m.toEvent (g.identity.stamp g.frame)

/-- The records of a batch, one after the other: the events that are sent, how many the report
counts, and the counts afterwards. -/
def processAll (g : Engine) (d : Document) :
    Tally → List Record → List AnnotatedEvent × Nat × Tally
  | t, [] => ([], 0, t)
  | t, r :: rs =>
    match g.event? d r with
    | some e =>
      let (events, emitted, t) := processAll g d (t.count (classify d r) true) rs
      (e :: events, emitted + 1, t)
    | none => processAll g d (t.count (classify d r) false) rs

/-- The events of a batch in order, its report, and the counts afterwards. -/
def processBatch (g : Engine) (d : Document) (t : Tally) (records : List Record) :
    List AnnotatedEvent × BatchReport × Tally :=
  let (events, emitted, t) := g.processAll d t records
  (events, ⟨records.length, emitted⟩, t.closeBatch)

end Engine

end EditWatch.Labelling
