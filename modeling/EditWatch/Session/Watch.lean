import EditWatch.Emission
import EditWatch.Labelling.Batch
import EditWatch.Session.Settings
import EditWatch.Session.Signal

/-!
# EditWatch.Session.Watch -- watching one document

A session starts from the content of a page and takes one signal after the other. A batch of
edits is applied as a whole before its records are labelled; nodes that were taken out stay
readable until then and are dropped afterwards, together with their listeners. An edit that the
document refuses is skipped and the rest of the batch proceeds. Each step returns the emissions
it sent.
-/

namespace EditWatch.Session

open EditWatch.Document EditWatch.Labelling EditWatch.Capture

/-- Counters of a session. They start at nothing and grow by no more than one for every edit or
signal that is handled, so a word of 64 bits would not be full before the session ends. That is why
they are plain numbers, while those of a `Tally`, which go on from one session to the next and start
anywhere, are words. -/
structure Stats where
  batches : Nat
  records : Nat
  emitted : Nat
  skippedMutations : Nat
  interactions : Nat
  rebinds : Nat
  deriving Repr, DecidableEq

def Stats.zero : Stats := ⟨0, 0, 0, 0, 0, 0⟩

/-- Counters in JSON. -/
def Stats.toJson (s : Stats) : Json :=
  .obj [("batches", Json.ofNat s.batches), ("records", Json.ofNat s.records),
    ("emitted", Json.ofNat s.emitted), ("skipped_mutations", Json.ofNat s.skippedMutations),
    ("interactions", Json.ofNat s.interactions), ("rebinds", Json.ofNat s.rebinds)]

/-- A watched document. -/
structure Watch where
  document : Document
  loading : Bool
  listeners : Listeners
  rules : RuleTable
  capturer : Capturer
  stats : Stats
  tally : Tally

/-- What a signal led to. -/
inductive Outcome where
  | batch (report : BatchReport)
  | interaction (report : Option CaptureReport)
  /-- Whether this signal ended the loading phase. -/
  | loaded (changed : Bool)
  | ignored
  deriving Repr, DecidableEq

/-- Why no session can run. -/
inductive Fault where
  | missingSnapshot
  | invalidSnapshot (fault : Document.Fault)
  deriving Repr, DecidableEq

def Fault.message : Fault → String
  | .missingSnapshot => "trace must start with a snapshot signal"
  | .invalidSnapshot fault => "initial snapshot is invalid: " ++ fault.message

namespace Watch

/-- The engine as it labels now. -/
def engine (w : Watch) : Engine where
  rules := w.rules
  loading := w.loading
  identity := w.capturer.identity
  frame := w.capturer.frame

/-- A session on the content of a page. The dynamic region is bound once, without being counted. -/
def start (settings : Settings) (rules : RuleTable) (identity : Identity) (root : Descriptor) :
    Except Fault Watch :=
  match Document.ofRoot root with
  | .error f => .error (.invalidSnapshot f)
  | .ok d =>
    let rebinder := Rebinder.ofTable settings.dynamicRegion Table.builtin settings.frame
    let (listeners, _) := rebinder.rebind d ∅
    .ok
      { document := d
        loading := true
        listeners := listeners
        rules := rules
        capturer := ⟨Table.builtin, rebinder, identity, settings.frame⟩
        stats := .zero
        tally := .zero }

/-- Edits applied in order: the document afterwards, the records of those it accepted, and the
number of the others. -/
def applyAll (d : Document) : List Edit → Document × List Record × Nat
  | [] => (d, [], 0)
  | e :: es =>
    match d.apply e with
    | (.ok r, d) =>
      let (d, rs, skipped) := applyAll d es
      (d, r :: rs, skipped)
    | (.error _, d) =>
      let (d, rs, skipped) := applyAll d es
      (d, rs, skipped + 1)

/-- One batch of edits observed. -/
def observe (w : Watch) (edits : List Edit) : Watch × BatchReport × List Emission :=
  let (d, records, skipped) := applyAll w.document edits
  let (events, report, tally) := w.engine.processBatch d w.tally records
  let (d, _) := d.prune
  let (listeners, _) := w.listeners.retain d.contains
  let stats :=
    { w.stats with
      batches := w.stats.batches + 1
      records := w.stats.records + report.records
      emitted := w.stats.emitted + report.emitted
      skippedMutations := w.stats.skippedMutations + skipped }
  ({ w with document := d, listeners := listeners, stats := stats, tally := tally },
    report, events.map .annotated)

/-- One interaction handled. -/
def interact (w : Watch) (event : String) (payload : Json) :
    Watch × Option CaptureReport × List Emission :=
  match w.capturer.handle w.document w.listeners event payload with
  | (listeners, none) => ({ w with listeners := listeners }, none, [])
  | (listeners, some (e, report)) =>
    let stats :=
      { w.stats with
        interactions := w.stats.interactions + 1
        rebinds := w.stats.rebinds + report.rebound.isSome.toNat }
    ({ w with listeners := listeners, stats := stats }, some report, [.interaction e])

/-- One signal handled: the session afterwards, what the signal led to, and what was sent. -/
def handle (w : Watch) : Signal → Watch × Outcome × List Emission
  | .mutations edits =>
    let (w, report, sent) := w.observe edits
    (w, .batch report, sent)
  | .interaction event payload =>
    let (w, report, sent) := w.interact event payload
    (w, .interaction report, sent)
  | .loaded => ({ w with loading := false }, .loaded w.loading, [])
  | .snapshot _ => (w, .ignored, [])

/-- Signals handled in order, and all that was sent. -/
def run (w : Watch) : List Signal → Watch × List Emission
  | [] => (w, [])
  | s :: rest =>
    let (w, _, sent) := w.handle s
    let (w, others) := w.run rest
    (w, sent ++ others)

end Watch

end EditWatch.Session
