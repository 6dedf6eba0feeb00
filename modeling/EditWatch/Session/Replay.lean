import EditWatch.Session.Watch
import EditWatch.Url.Page

/-!
# EditWatch.Session.Replay -- sessions from recorded signals

A trace has to begin with a snapshot, from which the session starts; all other signals follow in
order. The identity of the document comes from the address in the snapshot.
-/

namespace EditWatch.Session

/-- A session on the page of a snapshot. -/
def Watch.ofOpening (s : Settings) (rules : Labelling.RuleTable) (o : Opening) :
    Except Fault Watch :=
  Watch.start s rules (Identity.ofPage o.url o.title) o.root

/-- The session that a trace begins, and the signals that follow. -/
def Watch.ofSignals (s : Settings) (rules : Labelling.RuleTable) (signals : List Signal) :
    Except Fault (Watch × List Signal) :=
  match signals with
  | .snapshot o :: rest => (Watch.ofOpening s rules o).map fun w => (w, rest)
  | _ => .error .missingSnapshot

/-- A whole trace: the session at its end, and all that was sent. -/
def replay (s : Settings) (rules : Labelling.RuleTable) (signals : List Signal) :
    Except Fault (Watch × List Emission) :=
  (Watch.ofSignals s rules signals).map fun p => p.1.run p.2

end EditWatch.Session
