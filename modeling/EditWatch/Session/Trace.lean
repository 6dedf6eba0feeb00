import EditWatch.Session.Signal
import EditWatch.Text.Blank
import EditWatch.Text.Lines

/-!
# EditWatch.Session.Trace -- recorded signals

A trace holds one signal a line. Blank lines are skipped. Reading stops at the first line that is
no UTF-8 or no signal; the latter is reported with its number, counted from one.
-/

namespace EditWatch.Session

/-- Why a trace cannot be read. -/
inductive TraceFault where
  | encoding
  | parse (line : Nat)
  deriving Repr, DecidableEq

/-- The fault in words; what a line lacks is told elsewhere. -/
def TraceFault.message : TraceFault → String
  | .encoding => "failed to read trace: stream did not contain valid UTF-8"
  | .parse line => "line " ++ toString line

namespace Trace

/-- The signal of one line, nothing if the line is blank. -/
def readLine (number : Nat) (bytes : List UInt8) : Except TraceFault (Option Signal) :=
  match Text.decode? bytes with
  | none => .error .encoding
  | some line =>
    if Text.allBlank line then .ok none
    else match (Json.parse? line).bind Signal.ofJson? with
      | some s => .ok (some s)
      | none => .error (.parse number)

/-- The signals of lines, the first of which has the given number. -/
def readLines (number : Nat) : List (List UInt8) → Except TraceFault (List Signal)
  | [] => .ok []
  | line :: rest => do
    let first ← readLine number line
    let others ← readLines (number + 1) rest
    return first.toList ++ others

/-- The signals of a trace. -/
def read (bytes : List UInt8) : Except TraceFault (List Signal) := readLines 1 (Text.lines bytes)

end Trace

end EditWatch.Session
