import Std.Data.ExtTreeMap

/-!
# EditWatch.Broadcast -- a bounded broadcast channel

All receivers read one sequence of events, each at its own pace from the moment it subscribed.
The channel retains the last events only, as many as its capacity; a receiver that fell behind
the oldest of them is told once how many it missed and then goes on with that one. Without
receivers nothing is accepted. After closing, receivers read what is left and then learn that the
channel is closed.
-/

namespace EditWatch

/-- The least power of two that is not below `n`, for `n` at most `2 ^ fuel * p`. -/
def powerOfTwoFrom (n : Nat) : Nat → Nat → Nat
  | 0, p => p
  | fuel + 1, p => if n ≤ p then p else powerOfTwoFrom n fuel (2 * p)

/-- A channel. Event number `k` of the sequence is retained iff `sent - retained.length ≤ k`. -/
structure Broadcast (α : Type) where
  /-- How many events are retained at most. -/
  capacity : Nat
  /-- The retained events, the oldest first. -/
  retained : List α
  /-- How many events were accepted. -/
  sent : Nat
  /-- The number of the event that each receiver reads next. -/
  receivers : Std.ExtTreeMap Nat Nat
  /-- The number of the next receiver. -/
  subscribed : Nat
  closed : Bool

namespace Broadcast

variable {α : Type}

/-- The capacity that is used for a wish: at least one, and a power of two. -/
def capacityFor (wish : Nat) : Nat := powerOfTwoFrom (max 1 wish) (max 1 wish) 1

/-- An open channel without receivers. -/
def create (wish : Nat) : Broadcast α := ⟨capacityFor wish, [], 0, ∅, 0, false⟩

/-- The greatest wish that is granted: half the range of 64-bit numbers, so that the capacity which
it is rounded up to lies within the range. -/
def greatestWish : Nat := 0x7FFFFFFFFFFFFFFF

/-- The channel for a wish. For one that is too great there is none, and the program stops. -/
def create? (wish : Nat) : Option (Broadcast α) :=
  if wish ≤ greatestWish then some (create wish) else none

/-- Why an event was not accepted. -/
inductive Fault where
  | noSubscribers
  deriving Repr, DecidableEq

def Fault.message : Fault → String
  | .noSubscribers => "no active subscribers"

/-- One more receiver, which reads what is sent from now on; its number. -/
def subscribe (b : Broadcast α) : Broadcast α × Nat :=
  ({ b with
      receivers := b.receivers.insert b.subscribed b.sent
      subscribed := b.subscribed + 1 }, b.subscribed)

/-- The event sent to all receivers; refused if there is none. -/
def publish (b : Broadcast α) (event : α) : Except Fault (Broadcast α) :=
  if b.receivers.isEmpty then .error .noSubscribers
  else
    let all := b.retained ++ [event]
    .ok { b with
      retained := all.drop (all.length - b.capacity)
      sent := b.sent + 1 }

/-- The event sent if there is a receiver, and forgotten otherwise. -/
def emit (b : Broadcast α) (event : α) : Broadcast α :=
  match b.publish event with
  | .ok b => b
  | .error _ => b

/-- What a receiver gets to know. -/
inductive Reading (α : Type) where
  | got (event : α)
  | lagged (missed : Nat)
  | empty
  | closed
  deriving Repr, DecidableEq

/-- The number of the oldest retained event. -/
def oldest (b : Broadcast α) : Nat := b.sent - b.retained.length

/-- One reading of a receiver; nothing if there is no such receiver. -/
def receive (b : Broadcast α) (rx : Nat) : Broadcast α × Option (Reading α) :=
  match b.receivers[rx]? with
  | none => (b, none)
  | some next =>
    if next < b.oldest then
      ({ b with receivers := b.receivers.insert rx b.oldest }, some (.lagged (b.oldest - next)))
    else match b.retained[next - b.oldest]? with
      | some e => ({ b with receivers := b.receivers.insert rx (next + 1) }, some (.got e))
      | none => (b, some (if b.closed then .closed else .empty))

/-- The channel without a receiver. -/
def unsubscribe (b : Broadcast α) (rx : Nat) : Broadcast α :=
  { b with receivers := b.receivers.erase rx }

/-- The channel closed: nothing more is sent. -/
def close (b : Broadcast α) : Broadcast α := { b with closed := true }

/-- Readings of a receiver until there is nothing to read or the steps are used up. -/
def drainFrom (rx : Nat) : Nat → Broadcast α → Broadcast α × List (Reading α)
  | 0, b => (b, [])
  | fuel + 1, b =>
    match b.receive rx with
    | (b, some (.got e)) =>
      let (b, rs) := drainFrom rx fuel b
      (b, .got e :: rs)
    | (b, some (.lagged n)) =>
      let (b, rs) := drainFrom rx fuel b
      (b, .lagged n :: rs)
    | (b, _) => (b, [])

/-- All that a receiver has not read yet. -/
def drain (b : Broadcast α) (rx : Nat) : Broadcast α × List (Reading α) :=
  drainFrom rx (b.retained.length + 1) b

end Broadcast

end EditWatch
