import EditWatch.Broadcast
import Mathlib

/-!
# EditWatch.Proofs.Broadcast.Window -- what a channel retains

A channel that was sent a sequence of events retains the end of it, as long as its capacity. From
that follows what a receiver is told: an event that is retained, or how many it missed of those that
are not.
-/

namespace EditWatch

/-! ## The capacity -/

/-- The search for a power of two starts at a small one and ends at the least one that is large
enough. -/
theorem powerOfTwoFrom_two_pow (n : Nat) :
    ∀ fuel k, k ≤ Nat.clog 2 n → Nat.clog 2 n ≤ k + fuel →
      powerOfTwoFrom n fuel (2 ^ k) = 2 ^ Nat.clog 2 n
  | 0, k, hk, hfuel => by
      rw [powerOfTwoFrom, Nat.le_antisymm hk hfuel]
  | fuel + 1, k, hk, hfuel => by
      rw [powerOfTwoFrom]
      by_cases hn : n ≤ 2 ^ k
      · rw [if_pos hn, Nat.le_antisymm hk (Nat.clog_le_of_le_pow hn)]
      · have hlt : k < Nat.clog 2 n := (Nat.lt_clog_iff_pow_lt Nat.one_lt_two).mpr (by omega)
        rw [if_neg hn, ← Nat.pow_succ']
        exact powerOfTwoFrom_two_pow n fuel (k + 1) hlt (by omega)

namespace Broadcast

variable {α : Type} {b : Broadcast α} {events : List α}

/-- The capacity is the wish, or one, rounded up to a power of two. -/
theorem capacityFor_eq (wish : Nat) : capacityFor wish = 2 ^ Nat.clog 2 (max 1 wish) := by
  have henough : Nat.clog 2 (max 1 wish) ≤ max 1 wish :=
    Nat.clog_le_of_le_pow Nat.lt_two_pow_self.le
  have hsearch := powerOfTwoFrom_two_pow (max 1 wish) (max 1 wish) 0 (Nat.zero_le _) (by omega)
  rwa [Nat.pow_zero] at hsearch

theorem create?_eq_some_iff {wish : Nat} :
    create? wish = some b ↔ wish ≤ greatestWish ∧ b = create wish := by
  rw [create?, Option.ite_none_right_eq_some, Option.some_inj, eq_comm (a := b)]

theorem create?_eq_none_iff {wish : Nat} :
    (create? wish : Option (Broadcast α)) = none ↔ greatestWish < wish := by
  rw [create?, ← Nat.not_le]
  by_cases h : wish ≤ greatestWish
  · simp [h]
  · simp [h]

/-- Rounding up a wish that is granted stays within the range of 64-bit numbers. -/
theorem capacityFor_le {wish : Nat} (h : wish ≤ greatestWish) : capacityFor wish ≤ 2 ^ 63 := by
  rw [capacityFor_eq]
  refine Nat.pow_le_pow_right Nat.two_pos (Nat.clog_le_of_le_pow ?_)
  rw [greatestWish] at h
  omega

/-! ## The retained events -/

/-- The channel was sent these events and retains the end of them. -/
structure Holds (b : Broadcast α) (events : List α) : Prop where
  sent : b.sent = events.length
  retained : b.retained = events.drop (events.length - b.capacity)

theorem Holds.create (wish : Nat) : (create wish : Broadcast α).Holds [] where
  sent := rfl
  retained := List.drop_nil.symm

/-- The receivers, the counter and the mark of closing say nothing about the events. -/
theorem Holds.congr {b' : Broadcast α} (h : b.Holds events) (hcapacity : b'.capacity = b.capacity)
    (hsent : b'.sent = b.sent) (hretained : b'.retained = b.retained) : b'.Holds events where
  sent := hsent.trans h.sent
  retained := by rw [hretained, hcapacity, h.retained]

theorem Holds.oldest_eq (h : b.Holds events) : b.oldest = events.length - b.capacity := by
  rw [oldest, h.sent, h.retained, List.length_drop]
  omega

/-- Every event but those that are out of reach is found by its number. -/
theorem Holds.getElem?_retained (h : b.Holds events) {next : Nat} (hold : b.oldest ≤ next) :
    b.retained[next - b.oldest]? = events[next]? := by
  rw [h.retained, List.getElem?_drop, ← h.oldest_eq]
  congr 1
  omega

/-! ## Sending -/

theorem isEmpty_receivers_iff : b.receivers.isEmpty ↔ ∀ rx, rx ∉ b.receivers := by
  rw [Std.ExtTreeMap.isEmpty_iff, Std.ExtTreeMap.eq_empty_iff_forall_not_mem]

theorem publish_eq_error_iff {event : α} {f : Fault} :
    b.publish event = .error f ↔ ∀ rx, rx ∉ b.receivers := by
  cases f
  rw [publish, ← isEmpty_receivers_iff]
  cases b.receivers.isEmpty with
  | true => simp
  | false => simp

theorem emit_of_forall_notMem (h : ∀ rx, rx ∉ b.receivers) (event : α) : b.emit event = b := by
  have hrefused : b.publish event = .error .noSubscribers := publish_eq_error_iff.mpr h
  rw [emit, hrefused]

/-- What an event changes that is accepted. -/
def push (b : Broadcast α) (event : α) : Broadcast α :=
  { b with
    retained := (b.retained ++ [event]).drop ((b.retained ++ [event]).length - b.capacity)
    sent := b.sent + 1 }

theorem publish_of_mem {rx : Nat} (h : rx ∈ b.receivers) (event : α) :
    b.publish event = .ok (b.push event) := by
  have hsome : ¬ b.receivers.isEmpty := by
    intro hnone
    exact isEmpty_receivers_iff.mp hnone rx h
  rw [publish, if_neg hsome]
  rfl

theorem emit_of_mem {rx : Nat} (h : rx ∈ b.receivers) (event : α) :
    b.emit event = b.push event := by
  rw [emit, publish_of_mem h]

theorem Holds.push (h : b.Holds events) (event : α) :
    (b.push event).Holds (events ++ [event]) where
  sent := by
    show b.sent + 1 = _
    rw [h.sent, List.length_append, List.length_singleton]
  retained := by
    show (b.retained ++ [event]).drop ((b.retained ++ [event]).length - b.capacity) =
      (events ++ [event]).drop ((events ++ [event]).length - b.capacity)
    have hall : b.retained ++ [event] =
        (events ++ [event]).drop (events.length - b.capacity) := by
      rw [h.retained, List.drop_append_of_le_length (Nat.sub_le _ _)]
    rw [hall, List.drop_drop]
    congr 1
    simp only [List.length_drop, List.length_append, List.length_singleton]
    omega

/-! ## Receiving -/

/-- The channel whose receiver goes on with the given event. -/
def advance (b : Broadcast α) (rx next : Nat) : Broadcast α :=
  { b with receivers := b.receivers.insert rx next }

theorem receive_of_none {rx : Nat} (h : b.receivers[rx]? = none) : b.receive rx = (b, none) := by
  simp only [receive, h]

section

variable {rx next : Nat}

/-- A receiver whose next event is out of reach is told how many are. -/
theorem receive_lagged (hrx : b.receivers[rx]? = some next) (hnext : next < b.oldest) :
    b.receive rx = (b.advance rx b.oldest, some (.lagged (b.oldest - next))) := by
  simp only [receive, hrx, if_pos hnext]
  rfl

theorem Holds.receive_got (h : b.Holds events) (hrx : b.receivers[rx]? = some next)
    (hold : b.oldest ≤ next) (hnext : next < events.length) :
    b.receive rx = (b.advance rx (next + 1), some (.got events[next])) := by
  have hevent : b.retained[next - b.oldest]? = some events[next] := by
    rw [h.getElem?_retained hold, List.getElem?_eq_getElem hnext]
  simp only [receive, hrx, if_neg (Nat.not_lt.mpr hold), hevent]
  rfl

/-- A receiver that was told of every event learns whether there can be more. -/
theorem Holds.receive_end (h : b.Holds events) (hrx : b.receivers[rx]? = some next)
    (hnext : events.length ≤ next) :
    b.receive rx = (b, some (if b.closed then .closed else .empty)) := by
  have hold : b.oldest ≤ next := by
    rw [h.oldest_eq]
    omega
  have hevent : b.retained[next - b.oldest]? = none := by
    rw [h.getElem?_retained hold, List.getElem?_eq_none hnext]
  simp only [receive, hrx, if_neg (Nat.not_lt.mpr hold), hevent]

end

end Broadcast

end EditWatch
