import EditWatch.Proofs.Broadcast.Window

/-!
# EditWatch.Proofs.Broadcast.Accounts -- what receivers are told

Whatever is done with a channel, and in whatever order, what a receiver was told so far accounts for
a beginning of the events that were accepted since it subscribed: each of them was handed to it, or
is counted as missed at its place. The log of the events knows nothing of the retained ones and of the
positions of the receivers. An invariant ties it to the channel, and a second one says up to where
each receiver was told.
-/

namespace EditWatch.Broadcast

variable {α : Type}

/-! ## Actions -/

/-- What is done with a channel. -/
inductive Action (α : Type) where
  | subscribe
  | publish (event : α)
  | emit (event : α)
  | receive (rx : Nat)
  | unsubscribe (rx : Nat)
  | close

/-- The channel after an action. Once it is closed there is nothing left to subscribe to or to send
with. -/
def perform (b : Broadcast α) : Action α → Broadcast α
  | .subscribe => if b.closed then b else b.subscribe.1
  | .publish event =>
    if b.closed then b
    else
      match b.publish event with
      | .ok b => b
      | .error _ => b
  | .emit event => if b.closed then b else b.emit event
  | .receive rx => (b.receive rx).1
  | .unsubscribe rx => b.unsubscribe rx
  | .close => b.close

/-- What a receiver is told by an action. -/
def told (b : Broadcast α) (rx : Nat) : Action α → List (Reading α)
  | .receive rx' => if rx' = rx then (b.receive rx).2.toList else []
  | .subscribe | .publish _ | .emit _ | .unsubscribe _ | .close => []

def run (b : Broadcast α) (acts : List (Action α)) : Broadcast α := acts.foldl perform b

/-- All that a receiver is told by actions, one after the other. -/
def readings (rx : Nat) (b : Broadcast α) : List (Action α) → List (Reading α)
  | [] => []
  | a :: acts => b.told rx a ++ readings rx (b.perform a) acts

theorem readings_append (rx : Nat) (b : Broadcast α) (xs ys : List (Action α)) :
    readings rx b (xs ++ ys) = readings rx b xs ++ readings rx (b.run xs) ys := by
  induction xs generalizing b with
  | nil => rfl
  | cons a xs ih =>
      show b.told rx a ++ readings rx (b.perform a) (xs ++ ys) = _
      rw [ih, ← List.append_assoc]
      rfl

/-- Each reading comes from a call of the receiver. -/
theorem receive_of_mem_readings {rx : Nat} {b : Broadcast α} {acts : List (Action α)}
    {r : Reading α} (h : r ∈ readings rx b acts) :
    ∃ before, before <+: acts ∧ ((b.run before).receive rx).2 = some r := by
  induction acts generalizing b with
  | nil => cases h
  | cons a acts ih =>
      rcases List.mem_append.mp h with h | h
      · refine ⟨[], List.nil_prefix, ?_⟩
        cases a <;> simp only [told, List.not_mem_nil] at h
        next rx' =>
          split at h
          · exact Option.mem_toList.mp h
          · cases h
      · obtain ⟨before, hbefore, hr⟩ := ih h
        exact ⟨a :: before, List.cons_prefix_cons.mpr ⟨rfl, hbefore⟩, hr⟩

/-! ## The log -/

/-- What happened to a channel: the accepted events; of each receiver, how many events had been
accepted before it subscribed; the receivers that are still there; and whether the channel was
closed. -/
structure Log (α : Type) where
  accepted : List α
  starts : List Nat
  alive : List Nat
  closed : Bool

namespace Log

def empty : Log α := ⟨[], [], [], false⟩

/-- An event is accepted if the channel is open and there is a receiver. -/
def send (l : Log α) (event : α) : Log α :=
  if l.closed ∨ l.alive = [] then l else { l with accepted := l.accepted ++ [event] }

def note (l : Log α) : Action α → Log α
  | .subscribe =>
    if l.closed then l
    else
      { l with
        starts := l.starts ++ [l.accepted.length]
        alive := l.starts.length :: l.alive }
  | .publish event | .emit event => l.send event
  | .receive _ => l
  | .unsubscribe rx => { l with alive := l.alive.filter (· ≠ rx) }
  | .close => { l with closed := true }

/-- The log of actions on a new channel. -/
def of (acts : List (Action α)) : Log α := acts.foldl note empty

/-- The events that were accepted since a receiver subscribed. -/
def owed (l : Log α) (rx : Nat) : List α :=
  match l.starts[rx]? with
  | some start => l.accepted.drop start
  | none => []

end Log

/-! ## Readings as an account of events -/

/-- Readings give account of events: each is handed over, or it is one of a number of missed ones. -/
inductive Describes : List (Reading α) → List α → Prop
  | nil : Describes [] []
  | got {rs : List (Reading α)} {es : List α} (e : α) (h : Describes rs es) :
    Describes (.got e :: rs) (e :: es)
  | lagged {rs : List (Reading α)} {es : List α} (missed : List α) (hmissed : missed ≠ [])
    (h : Describes rs es) : Describes (.lagged missed.length :: rs) (missed ++ es)
  | empty {rs : List (Reading α)} {es : List α} (h : Describes rs es) :
    Describes (.empty :: rs) es
  | closed {rs : List (Reading α)} {es : List α} (h : Describes rs es) :
    Describes (.closed :: rs) es

/-- The number of events that a reading gives account of. -/
def Reading.covers : Reading α → Nat
  | .got _ => 1
  | .lagged n => n
  | .empty => 0
  | .closed => 0

section

variable {rs rs' : List (Reading α)} {es es' : List α}

theorem Describes.append (h : Describes rs es) (h' : Describes rs' es') :
    Describes (rs ++ rs') (es ++ es') := by
  induction h with
  | nil => exact h'
  | got e _ ih => exact .got e ih
  | lagged missed hmissed _ ih =>
      rw [List.append_assoc]
      exact .lagged missed hmissed ih
  | empty _ ih => exact .empty ih
  | closed _ ih => exact .closed ih

theorem Describes.length_eq (h : Describes rs es) :
    es.length = (rs.map Reading.covers).sum := by
  induction h with
  | nil => rfl
  | got e _ ih =>
      simp only [List.length_cons, List.map_cons, List.sum_cons, Reading.covers, ih]
      omega
  | lagged missed _ _ ih =>
      simp only [List.length_append, List.map_cons, List.sum_cons, Reading.covers, ih]
  | empty _ ih => simp only [List.map_cons, List.sum_cons, Reading.covers, ih, Nat.zero_add]
  | closed _ ih => simp only [List.map_cons, List.sum_cons, Reading.covers, ih, Nat.zero_add]

end

/-! ## The channel and the log -/

/-- The channel is as the log says. -/
structure Agrees (wish : Nat) (l : Log α) (b : Broadcast α) : Prop where
  capacity : b.capacity = capacityFor wish
  holds : b.Holds l.accepted
  subscribed : b.subscribed = l.starts.length
  closed : b.closed = l.closed
  alive : ∀ rx, rx ∈ l.alive ↔ rx ∈ b.receivers
  known : ∀ rx ∈ l.alive, rx < l.starts.length

section

variable {wish : Nat} {l : Log α} {b : Broadcast α}

theorem mem_receivers_insert {rx' next rx : Nat} :
    rx ∈ b.receivers.insert rx' next ↔ rx' = rx ∨ rx ∈ b.receivers := by
  rw [Std.ExtTreeMap.mem_insert, Std.LawfulEqCmp.compare_eq_iff_eq]

theorem getElem?_receivers_insert {rx' next rx : Nat} :
    (b.receivers.insert rx' next)[rx]? = if rx' = rx then some next else b.receivers[rx]? := by
  rw [Std.ExtTreeMap.getElem?_insert]
  simp only [Std.LawfulEqCmp.compare_eq_iff_eq]

theorem mem_receivers_of_getElem? {rx next : Nat} (h : b.receivers[rx]? = some next) :
    rx ∈ b.receivers := by
  rw [Std.ExtTreeMap.mem_iff_isSome_getElem?, h]
  rfl

theorem mem_receivers_erase {rx' rx : Nat} :
    rx ∈ b.receivers.erase rx' ↔ rx ≠ rx' ∧ rx ∈ b.receivers := by
  rw [Std.ExtTreeMap.mem_erase, Ne, Std.LawfulEqCmp.compare_eq_iff_eq, ne_comm]

/-- A call changes at most the position of the receiver that called. -/
theorem receive_fst_eq (b : Broadcast α) (rx : Nat) :
    (b.receive rx).1 = b ∨ rx ∈ b.receivers ∧ ∃ next, (b.receive rx).1 = b.advance rx next := by
  cases hrx : b.receivers[rx]? with
  | none =>
      left
      rw [receive_of_none hrx]
  | some next =>
      have hmem := mem_receivers_of_getElem? hrx
      unfold receive
      simp only [hrx]
      split
      · exact .inr ⟨hmem, _, rfl⟩
      · split
        · exact .inr ⟨hmem, _, rfl⟩
        · exact .inl rfl

namespace Agrees

theorem alive_eq_nil_iff (h : Agrees wish l b) : l.alive = [] ↔ ∀ rx, rx ∉ b.receivers := by
  rw [List.eq_nil_iff_forall_not_mem]
  exact forall_congr' fun rx => not_congr (h.alive rx)

theorem lt_length_starts (h : Agrees wish l b) {rx next : Nat}
    (hrx : b.receivers[rx]? = some next) : rx < l.starts.length :=
  h.known rx ((h.alive rx).mpr (mem_receivers_of_getElem? hrx))

theorem create (wish : Nat) : Agrees wish .empty (create wish : Broadcast α) where
  capacity := rfl
  holds := .create wish
  subscribed := rfl
  closed := rfl
  alive rx := by
    show rx ∈ [] ↔ rx ∈ (∅ : Std.ExtTreeMap Nat Nat)
    simp only [List.not_mem_nil, Std.ExtTreeMap.not_mem_empty]
  known rx hrx := by cases hrx

theorem advance (h : Agrees wish l b) {rx : Nat} (hrx : rx ∈ b.receivers) (next : Nat) :
    Agrees wish l (b.advance rx next) where
  capacity := h.capacity
  holds := h.holds.congr rfl rfl rfl
  subscribed := h.subscribed
  closed := h.closed
  alive rx' := by
    rw [h.alive, Broadcast.advance, mem_receivers_insert, iff_or_self]
    rintro rfl
    exact hrx
  known := h.known

theorem subscribe (h : Agrees wish l b) : Agrees wish
    { l with starts := l.starts ++ [l.accepted.length], alive := l.starts.length :: l.alive }
    b.subscribe.1 where
  capacity := h.capacity
  holds := h.holds.congr rfl rfl rfl
  subscribed := by
    show b.subscribed + 1 = _
    rw [h.subscribed, List.length_append, List.length_singleton]
  closed := h.closed
  alive rx := by
    rw [Broadcast.subscribe, mem_receivers_insert, List.mem_cons, h.alive, h.subscribed, eq_comm]
  known rx hrx := by
    rw [List.length_append, List.length_singleton]
    rcases List.mem_cons.mp hrx with rfl | hrx
    · omega
    · have := h.known rx hrx
      omega

theorem push (h : Agrees wish l b) (event : α) :
    Agrees wish { l with accepted := l.accepted ++ [event] } (b.push event) where
  capacity := h.capacity
  holds := h.holds.push event
  subscribed := h.subscribed
  closed := h.closed
  alive := h.alive
  known := h.known

/-- Sending does to the channel what it does to the log. -/
theorem emit_eq (h : Agrees wish l b) (event : α) :
    b.perform (.emit event) = b ∧ l.send event = l ∨
      b.closed = false ∧ b.perform (.emit event) = b.push event ∧
        l.send event = { l with accepted := l.accepted ++ [event] } := by
  rw [perform, Log.send, h.closed]
  cases hclosed : l.closed with
  | true => exact .inl ⟨rfl, if_pos (.inl rfl)⟩
  | false =>
      rw [if_neg Bool.false_ne_true]
      by_cases hnone : l.alive = []
      · exact .inl ⟨emit_of_forall_notMem (h.alive_eq_nil_iff.mp hnone) event, if_pos (.inr hnone)⟩
      · obtain ⟨rx, hrx⟩ := List.exists_mem_of_ne_nil _ hnone
        have hsent := emit_of_mem ((h.alive rx).mp hrx) event
        exact .inr ⟨rfl, hsent, if_neg (by simp [hnone])⟩

theorem emit (h : Agrees wish l b) (event : α) :
    Agrees wish (l.send event) (b.perform (.emit event)) := by
  rcases h.emit_eq event with ⟨hb, hl⟩ | ⟨-, hb, hl⟩
  · rwa [hb, hl]
  · rw [hb, hl]
    exact h.push event

theorem unsubscribe (h : Agrees wish l b) (rx : Nat) :
    Agrees wish { l with alive := l.alive.filter (· ≠ rx) } (b.unsubscribe rx) where
  capacity := h.capacity
  holds := h.holds.congr rfl rfl rfl
  subscribed := h.subscribed
  closed := h.closed
  alive rx' := by
    rw [Broadcast.unsubscribe, mem_receivers_erase, List.mem_filter, h.alive, decide_eq_true_eq,
      and_comm]
  known rx' hrx' := h.known rx' (List.mem_filter.mp hrx').1

theorem close (h : Agrees wish l b) : Agrees wish { l with closed := true } b.close where
  capacity := h.capacity
  holds := h.holds.congr rfl rfl rfl
  subscribed := h.subscribed
  closed := rfl
  alive := h.alive
  known := h.known

/-- Every action does to the channel what it does to the log. -/
theorem perform (h : Agrees wish l b) (a : Action α) : Agrees wish (l.note a) (b.perform a) := by
  cases a with
  | subscribe =>
      rw [Log.note, Broadcast.perform, h.closed]
      split
      · exact h
      · exact h.subscribe
  | publish event => exact h.emit event
  | emit event => exact h.emit event
  | receive rx =>
      rw [Log.note, Broadcast.perform]
      rcases receive_fst_eq b rx with hsame | ⟨hrx, next, hnext⟩
      · rwa [hsame]
      · rw [hnext]
        exact h.advance hrx next
  | unsubscribe rx => exact h.unsubscribe rx
  | close => exact h.close

theorem run (h : Agrees wish l b) (acts : List (Action α)) :
    Agrees wish (acts.foldl Log.note l) (b.run acts) := by
  induction acts generalizing l b with
  | nil => exact h
  | cons a acts ih => exact ih (h.perform a)

end Agrees

end

end EditWatch.Broadcast
