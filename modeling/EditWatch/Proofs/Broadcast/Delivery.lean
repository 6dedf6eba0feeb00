import EditWatch.Proofs.Broadcast.Receivers

/-!
# EditWatch.Proofs.Broadcast.Delivery -- every accepted event is accounted for

The account of a whole history of a channel, for each of its receivers: what it was told is a
beginning of what it is owed; it learns of the end only when all is told, and it does learn of it if
it goes on calling; and it misses nothing if it keeps up with the capacity.
-/

namespace EditWatch.Broadcast

variable {α : Type} {wish : Nat} {acts : List (Action α)} {l : Log α} {rx : Nat}
  {rs : List (Reading α)}

/-- A channel after all that was done with it. -/
def after (wish : Nat) (acts : List (Action α)) : Broadcast α := (create wish).run acts

/-- All that a receiver was told in a history of a channel. -/
def heard (wish : Nat) (acts : List (Action α)) (rx : Nat) : List (Reading α) :=
  readings rx (create wish) acts

theorem agrees_after (wish : Nat) (acts : List (Action α)) :
    Agrees wish (Log.of acts) (after wish acts) :=
  (Agrees.create wish).run acts

theorem informed_after (wish : Nat) (acts : List (Action α)) (rx : Nat) :
    Informed (Log.of acts) rx (after wish acts).receivers[rx]? (heard wish acts rx) :=
  Informed.run (Agrees.create wish) (.never (Nat.zero_le rx) rfl) acts

/-- The position of a receiver lies within what was accepted. -/
theorem position_le {next : Nat} (hrx : (after wish acts).receivers[rx]? = some next) :
    next ≤ (Log.of acts).accepted.length := by
  have hinformed := informed_after wish acts rx
  rw [hrx] at hinformed
  obtain ⟨-, -, -, hnext, -, -⟩ :=
    hinformed.of_position ((agrees_after wish acts).lt_length_starts hrx)
  exact hnext

/-! ## What was told and what is pending -/

/-- What is owed is what was told and what is pending, and nothing is pending after the end. -/
theorem Informed.exists_owed_eq {position : Option Nat} (h : Informed l rx position rs) :
    ∃ told rest, l.owed rx = told ++ rest ∧ Describes rs told ∧ (.closed ∈ rs → rest = []) := by
  cases h with
  | never hstart hrs =>
      refine ⟨[], [], ?_, ?_, fun _ => rfl⟩
      · simp only [Log.owed, List.getElem?_eq_none hstart, List.append_nil]
      · rw [hrs]
        exact .nil
  | upTo start next hstart hle hnext hpos hrs hend =>
      refine ⟨_, l.accepted.drop next, ?_, hrs, fun hmem => ?_⟩
      · have hcut := drop_take_eq_append hle hnext (Nat.le_refl l.accepted.length)
        rw [List.take_length] at hcut
        simp only [Log.owed, hstart, hcut]
      · rw [(hend hmem).2, List.drop_length]

/-- How many events a receiver could read; none if it is gone. -/
def pending (wish : Nat) (acts : List (Action α)) (rx : Nat) : Nat :=
  if rx ∈ (Log.of acts).alive then
    ((Log.of acts).owed rx).length - ((heard wish acts rx).map Reading.covers).sum
  else 0

theorem pending_eq {next : Nat} (hrx : (after wish acts).receivers[rx]? = some next) :
    pending wish acts rx = (Log.of acts).accepted.length - next := by
  have hagree := agrees_after wish acts
  have hinformed := informed_after wish acts rx
  rw [hrx] at hinformed
  obtain ⟨start, hstart, hle, hnext, hrs, -⟩ :=
    hinformed.of_position (hagree.lt_length_starts hrx)
  have halive : rx ∈ (Log.of acts).alive :=
    (hagree.alive rx).mpr (mem_receivers_of_getElem? hrx)
  have howed : (Log.of acts).owed rx = (Log.of acts).accepted.drop start := by
    simp only [Log.owed, hstart]
  rw [pending, if_pos halive, howed, ← hrs.length_eq, List.length_drop, List.length_drop,
    List.length_take]
  omega

/-- A receiver that keeps up with the capacity misses nothing. -/
theorem lagged_notMem_heard
    (h : ∀ before, before <+: acts → pending wish before rx ≤ capacityFor wish) (n : Nat) :
    .lagged n ∉ heard wish acts rx := by
  intro hmem
  obtain ⟨before, hbefore, hlagged⟩ := receive_of_mem_readings hmem
  change ((after wish before).receive rx).2 = some (.lagged n) at hlagged
  have hagree := agrees_after wish before
  have hkept := h before hbefore
  cases hrx : (after wish before).receivers[rx]? with
  | none =>
      rw [receive_of_none hrx] at hlagged
      cases hlagged
  | some next =>
      rw [pending_eq hrx] at hkept
      rcases hagree.receive_cases hrx (position_le hrx) with
        ⟨last, r, hreceive, -, -, -, -, hmissed⟩ | ⟨-, hreceive⟩
      · rw [hreceive] at hlagged
        have := hmissed n (Option.some.inj hlagged)
        omega
      · rw [hreceive] at hlagged
        split at hlagged <;> cases hlagged

/-! ## The end -/

/-- After closing, a receiver that goes on calling learns of the end: every call before it lowers the
number of pending events. -/
theorem Agrees.exists_closed {b : Broadcast α} (hagree : Agrees wish l b) (hclosed : l.closed)
    {next : Nat} (hrx : b.receivers[rx]? = some next) (hnext : next ≤ l.accepted.length) :
    ∃ n, .closed ∈ readings rx b (List.replicate n (.receive rx)) := by
  rcases hagree.receive_cases hrx hnext with
    ⟨last, r, hreceive, hlt, hlast, -⟩ | ⟨-, hreceive⟩
  · have hrx' : (b.advance rx last).receivers[rx]? = some last := by
      rw [Broadcast.advance, getElem?_receivers_insert, if_pos rfl]
    obtain ⟨n, hn⟩ := (hagree.advance (mem_receivers_of_getElem? hrx) last).exists_closed
      hclosed hrx' hlast
    refine ⟨n + 1, ?_⟩
    rw [List.replicate_succ, readings]
    apply List.mem_append_right
    rwa [Broadcast.perform, hreceive]
  · refine ⟨1, ?_⟩
    show .closed ∈ b.told rx (.receive rx) ++ []
    rw [told, if_pos rfl, hreceive, if_pos hclosed]
    exact List.mem_cons_self
termination_by l.accepted.length - next
decreasing_by omega

/-! ## Main result -/

/-- There is a channel for every wish but those that are too great, and its capacity is a 64-bit
number. Whatever is done with it, in whatever order: what each receiver was told gives account of a
beginning of the events that were accepted since it subscribed, and of all of them once it learned of
the end, which it does after closing if it goes on calling. A receiver misses nothing that never has
more events pending than the capacity, and sending is refused, or does nothing, exactly if there is no
receiver. -/
theorem history_accounted_for (wish : Nat) (acts : List (Action α)) :
    ((create? wish : Option (Broadcast α)) = none ↔ greatestWish < wish) ∧
    (∀ b : Broadcast α, create? wish = some b →
      b.run acts = after wish acts ∧ b.capacity ≤ 2 ^ 63) ∧
    (∀ rx, ∃ told rest, (Log.of acts).owed rx = told ++ rest ∧
      Describes (heard wish acts rx) told ∧ (.closed ∈ heard wish acts rx → rest = [])) ∧
    (∀ rx ∈ (Log.of acts).alive, (Log.of acts).closed →
      ∃ n, .closed ∈ heard wish (acts ++ List.replicate n (.receive rx)) rx) ∧
    (∀ rx, (∀ before, before <+: acts → pending wish before rx ≤ 2 ^ Nat.clog 2 (max 1 wish)) →
      ∀ n, .lagged n ∉ heard wish acts rx) ∧
    (∀ event, (∃ f, (after wish acts).publish event = .error f) ↔ (Log.of acts).alive = []) ∧
    ((Log.of acts).alive = [] → ∀ event, (after wish acts).emit event = after wish acts) := by
  have hagree := agrees_after wish acts
  refine ⟨create?_eq_none_iff, fun b hb => ?_,
    fun rx => (informed_after wish acts rx).exists_owed_eq, fun rx halive hclosed => ?_,
    fun rx hkept => ?_, fun event => ?_, fun hnone event => ?_⟩
  · obtain ⟨hwish, rfl⟩ := create?_eq_some_iff.mp hb
    exact ⟨rfl, capacityFor_le hwish⟩
  · have hmem := (hagree.alive rx).mp halive
    obtain ⟨next, hrx⟩ := Option.isSome_iff_exists.mp
      (Std.ExtTreeMap.mem_iff_isSome_getElem?.mp hmem)
    obtain ⟨n, hn⟩ := hagree.exists_closed hclosed hrx (position_le hrx)
    refine ⟨n, ?_⟩
    rw [heard, readings_append]
    exact List.mem_append_right _ hn
  · rw [← capacityFor_eq] at hkept
    exact lagged_notMem_heard hkept
  · rw [hagree.alive_eq_nil_iff]
    constructor
    · rintro ⟨f, hf⟩
      exact publish_eq_error_iff.mp hf
    · intro hnone
      exact ⟨.noSubscribers, publish_eq_error_iff.mpr hnone⟩
  · exact emit_of_forall_notMem (hagree.alive_eq_nil_iff.mp hnone) event

/-- A receiver that falls two events behind a channel of two is told so, then reads on to the end. -/
example :
    heard 2 [.subscribe, .publish 'a', .emit 'b', .publish 'c', .emit 'd', .receive 0, .close,
      .receive 0, .receive 0, .receive 0] 0 =
      [.lagged 2, .got 'c', .got 'd', .closed] := by
  rfl

end EditWatch.Broadcast
