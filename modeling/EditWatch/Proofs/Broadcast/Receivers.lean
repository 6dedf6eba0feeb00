import EditWatch.Proofs.Broadcast.Accounts

/-!
# EditWatch.Proofs.Broadcast.Receivers -- up to where each receiver was told

The position of a receiver cuts the events that it is owed in two: what it was told gives account of
the first part, and the second part is pending. Each action keeps it so. A receiver is told that it
missed events only if more of them were pending than the channel retains.
-/

namespace EditWatch.Broadcast

variable {α : Type} {wish : Nat} {l : Log α} {b : Broadcast α} {rx : Nat} {position : Option Nat}
  {rs : List (Reading α)}

/-- What a receiver was told gives account of the events from its start up to its position. -/
inductive Informed (l : Log α) (rx : Nat) (position : Option Nat) (rs : List (Reading α)) : Prop
  | never (hstart : l.starts.length ≤ rx) (hrs : rs = [])
  | upTo (start next : Nat) (hstart : l.starts[rx]? = some start) (hle : start ≤ next)
    (hnext : next ≤ l.accepted.length) (hposition : ∀ p ∈ position, p = next)
    (hrs : Describes rs ((l.accepted.take next).drop start))
    (hclosed : .closed ∈ rs → l.closed ∧ next = l.accepted.length)

/-! ## One action -/

namespace Informed

theorem congr (h : Informed l rx position rs) {l' : Log α} {position' : Option Nat}
    (hstarts : l'.starts = l.starts) (haccepted : l'.accepted = l.accepted)
    (hclosed : l.closed → l'.closed) (hposition : ∀ p ∈ position', p ∈ position) :
    Informed l' rx position' rs := by
  cases h with
  | never hstart hrs => exact .never (hstarts ▸ hstart) hrs
  | upTo start next hstart hle hnext hpos hrs hend =>
      refine .upTo start next (hstarts ▸ hstart) hle (haccepted ▸ hnext)
        (fun p hp => hpos p (hposition p hp)) (haccepted ▸ hrs) fun hmem => ?_
      obtain ⟨hshut, hlast⟩ := hend hmem
      exact ⟨hclosed hshut, haccepted ▸ hlast⟩

/-- A further event is pending for everybody. -/
theorem push (h : Informed l rx position rs) (hopen : l.closed = false) (event : α) :
    Informed { l with accepted := l.accepted ++ [event] } rx position rs := by
  cases h with
  | never hstart hrs => exact .never hstart hrs
  | upTo start next hstart hle hnext hpos hrs hend =>
      refine .upTo start next hstart hle ?_ hpos ?_ fun hmem => ?_
      · show next ≤ (l.accepted ++ [event]).length
        rw [List.length_append]
        omega
      · rwa [List.take_append_of_le_length hnext]
      · have hshut := (hend hmem).1
        rw [hopen] at hshut
        cases hshut

theorem subscribe (h : Informed l rx b.receivers[rx]? rs) (hagree : Agrees wish l b) :
    Informed
      { l with starts := l.starts ++ [l.accepted.length], alive := l.starts.length :: l.alive } rx
      b.subscribe.1.receivers[rx]? rs := by
  have hpos : b.subscribe.1.receivers[rx]? =
      if l.starts.length = rx then some l.accepted.length else b.receivers[rx]? := by
    rw [Broadcast.subscribe, getElem?_receivers_insert, hagree.subscribed, hagree.holds.sent]
  rw [hpos]
  cases h with
  | never hstart hrs =>
      by_cases hnew : l.starts.length = rx
      · -- The new receiver starts at the end of what was accepted so far.
        rw [if_pos hnew, hrs]
        refine .upTo l.accepted.length l.accepted.length ?_ (Nat.le_refl _) (Nat.le_refl _) ?_ ?_ ?_
        · rw [← hnew, List.getElem?_append_right (Nat.le_refl _), Nat.sub_self]
          rfl
        · intro p hp
          exact (Option.some.inj hp).symm
        · rw [List.take_length, List.drop_length]
          exact .nil
        · intro hmem
          cases hmem
      · refine .never ?_ hrs
        rw [List.length_append, List.length_singleton]
        omega
  | upTo start next hstart hle hnext hpos hrs hend =>
      have hold : rx < l.starts.length := (List.getElem?_eq_some_iff.mp hstart).1
      rw [if_neg (by omega)]
      refine .upTo start next ?_ hle hnext hpos hrs hend
      rw [List.getElem?_append_left hold, hstart]

/-- The events up to a later one are those up to an earlier one and those in between. -/
theorem drop_take_eq_append {es : List α} {start next last : Nat} (hle : start ≤ next)
    (hnext : next ≤ last) (hlast : last ≤ es.length) :
    (es.take last).drop start = (es.take next).drop start ++ (es.take last).drop next := by
  have hcut : es.take last = es.take next ++ (es.take last).drop next := by
    calc es.take last = (es.take last).take next ++ (es.take last).drop next :=
          (List.take_append_drop _ _).symm
      _ = es.take next ++ (es.take last).drop next := by
          rw [List.take_take, Nat.min_eq_left hnext]
  have hlength : start ≤ (es.take next).length := by
    rw [List.length_take]
    omega
  conv_lhs => rw [hcut]
  exact List.drop_append_of_le_length hlength

/-- A receiver that is still there was told of everything before its position. -/
theorem of_position {next : Nat} (h : Informed l rx (some next) rs)
    (hknown : rx < l.starts.length) :
    ∃ start, l.starts[rx]? = some start ∧ start ≤ next ∧ next ≤ l.accepted.length ∧
      Describes rs ((l.accepted.take next).drop start) ∧
      (.closed ∈ rs → l.closed ∧ next = l.accepted.length) := by
  cases h with
  | never hstart hrs => omega
  | upTo start next' hstart hle hnext hpos hrs hend =>
      obtain rfl : next = next' := hpos next rfl
      exact ⟨start, hstart, hle, hnext, hrs, hend⟩

/-- A receiver that goes on is told of the events that it passes. -/
theorem advance {next last : Nat} {r : Reading α} (h : Informed l rx (some next) rs)
    (hknown : rx < l.starts.length) (hnext : next < last) (hlast : last ≤ l.accepted.length)
    (hr : Describes [r] ((l.accepted.take last).drop next)) (hopen : r ≠ .closed) :
    Informed l rx (some last) (rs ++ [r]) := by
  obtain ⟨start, hstart, hle, -, hrs, hend⟩ := h.of_position hknown
  refine .upTo start last hstart (by omega) hlast (fun p hp => (Option.some.inj hp).symm) ?_ ?_
  · rw [drop_take_eq_append hle (Nat.le_of_lt hnext) hlast]
    exact hrs.append hr
  · intro hmem
    rcases List.mem_append.mp hmem with hmem | hmem
    · have := (hend hmem).2
      omega
    · exact absurd (List.mem_singleton.mp hmem).symm hopen

/-- A receiver that is told of no event stays where it is, and it is told of the end at the end. -/
theorem stay {next : Nat} {r : Reading α} (h : Informed l rx (some next) rs)
    (hknown : rx < l.starts.length) (hr : Describes [r] [])
    (hend : r = .closed → l.closed ∧ next = l.accepted.length) :
    Informed l rx (some next) (rs ++ [r]) := by
  obtain ⟨start, hstart, hle, hnext, hrs, hend'⟩ := h.of_position hknown
  refine .upTo start next hstart hle hnext (fun p hp => (Option.some.inj hp).symm) ?_ ?_
  · have hall := hrs.append hr
    rwa [List.append_nil] at hall
  · intro hmem
    rcases List.mem_append.mp hmem with hmem | hmem
    · exact hend' hmem
    · exact hend (List.mem_singleton.mp hmem).symm

end Informed

/-- What a call of a receiver at a given position comes to. -/
theorem Agrees.receive_cases (hagree : Agrees wish l b) {next : Nat}
    (hrx : b.receivers[rx]? = some next) (hnext : next ≤ l.accepted.length) :
    (∃ last r, b.receive rx = (b.advance rx last, some r) ∧ next < last ∧
      last ≤ l.accepted.length ∧ Describes [r] ((l.accepted.take last).drop next) ∧
      r ≠ .closed ∧ ∀ n, r = .lagged n → capacityFor wish < l.accepted.length - next) ∨
    next = l.accepted.length ∧
      b.receive rx = (b, some (if l.closed then .closed else .empty)) := by
  have hlength : ∀ last, last ≤ l.accepted.length →
      ((l.accepted.take last).drop next).length = last - next := by
    intro last hlast
    rw [List.length_drop, List.length_take, Nat.min_eq_left hlast]
  have holdest := hagree.holds.oldest_eq
  rw [hagree.capacity] at holdest
  by_cases hold : next < b.oldest
  · -- The receiver missed what lies between its position and the oldest retained event.
    refine .inl ⟨b.oldest, _, receive_lagged hrx hold, hold, by omega, ?_, nofun,
      fun n _ => by omega⟩
    have hmissed := Describes.lagged ((l.accepted.take b.oldest).drop next)
      (List.ne_nil_of_length_pos (by rw [hlength _ (by omega)]; omega)) .nil
    rwa [hlength _ (by omega), List.append_nil] at hmissed
  · by_cases hlast : next < l.accepted.length
    · refine .inl ⟨next + 1, _, hagree.holds.receive_got hrx (by omega) hlast, by omega, hlast, ?_,
        nofun, nofun⟩
      rw [List.take_succ_eq_append_getElem hlast, List.drop_left' (by
        rw [List.length_take, Nat.min_eq_left hnext])]
      exact .got _ .nil
    · refine .inr ⟨by omega, ?_⟩
      rw [hagree.holds.receive_end hrx (by omega), hagree.closed]

/-- A call keeps the receiver informed that makes it. -/
theorem Informed.receive (hagree : Agrees wish l b) (h : Informed l rx b.receivers[rx]? rs) :
    Informed l rx (b.receive rx).1.receivers[rx]? (rs ++ (b.receive rx).2.toList) := by
  cases hrx : b.receivers[rx]? with
  | none =>
      rw [receive_of_none hrx]
      show Informed l rx b.receivers[rx]? (rs ++ [])
      rwa [List.append_nil]
  | some next =>
      have hknown := hagree.lt_length_starts hrx
      rw [hrx] at h
      obtain ⟨-, -, -, hnext, -, -⟩ := h.of_position hknown
      rcases hagree.receive_cases hrx hnext with
        ⟨last, r, hreceive, hlt, hlast, hr, hopen, -⟩ | ⟨hend, hreceive⟩
      · rw [hreceive]
        show Informed l rx (b.receivers.insert rx last)[rx]? (rs ++ [r])
        rw [getElem?_receivers_insert, if_pos rfl]
        exact h.advance hknown hlt hlast hr hopen
      · rw [hreceive]
        show Informed l rx b.receivers[rx]? (rs ++ [if l.closed then .closed else .empty])
        rw [hrx]
        cases hclosed : l.closed with
        | true => exact h.stay hknown (.closed .nil) fun _ => ⟨hclosed, hend⟩
        | false => exact h.stay hknown (.empty .nil) nofun

/-- Every action keeps every receiver informed. -/
theorem Informed.perform (hagree : Agrees wish l b) (h : Informed l rx b.receivers[rx]? rs)
    (a : Action α) :
    Informed (l.note a) rx (b.perform a).receivers[rx]? (rs ++ b.told rx a) := by
  have hsend : ∀ event, Informed (l.send event) rx (b.perform (.emit event)).receivers[rx]? rs := by
    intro event
    rcases hagree.emit_eq event with ⟨hb, hl⟩ | ⟨hopen, hb, hl⟩
    · rwa [hb, hl]
    · rw [hb, hl]
      exact h.push (hagree.closed.symm.trans hopen) event
  cases a with
  | subscribe =>
      rw [told, List.append_nil, Log.note, Broadcast.perform, hagree.closed]
      split
      · exact h
      · exact h.subscribe hagree
  | publish event =>
      rw [told, List.append_nil]
      exact hsend event
  | emit event =>
      rw [told, List.append_nil]
      exact hsend event
  | receive rx' =>
      rw [told, Log.note, Broadcast.perform]
      by_cases hself : rx' = rx
      · rw [if_pos hself, hself]
        exact h.receive hagree
      · rw [if_neg hself, List.append_nil]
        rcases receive_fst_eq b rx' with hsame | ⟨-, next, hnext⟩
        · rwa [hsame]
        · rwa [hnext, Broadcast.advance, getElem?_receivers_insert, if_neg hself]
  | unsubscribe rx' =>
      rw [told, List.append_nil]
      refine h.congr rfl rfl id fun p hp => ?_
      rw [Broadcast.perform, unsubscribe, Std.ExtTreeMap.getElem?_erase] at hp
      split at hp
      · cases hp
      · exact hp
  | close =>
      rw [told, List.append_nil]
      exact h.congr rfl rfl (fun _ => rfl) fun p hp => hp

theorem Informed.run (hagree : Agrees wish l b) (h : Informed l rx b.receivers[rx]? rs)
    (acts : List (Action α)) :
    Informed (acts.foldl Log.note l) rx (b.run acts).receivers[rx]? (rs ++ readings rx b acts) := by
  induction acts generalizing l b rs with
  | nil =>
      rw [readings, List.append_nil]
      exact h
  | cons a acts ih =>
      rw [readings, ← List.append_assoc]
      exact ih (hagree.perform a) (h.perform hagree a)

end EditWatch.Broadcast
