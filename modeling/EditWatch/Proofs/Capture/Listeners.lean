import EditWatch.Capture.Region
import Mathlib.Logic.Function.Basic

/-!
# EditWatch.Proofs.Capture.Listeners -- registrations after each operation

Every operation on the listeners of a page is described by the registrations that each node has
afterwards. Rebinding a node updates that node alone: it puts the registrations at the end of its
list, each once and in order, in whatever number they were there before.
-/

namespace EditWatch.Capture

open EditWatch.Document (NodeId)

namespace Listeners

@[simp]
theorem bindings_empty (j : NodeId) : (∅ : Listeners).bindings j = [] := by
  rw [bindings, Std.ExtTreeMap.getElem?_empty, Option.getD_none]

theorem bindings_insert (l : Listeners) (node : NodeId) (bs : List Binding) :
    bindings (l.insert node bs) = Function.update l.bindings node bs := by
  funext j
  rw [bindings, Std.ExtTreeMap.getElem?_insert, Function.update_apply]
  by_cases hj : j = node
  · simp [hj]
  · simp [hj, Ne.symm hj, bindings]

theorem bindings_add (l : Listeners) (node : NodeId) (b : Binding) :
    (l.add node b).bindings = Function.update l.bindings node (l.bindings node ++ [b]) :=
  bindings_insert l node _

theorem bindings_remove (l : Listeners) (node : NodeId) (b : Binding) :
    (l.remove node b).1.bindings =
      Function.update l.bindings node ((l.bindings node).erase b) := by
  rw [remove]
  split
  · exact bindings_insert l node _
  · rename_i hnot
    rw [List.erase_of_not_mem (by simpa using hnot), Function.update_eq_self]

theorem remove_snd (l : Listeners) (node : NodeId) (b : Binding) :
    (l.remove node b).2 = (l.bindings node).contains b := by
  rw [remove]
  split <;> simp_all

/-- Forgetting nodes takes all registrations from them and none from the others. -/
theorem bindings_retain (l : Listeners) (keep : NodeId → Bool) (j : NodeId) :
    (l.retain keep).1.bindings j = if keep j then l.bindings j else [] := by
  rw [retain, bindings, Std.ExtTreeMap.getElem?_filter']
  cases hl : l[j]? with
  | none => simp [bindings, hl]
  | some bs => cases hk : keep j <;> simp [bindings, hl, Option.filter]

end Listeners

namespace Rebinder

open Listeners

/-! ## Removing a registration altogether -/

theorem filter_ne_eq_self {b : Binding} {bs : List Binding} (h : b ∉ bs) :
    bs.filter (· ≠ b) = bs := by
  rw [List.filter_eq_self]
  intro a ha
  exact decide_eq_true fun heq => h (heq ▸ ha)

/-- With a step for each registration of the binding, none of them is left. -/
theorem bindings_removeFrom {node : NodeId} {b : Binding} {fuel : Nat} {l : Listeners}
    (hfuel : (l.bindings node).count b ≤ fuel) :
    (removeFrom node b fuel l).1.bindings =
      Function.update l.bindings node ((l.bindings node).filter (· ≠ b)) := by
  induction fuel generalizing l with
  | zero =>
      have hnone : b ∉ l.bindings node := List.count_eq_zero.mp (Nat.le_zero.mp hfuel)
      rw [removeFrom, filter_ne_eq_self hnone, Function.update_eq_self]
  | succ fuel ih =>
      have hflag := remove_snd l node b
      have hbindings := bindings_remove l node b
      rw [removeFrom]
      rcases hremove : l.remove node b with ⟨after, _ | _⟩
      · rw [hremove] at hflag hbindings
        have hnone : b ∉ l.bindings node := by simpa using hflag.symm
        rw [filter_ne_eq_self hnone, hbindings, List.erase_of_not_mem hnone]
      · rw [hremove] at hbindings
        have hnode : after.bindings node = (l.bindings node).erase b := by
          rw [hbindings, Function.update_self]
        have hcount : (after.bindings node).count b ≤ fuel := by
          rw [hnode, List.count_erase_self]
          omega
        have hgone : b ∉ (l.bindings node).filter (· ≠ b) := by simp
        -- Erasing one `b` leaves the list without any `b` the same.
        show (removeFrom node b fuel after).1.bindings = _
        rw [ih hcount, hnode, ← List.erase_filter, List.erase_of_not_mem hgone, hbindings,
          Function.update_idem]

theorem bindings_removeAll (l : Listeners) (node : NodeId) (b : Binding) :
    (removeAll l node b).1.bindings =
      Function.update l.bindings node ((l.bindings node).filter (· ≠ b)) :=
  bindings_removeFrom List.count_le_length

/-! ## Rebinding a node -/

/-- Whatever else a node listened to stays in front, and the registrations follow once each. -/
theorem bindings_rebindAll {node : NodeId} {bs : List Binding} (hnodup : bs.Nodup)
    (l : Listeners) :
    (rebindAll node bs l).1.bindings =
      Function.update l.bindings node ((l.bindings node).filter (· ∉ bs) ++ bs) := by
  induction bs generalizing l with
  | nil =>
      rw [rebindAll, List.append_nil, List.filter_eq_self.mpr (by simp), Function.update_eq_self]
  | cons b bs ih =>
      obtain ⟨hb, hbs⟩ := List.nodup_cons.mp hnodup
      -- What is kept of the old list when `b` goes first and the others after it.
      have hkept : ((l.bindings node).filter (· ≠ b) ++ [b]).filter (· ∉ bs) =
          (l.bindings node).filter (· ∉ b :: bs) ++ [b] := by
        rw [List.filter_append, List.filter_filter]
        simp [hb, Bool.and_comm]
      show (rebindAll node bs ((removeAll l node b).1.add node b)).1.bindings = _
      rw [ih hbs, bindings_add, bindings_removeAll, Function.update_idem, Function.update_idem,
        Function.update_self, Function.update_self, hkept, List.append_assoc, List.singleton_append]

end Rebinder

end EditWatch.Capture
