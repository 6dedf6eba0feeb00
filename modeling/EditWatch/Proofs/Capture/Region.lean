import EditWatch.Proofs.Capture.Listeners
import EditWatch.Proofs.Capture.Table
import EditWatch.Proofs.Document.Edits
import Mathlib.Data.List.Flatten

/-!
# EditWatch.Proofs.Capture.Region -- listeners stay in the region

The listeners of a page are confined to the region when whatever has a registration at all is a
node of the page with the region's class token and has just the registrations of the rebinder.
Rebinding keeps them confined, and so does every change of the page that makes no node disappear.
-/

namespace EditWatch.Capture

open EditWatch.Document

variable {d d' : Document} {l : Listeners}

/-! ## What is found -/

theorem findFrom_sound {token : String} {fuel : Nat} {stack : List NodeId} {id : NodeId}
    (h : d.findFrom token fuel stack = some (some id)) : d.contains id ∧ d.hasClass id token := by
  induction fuel generalizing stack with
  | zero => cases stack <;> exact nomatch h
  | succ fuel ih =>
      cases stack with
      | nil => exact nomatch h
      | cons a stack =>
          rw [findFrom] at h
          cases hn : d.node? a with
          | none =>
              rw [hn] at h
              exact ih h
          | some n =>
              rw [hn] at h
              by_cases hclass : n.hasClass token
              · obtain rfl := Option.some.inj (Option.some.inj ((if_pos hclass).symm.trans h))
                rw [Document.hasClass, hn]
                exact ⟨contains_of_node? hn, hclass⟩
              · exact ih ((if_neg hclass).symm.trans h)

/-- What is found by its class is a node of the document and has the class. -/
theorem findByClass_sound {token : String} {id : NodeId} (h : d.findByClass token = some id) :
    d.contains id ∧ d.hasClass id token := by
  rw [findByClass] at h
  split at h
  · exact findFrom_sound (Option.join_eq_some_iff.mp h)
  · exact nomatch h

namespace Rebinder

/-! ## The registrations of a table -/

theorem map_event_bindings (region : String) (t : Table) (frame : FrameIndex) :
    (ofTable region t frame).bindings.map Binding.event =
      (t.ofScope .document).flatMap Spec.events := by
  rw [ofTable, List.map_flatMap]
  congr 1
  funext s
  rw [specBindings, List.map_map]
  exact List.map_id _

/-- A table gives no registration twice. -/
theorem nodup_bindings (region : String) (t : Table) (frame : FrameIndex) :
    (ofTable region t frame).bindings.Nodup := by
  refine List.Nodup.of_map Binding.event ?_
  rw [map_event_bindings]
  exact t.nodup_events.sublist (List.filter_sublist.flatMap _)

/-! ## Confined listeners -/

/-- Whatever listens is in the region and listens to all that the rebinder registers. -/
def Confined (r : Rebinder) (d : Document) (l : Listeners) : Prop :=
  ∀ id, l.bindings id ≠ [] →
    d.contains id ∧ d.hasClass id r.region ∧ l.bindings id = r.bindings

variable {r : Rebinder}

theorem confined_empty (r : Rebinder) (d : Document) : r.Confined d ∅ := by
  intro id hid
  exact absurd (Listeners.bindings_empty id) hid

theorem rebind_eq_self (h : d.findByClass r.region = none) : (r.rebind d l).1 = l := by
  rw [rebind, h]

/-- Rebinding gives the region that is found just the registrations of the rebinder. -/
theorem Confined.bindings_rebind (hnodup : r.bindings.Nodup) (h : r.Confined d l) {node : NodeId}
    (hfound : d.findByClass r.region = some node) :
    (r.rebind d l).1.bindings = Function.update l.bindings node r.bindings := by
  -- The node listens to nothing, or to just what is about to be removed.
  have hold : (l.bindings node).filter (· ∉ r.bindings) = [] := by
    rw [List.filter_eq_nil_iff]
    intro b hb
    rw [(h node (List.ne_nil_of_mem hb)).2.2] at hb
    simpa using hb
  have hrebind : (r.rebind d l).1 = (rebindAll node r.bindings l).1 := by rw [rebind, hfound]
  rw [hrebind, bindings_rebindAll hnodup, hold, List.nil_append]

theorem Confined.rebind (hnodup : r.bindings.Nodup) (h : r.Confined d l) :
    r.Confined d (r.rebind d l).1 := by
  cases hfound : d.findByClass r.region with
  | none => rwa [rebind_eq_self hfound]
  | some node =>
      intro id
      rw [h.bindings_rebind hnodup hfound, Function.update_apply]
      split
      · rename_i hid
        obtain ⟨hcontains, hclass⟩ := findByClass_sound hfound
        exact fun _ => ⟨hid ▸ hcontains, hid ▸ hclass, rfl⟩
      · exact h id

/-- A page that keeps its nodes keeps the listeners confined. -/
theorem Confined.keeps (h : r.Confined d l) (hkeeps : d.Keeps d') : r.Confined d' l := by
  intro id hid
  obtain ⟨hcontains, hclass, hbindings⟩ := h id hid
  refine ⟨hkeeps.contains hcontains, ?_, hbindings⟩
  rwa [hkeeps.hasClass hcontains]

/-- Dropping the detached nodes together with their listeners keeps the others confined. -/
theorem Confined.retain_prune (hwf : d.WellFormed) (h : r.Confined d l) :
    r.Confined d.prune.1 (l.retain d.prune.1.contains).1 := by
  intro id
  rw [Listeners.bindings_retain]
  split
  · rename_i hkept
    intro hid
    obtain ⟨-, hclass, hbindings⟩ := h id hid
    obtain ⟨n, hn⟩ := contains_iff.mp hkept
    have hsame : d.prune.1.hasClass id r.region = d.hasClass id r.region := by
      rw [Document.hasClass, Document.hasClass, hn, (hwf.node?_prune.mp hn).1]
    exact ⟨hkept, hsame.trans hclass, hbindings⟩
  · intro hid
    exact absurd rfl hid

end Rebinder

end EditWatch.Capture
