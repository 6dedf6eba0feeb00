import EditWatch.Proofs.Capture.Region

/-!
# EditWatch.Proofs.Capture.Rebinding -- what one rebinding does

Rebinding works through the registrations one by one, and each is put behind those that are yet to
be removed, so that the list of the region turns round on the way. In the end it is in a normal
form: what does not belong to the rebinder stands in front as it was, and the rebinder's
registrations follow, each once. The report counts just what was taken away and what was added.
-/

namespace EditWatch.Capture

open EditWatch.Document

namespace Rebinder

open Listeners

/-! ## Counting -/

/-- With a step for each registration of the binding, every one of them is counted. -/
theorem removeFrom_snd {node : NodeId} {b : Binding} {fuel : Nat} {l : Listeners}
    (hfuel : (l.bindings node).count b ≤ fuel) :
    (removeFrom node b fuel l).2 = (l.bindings node).count b := by
  induction fuel generalizing l with
  | zero => exact (Nat.le_zero.mp hfuel).symm
  | succ fuel ih =>
      have hflag := remove_snd l node b
      have hbindings := bindings_remove l node b
      rw [removeFrom]
      rcases hremove : l.remove node b with ⟨after, _ | _⟩
      · rw [hremove] at hflag
        have hnone : b ∉ l.bindings node := by simpa using hflag.symm
        exact (List.count_eq_zero.mpr hnone).symm
      · rw [hremove] at hflag hbindings
        have hsome : b ∈ l.bindings node := by simpa using hflag.symm
        have hnode : after.bindings node = (l.bindings node).erase b := by
          rw [hbindings, Function.update_self]
        have hcount : (after.bindings node).count b = (l.bindings node).count b - 1 := by
          rw [hnode, List.count_erase_self]
        have hpos : 0 < (l.bindings node).count b := List.count_pos_iff.mpr hsome
        show (removeFrom node b fuel after).2 + 1 = _
        rw [ih (by omega)]
        omega

theorem removeAll_snd (l : Listeners) (node : NodeId) (b : Binding) :
    (removeAll l node b).2 = (l.bindings node).count b :=
  removeFrom_snd List.count_le_length

/-- Occurrences of a list of bindings are those of the first and those of the others, which are no
occurrences of the first. -/
theorem countP_mem_cons {b : Binding} {bs : List Binding} (hb : b ∉ bs) (old : List Binding) :
    old.countP (· ∈ b :: bs) = old.count b + (old.filter (· ≠ b)).countP (· ∈ bs) := by
  rw [List.countP_filter]
  induction old with
  | nil => rfl
  | cons a old ih =>
      rw [List.countP_cons, List.countP_cons, List.count_cons, ih]
      by_cases ha : a = b
      · simp [ha, hb]
        omega
      · simp [ha]
        omega

/-- Rebinding a node counts the registrations of its own that it found and those that it made. -/
theorem rebindAll_snd {node : NodeId} {bs : List Binding} (hnodup : bs.Nodup) (l : Listeners) :
    (rebindAll node bs l).2 = ((l.bindings node).countP (· ∈ bs), bs.length) := by
  induction bs generalizing l with
  | nil => simp [rebindAll]
  | cons b bs ih =>
      obtain ⟨hb, hbs⟩ := List.nodup_cons.mp hnodup
      have hnext := ih hbs ((removeAll l node b).1.add node b)
      -- The registration of `b` that was just added is none of those to come.
      rw [bindings_add, bindings_removeAll, Function.update_self, Function.update_self,
        List.countP_append, List.countP_singleton, if_neg (by simpa using hb), Nat.add_zero]
        at hnext
      show ((removeAll l node b).2 + (rebindAll node bs ((removeAll l node b).1.add node b)).2.1,
        (rebindAll node bs ((removeAll l node b).1.add node b)).2.2 + 1) = _
      rw [hnext, removeAll_snd, countP_mem_cons hb, List.length_cons]

/-! ## The normal form of a list -/

/-- A list of registrations after the given ones were removed and added once each. -/
def renewed (bs old : List Binding) : List Binding := old.filter (· ∉ bs) ++ bs

theorem filter_notMem_self (bs : List Binding) : bs.filter (· ∉ bs) = [] := by
  rw [List.filter_eq_nil_iff]
  intro b hb
  simpa using hb

theorem renewed_renewed (bs old : List Binding) : renewed bs (renewed bs old) = renewed bs old := by
  rw [renewed, renewed, List.filter_append, List.filter_filter, filter_notMem_self,
    List.append_nil]
  simp only [Bool.and_self]

/-- In a renewed list the given registrations are just those at its end. -/
theorem countP_renewed (bs old : List Binding) :
    (renewed bs old).countP (· ∈ bs) = bs.length := by
  have hfront : (old.filter (· ∉ bs)).countP (· ∈ bs) = 0 := by
    rw [List.countP_eq_zero]
    intro b hb
    simpa using (List.mem_filter.mp hb).2
  have hback : bs.countP (· ∈ bs) = bs.length :=
    List.countP_eq_length.mpr fun b hb => decide_eq_true hb
  rw [renewed, List.countP_append, hfront, hback, Nat.zero_add]

/-! ## Main result -/

variable {d : Document} {l : Listeners} {r : Rebinder} {node : NodeId}

theorem rebind_found (hnodup : r.bindings.Nodup) (hfound : d.findByClass r.region = some node) :
    (r.rebind d l).1.bindings =
        Function.update l.bindings node (renewed r.bindings (l.bindings node)) ∧
      (r.rebind d l).2 =
        ⟨some node, (l.bindings node).countP (· ∈ r.bindings), r.bindings.length⟩ := by
  have hcounts : (rebindAll node r.bindings l).2 = _ := rebindAll_snd hnodup l
  rw [rebind, hfound]
  refine ⟨bindings_rebindAll hnodup l, ?_⟩
  show RebindReport.mk (some node) (rebindAll node r.bindings l).2.1
    (rebindAll node r.bindings l).2.2 = _
  rw [hcounts]

/-- The rebinder of any table, on any page and whatever listens there. If the region is found, its
list is what it was without the rebinder's registrations, in the same order, and these follow in
theirs; what was taken away and added is counted; and no other node is touched. Rebinding once more
then changes no list, and takes away as many as it adds. If the region is not found, nothing
changes. -/
theorem rebind_renews (region : String) (t : Table) (frame : FrameIndex) (d : Document)
    (l : Listeners) :
    let r := ofTable region t frame
    let first := r.rebind d l
    let second := r.rebind d first.1
    (∀ node, d.findByClass region = some node →
      first.1.bindings node = (l.bindings node).filter (· ∉ r.bindings) ++ r.bindings ∧
      first.2 = ⟨some node, (l.bindings node).countP (· ∈ r.bindings), r.bindings.length⟩ ∧
      (∀ other, other ≠ node → first.1.bindings other = l.bindings other) ∧
      (∀ id, second.1.bindings id = first.1.bindings id) ∧
      second.2 = ⟨some node, r.bindings.length, r.bindings.length⟩) ∧
    (d.findByClass region = none → first = (l, ⟨none, 0, 0⟩)) := by
  intro r first second
  have hnodup : r.bindings.Nodup := nodup_bindings region t frame
  constructor
  · intro node hfound
    obtain ⟨hlists, hreport⟩ := rebind_found (r := r) (l := l) hnodup hfound
    obtain ⟨hagain, hreport'⟩ := rebind_found (r := r) (l := first.1) hnodup hfound
    have hnode : first.1.bindings node = renewed r.bindings (l.bindings node) := by
      rw [hlists, Function.update_self]
    refine ⟨hnode, hreport, fun other hother => ?_, fun id => ?_, ?_⟩
    · rw [hlists, Function.update_of_ne hother]
    · rw [hagain, hnode, renewed_renewed, ← hnode, Function.update_eq_self]
    · rw [hreport', hnode, countP_renewed]
  · intro habsent
    show r.rebind d l = _
    rw [rebind, show d.findByClass r.region = none from habsent]

/-- A table of two events. -/
def keys : Table :=
  .ofKnown [⟨"keystroke", ["keydown", "keyup"], [], .document⟩] (by decide +kernel)

/-- A page with a region. -/
def streamPage : Descriptor :=
  ⟨1, .element, none, none, ∅, none,
    [⟨2, .element, none, some (.tokens "wide stream"), ∅, none, []⟩]⟩

def keyBinding (event : String) : Binding := ⟨event, ⟨"keystroke", .unset⟩⟩

/-- Registered by someone else. -/
def scrollBinding : Binding := ⟨"scroll", ⟨"view", .index 1⟩⟩

/-- Key releases registered twice with a scroll in between, and once on another node. -/
def cluttered : Listeners :=
  [(2, keyBinding "keyup"), (2, scrollBinding), (2, keyBinding "keyup"), (1, keyBinding "keyup")].foldl
    (fun l p => Listeners.add l p.1 p.2) ∅

/-- The scroll stays in front, and each key event is registered once behind it. A token that is
only the beginning of the region's finds nothing. -/
theorem rebind_renews_cluttered : ∃ d, ofRoot streamPage = .ok d ∧
    d.findByClass "stream" = some 2 ∧ d.findByClass "strea" = none ∧
    let r := ofTable "stream" keys .unset
    let first := r.rebind d cluttered
    first.1.bindings 2 = [scrollBinding, keyBinding "keydown", keyBinding "keyup"] ∧
      first.2 = ⟨some 2, 2, 2⟩ ∧ first.1.bindings 1 = [keyBinding "keyup"] ∧
      (r.rebind d first.1).1.bindings 2 = first.1.bindings 2 ∧
      (r.rebind d first.1).2 = ⟨some 2, 2, 2⟩ ∧
      (ofTable "strea" keys .unset).rebind d cluttered = (cluttered, ⟨none, 0, 0⟩) := by
  obtain ⟨d, hd⟩ : ∃ d, ofRoot streamPage = .ok d := ⟨_, rfl⟩
  have hfound : d.findByClass "stream" = some 2 := by
    obtain rfl := Except.ok.inj hd
    decide +kernel
  have habsent : d.findByClass "strea" = none := by
    obtain rfl := Except.ok.inj hd
    decide +kernel
  obtain ⟨hlist, hreport, hothers, hagain, hsecond⟩ :=
    (rebind_renews "stream" keys .unset d cluttered).1 2 hfound
  refine ⟨d, hd, hfound, habsent, hlist.trans ?_, hreport.trans ?_, (hothers 1 ?_).trans ?_,
    hagain 2, hsecond.trans ?_, (rebind_renews "strea" keys .unset d cluttered).2 habsent⟩
  all_goals decide +kernel

end Rebinder

end EditWatch.Capture
