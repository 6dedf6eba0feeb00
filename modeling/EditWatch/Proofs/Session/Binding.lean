import EditWatch.Proofs.Capture.Region
import EditWatch.Proofs.Document.Editing
import EditWatch.Proofs.Session.Batch

/-!
# EditWatch.Proofs.Session.Binding -- listeners of a page that changes

The page replaces its region now and then, and a session binds it anew when the focus moves. At
any time the nodes of the page are all attached to the first root, whatever listens is in the
region and listens to everything there is to listen to, and a node that was added listens to
nothing, even if its number belonged to another node before.
-/

namespace EditWatch.Session

open EditWatch.Document EditWatch.Capture

namespace Watch

variable {settings : Settings} {rules : Labelling.RuleTable} {identity : Identity}
  {root : Descriptor} {d : Document} {w : Watch}

/-! ## Batches -/

/-- The numbers of the nodes that the accepted edits of a batch add, in order. -/
def inserted (d : Document) : List Edit → List NodeId
  | [] => []
  | e :: es =>
    match d.apply e with
    | (.ok _, after) => e.addedIds ++ inserted after es
    | (.error _, after) => inserted after es

/-- A batch inserts just the nodes that are there before the page is cleaned up and were not there
before the batch. -/
theorem mem_inserted_iff (hwf : d.WellFormed) (edits : List Edit) (id : NodeId) :
    id ∈ inserted d edits ↔ (applyAll d edits).1.contains id ∧ ¬ d.contains id := by
  induction edits generalizing d with
  | nil => simp [inserted, applyAll]
  | cons e es ih =>
      have hafter := ih (hwf.apply e)
      have hkeeps : (d.apply e).2.contains id → (applyAll (d.apply e).2 es).1.contains id :=
        (applyAll_keeps (hwf.apply e) es).2.2.contains
      have hstep : d.contains id → (d.apply e).2.contains id := (hwf.keeps_apply e).contains
      rw [applyAll_cons_fst, inserted]
      have happlied := hwf.applied e
      rcases hap : d.apply e with ⟨f | r, after⟩
      · rw [hap] at happlied hafter
        cases happlied with
        | refused => exact hafter
      · rw [hap] at hafter hkeeps hstep
        rw [List.mem_append, hafter, hwf.mem_addedIds_iff hap]
        -- No edit makes a node disappear, so each number is counted with the edit that added it.
        tauto

/-! ## What every signal keeps -/

/-- The state of a session between two signals: its document hangs together and is attached to the
first root, its table and rebinder are those it started with, and its listeners are confined to
the region. -/
structure Settled (settings : Settings) (root : Descriptor) (w : Watch) : Prop where
  wellFormed : w.document.WellFormed
  root_eq : w.document.root = some root.id
  attached : ∀ id, w.document.contains id → w.document.Attached id
  table_eq : w.capturer.table = Table.builtin
  rebinder_eq : w.capturer.rebinder = rebinderOf settings
  confined : (rebinderOf settings).Confined w.document w.listeners

theorem nodup_rebinderOf (settings : Settings) : (rebinderOf settings).bindings.Nodup :=
  Rebinder.nodup_bindings _ _ _

theorem settled_opened (h : ofRoot root = .ok d) :
    (opened settings rules identity d).Settled settings root where
  wellFormed := WellFormed.ofRoot h
  root_eq := (Holds.ofRoot h).root_eq
  attached id hid := by
    have hholds := Holds.ofRoot h
    have hatt : d.isAttached id := hholds.attached_iff.mpr ((hholds.contains_iff id).mp hid)
    exact hholds.wellFormed.isAttached_iff.mp hatt
  table_eq := rfl
  rebinder_eq := rfl
  confined := (Rebinder.confined_empty _ d).rebind (nodup_rebinderOf settings)

/-- Handling an event rebinds the region if the event is a move of the focus, and otherwise leaves
the listeners as they are. -/
theorem Settled.listeners_handle (h : w.Settled settings root) (event : String) (payload : Json) :
    (w.capturer.handle w.document w.listeners event payload).1 =
      if (Table.builtin.lookup event).map Spec.category = some Table.attentionCategory then
        ((rebinderOf settings).rebind w.document w.listeners).1
      else w.listeners := by
  rw [Capturer.handle, h.table_eq, h.rebinder_eq]
  cases Table.builtin.lookup event with
  | none => rfl
  | some spec => by_cases hcategory : spec.category = Table.attentionCategory <;> simp [hcategory]

theorem Settled.mutations (h : w.Settled settings root) (edits : List Edit) :
    (w.handle (.mutations edits)).1.Settled settings root := by
  obtain ⟨stats, tally, hafter⟩ := handle_mutations w edits
  obtain ⟨hwf, hroot, hkeeps⟩ := applyAll_keeps h.wellFormed edits
  rw [hafter]
  exact
    { wellFormed := hwf.prune
      root_eq := (root_prune _).trans (hroot.trans h.root_eq)
      attached := fun id => hwf.attached_of_contains_prune
      table_eq := h.table_eq
      rebinder_eq := h.rebinder_eq
      confined := (h.confined.keeps hkeeps).retain_prune hwf }

theorem Settled.interaction (h : w.Settled settings root) (event : String) (payload : Json) :
    (w.handle (.interaction event payload)).1.Settled settings root := by
  obtain ⟨stats, hafter⟩ := handle_interaction w event payload
  rw [hafter]
  refine { h with confined := ?_ }
  show (rebinderOf settings).Confined w.document _
  rw [h.listeners_handle]
  split
  · exact h.confined.rebind (nodup_rebinderOf settings)
  · exact h.confined

theorem Settled.handle (h : w.Settled settings root) (s : Signal) :
    (w.handle s).1.Settled settings root := by
  cases s with
  | snapshot opening => exact h
  | mutations edits => exact h.mutations edits
  | interaction event payload => exact h.interaction event payload
  | loaded => exact { h with }

/-- Any signals leave a session settled. -/
theorem settled_run (h : start settings rules identity root = .ok w) (signals : List Signal) :
    (w.run signals).1.Settled settings root := by
  obtain ⟨d, hd, rfl⟩ := start_eq_ok_iff.mp h
  exact run_induction (settled_opened hd) (fun w s hw => hw.handle s) signals

/-! ## Main result -/

/-- After any signals: the document is attached to the first root; what listens is in the region
and has the rebinder's registrations in their order; a move of the focus gives them to the region
that is found; and what a batch inserts listens to nothing when the batch is over. -/
theorem listeners_follow_region (h : start settings rules identity root = .ok w)
    (signals : List Signal) :
    let now := (w.run signals).1
    (now.document.root = some root.id ∧
      ∀ id, now.document.contains id → now.document.isAttached id) ∧
    (now.capturer.rebinder = rebinderOf settings ∧ ∀ id, now.listeners.bindings id ≠ [] →
      now.document.contains id ∧ now.document.hasClass id settings.dynamicRegion ∧
        now.listeners.bindings id = (rebinderOf settings).bindings) ∧
    (∀ event payload spec, Table.builtin.lookup event = some spec →
      spec.category = Table.attentionCategory →
      let after := (now.handle (.interaction event payload)).1
      ∀ id, after.document.findByClass settings.dynamicRegion = some id →
        after.listeners.bindings id = (rebinderOf settings).bindings) ∧
    (∀ edits, ∀ id ∈ inserted now.document edits,
      (now.handle (.mutations edits)).1.listeners.bindings id = []) := by
  obtain ⟨d, hd, rfl⟩ := start_eq_ok_iff.mp h
  intro now
  have hnow : now.Settled settings root :=
    run_induction (settled_opened hd) (fun w s hw => hw.handle s) signals
  refine ⟨⟨hnow.root_eq, fun id hid => ?_⟩, ⟨hnow.rebinder_eq, hnow.confined⟩, ?_, ?_⟩
  · exact hnow.wellFormed.isAttached_iff.mpr (hnow.attached id hid)
  · intro event payload spec hspec hcategory
    obtain ⟨stats, hafter⟩ := handle_interaction now event payload
    rw [hafter]
    intro after id hfound
    show (now.capturer.handle now.document now.listeners event payload).1.bindings id = _
    rw [hnow.listeners_handle, if_pos (by rw [hspec, Option.map_some, hcategory]),
      hnow.confined.bindings_rebind (nodup_rebinderOf settings) hfound, Function.update_self]
  · intro edits id hid
    obtain ⟨stats, tally, hafter⟩ := handle_mutations now edits
    have hfresh := ((mem_inserted_iff hnow.wellFormed edits id).mp hid).2
    -- A registration would mean that the node was there before the batch.
    have hsilent : now.listeners.bindings id = [] := by
      by_contra hbound
      exact hfresh (hnow.confined id hbound).1
    rw [hafter, Listeners.bindings_retain, hsilent, ite_self]

/-- An empty region under the number. -/
def region (id : NodeId) : Descriptor :=
  ⟨id, .element, some "div", some (.tokens "docos-stream-view"), ∅, none, []⟩

/-- A page with a region. -/
def pageWithRegion : Descriptor := ⟨1, .element, some "body", none, ∅, none, [region 2]⟩

/-- The region replaced by one of another number. -/
def swapRegion (old new : NodeId) : List Edit := [⟨1, .childList, [region new], [old], none⟩]

/-- A region that was swapped in listens to nothing until the focus moves; swapping back to the
first number gives it none of the registrations it had. -/
theorem listeners_follow_region_swapped : ∃ w,
    start Settings.default Labelling.RuleTable.builtin ⟨.ok none, .ok none⟩ pageWithRegion = .ok w ∧
      (w.run []).1.listeners.bindings 2 = (rebinderOf Settings.default).bindings ∧
      ((w.run []).1.handle (.mutations (swapRegion 2 3))).1.listeners.bindings 3 = [] ∧
      ((w.run [.mutations (swapRegion 2 3)]).1.handle
        (.interaction "focusin" .null)).1.listeners.bindings 3 =
          (rebinderOf Settings.default).bindings ∧
      ((w.run [.mutations (swapRegion 2 3), .interaction "focusin" .null]).1.handle
        (.mutations (swapRegion 3 2))).1.listeners.bindings 2 = [] := by
  have hstart : start Settings.default Labelling.RuleTable.builtin ⟨.ok none, .ok none⟩
      pageWithRegion = .ok _ := start_eq_ok_iff.mpr ⟨_, rfl, rfl⟩
  obtain ⟨spec, hspec, hcategory⟩ := Option.map_eq_some_iff.mp
    (show (Table.builtin.lookup "focusin").map Spec.category = some Table.attentionCategory by
      decide +kernel)
  obtain ⟨-, ⟨-, hbound⟩, -, hfirst⟩ := listeners_follow_region hstart []
  obtain ⟨-, -, hfocus, -⟩ := listeners_follow_region hstart [.mutations (swapRegion 2 3)]
  obtain ⟨-, -, -, hback⟩ := listeners_follow_region hstart
    [.mutations (swapRegion 2 3), .interaction "focusin" .null]
  refine ⟨_, hstart, (hbound 2 ?_).2.2, hfirst _ 3 ?_,
    hfocus "focusin" .null spec hspec hcategory 3 ?_, hback _ 2 ?_⟩
  · decide +kernel
  · decide +kernel
  · decide +kernel
  · decide +kernel

end Watch

end EditWatch.Session
