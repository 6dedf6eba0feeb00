import EditWatch.Proofs.Document.History
import EditWatch.Proofs.Document.Lineage

/-!
# EditWatch.Proofs.Document.Attachment -- attached nodes, seen from below and from above

Whether a node is attached is asked in two ways: by walking from it up to the root along parents, and
by marking all that the root reaches down along lists of children, as pruning does. The links are
written down twice, so the two walks follow different links; on a document that came about they agree.
Pruning then drops just the nodes from which the upward walk misses the root, it leaves the others as
they are, and nothing is left for a second time.
-/

namespace EditWatch.Document

open Relation

variable {d : Document}

/-! ## Counting nodes -/

theorem mem_keys_iff {id : NodeId} : id ∈ d.nodes.keys ↔ d.contains id := by
  rw [Std.ExtTreeMap.mem_keys, Std.ExtTreeMap.mem_iff_isSome_getElem?]
  rfl

theorem length_keys (d : Document) : d.nodes.keys.length = d.size := Std.ExtTreeMap.length_keys

theorem nodup_keys (d : Document) : d.nodes.keys.Nodup := by
  simpa [List.Nodup] using Std.ExtTreeMap.distinct_keys (t := d.nodes)

theorem WellFormed.contains_prune_iff (hwf : d.WellFormed) {id : NodeId} :
    d.prune.1.contains id ↔ d.contains id ∧ d.isAttached id := by
  rw [contains_iff, contains_iff, hwf.isAttached_iff]
  simp only [hwf.node?_prune, exists_and_right]

/-- What remains are as many nodes as are attached. -/
theorem WellFormed.size_prune (hwf : d.WellFormed) :
    d.prune.1.size = d.nodes.keys.countP fun id => d.isAttached id := by
  have hkeys : d.prune.1.nodes.keys.Perm (d.nodes.keys.filter fun id => d.isAttached id) := by
    -- Neither side lists a number twice, so they only have to list the same ones.
    rw [List.perm_ext_iff_of_nodup (nodup_keys _) ((nodup_keys d).filter _)]
    intro id
    rw [List.mem_filter, mem_keys_iff, mem_keys_iff, hwf.contains_prune_iff]
  rw [← length_keys, hkeys.length_eq, List.countP_eq_length_filter]

theorem snd_prune (d : Document) : d.prune.2 = d.size - d.prune.1.size := by
  rw [prune]
  split
  · simp [size]
  · rfl

/-- What is dropped are as many as are not. -/
theorem WellFormed.snd_prune_eq (hwf : d.WellFormed) :
    d.prune.2 = d.nodes.keys.countP fun id => ¬ d.isAttached id := by
  have hall := List.length_eq_countP_add_countP (fun id => d.isAttached id) (l := d.nodes.keys)
  rw [length_keys] at hall
  rw [snd_prune, hwf.size_prune]
  omega

/-- Pruning a second time drops nothing. -/
theorem WellFormed.snd_prune_prune (hwf : d.WellFormed) : d.prune.1.prune.2 = 0 := by
  rw [hwf.prune.snd_prune_eq, List.countP_eq_zero]
  intro id hid
  have hatt := hwf.attached_of_contains_prune (mem_keys_iff.mp hid)
  simp [hwf.prune.isAttached_iff.mpr hatt]

/-! ## Up and down -/

/-- From a root the child links reach the nodes from which the parents lead to it. -/
theorem WellFormed.isAttached_iff_down (hwf : d.WellFormed) {r id : NodeId} (hr : d.root = some r) :
    d.isAttached id ↔ ReflTransGen d.Down r id := by
  rw [hwf.isAttached_iff, hwf.reflTransGen_down_iff, Attached]
  simp [hr]

theorem isAttached_of_root_eq_none (hr : d.root = none) (id : NodeId) : d.isAttached id = false := by
  rw [isAttached, hr]

/-! ## Main result -/

/-- In every document that comes about the walk along parents repeats no node and ends by itself: any
number of steps from that of the nodes on gives the same walk. With a root, a node is attached as that
walk says exactly if child links lead to it from the root, and exactly if it is there after pruning.
Pruning counts the nodes that are not attached, keeps the others with all they hold, and drops none when
it is done again. Without a root no node is attached and all are dropped. -/
theorem attachment_agrees (h : Reachable d) :
    (∀ id, (d.lineage id).Nodup ∧
      ∀ steps, d.contains id → d.size ≤ steps → d.lineageFrom steps id = d.lineage id) ∧
    (∀ r, d.root = some r → ∀ id, (d.isAttached id ↔ ReflTransGen d.Down r id) ∧
      (d.isAttached id ↔ d.prune.1.contains id)) ∧
    d.prune.2 = (d.nodes.keys.countP fun id => ¬ d.isAttached id) ∧
    (∀ id n, d.prune.1.node? id = some n → d.node? id = some n) ∧
    d.prune.1.prune.2 = 0 ∧
    (d.root = none →
      (∀ id, ¬ d.isAttached id) ∧ (∀ id, ¬ d.prune.1.contains id) ∧ d.prune.2 = d.size) := by
  have hwf := h.wellFormed
  refine ⟨?_, ?_, hwf.snd_prune_eq, ?_, hwf.snd_prune_prune, ?_⟩
  · intro id
    exact ⟨hwf.nodup_lineage id, fun steps hid hsteps => hwf.lineageFrom_eq hid hsteps⟩
  · intro r hr id
    refine ⟨hwf.isAttached_iff_down hr, ?_⟩
    rw [hwf.contains_prune_iff]
    refine ⟨fun hatt => ⟨?_, hatt⟩, fun hid => hid.2⟩
    exact hwf.contains_of_attached (hwf.isAttached_iff.mp hatt)
  · intro id n hn
    exact (hwf.node?_prune.mp hn).1
  · intro hr
    have hnone : ∀ id, ¬ d.isAttached id := by
      intro id
      simp [isAttached_of_root_eq_none hr id]
    refine ⟨hnone, fun id hid => hnone id (hwf.contains_prune_iff.mp hid).2, ?_⟩
    rw [hwf.snd_prune_eq, ← length_keys, List.countP_eq_length]
    intro id _
    simpa using hnone id

/-- The paragraph as a page of its own. -/
def page : Document := empty.orSame (ofRoot paragraph)

/-- The page with its word replaced, and a line break added to the word that was taken out. -/
def proofread : Document :=
  (page.perform (.apply replaceWord)).perform
    (.insert (some 2) ⟨5, .element, some "br", none, ∅, none, []⟩)

theorem reachable_page : Reachable page := Reachable.ofRoot (x := paragraph) (by rfl)

theorem reachable_proofread : Reachable proofread := (reachable_page.perform _).perform _

/-- The word that was taken out goes with all below it, and it goes once. -/
theorem attachment_agrees_proofread :
    Reachable proofread ∧ proofread.root = some 1 ∧ proofread.lineage 5 = [5, 2] ∧
      ¬ ReflTransGen proofread.Down 1 5 ∧ proofread.prune.1.contains 4 ∧ proofread.prune.2 = 3 ∧
      proofread.prune.1.prune.2 = 0 := by
  obtain ⟨hwalk, hagree, hcount, -, hagain, -⟩ := attachment_agrees reachable_proofread
  have hroot : proofread.root = some 1 := by rfl
  have hlineage : proofread.lineageFrom 9 5 = proofread.lineage 5 := (hwalk 5).2 9 (by rfl) (by decide)
  refine ⟨reachable_proofread, hroot, hlineage ▸ by rfl, ?_, ?_, ?_, hagain⟩
  · rw [← (hagree 1 hroot 5).1]
    decide
  · rw [← (hagree 1 hroot 4).2]
    rfl
  · rw [hcount]
    rfl

end EditWatch.Document
