import EditWatch.Proofs.Document.History

/-!
# EditWatch.Proofs.Document.Verdict -- what a document says to an edit

The checks of an edit look at parents and go through lists with the numbers that were seen before. The
verdict they come to is described here without either: a removed node has to be among the children of
the target, an added one has to have a number that nothing has, and the first entry of a list that
breaks the rule decides. For every document that comes about and every edit the two agree.
-/

namespace EditWatch.Document

variable {d : Document}

/-! ## The first entry with a flaw -/

section Scan

variable {α β : Type} (key : α → NodeId) (flaw? : Std.ExtTreeSet NodeId → α → Option β)

/-- The numbers seen once the entries were gone through. -/
def seenAfter (seen : Std.ExtTreeSet NodeId) (xs : List α) : Std.ExtTreeSet NodeId :=
  xs.foldl (fun seen x => seen.insert (key x)) seen

/-- A check that goes through entries and remembers their numbers: the first flaw that it finds. -/
def firstFlaw (seen : Std.ExtTreeSet NodeId) : List α → Option β
  | [] => none
  | x :: xs => match flaw? seen x with
    | some f => some f
    | none => firstFlaw (seen.insert (key x)) xs

variable {key flaw?}

theorem mem_seenAfter {seen : Std.ExtTreeSet NodeId} {xs : List α} {id : NodeId} :
    id ∈ seenAfter key seen xs ↔ id ∈ seen ∨ id ∈ xs.map key := by
  induction xs generalizing seen with
  | nil => simp [seenAfter]
  | cons x xs ih =>
      show id ∈ seenAfter key (seen.insert (key x)) xs ↔ _
      rw [ih, mem_insert_node, List.map_cons, List.mem_cons]
      tauto

/-- What is found is the flaw of an entry that none with a flaw precedes. -/
theorem firstFlaw_eq_some_iff {seen : Std.ExtTreeSet NodeId} {xs : List α} {f : β} :
    firstFlaw key flaw? seen xs = some f ↔ ∃ before x after, xs = before ++ x :: after ∧
      firstFlaw key flaw? seen before = none ∧ flaw? (seenAfter key seen before) x = some f := by
  induction xs generalizing seen with
  | nil => simp [firstFlaw]
  | cons y ys ih =>
      cases hy : flaw? seen y with
      | some g =>
          have hfirst : firstFlaw key flaw? seen (y :: ys) = some g := by simp only [firstFlaw, hy]
          rw [hfirst]
          constructor
          · intro h
            cases h
            exact ⟨[], y, ys, rfl, rfl, hy⟩
          · rintro ⟨before, x, after, heq, hnone, hx⟩
            -- The entry with the flaw cannot be passed over.
            cases before with
            | nil =>
                cases heq
                exact hy.symm.trans hx
            | cons b before =>
                cases heq
                simp only [firstFlaw, hy] at hnone
                cases hnone
      | none =>
          have hskip : ∀ zs, firstFlaw key flaw? seen (y :: zs) =
              firstFlaw key flaw? (seen.insert (key y)) zs := by
            intro zs
            simp only [firstFlaw, hy]
          rw [hskip, ih]
          constructor
          · rintro ⟨before, x, after, rfl, hnone, hx⟩
            exact ⟨y :: before, x, after, rfl, (hskip before).trans hnone, hx⟩
          · rintro ⟨before, x, after, heq, hnone, hx⟩
            cases before with
            | nil =>
                cases heq
                exact nomatch hy.symm.trans hx
            | cons b before =>
                cases heq
                exact ⟨before, x, after, rfl, (hskip before).symm.trans hnone, hx⟩

end Scan

/-! ## Removed entries -/

/-- What speaks against taking out a node: it is no child of the parent, or it was taken out. -/
def strangeness (d : Document) (p : NodeId) (seen : Std.ExtTreeSet NodeId) (c : NodeId) :
    Option NodeId :=
  if d.parent? c = some p ∧ c ∉ seen then none else some c

theorem firstStranger_eq_firstFlaw (p : NodeId) (seen : Std.ExtTreeSet NodeId) (cs : List NodeId) :
    d.firstStranger p seen cs = firstFlaw id (d.strangeness p) seen cs := by
  induction cs generalizing seen with
  | nil => rfl
  | cons c cs ih =>
      rw [firstStranger, firstFlaw, strangeness, ih]
      simp only [Std.ExtTreeSet.contains_iff_mem]
      split <;> rfl

/-- Different children of the node, such as can be taken out together. -/
def Node.Releases (n : Node) (cs : List NodeId) : Prop := cs.Nodup ∧ ∀ c ∈ cs, c ∈ n.children

theorem WellFormed.firstStranger_eq_none_iff (hwf : d.WellFormed) {p : NodeId} {n : Node}
    (hn : d.node? p = some n) {cs : List NodeId} :
    d.firstStranger p ∅ cs = none ↔ n.Releases cs := by
  rw [Document.firstStranger_eq_none_iff, unseen_empty_iff, Node.Releases]
  simp only [hwf.mem_children_iff hn, Up]

/-- The first stranger is no child or repeats an entry, and the entries before it are in order. -/
theorem WellFormed.firstStranger_eq_some_iff (hwf : d.WellFormed) {p : NodeId} {n : Node}
    (hn : d.node? p = some n) {cs : List NodeId} {r : NodeId} :
    d.firstStranger p ∅ cs = some r ↔ ∃ before after, cs = before ++ r :: after ∧
      n.Releases before ∧ (r ∉ n.children ∨ r ∈ before) := by
  have hflaw : ∀ before x, d.strangeness p (seenAfter id ∅ before) x = some r ↔
      x = r ∧ (r ∉ n.children ∨ r ∈ before) := by
    intro before x
    have hseen : x ∈ seenAfter id ∅ before ↔ x ∈ before := by
      rw [mem_seenAfter, List.map_id]
      simp
    have hchild : d.parent? x = some p ↔ x ∈ n.children := (hwf.mem_children_iff hn).symm
    simp only [strangeness, hseen, hchild, Option.ite_none_left_eq_some, Option.some_inj,
      not_and_or, not_not]
    constructor
    · rintro ⟨h, rfl⟩
      exact ⟨rfl, h⟩
    · rintro ⟨rfl, h⟩
      exact ⟨h, rfl⟩
  rw [firstStranger_eq_firstFlaw, firstFlaw_eq_some_iff]
  simp only [← firstStranger_eq_firstFlaw, hwf.firstStranger_eq_none_iff hn, hflaw]
  constructor
  · rintro ⟨before, x, after, hcs, hbefore, rfl, hr⟩
    exact ⟨before, after, hcs, hbefore, hr⟩
  · rintro ⟨before, after, hcs, hbefore, hr⟩
    exact ⟨before, r, after, hcs, hbefore, rfl, hr⟩

/-! ## Added descriptors -/

/-- What speaks against adding a descriptor: its number is taken, or it is text with children. -/
def unfitness (d : Document) (seen : Std.ExtTreeSet NodeId) (y : Descriptor) : Option Fault :=
  if d.contains y.id ∨ y.id ∈ seen then some (.duplicateNode y.id)
  else if y.kind = .text ∧ y.children ≠ [] then some (.textWithChildren y.id)
  else none

theorem isTextWithChildren_iff {y : Descriptor} :
    y.isTextWithChildren ↔ y.kind = .text ∧ y.children ≠ [] := by
  rw [Descriptor.isTextWithChildren, Bool.and_eq_true, beq_iff_eq, Bool.not_eq_true',
    List.isEmpty_eq_false_iff]

theorem firstFault_eq_firstFlaw (seen : Std.ExtTreeSet NodeId) (ys : List Descriptor) :
    d.firstFault seen ys = firstFlaw Descriptor.id d.unfitness seen ys := by
  induction ys generalizing seen with
  | nil => rfl
  | cons y ys ih =>
      rw [firstFault, firstFlaw, unfitness, ih]
      simp only [Bool.or_eq_true, Std.ExtTreeSet.contains_iff_mem, isTextWithChildren_iff]
      split
      · rfl
      · split <;> rfl

/-- Descriptors that can be added one after the other: their numbers are new and all different, and
none is text with children. -/
def Receives (d : Document) (ys : List Descriptor) : Prop :=
  (ys.map Descriptor.id).Nodup ∧
    ∀ y ∈ ys, ¬ d.contains y.id ∧ ¬ (y.kind = .text ∧ y.children ≠ [])

theorem firstFault_eq_none_iff_receives {ys : List Descriptor} :
    d.firstFault ∅ ys = none ↔ d.Receives ys := by
  rw [firstFault_eq_none_iff, unseen_empty_iff, Receives]
  simp only [← isTextWithChildren_iff, Bool.not_eq_true]

theorem firstFault_eq_some_iff {ys : List Descriptor} {f : Fault} :
    d.firstFault ∅ ys = some f ↔ ∃ before y after, ys = before ++ y :: after ∧
      d.Receives before ∧
      ((d.contains y.id ∨ y.id ∈ before.map Descriptor.id) ∧ f = .duplicateNode y.id ∨
        ¬ (d.contains y.id ∨ y.id ∈ before.map Descriptor.id) ∧
          (y.kind = .text ∧ y.children ≠ []) ∧ f = .textWithChildren y.id) := by
  have hflaw : ∀ before y, d.unfitness (seenAfter Descriptor.id ∅ before) y = some f ↔
      ((d.contains y.id ∨ y.id ∈ before.map Descriptor.id) ∧ f = .duplicateNode y.id ∨
        ¬ (d.contains y.id ∨ y.id ∈ before.map Descriptor.id) ∧
          (y.kind = .text ∧ y.children ≠ []) ∧ f = .textWithChildren y.id) := by
    intro before y
    have hseen : y.id ∈ seenAfter Descriptor.id ∅ before ↔ y.id ∈ before.map Descriptor.id := by
      rw [mem_seenAfter]
      simp
    simp only [unfitness, hseen]
    split
    · rename_i htaken
      constructor
      · intro h
        exact .inl ⟨htaken, (Option.some.inj h).symm⟩
      · rintro (⟨-, rfl⟩ | ⟨hfree, -⟩)
        · rfl
        · exact absurd htaken hfree
    · rename_i hfree
      rw [Option.ite_none_right_eq_some]
      constructor
      · rintro ⟨hleaf, h⟩
        exact .inr ⟨hfree, hleaf, (Option.some.inj h).symm⟩
      · rintro (⟨htaken, -⟩ | ⟨-, hleaf, rfl⟩)
        · exact absurd htaken hfree
        · exact ⟨hleaf, rfl⟩
  rw [firstFault_eq_firstFlaw, firstFlaw_eq_some_iff]
  simp only [← firstFault_eq_firstFlaw, firstFault_eq_none_iff_receives, hflaw]

/-! ## The verdict -/

/-- What a document says to an edit. Each case leaves out what an earlier one covers: an unknown
target, then the target's kind, then the first removed entry that is out of order, then text that
would get children, and then the first added descriptor, in document order, that is out of order. -/
inductive Verdict (d : Document) (e : Edit) : Except Fault Record → Prop
  | unknown (htarget : d.node? e.target = none) : Verdict d e (.error (.unknownNode e.target))
  | texted {n : Node} (hkind : e.kind = .characterData) (htarget : d.node? e.target = some n)
      (htext : n.kind = .text) : Verdict d e (.ok ⟨e.target, [], [], .characterData⟩)
  | notText {n : Node} (hkind : e.kind = .characterData) (htarget : d.node? e.target = some n)
      (htext : n.kind ≠ .text) : Verdict d e (.error (.notText e.target))
  | notAChild {n : Node} {before after : List NodeId} {r : NodeId} (hkind : e.kind = .childList)
      (htarget : d.node? e.target = some n) (hremoved : e.removed = before ++ r :: after)
      (hbefore : n.Releases before) (hr : r ∉ n.children ∨ r ∈ before) :
      Verdict d e (.error (.notAChild r e.target))
  | textTarget {n : Node} (hkind : e.kind = .childList) (htarget : d.node? e.target = some n)
      (hremoved : n.Releases e.removed) (htext : n.kind = .text) (hadded : e.added ≠ []) :
      Verdict d e (.error (.textWithChildren e.target))
  | duplicateNode {n : Node} {before after : List Descriptor} {y : Descriptor}
      (hkind : e.kind = .childList) (htarget : d.node? e.target = some n)
      (hremoved : n.Releases e.removed) (htext : n.kind = .text → e.added = [])
      (hadded : Descriptor.preorderAll e.added = before ++ y :: after)
      (hbefore : d.Receives before) (hy : d.contains y.id ∨ y.id ∈ before.map Descriptor.id) :
      Verdict d e (.error (.duplicateNode y.id))
  | textWithChildren {n : Node} {before after : List Descriptor} {y : Descriptor}
      (hkind : e.kind = .childList) (htarget : d.node? e.target = some n)
      (hremoved : n.Releases e.removed) (htext : n.kind = .text → e.added = [])
      (hadded : Descriptor.preorderAll e.added = before ++ y :: after)
      (hbefore : d.Receives before)
      (hnew : ¬ (d.contains y.id ∨ y.id ∈ before.map Descriptor.id))
      (hy : y.kind = .text ∧ y.children ≠ []) : Verdict d e (.error (.textWithChildren y.id))
  | regrafted {n : Node} (hkind : e.kind = .childList) (htarget : d.node? e.target = some n)
      (hremoved : n.Releases e.removed) (htext : n.kind = .text → e.added = [])
      (hadded : d.Receives (Descriptor.preorderAll e.added)) :
      Verdict d e (.ok ⟨e.target, e.added.map Descriptor.id, e.removed, .childList⟩)

/-! ## The faults behind a verdict -/

section Fault

variable {e : Edit} {n : Node}

theorem editFault_of_unknown (htarget : d.node? e.target = none) :
    d.editFault e = some (.unknownNode e.target) := by
  rw [editFault, contains, htarget]
  rfl

theorem editFault_of_characterData (hkind : e.kind = .characterData)
    (htarget : d.node? e.target = some n) :
    d.editFault e = if n.kind = .text then none else some (.notText e.target) := by
  rw [editFault, if_pos (contains_of_node? htarget), hkind]
  simp only [isText, htarget, Node.isText, beq_iff_eq]

theorem editFault_of_childList (hkind : e.kind = .childList)
    (htarget : d.node? e.target = some n) : d.editFault e = d.childListFault e := by
  rw [editFault, if_pos (contains_of_node? htarget), hkind]

/-- Once no removed entry is out of order, the target and what is added decide. -/
theorem WellFormed.childListFault_of_releases (hwf : d.WellFormed)
    (htarget : d.node? e.target = some n) (hremoved : n.Releases e.removed) :
    d.childListFault e = if n.kind = .text ∧ e.added ≠ [] then some (.textWithChildren e.target)
      else d.firstFault ∅ (Descriptor.preorderAll e.added) := by
  have hnone := (hwf.firstStranger_eq_none_iff htarget).mpr hremoved
  simp only [childListFault, hnone, insertFault, htarget, descriptorFault, Node.isText,
    Bool.and_eq_true, beq_iff_eq, Bool.not_eq_true', List.isEmpty_eq_false_iff]

/-- And where the target can get children, the first descriptor that is out of order does. -/
theorem WellFormed.editFault_of_releases (hwf : d.WellFormed) (hkind : e.kind = .childList)
    (htarget : d.node? e.target = some n) (hremoved : n.Releases e.removed)
    (htext : n.kind = .text → e.added = []) :
    d.editFault e = d.firstFault ∅ (Descriptor.preorderAll e.added) := by
  have hallowed : ¬ (n.kind = .text ∧ e.added ≠ []) := by
    rintro ⟨hn, hne⟩
    exact hne (htext hn)
  rw [editFault_of_childList hkind htarget, hwf.childListFault_of_releases htarget hremoved,
    if_neg hallowed]

end Fault

/-! ## The document and the verdict agree -/

theorem verdict_characterData {e : Edit} {n : Node} (hkind : e.kind = .characterData)
    (htarget : d.node? e.target = some n) (hwf : d.WellFormed) : d.Verdict e (d.apply e).1 := by
  rw [hwf.apply_eq, editFault_of_characterData hkind htarget]
  by_cases htext : n.kind = .text
  · simp only [if_pos htext, Edit.record, hkind]
    exact .texted hkind htarget htext
  · simp only [if_neg htext]
    exact .notText hkind htarget htext

theorem verdict_childList {e : Edit} {n : Node} (hkind : e.kind = .childList)
    (htarget : d.node? e.target = some n) (hwf : d.WellFormed) : d.Verdict e (d.apply e).1 := by
  rw [hwf.apply_eq]
  cases hstranger : d.firstStranger e.target ∅ e.removed with
  | some r =>
      obtain ⟨before, after, hremoved, hbefore, hr⟩ :=
        (hwf.firstStranger_eq_some_iff htarget).mp hstranger
      simp only [editFault_of_childList hkind htarget, childListFault, hstranger]
      exact .notAChild hkind htarget hremoved hbefore hr
  | none =>
      have hremoved := (hwf.firstStranger_eq_none_iff htarget).mp hstranger
      by_cases htext : n.kind = .text ∧ e.added ≠ []
      · rw [editFault_of_childList hkind htarget, hwf.childListFault_of_releases htarget hremoved,
          if_pos htext]
        exact .textTarget hkind htarget hremoved htext.1 htext.2
      · rw [not_and, not_not] at htext
        rw [hwf.editFault_of_releases hkind htarget hremoved htext]
        cases hfault : d.firstFault ∅ (Descriptor.preorderAll e.added) with
        | some f =>
            obtain ⟨before, y, after, hadded, hbefore, ⟨hy, rfl⟩ | ⟨hnew, hy, rfl⟩⟩ :=
              firstFault_eq_some_iff.mp hfault
            · exact .duplicateNode hkind htarget hremoved htext hadded hbefore hy
            · exact .textWithChildren hkind htarget hremoved htext hadded hbefore hnew hy
        | none =>
            simp only [Edit.record, hkind]
            exact .regrafted hkind htarget hremoved htext (firstFault_eq_none_iff_receives.mp hfault)

/-- What a well-formed document says to an edit is a verdict on it. -/
theorem WellFormed.verdict_apply (hwf : d.WellFormed) (e : Edit) : d.Verdict e (d.apply e).1 := by
  cases htarget : d.node? e.target with
  | none =>
      rw [hwf.apply_eq, editFault_of_unknown htarget]
      exact .unknown htarget
  | some n =>
      cases hkind : e.kind with
      | characterData => exact verdict_characterData hkind htarget hwf
      | childList => exact verdict_childList hkind htarget hwf

/-- And no other verdict on it holds. -/
theorem WellFormed.apply_of_verdict (hwf : d.WellFormed) {e : Edit} {v : Except Fault Record}
    (h : d.Verdict e v) : (d.apply e).1 = v := by
  rw [hwf.apply_eq]
  cases h with
  | unknown htarget => rw [editFault_of_unknown htarget]
  | texted hkind htarget htext =>
      rw [editFault_of_characterData hkind htarget, if_pos htext]
      simp only [Edit.record, hkind]
  | notText hkind htarget htext =>
      rw [editFault_of_characterData hkind htarget, if_neg htext]
  | notAChild hkind htarget hremoved hbefore hr =>
      have hstranger := (hwf.firstStranger_eq_some_iff htarget).mpr ⟨_, _, hremoved, hbefore, hr⟩
      rw [editFault_of_childList hkind htarget, childListFault, hstranger]
  | textTarget hkind htarget hremoved htext hadded =>
      rw [editFault_of_childList hkind htarget, hwf.childListFault_of_releases htarget hremoved,
        if_pos ⟨htext, hadded⟩]
  | duplicateNode hkind htarget hremoved htext hadded hbefore hy =>
      have hfault := firstFault_eq_some_iff.mpr ⟨_, _, _, hadded, hbefore, .inl ⟨hy, rfl⟩⟩
      rw [hwf.editFault_of_releases hkind htarget hremoved htext, hfault]
  | textWithChildren hkind htarget hremoved htext hadded hbefore hnew hy =>
      have hfault := firstFault_eq_some_iff.mpr ⟨_, _, _, hadded, hbefore, .inr ⟨hnew, hy, rfl⟩⟩
      rw [hwf.editFault_of_releases hkind htarget hremoved htext, hfault]
  | regrafted hkind htarget hremoved htext hadded =>
      have hnone := firstFault_eq_none_iff_receives.mpr hadded
      rw [hwf.editFault_of_releases hkind htarget hremoved htext, hnone]
      simp only [Edit.record, hkind]

/-- Every document that comes about says to an edit what the verdict on it is, and nothing else. -/
theorem apply_eq_iff_verdict (h : Reachable d) (e : Edit) (v : Except Fault Record) :
    (d.apply e).1 = v ↔ d.Verdict e v := by
  constructor
  · rintro rfl
    exact h.wellFormed.verdict_apply e
  · intro hverdict
    exact h.wellFormed.apply_of_verdict hverdict

/-- The new word taken out twice. -/
def removedTwice : Edit := ⟨1, .childList, [], [4, 4], none⟩

/-- A number of a node that was taken out is taken, and a child can be taken out only once. -/
theorem apply_eq_iff_verdict_replaced :
    Reachable replaced ∧ replaced.Verdict takenNumber (.error (.duplicateNode 3)) ∧
      replaced.Verdict removedTwice (.error (.notAChild 4 1)) :=
  ⟨reachable_replaced, (apply_eq_iff_verdict reachable_replaced takenNumber _).mp (by rfl),
    (apply_eq_iff_verdict reachable_replaced removedTwice _).mp (by rfl)⟩

end EditWatch.Document
