import EditWatch.Url.Page
import Mathlib.Data.List.Basic

/-!
# EditWatch.Proofs.Url.Page -- which segment is the identity of a document

The segments of a path are looked through for the first mark, and what stands right behind it is the
identity. No other segment has a say: neither those in front of the mark, whatever product they name,
nor a second mark further back, not even where the first one leads to an empty identity.
-/

namespace EditWatch.Url

/-! ## The first mark -/

/-- The segment stands right behind the first mark. -/
def Announced (segs : List String) (id : String) : Prop :=
  ∃ before after, segs = before ++ identityMark :: id :: after ∧ identityMark ∉ before

variable {segs : List String} {seg id : String}

theorem announced_mark_cons_iff :
    Announced (identityMark :: segs) id ↔ ∃ after, segs = id :: after := by
  constructor
  · rintro ⟨_ | ⟨first, before⟩, after, hsplit, hbefore⟩
    · exact ⟨after, (List.cons.inj hsplit).2⟩
    · obtain ⟨rfl, -⟩ := List.cons.inj hsplit
      exact absurd List.mem_cons_self hbefore
  · rintro ⟨after, rfl⟩
    exact ⟨[], after, rfl, List.not_mem_nil⟩

theorem announced_cons_iff (h : seg ≠ identityMark) :
    Announced (seg :: segs) id ↔ Announced segs id := by
  constructor
  · rintro ⟨_ | ⟨first, before⟩, after, hsplit, hbefore⟩
    · exact absurd (List.cons.inj hsplit).1 h
    · obtain ⟨-, rfl⟩ := List.cons.inj hsplit
      exact ⟨before, after, rfl, fun hmem => hbefore (List.mem_cons_of_mem _ hmem)⟩
  · rintro ⟨before, after, rfl, hbefore⟩
    refine ⟨seg :: before, after, rfl, ?_⟩
    rw [List.mem_cons]
    exact not_or.mpr ⟨h.symm, hbefore⟩

/-- Segments without a mark in front of the others have no say. -/
theorem announced_append_iff {before : List String} (h : identityMark ∉ before) :
    Announced (before ++ segs) id ↔ Announced segs id := by
  induction before with
  | nil => rfl
  | cons seg before ih =>
      rw [List.mem_cons, not_or] at h
      rw [List.cons_append, announced_cons_iff (Ne.symm h.1), ih h.2]

/-- The search stops at the first mark, with what stands behind it unless that is empty. -/
theorem documentIdIn_eq_some_iff :
    documentIdIn segs = some id ↔ Announced segs id ∧ id ≠ "" := by
  induction segs with
  | nil =>
      refine iff_of_false nofun ?_
      rintro ⟨⟨_ | _, _, hsplit, _⟩, _⟩ <;> cases hsplit
  | cons seg segs ih =>
      by_cases hseg : seg = identityMark
      · subst hseg
        rw [announced_mark_cons_iff]
        cases segs with
        | nil => exact iff_of_false nofun fun h => nomatch h.1.choose_spec
        | cons next rest =>
            rw [documentIdIn, if_pos rfl, Option.ite_none_left_eq_some]
            simp only [List.cons.injEq, exists_and_left, exists_eq', and_true,
              String.isEmpty_iff, Option.some_inj]
            constructor
            · rintro ⟨hne, rfl⟩
              exact ⟨rfl, hne⟩
            · rintro ⟨rfl, hne⟩
              exact ⟨hne, rfl⟩
      · rw [announced_cons_iff hseg, ← ih]
        -- A last segment announces nothing, and none is announced behind it.
        cases segs with
        | nil => rfl
        | cons next rest => rw [documentIdIn, if_neg hseg]

theorem documentIdIn_append {before : List String} (h : identityMark ∉ before) :
    documentIdIn (before ++ segs) = documentIdIn segs := by
  ext id
  rw [documentIdIn_eq_some_iff, documentIdIn_eq_some_iff, announced_append_iff h]

theorem documentId?_eq_some_iff {u : Url} :
    u.documentId? = some id ↔ ∃ segs, u.segments = some segs ∧ Announced segs id ∧ id ≠ "" := by
  simp only [documentId?, Option.bind_eq_some_iff, documentIdIn_eq_some_iff]

end EditWatch.Url

namespace EditWatch.Identity

open Url (identityMark Announced)

variable {raw : String} {u : Url}

/-! ## The identity of a page -/

theorem docId_ofPage_of_parse (h : Url.parse raw = .ok u) (title : Option String) :
    (ofPage (some raw) title).docId = .ok u.documentId? := by
  simp only [ofPage, h]

/-- Whatever the title and whatever stands in front of the first mark: the identity of a page with a
readable address is the segment right behind that mark, if there is one and it is not empty, and
otherwise the page has none. So two addresses with the same segments from the first mark on tell the
same identity. -/
theorem docId_follows_first_mark (h : Url.parse raw = .ok u) (title : Option String) :
    (∀ id, (ofPage (some raw) title).docId = .ok (some id) ↔
      id ≠ "" ∧ ∃ segs, u.segments = some segs ∧ Announced segs id) ∧
    ((ofPage (some raw) title).docId = .ok none ↔
      ∀ segs id, u.segments = some segs → Announced segs id → id = "") ∧
    ∀ raw' u' before before' after, Url.parse raw' = .ok u' →
      u.segments = some (before ++ identityMark :: after) → identityMark ∉ before →
      u'.segments = some (before' ++ identityMark :: after) → identityMark ∉ before' →
      (ofPage (some raw') title).docId = (ofPage (some raw) title).docId := by
  have hsome : ∀ id, (ofPage (some raw) title).docId = .ok (some id) ↔
      id ≠ "" ∧ ∃ segs, u.segments = some segs ∧ Announced segs id := by
    intro id
    rw [docId_ofPage_of_parse h, Except.ok.injEq, Url.documentId?_eq_some_iff]
    constructor
    · rintro ⟨segs, hsegs, hid, hne⟩
      exact ⟨hne, segs, hsegs, hid⟩
    · rintro ⟨hne, segs, hsegs, hid⟩
      exact ⟨segs, hsegs, hid, hne⟩
  refine ⟨hsome, ?_, ?_⟩
  · constructor
    · intro hnone segs id hsegs hid
      by_contra hne
      exact nomatch hnone.symm.trans ((hsome id).mpr ⟨hne, segs, hsegs, hid⟩)
    · intro hempty
      rw [docId_ofPage_of_parse h, Except.ok.injEq]
      -- An identity that was found would be announced and not empty.
      by_contra hfound
      obtain ⟨id, hid⟩ := Option.ne_none_iff_exists'.mp hfound
      obtain ⟨segs, hsegs, hid, hne⟩ := Url.documentId?_eq_some_iff.mp hid
      exact hne (hempty segs id hsegs hid)
  · intro raw' u' before before' after h' hsegs hbefore hsegs' hbefore'
    rw [docId_ofPage_of_parse h, docId_ofPage_of_parse h', Url.documentId?, Url.documentId?, hsegs,
      hsegs', Option.bind_some, Option.bind_some, Url.documentIdIn_append hbefore,
      Url.documentIdIn_append hbefore']

/-- An address with a second mark behind the identity. -/
def twiceMarked : String := "https://[::1]/document/d/1AbC-xyz/copy/d/other#heading=h.1"

theorem docId_follows_first_mark_twice :
    Url.parse twiceMarked =
        .ok ⟨.web "https", some ["document", "d", "1AbC-xyz", "copy", "d", "other"]⟩ ∧
      "1AbC-xyz" ≠ "" ∧ Announced ["document", "d", "1AbC-xyz", "copy", "d", "other"] "1AbC-xyz" ∧
      (ofPage (some twiceMarked) none).docId = .ok (some "1AbC-xyz") := by
  have hparse : Url.parse twiceMarked =
      .ok ⟨.web "https", some ["document", "d", "1AbC-xyz", "copy", "d", "other"]⟩ := by rfl
  have hid : Announced ["document", "d", "1AbC-xyz", "copy", "d", "other"] "1AbC-xyz" :=
    ⟨["document"], ["copy", "d", "other"], rfl, by decide⟩
  exact ⟨hparse, by decide, hid,
    ((docId_follows_first_mark hparse none).1 _).mpr ⟨by decide, _, rfl, hid⟩⟩

/-- An address of another product. -/
def spreadsheet : String := "https://[::1]/spreadsheets/d/1AbC-xyz/edit"

/-- The mark alone announces an identity: no segment in front of it has to be `document`. -/
theorem docId_without_document_segment :
    Url.parse spreadsheet = .ok ⟨.web "https", some ["spreadsheets", "d", "1AbC-xyz", "edit"]⟩ ∧
      (ofPage (some spreadsheet) none).docId = .ok (some "1AbC-xyz") ∧
      ¬ ∃ before between after, ["spreadsheets", "d", "1AbC-xyz", "edit"] =
        before ++ "document" :: (between ++ identityMark :: "1AbC-xyz" :: after) := by
  refine ⟨by rfl, by rfl, ?_⟩
  rintro ⟨before, between, after, hsplit⟩
  have hdocument : "document" ∉ ["spreadsheets", "d", "1AbC-xyz", "edit"] := by decide
  exact hdocument (hsplit ▸ List.mem_append_right _ List.mem_cons_self)

end EditWatch.Identity
