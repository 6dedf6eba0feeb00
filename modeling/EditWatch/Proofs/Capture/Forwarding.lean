import EditWatch.Capture.Interaction
import EditWatch.Proofs.Capture.Rebinding
import EditWatch.Proofs.Document.Extraction
import Mathlib.Data.List.Dedup

/-!
# EditWatch.Proofs.Capture.Forwarding -- what is forwarded of an interaction

Of an event that the table lists one interaction is sent, with just the properties that its spec names
and the payload has. The paths of a table are read from text, so what a path leads to is what its text
names in the payload; this is never a `null`, and a path that is listed again changes nothing. Only a
move of the focus touches the listeners, and then as one rebinding does.
-/

namespace EditWatch.Capture

open EditWatch.Document

/-! ## Properties of a payload -/

/-- What a spec keeps is told by paths that their texts spell. -/
theorem Spec.parse_of_mem_properties {s : Spec} {path : Path} (h : path ∈ s.properties) :
    Path.parse path.raw = .ok path := by
  obtain ⟨p, -, rfl⟩ := List.mem_map.mp h
  exact p.parsed

variable {payload : Json} {paths : List Path}

theorem resolveAll_concat (payload : Json) (paths : List Path) (path : Path) :
    resolveAll payload (paths ++ [path]) = (path.resolve payload).elim (resolveAll payload paths)
      ((resolveAll payload paths).insert path.raw) := by
  rw [resolveAll, List.foldl_append, List.foldl_cons, List.foldl_nil, ← resolveAll]
  cases path.resolve payload with
  | none => rfl
  | some v => rfl

/-- What the paths lead to, by their texts: later paths of a text lead to the same. -/
theorem getElem?_resolveAll (h : ∀ path ∈ paths, Path.parse path.raw = .ok path) (name : String) :
    (resolveAll payload paths)[name]? =
      if name ∈ paths.map Path.raw then Path.extract payload name else none := by
  induction paths using List.reverseRecOn with
  | nil => exact Std.ExtTreeMap.getElem?_empty
  | append_singleton paths path ih =>
      have hlast := h path (List.mem_append_right _ (List.mem_singleton.mpr rfl))
      have ih := ih fun path hpath => h path (List.mem_append_left _ hpath)
      have hresolve : path.resolve payload = Path.extract payload path.raw :=
        (Path.extract_of_parse hlast payload).symm
      rw [resolveAll_concat, List.map_append, List.map_singleton]
      simp only [List.mem_append, List.mem_singleton]
      by_cases hname : name = path.raw
      · -- The last path decides, and whatever was there under its text is the same.
        subst hname
        rw [if_pos (.inr rfl), ← hresolve]
        cases hvalue : path.resolve payload with
        | none => rw [Option.elim_none, ih, ← hresolve, hvalue, ite_self]
        | some v => exact Std.ExtTreeMap.getElem?_insert_self
      · cases path.resolve payload with
        | none => simp only [Option.elim_none, ih, hname, or_false]
        | some v =>
            have hne : ¬ path.raw = name := fun heq => hname heq.symm
            rw [Option.elim_some, Std.ExtTreeMap.getElem?_insert]
            simp only [Std.LawfulEqCmp.compare_eq_iff_eq, if_neg hne, ih, hname, or_false]

theorem getElem?_resolveAll_eq_some_iff (h : ∀ path ∈ paths, Path.parse path.raw = .ok path)
    {name : String} {v : Json} :
    (resolveAll payload paths)[name]? = some v ↔
      name ∈ paths.map Path.raw ∧ Path.extract payload name = some v := by
  rw [getElem?_resolveAll h, Option.ite_none_right_eq_some]

/-- As many properties as there are different paths that lead somewhere. -/
theorem size_resolveAll (h : ∀ path ∈ paths, Path.parse path.raw = .ok path) :
    (resolveAll payload paths).size =
      (paths.map Path.raw).dedup.countP fun name => (Path.extract payload name).isSome := by
  have hnodup : (resolveAll payload paths).keys.Nodup := by
    simpa [List.Nodup] using Std.ExtTreeMap.distinct_keys (t := resolveAll payload paths)
  have hkeys : (resolveAll payload paths).keys.Perm
      ((paths.map Path.raw).dedup.filter fun name => (Path.extract payload name).isSome) := by
    rw [List.perm_ext_iff_of_nodup hnodup ((List.nodup_dedup _).filter _)]
    intro name
    rw [Std.ExtTreeMap.mem_keys, Std.ExtTreeMap.mem_iff_isSome_getElem?, getElem?_resolveAll h,
      List.mem_filter, List.mem_dedup]
    split
    · rename_i hname
      exact ⟨fun hsome => ⟨hname, hsome⟩, fun hboth => hboth.2⟩
    · rename_i hname
      exact ⟨fun hsome => (nomatch hsome), fun hboth => absurd hboth.1 hname⟩
  rw [← Std.ExtTreeMap.length_keys, hkeys.length_eq, List.countP_eq_length_filter]

/-! ## Handling an event -/

namespace Capturer

variable {c : Capturer} {d : Document} {l : Listeners} {name : String} {s : Spec}

theorem handle_of_unlisted (h : c.table.lookup name = none) :
    c.handle d l name payload = (l, none) := by
  rw [handle, h]

/-- What an event does to the listeners, and what is reported of it. -/
def rebound (c : Capturer) (d : Document) (l : Listeners) (s : Spec) :
    Listeners × Option RebindReport :=
  if s.category = Table.attentionCategory then
    ((c.rebinder.rebind d l).1, some (c.rebinder.rebind d l).2)
  else (l, none)

theorem handle_of_listed (h : c.table.lookup name = some s) :
    c.handle d l name payload =
      ((c.rebound d l s).1, some (c.event s name payload,
        ⟨s.category, (c.event s name payload).properties.size, (c.rebound d l s).2⟩)) := by
  rw [handle, h, rebound]
  by_cases hs : s.category = Table.attentionCategory
  · rw [if_pos hs]
    exact if_pos hs
  · rw [if_neg hs]
    exact if_neg hs

/-- An event that no spec lists leaves no trace. For an event that a spec lists one interaction is
sent, under the category of the spec. It has a property just where a path of the spec names something
in the payload, which is its value, and never a `null`; the report counts the properties, however
often their paths are listed. The listeners change only for a move of the focus, and then as one
rebinding changes them. -/
theorem forwards_what_is_listed (c : Capturer) (d : Document) (l : Listeners) (name : String)
    (payload : Json) :
    ((∀ s ∈ c.table.specs, name ∉ s.events) → c.handle d l name payload = (l, none)) ∧
    ∀ s ∈ c.table.specs, name ∈ s.events →
      ∃ e report, (c.handle d l name payload).2 = some (e, report) ∧
        e.event = name ∧ e.category = s.category ∧ e.stamp = c.identity.stamp c.frame ∧
        (∀ (p : String) (v : Json), e.properties[p]? = some v ↔
          p ∈ s.properties.map Path.raw ∧ Path.extract payload p = some v) ∧
        (∀ p : String, e.properties[p]? ≠ some Json.null) ∧
        report.category = s.category ∧ report.properties = e.properties.size ∧
        e.properties.size = (s.properties.map Path.raw).dedup.countP
          (fun p => (Path.extract payload p).isSome) ∧
        ((c.handle d l name payload).1, report.rebound) =
          if s.category = Table.attentionCategory then
            ((c.rebinder.rebind d l).1, some (c.rebinder.rebind d l).2)
          else (l, none) := by
  refine ⟨fun hunlisted => handle_of_unlisted (Table.lookup_eq_none_iff.mpr hunlisted), ?_⟩
  intro s hs hname
  rw [handle_of_listed (Table.lookup_eq_some_iff.mpr ⟨hs, hname⟩)]
  have hproperties : ∀ p v, (c.event s name payload).properties[p]? = some v ↔
      p ∈ s.properties.map Path.raw ∧ Path.extract payload p = some v :=
    fun p v => getElem?_resolveAll_eq_some_iff fun _ => Spec.parse_of_mem_properties
  refine ⟨_, _, rfl, rfl, rfl, rfl, hproperties, fun p hnull => ?_, rfl, rfl,
    size_resolveAll fun _ => Spec.parse_of_mem_properties, rfl⟩
  exact Path.extract_ne_null payload p ((hproperties p _).mp hnull).2

/-- The focus with a property listed twice, and one that goes through an array. -/
def focusTable : Table :=
  .ofKnown
    [⟨Table.attentionCategory, ["focusin"], Table.named ["key", "path[0].id", "key", "text"], .window⟩]
    (by decide +kernel)

/-- The region of the keys, watched for moves of the focus. -/
def focusCapturer : Capturer where
  table := focusTable
  rebinder := Rebinder.ofTable "stream" Rebinder.keys .unset
  identity := ⟨.ok (some "doc"), .error ⟨"no title"⟩⟩
  frame := .unset

def focusPayload : Json :=
  .obj [("key", .str "Tab"), ("path", .arr [.obj [("id", .null)]]), ("other", .bool true)]

/-- Of four paths two are the same, one leads to a `null` and one to nothing; so there is one property,
and the region is bound anew. -/
theorem forwards_what_is_listed_focus : ∃ d, ofRoot Rebinder.streamPage = .ok d ∧
    focusCapturer.handle d Rebinder.cluttered "scroll" focusPayload = (Rebinder.cluttered, none) ∧
    ∃ e report,
      (focusCapturer.handle d Rebinder.cluttered "focusin" focusPayload).2 = some (e, report) ∧
      e.properties["key"]? = some (.str "Tab") ∧ e.properties["path[0].id"]? = none ∧
      report.properties = 1 ∧ report.rebound = some ⟨some 2, 2, 2⟩ := by
  obtain ⟨d, hd⟩ : ∃ d, ofRoot Rebinder.streamPage = .ok d := ⟨_, rfl⟩
  have hscroll := (forwards_what_is_listed focusCapturer d Rebinder.cluttered "scroll"
    focusPayload).1 (by decide +kernel)
  obtain ⟨e, report, hsent, -, -, -, hproperties, -, -, hcount, hsize, hrebound⟩ :=
    (forwards_what_is_listed focusCapturer d Rebinder.cluttered "focusin" focusPayload).2 _
      List.mem_cons_self (by decide +kernel)
  have hkey : Path.extract focusPayload "key" = some (.str "Tab") := by
    have hparse : (Path.parse "key").toOption = some ⟨"key", [.field "key"]⟩ := by decide +kernel
    rw [Path.extract_of_parse (Path.parse_of_toOption hparse)]
    simp [Path.follow, Path.step, Json.member?, focusPayload]
  have hid : ¬ (Path.extract focusPayload "path[0].id").isSome := by decide +kernel
  have hreport : (focusCapturer.rebinder.rebind d Rebinder.cluttered).2 = ⟨some 2, 2, 2⟩ := by
    obtain rfl := Except.ok.inj hd
    decide +kernel
  refine ⟨d, hd, hscroll, e, report, hsent, (hproperties _ _).mpr ⟨by decide +kernel, hkey⟩, ?_,
    hcount.trans (hsize.trans (by decide +kernel)), ?_⟩
  · rw [Option.eq_none_iff_forall_ne_some]
    intro v hv
    rw [((hproperties _ v).mp hv).2] at hid
    exact hid rfl
  · rw [if_pos rfl, hreport] at hrebound
    exact (Prod.mk.inj hrebound).2

end Capturer

end EditWatch.Capture
