import EditWatch.Config.Loading
import EditWatch.Proofs.Config.Spelling
import Mathlib.Data.List.Induction

/-!
# EditWatch.Proofs.Config.Layering -- which layer a text comes from

A setting that is a text is looked for in the environment, then in the file, and is the one that is
built in if neither gives it. Of the environment the last variable counts whose name is that of the
setting behind the mark, in letters of either case. A variable that leads into a list or a table makes
the setting one, and then there are no settings at all.
-/

namespace EditWatch.Config

open EditWatch.Session EditWatch.Text

theorem toLower_toLower (c : Char) : c.toLower.toLower = c.toLower := by
  delta Char.toLower
  grind

/-! ## Layers -/

namespace Layer

theorem get?_append (lower upper : Layer) (key : String) :
    Layer.get? (lower ++ upper) key = (upper.get? key).or (lower.get? key) := by
  rw [get?, List.reverse_append, List.find?_append, Option.map_or]
  rfl

theorem get?_singleton (e : String × Value) (key : String) :
    Layer.get? [e] key = if e.1 = key then some e.2 else none := by
  by_cases h : e.1 = key <;> simp [get?, h]

theorem ofEnvironment_append (before after : List (String × String)) :
    ofEnvironment (before ++ after) = ofEnvironment before ++ ofEnvironment after := by
  rw [ofEnvironment, List.filterMap_append, ofEntries, List.map_append]
  rfl

/-- The value of the last variable that names the setting, in letters of either case. -/
def lastSet? (environment : List (String × String)) (key : String) : Option String :=
  (environment.reverse.find? fun v => Value.lower v.1 == "docwatch_" ++ key).map Prod.snd

theorem lastSet?_append (before after : List (String × String)) (key : String) :
    lastSet? (before ++ after) key = (lastSet? after key).or (lastSet? before key) := by
  rw [lastSet?, List.reverse_append, List.find?_append, Option.map_or]
  rfl

theorem lastSet?_singleton (v : String × String) (key : String) :
    lastSet? [v] key = if Value.lower v.1 = "docwatch_" ++ key then some v.2 else none := by
  by_cases h : Value.lower v.1 = "docwatch_" ++ key <;> simp [lastSet?, h]

theorem toList_mark_append (key : String) : ("docwatch_" ++ key).toList = mark ++ key.toList :=
  String.toList_append

theorem settingOf?_eq_some_iff {name key : String} :
    settingOf? name = some key ↔ Value.lower name = "docwatch_" ++ key := by
  have hname : Value.lower name = "docwatch_" ++ key ↔
      (Value.lower name).toList = mark ++ key.toList := by
    rw [← toList_mark_append, String.toList_inj]
  rw [settingOf?, Option.ite_none_right_eq_some, Option.some_inj, List.isPrefixOf_iff_prefix, hname]
  constructor
  · rintro ⟨⟨rest, hrest⟩, rfl⟩
    rw [← hrest, List.drop_left, String.toList_ofList]
  · intro h
    rw [h, List.drop_left, String.ofList_toList]
    exact ⟨List.prefix_append mark key.toList, rfl⟩

/-- The key is a single part, in small letters. -/
structure IsSetting (key : String) : Prop where
  lower_eq : Value.lower key = key
  part : key.toList.all isKeyChar

theorem entryOf_of_isSetting {key : String} (h : IsSetting key) (v : Value) :
    entryOf key v = (key, v) := by
  have hall : key.toList.takeWhile isKeyChar = key.toList :=
    List.takeWhile_eq_self_iff.mpr (List.all_eq_true.mp h.part)
  rw [entryOf, h.lower_eq]
  simp only [hall, List.drop_length, List.isEmpty_nil, Bool.not_true, Bool.and_false,
    Bool.false_and, Bool.false_eq_true, if_false]

/-- Any other key is kept in small letters, or it leads into a list or a table. -/
theorem entryOf_eq_or (key : String) (v : Value) :
    entryOf key v = (Value.lower key, v) ∨ (entryOf key v).2 = .compound := by
  rw [entryOf]
  split
  · exact Or.inr rfl
  · exact Or.inl rfl

/-- The key that a variable names is in small letters, as is the name that it is told from. -/
theorem lower_of_settingOf? {name key : String} (h : settingOf? name = some key) :
    Value.lower key = key := by
  have hname := congrArg String.toList (settingOf?_eq_some_iff.mp h)
  rw [toList_mark_append, Value.lower, String.toList_ofList] at hname
  rw [Value.lower, ← String.toList_inj, String.toList_ofList]
  refine (List.map_congr_left fun c hc => ?_).trans (List.map_id _)
  have hmem : c ∈ List.map Char.toLower name.toList := hname ▸ List.mem_append_right _ hc
  obtain ⟨a, -, rfl⟩ := List.mem_map.mp hmem
  exact toLower_toLower a

/-- One variable sets the value of its own key, or makes some key a list or a table. -/
theorem get?_ofEnvironment_singleton {key : String} (h : IsSetting key) (v : String × String) :
    (ofEnvironment [v]).get? key = some .compound ∨
      (ofEnvironment [v]).get? key = (lastSet? [v] key).map Value.guess := by
  rw [lastSet?_singleton]
  cases hset : settingOf? v.1 with
  | none =>
      have hname : Value.lower v.1 ≠ "docwatch_" ++ key := fun heq =>
        nomatch hset.symm.trans (settingOf?_eq_some_iff.mpr heq)
      have hlayer : ofEnvironment [v] = [] := by simp [ofEnvironment, ofEntries, hset]
      rw [if_neg hname, hlayer]
      exact Or.inr rfl
  | some k =>
      have hlayer : ofEnvironment [v] = [entryOf k (Value.guess v.2)] := by
        simp [ofEnvironment, ofEntries, hset]
      have hname : Value.lower v.1 = "docwatch_" ++ key ↔ k = key := by
        rw [← settingOf?_eq_some_iff, hset, Option.some_inj]
      rw [hlayer, get?_singleton]
      by_cases hk : k = key
      · rw [if_pos (hname.mpr hk), hk, entryOf_of_isSetting h, if_pos rfl]
        exact Or.inr rfl
      · rw [if_neg (mt hname.mp hk)]
        rcases entryOf_eq_or k (Value.guess v.2) with hentry | hentry
        · rw [hentry, lower_of_settingOf? hset, if_neg hk]
          exact Or.inr rfl
        · rw [hentry]
          split
          · exact Or.inl rfl
          · exact Or.inr rfl

/-- Unless it is a list or a table, what the environment gives for a setting is the guess at its last
variable. -/
theorem get?_ofEnvironment {key : String} (h : IsSetting key)
    (environment : List (String × String)) :
    (ofEnvironment environment).get? key = some .compound ∨
      (ofEnvironment environment).get? key = (lastSet? environment key).map Value.guess := by
  induction environment using List.reverseRecOn with
  | nil => exact Or.inr rfl
  | append_singleton before v ih =>
      rw [ofEnvironment_append, get?_append, lastSet?_append]
      rcases get?_ofEnvironment_singleton h v with hlast | hlast
      · rw [hlast]
        exact Or.inl rfl
      · rw [hlast]
        cases lastSet? [v] key with
        | none => exact ih
        | some value => exact Or.inr rfl

/-! ## Settings that are texts -/

/-- The text of a setting: the last of the environment spelled out, or else that of the file. -/
def textOf? (file : Layer) (environment : List (String × String)) (key : String) : Option String :=
  ((lastSet? environment key).map Value.plain).or ((file.get? key).bind Value.text?)

/-- Neither a text of the environment that reads as nothing else nor a text of the file is changed. -/
theorem textOf?_verbatim {file : Layer} {environment : List (String × String)} {key text : String}
    (h : lastSet? environment key = some text ∧ ¬ Value.Typed text ∨
      lastSet? environment key = none ∧ file.get? key = some (.text text)) :
    file.textOf? environment key = some text := by
  rw [textOf?]
  rcases h with ⟨hset, htyped⟩ | ⟨hset, hget⟩
  · rw [hset, Option.map_some, Value.plain_of_not_typed htyped]
    rfl
  · rw [hset, hget]
    rfl

/-- One character that stands in no truth value and in no number keeps a text of the environment. -/
theorem textOf?_of_mem {file : Layer} {environment : List (String × String)} {key text : String}
    (hset : lastSet? environment key = some text) {c : Char} (hc : c ∈ text.toList)
    (h : ¬ Value.isTypedChar c) : file.textOf? environment key = some text := by
  rw [textOf?, hset, Option.map_some, Value.plain_of_mem hc h]
  rfl

theorem get?_toppedBy_ofEnvironment {key : String} (h : IsSetting key)
    (environment : List (String × String)) (file : Layer) :
    (file.toppedBy (ofEnvironment environment)).get? key = some .compound ∨
      ((file.toppedBy (ofEnvironment environment)).get? key).bind Value.text? =
        file.textOf? environment key := by
  rw [toppedBy, get?_append, textOf?]
  rcases get?_ofEnvironment h environment with hget | hget
  · rw [hget]
    exact Or.inl rfl
  · rw [hget]
    cases lastSet? environment key with
    | none => exact Or.inr rfl
    | some text => exact Or.inr (Value.text?_guess text)

/-- A text that has a default is not read from a list or a table. -/
theorem withDefault?_text {l : Layer} {key default text : String}
    (h : l.withDefault? key Value.text? default = some text) :
    l.get? key ≠ some .compound ∧ text = ((l.get? key).bind Value.text?).getD default := by
  rw [withDefault?] at h
  cases hget : l.get? key with
  | none =>
      rw [hget] at h
      exact ⟨nofun, (Option.some.inj h).symm⟩
  | some v =>
      rw [hget] at h
      have htext : v.text? = some text := h
      refine ⟨?_, by rw [Option.bind_some, htext, Option.getD_some]⟩
      rintro ⟨⟩
      exact nomatch htext

/-- Nor is one that may be absent. -/
theorem optional?_text {l : Layer} {key : String} {text : Option String}
    (h : l.optional? key Value.text? = some text) :
    l.get? key ≠ some .compound ∧ text = (l.get? key).bind Value.text? := by
  rw [optional?] at h
  cases hget : l.get? key with
  | none =>
      rw [hget] at h
      exact ⟨nofun, (Option.some.inj h).symm⟩
  | some v =>
      rw [hget] at h
      cases v with
      | nothing => exact ⟨nofun, (Option.some.inj h).symm⟩
      | compound => exact nomatch h
      | _ =>
          obtain ⟨t, ht, rfl⟩ := Option.map_eq_some_iff.mp h
          exact ⟨nofun, ht.symm⟩

theorem settings?_texts {l : Layer} {s : Settings} (h : l.settings? = some s) :
    l.withDefault? "dynamic_region" Value.text? Capture.defaultRegion = some s.dynamicRegion ∧
      l.optional? "rules_path" Value.text? = some s.rulesPath := by
  simp only [settings?, Option.bind_eq_bind, Option.bind_eq_some_iff] at h
  obtain ⟨frameIndex, -, rulesPath, hpath, region, hregion, capacity, -, hs⟩ := h
  obtain rfl := Option.some.inj hs
  exact ⟨hregion, hpath⟩

end Layer

/-! ## Main result -/

theorem isSetting_dynamicRegion : Layer.IsSetting "dynamic_region" := ⟨by decide, by decide⟩

theorem isSetting_rulesPath : Layer.IsSetting "rules_path" := ⟨by decide, by decide⟩

theorem settingsOf_texts {file : Layer} {environment : List (String × String)} {s : Settings}
    (h : settingsOf file (Layer.ofEnvironment environment) = .ok s) :
    s.dynamicRegion = (file.textOf? environment "dynamic_region").getD Capture.defaultRegion ∧
      s.rulesPath = file.textOf? environment "rules_path" := by
  rw [settingsOf] at h
  split at h
  · rename_i s' hs
    obtain rfl := Except.ok.inj h
    obtain ⟨hregion, hpath⟩ := Layer.settings?_texts hs
    obtain ⟨hsimple, hregion⟩ := Layer.withDefault?_text hregion
    obtain ⟨hsimple', hpath⟩ := Layer.optional?_text hpath
    have hdynamic :=
      (Layer.get?_toppedBy_ofEnvironment isSetting_dynamicRegion environment file).resolve_left
        hsimple
    have hrules :=
      (Layer.get?_toppedBy_ofEnvironment isSetting_rulesPath environment file).resolve_left hsimple'
    exact ⟨hdynamic ▸ hregion, hrules ▸ hpath⟩
  · exact nomatch h

/-- Without a layer of the file there are no settings. -/
theorem run_loadSettings (r : Reader Id) (asked usual : Option String)
    (environment : List (String × String)) :
    (loadSettings r asked usual environment).run = (loadLayer r asked usual).run.bind fun file =>
      settingsOf file (Layer.ofEnvironment environment) := by
  rw [loadSettings]
  rcases loadLayer r asked usual with f | file <;> rfl

/-- Settings that are accepted take their texts from the environment, else from the file, else they
are as built in. A text of the environment is kept as it is unless it reads as a truth value or a
number, which is spelled out plainly; one character that none of those is spelled with is enough to
keep it, as the slash of a path. A text of the file is kept too. -/
theorem texts_follow_layers {r : Reader Id} {asked usual : Option String}
    {environment : List (String × String)} {s : Settings}
    (h : (loadSettings r asked usual environment).run = .ok s) :
    ∃ file, (loadLayer r asked usual).run = .ok file ∧
      s.dynamicRegion =
        (file.textOf? environment "dynamic_region").getD Capture.defaultRegion ∧
      s.rulesPath = file.textOf? environment "rules_path" ∧
      (∀ key text, (Layer.lastSet? environment key = some text ∧ ¬ Value.Typed text ∨
          Layer.lastSet? environment key = none ∧ file.get? key = some (.text text)) →
        file.textOf? environment key = some text) ∧
      ∀ key text, Layer.lastSet? environment key = some text →
        (∃ c ∈ text.toList, ¬ Value.isTypedChar c) →
        file.textOf? environment key = some text := by
  rw [run_loadSettings] at h
  cases hfile : (loadLayer r asked usual).run with
  | error f =>
      rw [hfile] at h
      cases h
  | ok file =>
      rw [hfile] at h
      obtain ⟨hregion, hpath⟩ := settingsOf_texts h
      refine ⟨file, rfl, hregion, hpath, fun _ _ => Layer.textOf?_verbatim, ?_⟩
      rintro key text hset ⟨c, hc, hchar⟩
      exact Layer.textOf?_of_mem hset hc hchar

/-- A machine with one file. -/
def oneFile (name text : String) : Reader Id where
  read asked := if asked = name then some (encode text) else none

/-- The file gives both texts, and the environment one of them. -/
def watchFile : Reader Id :=
  oneFile "watch.json" "\x7b\"dynamic_region\":\"kix-sidebar\",\"rules_path\":\"rules.yaml\"\x7d"

/-- The variable that counts for the path of the rules. -/
def rulesSet : List (String × String) := [("DOCWATCH_RULES_PATH", "/etc/rules.json")]

theorem texts_follow_layers_sidebar :
    (loadSettings watchFile (some "watch.json") none rulesSet).run =
      .ok ⟨none, some "/etc/rules.json", "kix-sidebar", 1024⟩ ∧
    ∃ file, (loadLayer watchFile (some "watch.json") none).run = .ok file ∧
      "kix-sidebar" = (file.textOf? rulesSet "dynamic_region").getD Capture.defaultRegion ∧
      some "/etc/rules.json" = file.textOf? rulesSet "rules_path" := by
  have hload : (loadSettings watchFile (some "watch.json") none rulesSet).run =
      .ok ⟨none, some "/etc/rules.json", "kix-sidebar", 1024⟩ := by decide +kernel
  obtain ⟨file, hfile, hregion, hpath, -⟩ := texts_follow_layers hload
  exact ⟨hload, file, hfile, hregion, hpath⟩

/-- Digits in the environment lose their leading zeros, the variable may be named in small letters, and
a file may give a number for a text. -/
theorem region_not_verbatim :
    (loadSettings (oneFile "" "") none none [("DOCWATCH_DYNAMIC_REGION", "007")]).run =
      .ok ⟨none, none, "7", 1024⟩ ∧
    (loadSettings (oneFile "" "") none none [("docwatch_dynamic_region", "kix-sidebar")]).run =
      .ok ⟨none, none, "kix-sidebar", 1024⟩ ∧
    (loadSettings (oneFile "watch.json" "\x7b\"dynamic_region\":5\x7d") (some "watch.json") none
      []).run = .ok ⟨none, none, "5", 1024⟩ ∧
    "7" ≠ "007" ∧ "kix-sidebar" ≠ Capture.defaultRegion ∧ "5" ≠ Capture.defaultRegion :=
  ⟨by decide +kernel, by decide +kernel, by decide +kernel, by decide, by decide, by decide⟩

end EditWatch.Config
