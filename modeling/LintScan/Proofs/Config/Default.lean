import LintScan.Proofs.Config.Setting

/-!
# When a default is used

A question for a setting comes with a default for the case that neither the level nor a level above
has the setting. The climb tells "no setting" from "some text" by whether the texts found above are
empty taken together, so an empty text on a level above counts as none.

* `MeetsValue` — a value that the climb comes across, on the level itself or above.
* `exists_leads_iff` — the texts of the ways up are those of the values that the climb meets.
* `settingFrom_eq_none_iff` — a climb has no answer exactly where the level gives no text and all
  ways up give empty ones.
* `pluginSetting_default_iff` — so the default is used exactly where every value met is empty, and
  lies above the level, or cannot be written. `pluginSetting_emptyAbove` is a default that takes the
  place of an inherited value.
-/

namespace LintScan

namespace Config

open Relation

variable {c : Config} {kind : PluginKind} {plugin key : String}

/-- The climb from a level comes to a level `name`, and that level has the value `v`, which is not
null, for the setting. -/
def MeetsValue (c : Config) (kind : PluginKind) (plugin key level name : String) (v : Yaml.Value) :
    Prop :=
  ReflTransGen (c.HandsOn kind plugin key) level name ∧
    ∃ l, c.levels.get? name = some l ∧ l.setting? kind plugin key = some v ∧ v ≠ .null

theorem ownSetting_eq_some_iff {l : Level} {text : String} :
    ownSetting l kind plugin key = some text ↔
      ∃ v, l.setting? kind plugin key = some v ∧ v ≠ .null ∧ settingText v = some text := by
  unfold ownSetting
  rw [Option.bind_eq_some_iff]
  refine exists_congr fun v => and_congr_right fun _ => ⟨fun h => ⟨?_, h⟩, And.right⟩
  rintro rfl
  cases h

/-- The ways up from a level lead to the texts of the values that the climb meets. -/
theorem exists_leads_iff {level text : String} :
    (∃ way, c.Leads kind plugin key level way text) ↔
      ∃ name v, c.MeetsValue kind plugin key level name v ∧ settingText v = some text := by
  constructor
  · rintro ⟨way, h⟩
    induction h with
    | @here level text l hl hown =>
      obtain ⟨v, hv, hnull, htext⟩ := ownSetting_eq_some_iff.1 hown
      exact ⟨level, v, ⟨.refl, l, hl, hv, hnull⟩, htext⟩
    | @up level parent text l i way hl hown hi _ ih =>
      obtain ⟨name, v, ⟨hmet, hvalue⟩, htext⟩ := ih
      have hup : c.HandsOn kind plugin key level parent :=
        (handsOn_iff hl hown).2 (List.mem_of_getElem? hi)
      exact ⟨name, v, ⟨.head hup hmet, hvalue⟩, htext⟩
  · rintro ⟨name, v, ⟨hmet, l, hl, hv, hnull⟩, htext⟩
    induction hmet using ReflTransGen.head_induction_on with
    | refl => exact ⟨[], .here hl (ownSetting_eq_some_iff.2 ⟨v, hv, hnull, htext⟩)⟩
    | @head level parent hup _ ih =>
      obtain ⟨way, hway⟩ := ih
      have ⟨l', hl', hown', _, _⟩ := hup
      obtain ⟨i, hi⟩ := List.getElem?_of_mem ((handsOn_iff hl' hown').1 hup)
      exact ⟨i :: way, .up hl' hown' hi hway⟩

theorem join_eq_empty_iff {texts : List String} :
    String.join texts = "" ↔ ∀ text ∈ texts, text = "" := by
  induction texts with
  | nil => simp
  | cons text texts ih => simp [String.join_cons, ih]

/-- The answers of the parents make no answer if and only if they hold no text. -/
theorem joinFound_eq_none_iff {found : List (Option String)} :
    joinFound found = none ↔ (joinFound found).getD "" = "" := by
  rw [getD_joinFound]
  unfold joinFound
  simp [String.isEmpty_iff]

/-- A climb has no answer exactly where the level itself gives no text and all ways up give empty
ones. -/
theorem settingFrom_eq_none_iff {level : String} {found : Option String}
    (h : c.settingFrom kind plugin key [] level = .ok found) :
    found = none ↔ (∀ l, c.levels.get? level = some l → ownSetting l kind plugin key = none) ∧
      ∀ way text, c.Leads kind plugin key level way text → text = "" := by
  obtain ⟨ways, hways, htext⟩ := settingFrom_ways h
  have hempty : found.getD "" = "" ↔
      ∀ way text, c.Leads kind plugin key level way text → text = "" := by
    rw [htext, join_eq_empty_iff]
    constructor
    · intro hall way text hleads
      exact hall text (List.mem_map.2 ⟨(way, text), (hways.mem_iff way text).2 hleads, rfl⟩)
    · intro hall text hmem
      obtain ⟨⟨way, text'⟩, hway, rfl⟩ := List.mem_map.1 hmem
      exact hall way text' ((hways.mem_iff way text').1 hway)
  rw [← hempty]
  cases hl : c.levels.get? level with
  | none =>
    rw [settingFrom_unknown [] hl] at h
    cases h
    simp
  | some l =>
    cases hown : ownSetting l kind plugin key with
    | some text =>
      rw [settingFrom_own [] hl hown] at h
      cases h
      simp [hown]
    | none =>
      rw [settingFrom_climb hl hown, if_neg List.not_mem_nil, bind_eq_ok_iff] at h
      obtain ⟨answers, _, h⟩ := h
      cases h
      simpa [hown] using joinFound_eq_none_iff

/-- A climb has no answer exactly where each value that it meets cannot be written, or is empty and
lies above the level. -/
theorem settingFrom_eq_none_iff_meets {level : String} {found : Option String}
    (h : c.settingFrom kind plugin key [] level = .ok found) :
    found = none ↔ ∀ name v, c.MeetsValue kind plugin key level name v →
      settingText v = none ∨ (name ≠ level ∧ settingText v = some "") := by
  rw [settingFrom_eq_none_iff h]
  constructor
  · rintro ⟨hown, hways⟩ name v hmet
    cases htext : settingText v with
    | none => exact .inl rfl
    | some text =>
      obtain ⟨way, hleads⟩ := exists_leads_iff.2 ⟨name, v, hmet, htext⟩
      obtain rfl := hways way text hleads
      refine .inr ⟨?_, rfl⟩
      rintro rfl
      obtain ⟨_, l, hl, hv, hnull⟩ := hmet
      have hsome := ownSetting_eq_some_iff.2 ⟨v, hv, hnull, htext⟩
      rw [hown l hl] at hsome
      cases hsome
  · intro hall
    constructor
    · intro l hl
      rw [Option.eq_none_iff_forall_ne_some]
      intro text hown
      obtain ⟨v, hv, hnull, htext⟩ := ownSetting_eq_some_iff.1 hown
      rcases hall level v ⟨.refl, l, hl, hv, hnull⟩ with hnone | ⟨hne, _⟩
      · rw [htext] at hnone
        cases hnone
      · exact hne rfl
    · intro way text hleads
      obtain ⟨name, v, hmet, htext⟩ := exists_leads_iff.1 ⟨way, hleads⟩
      rcases hall name v hmet with hnone | ⟨_, hempty⟩
      · rw [htext] at hnone
        cases hnone
      · rw [htext] at hempty
        exact Option.some.inj hempty

theorem pluginSetting_eq {level : String} {found : Option String}
    (h : c.settingFrom kind plugin key [] level = .ok found) (default : Option String) :
    c.pluginSetting kind plugin level key default = .ok (found.or default) := by
  unfold pluginSetting
  rw [h]
  rfl

/-- **When the default is the answer.** Where a question has an answer at all, a default is given
back, whatever it is, exactly if each value that the climb meets cannot be written, or is empty and
lies above the level. A value that does not, wherever it is met, keeps every default out. -/
theorem pluginSetting_default_iff {level : String} {default answer : Option String}
    (h : c.pluginSetting kind plugin level key default = .ok answer) :
    ((∀ d, c.pluginSetting kind plugin level key d = .ok d) ↔
      ∀ name v, c.MeetsValue kind plugin key level name v →
        settingText v = none ∨ (name ≠ level ∧ settingText v = some "")) ∧
    ((∃ name v, c.MeetsValue kind plugin key level name v ∧ settingText v ≠ none ∧
        (name = level ∨ settingText v ≠ some "")) →
      ∃ text, ∀ d, c.pluginSetting kind plugin level key d = .ok (some text)) := by
  obtain ⟨found, hfound, _⟩ := bind_eq_ok_iff.1 h
  have hnone := settingFrom_eq_none_iff_meets hfound
  constructor
  · rw [← hnone]
    constructor
    · intro hall
      have hd := hall none
      rw [pluginSetting_eq hfound, Option.or_none] at hd
      exact Except.ok.inj hd
    · rintro rfl d
      rw [pluginSetting_eq hfound, Option.none_or]
  · rintro ⟨name, v, hmet, htext, hsolid⟩
    cases found with
    | some text => exact ⟨text, fun d => by rw [pluginSetting_eq hfound, Option.some_or]⟩
    | none =>
      rcases hnone.1 rfl name v hmet with hunwritten | ⟨hne, hempty⟩
      · exact absurd hunwritten htext
      · exact (hsolid.elim hne (· hempty)).elim

/-- A level without flags of its own, and a level above it that sets them to nothing. -/
def emptyAbove : Config :=
  let settings (v : Yaml.Value) : Option PluginTable :=
    some (.ofList [("t", some (.ofList [("flags", v)]))])
  { levels := .ofList
      [("a", { inheritsFrom := ["b"] }), ("b", { tool := settings (.string "") })] }

theorem meetsValue_emptyAbove : emptyAbove.MeetsValue .tool "t" "flags" "a" "b" (.string "") := by
  refine ⟨.single ⟨_, rfl, rfl, ?_, by decide⟩, _, rfl, rfl, nofun⟩
  exact List.mem_singleton_self "b"

/-- The empty text above is the only value met, and the default is used. -/
theorem pluginSetting_defaulted :
    emptyAbove.pluginSetting .tool "t" "a" "flags" (some "x") = .ok (some "x") ∧
    ((∀ d, emptyAbove.pluginSetting .tool "t" "a" "flags" d = .ok d) ↔
      ∀ name v, emptyAbove.MeetsValue .tool "t" "flags" "a" name v →
        settingText v = none ∨ (name ≠ "a" ∧ settingText v = some "")) := by
  have h : emptyAbove.pluginSetting .tool "t" "a" "flags" (some "x") = .ok (some "x") := by
    decide +kernel
  exact ⟨h, (pluginSetting_default_iff h).1⟩

/-- A level above that is met has a value, and the default is used for all that; asked itself, the
level above gives the value. -/
theorem pluginSetting_emptyAbove :
    emptyAbove.MeetsValue .tool "t" "flags" "a" "b" (.string "") ∧
    emptyAbove.pluginSetting .tool "t" "a" "flags" (some "x") = .ok (some "x") ∧
    emptyAbove.pluginSetting .tool "t" "b" "flags" (some "x") = .ok (some "") :=
  ⟨meetsValue_emptyAbove, by decide +kernel, by decide +kernel⟩

end Config

end LintScan
