import LintScan.Proofs.Config.Merge
import LintScan.Proofs.Config.Setting
import Mathlib.Data.Fintype.EquivFin

/-!
# Whether a level that resolves has its settings

Two climbs go up from a level: one for the plugins that it enables, and one for each setting of a
plugin.  The first one ends at the default level.  The second one knows no default level and goes
on through it, so it may come into a cycle that the first one never sees.

* `exists_toolSetting_iff` — a tool setting has an answer exactly where no cycle of the levels that
  hand it on lies above.
* `noCycleFrom_handsOn_iff` — above a level that resolves, such a cycle lies above the default
  level.
* `toolSetting_answers_iff` — so a level that resolves has its tool settings exactly where the climb
  does not come to the default level, or no cycle lies above that.
* `toolSetting_loopedDefault` — a level that resolves and has no answer.
-/

namespace LintScan

namespace Config

open Relation

variable {c : Config} {plugin key level : String}

/-! ## One setting -/

theorem exists_toolSetting_iff {default : Option String} :
    (∃ answer, c.toolSetting plugin level key default = .ok answer) ↔
      NoCycleFrom (c.HandsOn .tool plugin key) level := by
  constructor
  · rintro ⟨answer, h⟩
    obtain ⟨found, hfound, _⟩ := bind_eq_ok_iff.1 h
    obtain ⟨own, hown, _⟩ := bind_eq_ok_iff.1 hfound
    exact noCycleFrom_of_acc (settingFrom_acc hown)
  · intro acyclic
    obtain ⟨found, hfound⟩ := exists_settingFrom acyclic fun _ hn => absurd hn List.not_mem_nil
    refine ⟨(found.or default).map flatten, bind_eq_ok_iff.2 ⟨found.or default, ?_, rfl⟩⟩
    exact bind_eq_ok_iff.2 ⟨found, hfound, rfl⟩

/-- A setting is handed on along the way that plugins are inherited, but for the default level. -/
theorem reachesUp_of_avoiding {level parent : String}
    (h : Avoiding (c.HandsOn .tool plugin key) c.defaultLevel level parent) :
    c.ReachesUp level parent := by
  obtain ⟨hd, l, hl, _, hparent⟩ := h
  exact ⟨hd, l, hl, hparent⟩

/-- Above a level that resolves, a cycle of levels that hand a setting on lies above the default
level. -/
theorem noCycleFrom_handsOn_iff (acyclic : NoCycleFrom c.ReachesUp level) :
    NoCycleFrom (c.HandsOn .tool plugin key) level ↔
      (ReflTransGen (c.HandsOn .tool plugin key) level c.defaultLevel →
        NoCycleFrom (c.HandsOn .tool plugin key) c.defaultLevel) :=
  ⟨fun h => h.of_reach,
    noCycleFrom_of_avoiding (acyclic.mono fun _ _ => reachesUp_of_avoiding)⟩

/-! ## All settings -/

/-- One level names another one, and not itself, as a parent. -/
def NamesParent (c : Config) (level parent : String) : Prop :=
  c.Inherits level parent ∧ parent ≠ level

theorem namesParent_of_handsOn {level parent : String}
    (h : c.HandsOn .tool plugin key level parent) : c.NamesParent level parent := by
  obtain ⟨l, hl, _, hp, hne⟩ := h
  exact ⟨⟨l, hl, hp⟩, hne⟩

/-- There is a plugin of which no level has a setting. -/
theorem exists_plugin_unset (c : Config) :
    ∃ plugin, ∀ level l key, c.levels.get? level = some l →
      ownSetting l .tool plugin key = none := by
  obtain ⟨plugin, hplugin⟩ := Infinite.exists_notMem_finset
    (c.levels.entries.flatMap fun e => e.2.pluginNames .tool).toFinset
  refine ⟨plugin, fun level l key hl => ?_⟩
  have hmem : (level, l) ∈ c.levels.entries :=
    (OrderedTable.lookup_eq_some_iff c.levels.nodup).1 hl
  have hnot : plugin ∉ l.pluginNames .tool := fun h =>
    hplugin (List.mem_toFinset.2 (List.mem_flatMap.2 ⟨_, hmem, h⟩))
  have hunset : l.setting? .tool plugin key = none := by
    unfold Level.setting?
    split
    · rename_i settings hfound
      obtain ⟨t, ht, hentry⟩ := Option.bind_eq_some_iff.1 hfound
      refine absurd ?_ hnot
      unfold Level.pluginNames
      rw [ht]
      exact OrderedTable.mem_keys_of_get? hentry
    · rfl
  rw [ownSetting, hunset, Option.bind_none]

/-- **Whether a level that resolves has its tool settings.** Where the tools of a level resolve, a
tool setting has an answer exactly if the climb for it does not come to the default level, or no
cycle of levels that hand it on lies above that. All of them have answers exactly if the level does
not inherit from the default level, or no cycle of parents lies above that. -/
theorem toolSetting_answers_iff (c : Config) (level : String)
    (resolves : ∃ plugins, c.enabledPlugins level .tool = .ok plugins) :
    (∀ plugin key default, (∃ answer, c.toolSetting plugin level key default = .ok answer) ↔
      (ReflTransGen (c.HandsOn .tool plugin key) level c.defaultLevel →
        NoCycleFrom (c.HandsOn .tool plugin key) c.defaultLevel)) ∧
    ((∀ plugin key default, ∃ answer, c.toolSetting plugin level key default = .ok answer) ↔
      (ReflTransGen c.NamesParent level c.defaultLevel →
        NoCycleFrom c.NamesParent c.defaultLevel)) := by
  have acyclic : NoCycleFrom c.ReachesUp level := (resolves_iff.1 resolves).2
  refine ⟨fun plugin key default =>
    exists_toolSetting_iff.trans (noCycleFrom_handsOn_iff acyclic), ?_, ?_⟩
  · intro hall
    obtain ⟨plugin, hunset⟩ := c.exists_plugin_unset
    -- A plugin without settings is asked for at every level, so nothing shields a cycle from it.
    have hevery : ∀ level parent, c.NamesParent level parent →
        c.HandsOn .tool plugin "flags" level parent := by
      rintro level parent ⟨⟨l, hl, hp⟩, hne⟩
      exact ⟨l, hl, hunset level l "flags" hl, hp, hne⟩
    have hclimb := exists_toolSetting_iff.1 (hall plugin "flags" none)
    exact (hclimb.mono hevery).of_reach
  · intro h plugin key default
    refine exists_toolSetting_iff.2 ((noCycleFrom_handsOn_iff acyclic).2 fun hreach => ?_)
    have hup : ReflTransGen c.NamesParent level c.defaultLevel :=
      ReflTransGen.mono (fun _ _ => namesParent_of_handsOn) _ _ hreach
    exact (h hup).mono fun _ _ => namesParent_of_handsOn

/-- A level below the default level, which has no parents. -/
def plainDefault : Config where
  levels := .ofList [("a", { inheritsFrom := ["default"] }), ("default", {})]

/-- The level resolves, and so do its settings. -/
theorem toolSetting_plainDefault :
    (∃ plugins, plainDefault.enabledPlugins "a" .tool = .ok plugins) ∧
    ReflTransGen plainDefault.NamesParent "a" plainDefault.defaultLevel ∧
    ∀ plugin key default, ∃ answer,
      plainDefault.toolSetting plugin "a" key default = .ok answer := by
  have hresolves : ∃ plugins, plainDefault.enabledPlugins "a" .tool = .ok plugins :=
    ⟨[], by decide +kernel⟩
  have hup : plainDefault.NamesParent "a" plainDefault.defaultLevel :=
    ⟨⟨_, rfl, List.mem_singleton_self _⟩, by decide⟩
  refine ⟨hresolves, .single hup, (toolSetting_answers_iff _ _ hresolves).2.2 fun _ => ?_⟩
  have hends : ∀ parent, ¬ plainDefault.NamesParent plainDefault.defaultLevel parent := by
    rintro parent ⟨⟨l, hl, hp⟩, _⟩
    cases hl
    cases hp
  exact noCycleFrom_of_acc (Acc.intro _ fun parent hp => absurd hp (hends parent))

/-- A level and the default level, each of which inherits from the other one. -/
def loopedDefault : Config where
  levels := .ofList [("a", { inheritsFrom := ["default"] }), ("default", { inheritsFrom := ["a"] })]

/-- The level resolves, as the default level ends the climb for its plugins, and its settings have
no answer, as the climb for them goes on. -/
theorem toolSetting_loopedDefault :
    loopedDefault.enabledPlugins "a" .tool = .ok [] ∧
    loopedDefault.toolSetting "t" "a" "flags" none =
      .error (.inheritanceCycle ["a", "default", "a"]) :=
  ⟨by decide +kernel, by decide +kernel⟩

end Config

end LintScan
