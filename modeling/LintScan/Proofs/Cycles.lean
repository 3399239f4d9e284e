import LintScan.Proofs.Config.Setting
import LintScan.Proofs.Config.Plugins
import LintScan.Proofs.Schedule.Order
import Mathlib.Data.List.Chain

/-!
# Reported cycles

Three walks report a cycle as the names that they are in, followed by the name that they have come
back to: the climb for the plugins of a level, the climb for a setting, and the visits that put
plugins in order. What they are in is a snapshot taken deep inside the walk, so this file carries
along what a walk knows of its way:

* `WayTo` — the names that a walk is in lead, step by step and without a repetition, from its start
  to the name that it looks at; `WayTo.step` — so they do after one more step.
* `ComesBack` — what a reported cycle has to be; `WayTo.comesBack` — a way that looks at a name
  that it has passed is one.
* `enabledFrom_cycle`, `settingFrom_cycle`, `visit_cycle` — each walk goes along such a way.
* `reported_cycles_comeBack` — so what a query reports is a cycle above the level that was asked
  for, or behind one of the listed plugins; and a level that is reported as unknown is unknown and
  lies above the one that was asked for.
-/

namespace LintScan

open Relation

/-! ## Ways -/

section Ways

variable {α : Type} {r : α → α → Prop} {start a b : α} {passed : List α}

/-- The way of a walk from `start` to `a`: the names that it has passed, each of them once, lead
along `r` from one to the next and then to `a`. -/
structure WayTo (r : α → α → Prop) (start : α) (passed : List α) (a : α) : Prop where
  head : (passed ++ [a]).head? = some start
  steps : (passed ++ [a]).IsChain r
  nodup : passed.Nodup

/-- A way along `r` from `start` that passes no name twice before its last step, and with that comes
back to a name that it has passed. -/
structure ComesBack (r : α → α → Prop) (start : α) (chain : List α) : Prop where
  head : chain.head? = some start
  steps : chain.IsChain r
  nodup : chain.dropLast.Nodup
  back : ∃ name ∈ chain.dropLast, chain.getLast? = some name

theorem WayTo.here (r : α → α → Prop) (a : α) : WayTo r a [] a :=
  ⟨rfl, List.isChain_singleton a, List.nodup_nil⟩

/-- A walk that enters a new name and looks at a name next to it is still on its way. -/
theorem WayTo.step (way : WayTo r start passed a) (fresh : a ∉ passed) (hab : r a b) :
    WayTo r start (passed ++ [a]) b := by
  refine ⟨?_, ?_, nodup_snoc way.nodup fresh⟩
  · rw [List.head?_append, way.head]
    rfl
  · rw [List.append_assoc, List.singleton_append, List.isChain_split]
    exact ⟨way.steps, List.isChain_pair.2 hab⟩

/-- A walk that looks at a name that it is in has come back to it. -/
theorem WayTo.comesBack (way : WayTo r start passed a) (seen : a ∈ passed) :
    ComesBack r start (passed ++ [a]) := by
  refine ⟨way.head, way.steps, ?_, a, ?_, List.getLast?_concat⟩
  · rw [List.dropLast_concat]
    exact way.nodup
  · rwa [List.dropLast_concat]

end Ways

/-! ## Climbs -/

namespace Config

variable {c : Config} {kind : PluginKind}

/-- Where the climb through some parents fails, it fails at one of them. -/
theorem enabledAbove_error {visiting names parents : List String} {e : ConfigError}
    (h : c.enabledAbove kind visiting names parents = .error e) :
    ∃ parent ∈ parents, c.enabledFrom kind visiting parent = .error e := by
  obtain ⟨names, parent, hp, h⟩ := foldlM_error h
  refine ⟨parent, hp, ?_⟩
  rcases bind_eq_error_iff.1 h with h | ⟨more, _, h⟩
  · exact h
  · cases h

/-- A cycle that the climb for plugins reports goes on from its way. -/
theorem enabledFrom_cycle {start : String} {visiting chain : List String} {level : String}
    (way : WayTo c.ReachesUp start visiting level)
    (h : c.enabledFrom kind visiting level = .error (.inheritanceCycle chain)) :
    ComesBack c.ReachesUp start chain := by
  induction visiting, level using enabledFrom.induct c with
  | case1 visiting =>
    rw [enabledFrom_default] at h
    cases h
  | case2 visiting level hd hl =>
    rw [enabledFrom_unknown visiting hd hl] at h
    cases h
  | case3 visiting level hd l hl hv =>
    rw [enabledFrom_level hd hl, if_pos hv] at h
    cases h
    exact way.comesBack hv
  | case4 visiting level hd l hl hv ih =>
    rw [enabledFrom_level hd hl, if_neg hv] at h
    obtain ⟨parent, hp, h⟩ := enabledAbove_error h
    exact ih parent (way.step hv ((reachesUp_iff hd hl).2 hp)) h

/-- A level that the climb for plugins reports as unknown lies above and is unknown. -/
theorem enabledFrom_unknownLevel {visiting : List String} {level name : String}
    (h : c.enabledFrom kind visiting level = .error (.unknownLevel name)) :
    ReflTransGen c.ReachesUp level name ∧ name ≠ c.defaultLevel ∧ c.levels.get? name = none := by
  induction visiting, level using enabledFrom.induct c with
  | case1 visiting =>
    rw [enabledFrom_default] at h
    cases h
  | case2 visiting level hd hl =>
    rw [enabledFrom_unknown visiting hd hl] at h
    cases h
    exact ⟨.refl, hd, hl⟩
  | case3 visiting level hd l hl hv =>
    rw [enabledFrom_level hd hl, if_pos hv] at h
    cases h
  | case4 visiting level hd l hl hv ih =>
    rw [enabledFrom_level hd hl, if_neg hv] at h
    obtain ⟨parent, hp, h⟩ := enabledAbove_error h
    obtain ⟨hreach, hunknown⟩ := ih parent h
    exact ⟨.head ((reachesUp_iff hd hl).2 hp) hreach, hunknown⟩

/-- A cycle that the climb for a setting reports goes on from its way. -/
theorem settingFrom_cycle {plugin key start : String} {visiting chain : List String}
    {level : String} (way : WayTo (c.HandsOn kind plugin key) start visiting level)
    (h : c.settingFrom kind plugin key visiting level = .error (.inheritanceCycle chain)) :
    ComesBack (c.HandsOn kind plugin key) start chain := by
  induction visiting, level using settingFrom.induct c kind plugin key with
  | case1 visiting level hl =>
    rw [settingFrom_unknown visiting hl] at h
    cases h
  | case2 visiting level l hl text hown =>
    rw [settingFrom_own visiting hl hown] at h
    cases h
  | case3 visiting level l hl hown hv =>
    rw [settingFrom_climb hl hown, if_pos hv] at h
    cases h
    exact way.comesBack hv
  | case4 visiting level l hl hown hv ih =>
    rw [settingFrom_climb hl hown, if_neg hv, bind_eq_error_iff] at h
    rcases h with h | ⟨found, _, h⟩
    · obtain ⟨parent, hp, h⟩ := mapM_error h
      exact ih parent (way.step hv ((handsOn_iff hl hown).2 hp)) h
    · cases h

end Config

/-! ## Visits -/

namespace Dependencies

variable {deps : Dependencies} {listed : List String} {pullIn : Bool}

/-- A cycle that a visit reports goes on from its way, whatever has been put in order before. -/
theorem visit_cycle {start : String} {visiting order chain : List String} {name : String}
    (way : WayTo deps.DependsOn start visiting name)
    (h : deps.visit listed pullIn visiting name order = .error (.cycle chain)) :
    ComesBack deps.DependsOn start chain := by
  induction visiting, name, order using visit.induct deps with
  | case1 visiting name order hn =>
    rw [visit_of_mem visiting hn] at h
    cases h
  | case2 visiting name order hn hv =>
    rw [visit_of_visiting hn hv] at h
    cases h
    exact way.comesBack hv
  | case3 visiting name order hn hv hk =>
    rw [visit_of_unknown hn hv hk] at h
    cases h
  | case4 visiting name order hn hv needed hk ih =>
    rw [visit_of_known hn hv hk, bind_eq_error_iff] at h
    rcases h with h | ⟨mid, _, h⟩
    · obtain ⟨mid, dependency, hd, h⟩ := foldlM_error h
      unfold visitNeeded at h
      split at h
      · cases h
      · exact ih mid dependency (way.step hv ((dependsOn_iff hk).2 hd)) h
    · cases h

end Dependencies

/-! ## What is reported -/

/-- **Reported cycles are cycles.** Where the plugins or a setting of a level have no answer because
of a cycle, the reported chain leads from that level, each time to a parent of a known level that is
not the level itself, past no level twice, and back to one that it has passed. Where plugins cannot
be put in order because of a cycle, the chain does so from one of the listed plugins along their
dependencies. A level that is reported as unknown lies above the one that was asked for; it is not
defined and does not end the climb. -/
theorem reported_cycles_comeBack (c : Config) (level : String) (kind : PluginKind)
    (deps : Dependencies) (pullIn : Bool) (names : List String) :
    (∀ chain, c.enabledPlugins level kind = .error (.inheritanceCycle chain) →
      ComesBack c.ReachesUp level chain) ∧
    (∀ plugin key default chain,
      c.pluginSetting kind plugin level key default = .error (.inheritanceCycle chain) →
      ComesBack (c.HandsOn kind plugin key) level chain) ∧
    (∀ chain, deps.order pullIn names = .error (.cycle chain) →
      ∃ name ∈ names, ComesBack deps.DependsOn name chain) ∧
    ∀ name, c.enabledPlugins level kind = .error (.unknownLevel name) →
      ReflTransGen c.ReachesUp level name ∧ name ≠ c.defaultLevel ∧
        c.levels.get? name = none := by
  refine ⟨?_, ?_, ?_, ?_⟩
  · intro chain h
    exact Config.enabledFrom_cycle (.here _ level) h
  · intro plugin key default chain h
    rcases bind_eq_error_iff.1 h with h | ⟨found, _, h⟩
    · exact Config.settingFrom_cycle (.here _ level) h
    · cases h
  · intro chain h
    obtain ⟨order, name, hn, h⟩ := foldlM_error h
    exact ⟨name, hn, Dependencies.visit_cycle (.here _ name) h⟩
  · intro name h
    exact Config.enabledFrom_unknownLevel h

/-- Above its first level there are two levels that are each a parent of the other one. -/
def loopedConfig : Config :=
  { levels := .ofList [("a", { inheritsFrom := ["b"] }), ("b", { inheritsFrom := ["b", "c"] }),
      ("c", { inheritsFrom := ["b"] })] }

/-- A chain may come back to a level above the one that was asked for. -/
theorem reported_cycles_comeBack_above :
    loopedConfig.enabledPlugins "a" .tool = .error (.inheritanceCycle ["a", "b", "c", "b"]) ∧
      ComesBack loopedConfig.ReachesUp "a" ["a", "b", "c", "b"] := by
  have hreported : loopedConfig.enabledPlugins "a" .tool =
      .error (.inheritanceCycle ["a", "b", "c", "b"]) := by decide +kernel
  refine ⟨hreported, ?_⟩
  exact (reported_cycles_comeBack loopedConfig "a" .tool (.ofList []) false []).1 _ hreported

end LintScan
