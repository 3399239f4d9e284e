import LintScan.Proofs.Config.Merge

/-!
# Parents that change nothing

A level may list itself or list a parent twice. A climb passes over the level itself, and asks a
parent that it has asked before without learning anything new, so such entries can be left out.

* `ClimbsLike` — two configurations whose levels list the same plugins, and whose parents, as a
  climb sees them, are related.
* `settingFrom_alike`, `enabledFrom_alike` — where the parents are the same, settings are found
  alike; where they are the same up to repetitions, plugins are enabled alike. Both hold of errors
  and of the chains in them as well.
* `withoutSelf`, `withoutRepeats` — the configurations with such entries left out.
* `parents_leftOut_change_nothing` — no question is answered otherwise.
-/

namespace LintScan

namespace Config

variable {c d : Config} {kind : PluginKind} {r : List String → List String → Prop}

/-! ## Configurations that are climbed alike -/

/-- Two levels of one name that list the same plugins with the same settings, and whose parents
other than the name are related by `r`. -/
structure LevelLike (r : List String → List String → Prop) (name : String) (l l' : Level) :
    Prop where
  pluginNames : ∀ kind, l'.pluginNames kind = l.pluginNames kind
  ownSetting : ∀ kind plugin key, ownSetting l' kind plugin key = ownSetting l kind plugin key
  parents : r (climbParents l name) (climbParents l' name)

/-- Two configurations with levels of the same names and the same end of every climb, each level
like the other one of its name. -/
structure ClimbsLike (r : List String → List String → Prop) (c d : Config) : Prop where
  default : d.defaultLevel = c.defaultLevel
  levels : ∀ name, Option.Rel (LevelLike r name) (c.levels.get? name) (d.levels.get? name)

/-- Levels that list the same plugins list the same names and settings. -/
theorem LevelLike.of_plugins {name : String} {l l' : Level}
    (hplugins : ∀ kind, l'.plugins kind = l.plugins kind)
    (hparents : r (climbParents l name) (climbParents l' name)) : LevelLike r name l l' where
  pluginNames kind := by rw [Level.pluginNames, Level.pluginNames, hplugins]
  ownSetting kind plugin key := by
    rw [Config.ownSetting, Config.ownSetting, Level.setting?, Level.setting?, hplugins]
  parents := hparents

theorem ClimbsLike.unknown (h : ClimbsLike r c d) {level : String}
    (hl : c.levels.get? level = none) : d.levels.get? level = none := by
  have hrel := h.levels level
  rw [hl] at hrel
  generalize d.levels.get? level = found at hrel ⊢
  cases hrel
  rfl

theorem ClimbsLike.known (h : ClimbsLike r c d) {level : String} {l : Level}
    (hl : c.levels.get? level = some l) :
    ∃ l', d.levels.get? level = some l' ∧ LevelLike r level l l' := by
  have hrel := h.levels level
  rw [hl] at hrel
  generalize d.levels.get? level = found at hrel ⊢
  cases hrel with
  | some hlike => exact ⟨_, rfl, hlike⟩

/-- With the same parents, a setting is found alike. -/
theorem settingFrom_alike (h : ClimbsLike Eq c d) {plugin key : String} {visiting : List String}
    {level : String} :
    d.settingFrom kind plugin key visiting level =
      c.settingFrom kind plugin key visiting level := by
  induction visiting, level using settingFrom.induct c kind plugin key with
  | case1 visiting level hl =>
    rw [settingFrom_unknown visiting hl, settingFrom_unknown visiting (h.unknown hl)]
  | case2 visiting level l hl text hown =>
    obtain ⟨l', hl', hlike⟩ := h.known hl
    rw [settingFrom_own visiting hl hown,
      settingFrom_own visiting hl' ((hlike.ownSetting kind plugin key).trans hown)]
  | case3 visiting level l hl hown hv =>
    obtain ⟨l', hl', hlike⟩ := h.known hl
    have hown' := (hlike.ownSetting kind plugin key).trans hown
    rw [settingFrom_climb hl hown, settingFrom_climb hl' hown', if_pos hv, if_pos hv]
  | case4 visiting level l hl hown hv ih =>
    obtain ⟨l', hl', hlike⟩ := h.known hl
    have hparents :
        (climbParents l level).mapM (d.settingFrom kind plugin key (visiting ++ [level])) =
          (climbParents l level).mapM (c.settingFrom kind plugin key (visiting ++ [level])) :=
      mapM_congr fun parent _ => ih parent
    have hown' := (hlike.ownSetting kind plugin key).trans hown
    rw [settingFrom_climb hl hown, settingFrom_climb hl' hown', if_neg hv, if_neg hv,
      ← hlike.parents, hparents]

/-! ## Parents that are asked again -/

theorem addNew_of_subset {names more : List String} (h : more ⊆ names) :
    addNew names more = names := by
  induction more with
  | nil => rfl
  | cons n more ih =>
    rw [addNew_cons, if_pos (h List.mem_cons_self)]
    exact ih fun m hm => h (List.mem_cons_of_mem n hm)

/-- A parent whose plugins are there already may be left out. -/
theorem enabledAbove_filter {visiting more : List String} {p : String}
    (hp : c.enabledFrom kind visiting p = .ok more) {names : List String} (hsub : more ⊆ names)
    (parents : List String) :
    c.enabledAbove kind visiting names (parents.filter fun q => !q == p) =
      c.enabledAbove kind visiting names parents := by
  induction parents generalizing names with
  | nil => rfl
  | cons q parents ih =>
    by_cases hq : q = p
    · subst hq
      have hrest := ih hsub
      rw [List.filter_cons_of_neg (by simp), hrest]
      unfold enabledAbove
      rw [List.foldlM_cons, hp]
      simp only [bind, Except.bind, addNew_of_subset hsub]
    · rw [List.filter_cons_of_pos (by simpa using hq)]
      unfold enabledAbove at ih ⊢
      rw [List.foldlM_cons, List.foldlM_cons]
      cases c.enabledFrom kind visiting q with
      | error e => rfl
      | ok others =>
        exact ih fun n hn => (prefix_addNew names others).subset (hsub hn)

/-- A parent that is asked again changes nothing: neither the names, which hold its plugins, nor the
first failure. -/
theorem enabledAbove_eraseDups (visiting names : List String) :
    ∀ parents : List String, c.enabledAbove kind visiting names parents.eraseDups =
      c.enabledAbove kind visiting names parents
  | [] => rfl
  | p :: parents => by
    have hrest (names : List String) := enabledAbove_eraseDups visiting names
      (parents.filter fun q => !q == p)
    unfold enabledAbove at hrest ⊢
    rw [List.eraseDups_cons, List.foldlM_cons, List.foldlM_cons]
    cases hp : c.enabledFrom kind visiting p with
    | error e => rfl
    | ok more =>
      exact (hrest _).trans (enabledAbove_filter hp (subset_addNew names more) parents)
termination_by parents => parents.length
decreasing_by
  have := List.length_filter_le (fun q => !q == p) parents
  simp only [List.length_cons]
  omega

/-- With the same parents up to repetitions, the same plugins are enabled. -/
theorem enabledFrom_alike (h : ClimbsLike (·.eraseDups = ·.eraseDups) c d)
    {visiting : List String} {level : String} :
    d.enabledFrom kind visiting level = c.enabledFrom kind visiting level := by
  induction visiting, level using enabledFrom.induct c with
  | case1 visiting => rw [enabledFrom_default, ← h.default, enabledFrom_default]
  | case2 visiting level hd hl =>
    rw [enabledFrom_unknown visiting hd hl,
      enabledFrom_unknown visiting (h.default ▸ hd) (h.unknown hl)]
  | case3 visiting level hd l hl hv =>
    obtain ⟨l', hl', hlike⟩ := h.known hl
    rw [enabledFrom_level hd hl, enabledFrom_level (h.default ▸ hd) hl', if_pos hv, if_pos hv]
  | case4 visiting level hd l hl hv ih =>
    obtain ⟨l', hl', hlike⟩ := h.known hl
    rw [enabledFrom_level hd hl, enabledFrom_level (h.default ▸ hd) hl', if_neg hv, if_neg hv,
      hlike.pluginNames, ← enabledAbove_eraseDups, ← hlike.parents, enabledAbove_eraseDups]
    exact enabledAbove_congr (fun parent _ => ih parent) _

/-- Every question for plugins or for a setting has the same answer in two configurations, or fails
in the same way. -/
def AnswersAlike (c d : Config) : Prop :=
  (∀ level kind, d.enabledPlugins level kind = c.enabledPlugins level kind) ∧
  ∀ kind plugin level key default, d.pluginSetting kind plugin level key default =
    c.pluginSetting kind plugin level key default

theorem ClimbsLike.answersAlike (h : ClimbsLike Eq c d) : AnswersAlike c d := by
  have hrepeats : ClimbsLike (·.eraseDups = ·.eraseDups) c d := by
    refine ⟨h.default, fun name => ?_⟩
    have hrel := h.levels name
    generalize c.levels.get? name = found at hrel ⊢
    generalize d.levels.get? name = other at hrel ⊢
    cases hrel with
    | some hlike =>
      exact .some ⟨hlike.pluginNames, hlike.ownSetting, congrArg List.eraseDups hlike.parents⟩
    | none => exact .none
  constructor
  · intro level kind
    exact enabledFrom_alike hrepeats
  · intro kind plugin level key default
    unfold pluginSetting
    rw [settingFrom_alike h]

/-! ## Entries that are left out -/

/-- The configuration with the parents of each level changed. -/
def mapParents (c : Config) (f : String → List String → List String) : Config :=
  { c with levels := c.levels.map fun name l =>
      { l with inheritsFrom := f name l.inheritsFrom } }

/-- No level lists itself as a parent. -/
def withoutSelf (c : Config) : Config :=
  c.mapParents fun name parents => parents.filter (· ≠ name)

/-- No level lists a parent twice; the first entry is kept. -/
def withoutRepeats (c : Config) : Config :=
  c.mapParents fun _ parents => parents.eraseDups

theorem climbsLike_mapParents {f : String → List String → List String}
    (h : ∀ name parents, r (parents.filter (· ≠ name)) ((f name parents).filter (· ≠ name))) :
    ClimbsLike r c (c.mapParents f) := by
  refine ⟨rfl, fun name => ?_⟩
  rw [mapParents, OrderedTable.get?_map]
  cases c.levels.get? name with
  | none => exact .none
  | some l => exact .some (.of_plugins (fun kind => by cases kind <;> rfl) (h name l.inheritsFrom))

theorem LevelLike.refl (name : String) (l : Level) : LevelLike Eq name l l :=
  .of_plugins (fun _ => rfl) rfl

/-- A level that inherits from itself alone is climbed like one that inherits from nothing. -/
theorem levelLike_selfOnly {name : String} {l : Level} (h : l.inheritsFrom = [name]) :
    LevelLike Eq name l { l with inheritsFrom := [] } := by
  refine .of_plugins (fun kind => by cases kind <;> rfl) ?_
  simp [climbParents, h]

/-- Such a level may take the place of the other one in a table of levels. -/
theorem climbsLike_insert {name : String} {l l' : Level} (h : LevelLike Eq name l l') :
    ClimbsLike Eq
      { c with levels := c.levels.insert name l } { c with levels := c.levels.insert name l' } := by
  refine ⟨rfl, fun other => ?_⟩
  simp only [OrderedTable.get?_insert]
  split
  · rename_i hname
    exact .some (hname ▸ h)
  · cases c.levels.get? other with
    | none => exact .none
    | some m => exact .some (.refl other m)

/-- **Entries that change nothing.** With every level's reference to itself left out, each question
for plugins or for a setting has the same answer or fails in the same way. So a level that inherits
from itself alone answers like one that inherits from nothing, whether it is a level of the
configuration or one of a user document that is merged over it. With repeated parents left out, each
question for plugins has the same answer or fails in the same way. -/
theorem parents_leftOut_change_nothing (c : Config) :
    AnswersAlike c c.withoutSelf ∧
    (∀ name l, l.inheritsFrom = [name] →
      AnswersAlike { c with levels := c.levels.insert name l }
        { c with levels := c.levels.insert name { l with inheritsFrom := [] } } ∧
      ∀ user : OrderedTable Level, AnswersAlike (c.merge (user.insert name l))
        (c.merge (user.insert name { l with inheritsFrom := [] }))) ∧
    ∀ level kind, c.withoutRepeats.enabledPlugins level kind = c.enabledPlugins level kind := by
  refine ⟨?_, fun name l hself => ⟨?_, fun user => ?_⟩, fun level kind => ?_⟩
  · refine ClimbsLike.answersAlike (climbsLike_mapParents fun name parents => ?_)
    simp
  · exact (climbsLike_insert (levelLike_selfOnly hself)).answersAlike
  · refine ClimbsLike.answersAlike ⟨rfl, fun other => ?_⟩
    -- The merge has already taken the only parent away.
    have hown : ownLevel name l = ownLevel name { l with inheritsFrom := [] } := by
      simp [ownLevel, hself]
    have hsame : (c.merge (user.insert name l)).levels.get? other =
        (c.merge (user.insert name { l with inheritsFrom := [] })).levels.get? other := by
      rw [get?_merge, get?_merge, OrderedTable.get?_insert, OrderedTable.get?_insert]
      by_cases hother : other = name
      · subst hother
        simp only [if_true, Option.map_some, hown]
      · rw [if_neg hother, if_neg hother]
    rw [hsame]
    cases (c.merge (user.insert name { l with inheritsFrom := [] })).levels.get? other with
    | none => exact .none
    | some m => exact .some (.refl other m)
  · refine enabledFrom_alike (climbsLike_mapParents fun name parents => ?_)
    rw [eraseDups_filter, eraseDups_filter, eraseDups_of_nodup (nodup_eraseDups parents)]

/-- The only level of a configuration inherits from itself. -/
theorem parents_leftOut_selfOnly :
    AnswersAlike { levels := .ofList [("strict", { inheritsFrom := ["strict"] })] }
      { levels := .ofList [("strict", {})] } :=
  ((parents_leftOut_change_nothing {}).2.1 "strict" { inheritsFrom := ["strict"] } rfl).1

end Config

end LintScan
