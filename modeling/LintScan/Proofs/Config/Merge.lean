import LintScan.Proofs.Config.Plugins
import LintScan.Proofs.Config.Setting
import LintScan.Proofs.Table.Ordered

/-!
# What a user document changes

User levels are merged over those of the base document.  This file says what the merged levels are
and which questions keep their answers:

* `levelNames_merge`, `get?_merge` — a user level takes the place of a base level of its name or
  goes behind the base levels; the other levels stay as they are.
* `enabledFrom_congr`, `settingFrom_congr` — a climb asks only for the levels that can be reached
  along parents, so it ends alike, in a list, a text or an error, wherever two configurations have
  the same levels there.
* `merge_merge` — merging the same levels again changes nothing.
* `merge_overrides_named_only` — these results together.
-/

namespace LintScan

namespace Config

open Relation

variable {c d : Config} {user : OrderedTable Level}

/-! ## The merged levels -/

theorem nodup_userKeys (user : OrderedTable Level) :
    ((user.map ownLevel).entries.map (·.1)).Nodup :=
  (user.map ownLevel).nodup

theorem levelNames_merge (c : Config) (user : OrderedTable Level) :
    (c.merge user).levelNames = c.levelNames ++ user.keys.filter (· ∉ c.levelNames) := by
  have hkeys : (user.map ownLevel).entries.map (·.1) = user.keys := user.keys_map ownLevel
  unfold levelNames merge
  simp only
  rw [OrderedTable.keys_insertAll (nodup_userKeys user), hkeys]

theorem get?_merge (c : Config) (user : OrderedTable Level) (name : String) :
    (c.merge user).levels.get? name =
      ((user.get? name).map (ownLevel name)).or (c.levels.get? name) := by
  unfold merge
  simp only
  rw [OrderedTable.get?_insertAll (nodup_userKeys user), ← OrderedTable.get?_map]
  rfl

theorem get?_merge_of_named {name : String} {l : Level} (h : user.get? name = some l) :
    (c.merge user).levels.get? name = some (ownLevel name l) := by
  rw [get?_merge, h]
  rfl

theorem get?_merge_of_not_named {name : String} (h : name ∉ user.keys) :
    (c.merge user).levels.get? name = c.levels.get? name := by
  rw [get?_merge, OrderedTable.get?_eq_none_iff.2 h]
  rfl

/-- Merging the same levels again changes nothing. -/
theorem merge_merge (c : Config) (user : OrderedTable Level) :
    (c.merge user).merge user = c.merge user := by
  have hlevels : ((c.merge user).merge user).levels = (c.merge user).levels := by
    apply OrderedTable.ext_get?
    · have hnew : user.keys.filter (· ∉ (c.merge user).levelNames) = [] := by
        rw [List.filter_eq_nil_iff, levelNames_merge]
        intro name hname
        by_cases hbase : name ∈ c.levelNames
        · simp [hbase]
        · simp [hbase, hname]
      have hkeys := levelNames_merge (c.merge user) user
      rw [hnew, List.append_nil] at hkeys
      exact hkeys
    · intro name
      rw [get?_merge (c.merge user), get?_merge c]
      cases user.get? name <;> rfl
  exact congrArg (fun levels => { c with levels }) hlevels

/-! ## Climbs ask only for the levels above -/

/-- One level names another as a parent. -/
def Inherits (c : Config) (level parent : String) : Prop :=
  ∃ l, c.levels.get? level = some l ∧ parent ∈ l.inheritsFrom

theorem inherits_of_mem_climbParents {level parent : String} {l : Level}
    (hl : c.levels.get? level = some l) (hp : parent ∈ climbParents l level) :
    c.Inherits level parent :=
  ⟨l, hl, (mem_climbParents.1 hp).1⟩

theorem enabledAbove_congr {kind : PluginKind} {visiting parents : List String}
    (each : ∀ parent ∈ parents,
      d.enabledFrom kind visiting parent = c.enabledFrom kind visiting parent)
    (names : List String) :
    d.enabledAbove kind visiting names parents = c.enabledAbove kind visiting names parents := by
  induction parents generalizing names with
  | nil => rfl
  | cons p parents ih =>
    have hrest := ih fun parent hp => each parent (List.mem_cons_of_mem p hp)
    unfold enabledAbove at hrest ⊢
    rw [List.foldlM_cons, List.foldlM_cons, each p List.mem_cons_self]
    cases c.enabledFrom kind visiting p with
    | error e => rfl
    | ok more => exact hrest (addNew names more)

/-- Where two configurations have the same levels above a level, it enables the same plugins in
both, or fails to resolve for the same reason. -/
theorem enabledFrom_congr (hdefault : d.defaultLevel = c.defaultLevel) {kind : PluginKind}
    {visiting : List String} {level : String}
    (agree : ∀ name, ReflTransGen c.Inherits level name → d.levels.get? name = c.levels.get? name) :
    d.enabledFrom kind visiting level = c.enabledFrom kind visiting level := by
  induction visiting, level using enabledFrom.induct c with
  | case1 visiting => rw [enabledFrom_default, ← hdefault, enabledFrom_default]
  | case2 visiting level hd hl =>
    have hl' : d.levels.get? level = none := (agree level .refl).trans hl
    rw [enabledFrom_unknown visiting hd hl, enabledFrom_unknown visiting (hdefault ▸ hd) hl']
  | case3 visiting level hd l hl hv =>
    have hl' : d.levels.get? level = some l := (agree level .refl).trans hl
    rw [enabledFrom_level hd hl, enabledFrom_level (hdefault ▸ hd) hl', if_pos hv, if_pos hv]
  | case4 visiting level hd l hl hv ih =>
    have hl' : d.levels.get? level = some l := (agree level .refl).trans hl
    rw [enabledFrom_level hd hl, enabledFrom_level (hdefault ▸ hd) hl', if_neg hv, if_neg hv]
    apply enabledAbove_congr
    intro parent hp
    exact ih parent fun name hr => agree name (.head (inherits_of_mem_climbParents hl hp) hr)

/-- Where two configurations have the same levels above a level, it has the same settings in both,
or fails to give one for the same reason. -/
theorem settingFrom_congr {kind : PluginKind} {plugin key : String} {visiting : List String}
    {level : String}
    (agree : ∀ name, ReflTransGen c.Inherits level name → d.levels.get? name = c.levels.get? name) :
    d.settingFrom kind plugin key visiting level =
      c.settingFrom kind plugin key visiting level := by
  induction visiting, level using settingFrom.induct c kind plugin key with
  | case1 visiting level hl =>
    have hl' : d.levels.get? level = none := (agree level .refl).trans hl
    rw [settingFrom_unknown visiting hl, settingFrom_unknown visiting hl']
  | case2 visiting level l hl text hown =>
    have hl' : d.levels.get? level = some l := (agree level .refl).trans hl
    rw [settingFrom_own visiting hl hown, settingFrom_own visiting hl' hown]
  | case3 visiting level l hl hown hv =>
    have hl' : d.levels.get? level = some l := (agree level .refl).trans hl
    rw [settingFrom_climb hl hown, settingFrom_climb hl' hown, if_pos hv, if_pos hv]
  | case4 visiting level l hl hown hv ih =>
    have hl' : d.levels.get? level = some l := (agree level .refl).trans hl
    have hparents :
        (climbParents l level).mapM (d.settingFrom kind plugin key (visiting ++ [level])) =
          (climbParents l level).mapM (c.settingFrom kind plugin key (visiting ++ [level])) :=
      mapM_congr fun parent hp => ih parent fun name hr =>
        agree name (.head (inherits_of_mem_climbParents hl hp) hr)
    rw [settingFrom_climb hl hown, settingFrom_climb hl' hown, if_neg hv, if_neg hv, hparents]

/-! ## What a merge changes and what it leaves -/

/-- **What a user document changes.** The levels are those of the base document in their order, and
behind them the new ones of the user document in theirs. A level that the user document names is the
user's, except that one that inherits only from itself inherits from nothing; any other level is as
it was. A question to a level that no level of the user document lies above has the same answer or
fails for the same reason. Merging the same document again changes nothing. -/
theorem merge_overrides_named_only (c : Config) (user : OrderedTable Level) :
    (c.merge user).levelNames = c.levelNames ++ user.keys.filter (· ∉ c.levelNames) ∧
    (∀ name l, user.get? name = some l → (c.merge user).levels.get? name =
      some (if l.inheritsFrom = [name] then { l with inheritsFrom := [] } else l)) ∧
    (∀ name, name ∉ user.keys → (c.merge user).levels.get? name = c.levels.get? name) ∧
    (∀ level, (∀ name, ReflTransGen c.Inherits level name → name ∉ user.keys) →
      (∀ kind, (c.merge user).enabledPlugins level kind = c.enabledPlugins level kind) ∧
      ∀ kind plugin key default, (c.merge user).pluginSetting kind plugin level key default =
        c.pluginSetting kind plugin level key default) ∧
    (c.merge user).merge user = c.merge user ∧
    ∀ text merged, c.withUserText text = .ok merged → merged.withUserText text = .ok merged := by
  refine ⟨levelNames_merge c user, ?_, fun name h => get?_merge_of_not_named h, ?_,
    merge_merge c user, ?_⟩
  · intro name l h
    exact get?_merge_of_named h
  · intro level apart
    have agree : ∀ name, ReflTransGen c.Inherits level name →
        (c.merge user).levels.get? name = c.levels.get? name :=
      fun name hr => get?_merge_of_not_named (apart name hr)
    constructor
    · intro kind
      have hdefault : (c.merge user).defaultLevel = c.defaultLevel := rfl
      unfold enabledPlugins
      rw [enabledFrom_congr hdefault agree]
    · intro kind plugin key default
      unfold pluginSetting
      rw [settingFrom_congr agree]
  · intro text merged h
    obtain ⟨levels, hlevels, rfl⟩ := map_eq_ok_iff.1 h
    exact map_eq_ok_iff.2 ⟨levels, hlevels, merge_merge c levels⟩

end Config

end LintScan
