import LintScan.Config.Resolve
import LintScan.Proofs.Firsts
import LintScan.Proofs.Walk

/-!
# Which plugins a level enables

The parents of a level form a graph that may hold cycles, diamonds and names of no level.  This
file says when a level resolves and what it enables, without the climb that computes it:

* `ReachesUp` — the edges: from a level that does not end the climb to a parent other than itself.
* `Unfolds` — the names met when levels are unfolded depth first, with all their repetitions.
* `exists_enabledFrom` — where every level above is known and no cycle lies above, the climb ends
  with a list, whatever it passed on its way.
* `enabledFrom_unfolds` — a climb that ends with a list has met an unfolding and lists each of its
  names where it was met first.
* `resolves_iff` — so a level resolves exactly there, whatever the kind of the plugins.
* `enabledPlugins_eq_firsts_met` — both together, with what follows for the order of the list.
-/

namespace LintScan

namespace Config

open Relation

variable {c : Config} {kind : PluginKind}

/-! ## Collecting names -/

theorem addNew_nil (names : List String) : addNew names [] = names := rfl

theorem addNew_cons (names : List String) (n : String) (more : List String) :
    addNew names (n :: more) = addNew (if n ∈ names then names else names ++ [n]) more := rfl

theorem nodup_addNew {names : List String} (more : List String) (h : names.Nodup) :
    (addNew names more).Nodup := by
  induction more generalizing names with
  | nil => exact h
  | cons n more ih =>
    rw [addNew_cons]
    split
    · exact ih h
    · rename_i hn
      exact ih (nodup_snoc h hn)

theorem prefix_addNew (names more : List String) : names <+: addNew names more := by
  induction more generalizing names with
  | nil => exact List.prefix_refl _
  | cons n more ih =>
    rw [addNew_cons]
    split
    · exact ih names
    · exact (List.prefix_append _ _).trans (ih _)

theorem subset_addNew (names more : List String) : more ⊆ addNew names more := by
  induction more generalizing names with
  | nil => exact List.nil_subset _
  | cons n more ih =>
    intro x hx
    rw [addNew_cons]
    rcases List.mem_cons.1 hx with rfl | hx
    · apply (prefix_addNew _ more).subset
      split
      · assumption
      · simp
    · exact ih _ hx

/-- Names that are there already may be left out. -/
theorem addNew_filter {names : List String} {n : String} (more : List String) (h : n ∈ names) :
    addNew names (more.filter (fun m => !m == n)) = addNew names more := by
  induction more generalizing names with
  | nil => rfl
  | cons m more ih =>
    by_cases hm : m = n
    · subst hm
      rw [List.filter_cons_of_neg (by simp), addNew_cons, if_pos h]
      exact ih h
    · rw [List.filter_cons_of_pos (by simpa using hm), addNew_cons, addNew_cons]
      apply ih
      split
      · exact h
      · exact List.mem_append_left _ h

/-- Only the first occurrences count. -/
theorem addNew_eraseDups (names : List String) :
    ∀ more : List String, addNew names more.eraseDups = addNew names more
  | [] => rfl
  | n :: more => by
    rw [List.eraseDups_cons, addNew_cons, addNew_cons, addNew_eraseDups, addNew_filter]
    split
    · assumption
    · simp
termination_by more => more.length
decreasing_by
  have := List.length_filter_le (fun b => !b == n) more
  simp only [List.length_cons]
  omega

/-- Names met later go behind the first occurrences of those met before. -/
theorem addNew_firsts (met more : List String) :
    addNew met.eraseDups more = (met ++ more).eraseDups := by
  induction more generalizing met with
  | nil => rw [addNew_nil, List.append_nil]
  | cons n more ih =>
    rw [addNew_cons, ← eraseDups_snoc, ih, List.append_assoc, List.singleton_append]

theorem nodup_pluginNames (l : Level) (kind : PluginKind) : (l.pluginNames kind).Nodup := by
  unfold Level.pluginNames
  split
  · rename_i t _
    exact t.nodup
  · exact List.nodup_nil

/-! ## The climb, level by level -/

/-- One level reaches up to another: it does not end the climb, and the other is one of its parents
and not the level itself. -/
def ReachesUp (c : Config) (level parent : String) : Prop :=
  level ≠ c.defaultLevel ∧
    ∃ l, c.levels.get? level = some l ∧ parent ∈ l.inheritsFrom ∧ parent ≠ level

theorem mem_climbParents {l : Level} {level parent : String} :
    parent ∈ climbParents l level ↔ parent ∈ l.inheritsFrom ∧ parent ≠ level := by
  simp [climbParents]

theorem reachesUp_iff {level parent : String} {l : Level} (hd : level ≠ c.defaultLevel)
    (hl : c.levels.get? level = some l) :
    c.ReachesUp level parent ↔ parent ∈ climbParents l level := by
  rw [mem_climbParents]
  constructor
  · rintro ⟨_, l', hl', h⟩
    rw [hl] at hl'
    cases hl'
    exact h
  · intro h
    exact ⟨hd, l, hl, h⟩

/-- The names, then those that the parents enable, parent by parent. -/
def enabledAbove (c : Config) (kind : PluginKind) (visiting names parents : List String) :
    Except ConfigError (List String) :=
  parents.foldlM
    (fun names parent => do
      let more ← c.enabledFrom kind visiting parent
      .ok (addNew names more))
    names

theorem enabledAbove_cons_eq_ok_iff {visiting names parents plugins : List String}
    {parent : String} :
    c.enabledAbove kind visiting names (parent :: parents) = .ok plugins ↔
      ∃ more, c.enabledFrom kind visiting parent = .ok more ∧
        c.enabledAbove kind visiting (addNew names more) parents = .ok plugins := by
  unfold enabledAbove
  rw [List.foldlM_cons, bind_eq_ok_iff]
  constructor
  · rintro ⟨names', h, hrest⟩
    obtain ⟨more, hmore, h⟩ := bind_eq_ok_iff.1 h
    cases h
    exact ⟨more, hmore, hrest⟩
  · rintro ⟨more, hmore, hrest⟩
    exact ⟨_, bind_eq_ok_iff.2 ⟨more, hmore, rfl⟩, hrest⟩

theorem enabledFrom_default (visiting : List String) :
    c.enabledFrom kind visiting c.defaultLevel = .ok [] := by
  rw [enabledFrom, if_pos rfl]

theorem enabledFrom_unknown (visiting : List String) {level : String}
    (hd : level ≠ c.defaultLevel) (hl : c.levels.get? level = none) :
    c.enabledFrom kind visiting level = .error (.unknownLevel level) := by
  rw [enabledFrom, if_neg hd]
  split
  · rfl
  · rename_i h
    rw [hl] at h
    cases h

theorem enabledFrom_level {visiting : List String} {level : String} {l : Level}
    (hd : level ≠ c.defaultLevel) (hl : c.levels.get? level = some l) :
    c.enabledFrom kind visiting level =
      if level ∈ visiting then .error (.inheritanceCycle (visiting ++ [level]))
      else c.enabledAbove kind (visiting ++ [level]) (l.pluginNames kind)
        (climbParents l level) := by
  rw [enabledFrom, if_neg hd]
  split
  · rename_i h
    rw [hl] at h
    cases h
  · rename_i h
    rw [hl] at h
    cases h
    split <;> rfl

/-- All ways in which a climb can end with a list. -/
theorem enabledFrom_ok {visiting plugins : List String} {level : String}
    (h : c.enabledFrom kind visiting level = .ok plugins) :
    (level = c.defaultLevel ∧ plugins = []) ∨
      (level ≠ c.defaultLevel ∧ level ∉ visiting ∧ ∃ l, c.levels.get? level = some l ∧
        c.enabledAbove kind (visiting ++ [level]) (l.pluginNames kind) (climbParents l level)
          = .ok plugins) := by
  by_cases hd : level = c.defaultLevel
  · subst hd
    rw [enabledFrom_default] at h
    cases h
    exact .inl ⟨rfl, rfl⟩
  · cases hl : c.levels.get? level with
    | none =>
      rw [enabledFrom_unknown visiting hd hl] at h
      cases h
    | some l =>
      rw [enabledFrom_level hd hl] at h
      split at h
      · cases h
      · rename_i hv
        exact .inr ⟨hd, hv, l, rfl, h⟩

theorem enabledAbove_ok {visiting parents : List String} :
    ∀ {names plugins : List String}, c.enabledAbove kind visiting names parents = .ok plugins →
      names <+: plugins ∧ (names.Nodup → plugins.Nodup) ∧
        ∀ parent ∈ parents, ∃ more, c.enabledFrom kind visiting parent = .ok more ∧
          more ⊆ plugins := by
  induction parents with
  | nil =>
    intro names plugins h
    cases h
    refine ⟨List.prefix_refl _, id, ?_⟩
    intro parent hp
    cases hp
  | cons p parents ih =>
    intro names plugins h
    obtain ⟨more, hmore, hrest⟩ := enabledAbove_cons_eq_ok_iff.1 h
    obtain ⟨hpre, hnodup, hparents⟩ := ih hrest
    refine ⟨(prefix_addNew names more).trans hpre, fun hn => hnodup (nodup_addNew more hn), ?_⟩
    intro parent hp
    rcases List.mem_cons.1 hp with rfl | hp
    · exact ⟨more, hmore, fun x hx => hpre.subset (subset_addNew names more hx)⟩
    · exact hparents parent hp

/-- A list that a climb ends with does not hang on the levels it has passed before. -/
theorem enabledFrom_subset {visiting fewer plugins : List String} {level : String}
    (hsub : fewer ⊆ visiting) (h : c.enabledFrom kind visiting level = .ok plugins) :
    c.enabledFrom kind fewer level = .ok plugins := by
  induction visiting, level using enabledFrom.induct c generalizing fewer plugins with
  | case1 visiting =>
    rw [enabledFrom_default] at h ⊢
    exact h
  | case2 visiting level hd hl =>
    rw [enabledFrom_unknown visiting hd hl] at h
    cases h
  | case3 visiting level hd l hl hv =>
    rw [enabledFrom_level hd hl, if_pos hv] at h
    cases h
  | case4 visiting level hd l hl hv ih =>
    rw [enabledFrom_level hd hl, if_neg hv] at h
    rw [enabledFrom_level hd hl, if_neg (fun hf => hv (hsub hf))]
    have hsub' : fewer ++ [level] ⊆ visiting ++ [level] := by
      intro x hx
      rcases List.mem_append.1 hx with hx | hx
      · exact List.mem_append_left _ (hsub hx)
      · exact List.mem_append_right _ hx
    generalize climbParents l level = parents at h ⊢
    generalize l.pluginNames kind = names at h ⊢
    induction parents generalizing names with
    | nil => exact h
    | cons p parents ihp =>
      obtain ⟨more, hmore, hrest⟩ := enabledAbove_cons_eq_ok_iff.1 h
      exact enabledAbove_cons_eq_ok_iff.2 ⟨more, ih p hsub' hmore, ihp _ hrest⟩

/-! ## Unfolding levels -/

/-- The names met when levels are unfolded one after the other: of each level its own plugins, then
what its parents unfold to. The level that ends the climb adds nothing. -/
inductive Unfolds (c : Config) (kind : PluginKind) : List String → List String → Prop
  | nil : Unfolds c kind [] []
  | default {rest met : List String} :
      Unfolds c kind rest met → Unfolds c kind (c.defaultLevel :: rest) met
  | level {level : String} {l : Level} {rest above met : List String} :
      level ≠ c.defaultLevel → c.levels.get? level = some l →
      Unfolds c kind (l.inheritsFrom.filter (· ≠ level)) above → Unfolds c kind rest met →
      Unfolds c kind (level :: rest) (l.pluginNames kind ++ above ++ met)

theorem Unfolds.append {levels more met later : List String} (h : c.Unfolds kind levels met)
    (hmore : c.Unfolds kind more later) : c.Unfolds kind (levels ++ more) (met ++ later) := by
  induction h with
  | nil => exact hmore
  | default _ ih => exact .default ih
  | level hd hl habove _ _ ih =>
    rw [List.append_assoc]
    exact .level hd hl habove ih

/-- Levels unfold in one way at most. -/
theorem Unfolds.unique {levels met met' : List String} (h : c.Unfolds kind levels met)
    (h' : c.Unfolds kind levels met') : met = met' := by
  induction h generalizing met' with
  | nil =>
    cases h'
    rfl
  | default _ ih =>
    cases h' with
    | default h' => exact ih h'
    | level hd => exact absurd rfl hd
  | level hd hl _ _ ihabove ih =>
    cases h' with
    | default h' => exact absurd rfl hd
    | level _ hl' habove' h' =>
      rw [hl] at hl'
      cases hl'
      rw [ihabove habove', ih h']

/-- Where levels unfold, every level above is known. -/
theorem Unfolds.known {levels met : List String} (h : c.Unfolds kind levels met) :
    ∀ level ∈ levels, ∀ name, ReflTransGen c.ReachesUp level name →
      name = c.defaultLevel ∨ c.hasLevel name = true := by
  induction h with
  | nil =>
    intro level hm
    cases hm
  | default _ ih =>
    intro level hm name hr
    rcases List.mem_cons.1 hm with rfl | hm
    · rcases ReflTransGen.cases_head hr with rfl | ⟨parent, hp, _⟩
      · exact .inl rfl
      · exact absurd rfl hp.1
    · exact ih level hm name hr
  | level hd hl _ _ ihabove ih =>
    intro level hm name hr
    rcases List.mem_cons.1 hm with rfl | hm
    · rcases ReflTransGen.cases_head hr with rfl | ⟨parent, hp, hr⟩
      · exact .inr (by simp [hasLevel, OrderedTable.contains, hl])
      · exact ihabove parent ((reachesUp_iff hd hl).1 hp) name hr
    · exact ih level hm name hr

/-- Where levels unfold, every way up ends. -/
theorem Unfolds.acc {levels met : List String} (h : c.Unfolds kind levels met) :
    ∀ level ∈ levels, Acc (fun parent level => c.ReachesUp level parent) level := by
  induction h with
  | nil =>
    intro level hm
    cases hm
  | default _ ih =>
    intro level hm
    rcases List.mem_cons.1 hm with rfl | hm
    · exact Acc.intro _ fun parent hp => absurd rfl hp.1
    · exact ih level hm
  | level hd hl _ _ ihabove ih =>
    intro level hm
    rcases List.mem_cons.1 hm with rfl | hm
    · exact Acc.intro _ fun parent hp => ihabove parent ((reachesUp_iff hd hl).1 hp)
    · exact ih level hm

theorem enabledAbove_unfolds {visiting : List String}
    (each : ∀ {parent more}, c.enabledFrom kind visiting parent = .ok more →
      ∃ met, c.Unfolds kind [parent] met ∧ more = met.eraseDups)
    {parents : List String} :
    ∀ {before plugins : List String},
      c.enabledAbove kind visiting before.eraseDups parents = .ok plugins →
      ∃ met, c.Unfolds kind parents met ∧ plugins = (before ++ met).eraseDups := by
  induction parents with
  | nil =>
    intro before plugins h
    cases h
    exact ⟨[], .nil, by rw [List.append_nil]⟩
  | cons p parents ih =>
    intro before plugins h
    obtain ⟨more, hmore, hrest⟩ := enabledAbove_cons_eq_ok_iff.1 h
    obtain ⟨met, hmet, rfl⟩ := each hmore
    rw [addNew_eraseDups, addNew_firsts] at hrest
    obtain ⟨later, hlater, rfl⟩ := ih hrest
    exact ⟨met ++ later, hmet.append hlater, by rw [List.append_assoc]⟩

/-- A climb that ends with a list has met an unfolding, and lists its names in the order in which
they were met first. -/
theorem enabledFrom_unfolds {visiting plugins : List String} {level : String}
    (h : c.enabledFrom kind visiting level = .ok plugins) :
    ∃ met, c.Unfolds kind [level] met ∧ plugins = met.eraseDups := by
  induction visiting, level using enabledFrom.induct c generalizing plugins with
  | case1 visiting =>
    rw [enabledFrom_default] at h
    cases h
    exact ⟨[], .default .nil, rfl⟩
  | case2 visiting level hd hl =>
    rw [enabledFrom_unknown visiting hd hl] at h
    cases h
  | case3 visiting level hd l hl hv =>
    rw [enabledFrom_level hd hl, if_pos hv] at h
    cases h
  | case4 visiting level hd l hl hv ih =>
    rw [enabledFrom_level hd hl, if_neg hv, ← eraseDups_of_nodup (nodup_pluginNames l kind)] at h
    obtain ⟨above, habove, rfl⟩ := enabledAbove_unfolds (fun {parent _} hp => ih parent hp) h
    refine ⟨l.pluginNames kind ++ above ++ [], .level hd hl habove .nil, ?_⟩
    rw [List.append_nil]

/-- Where every level above is known and no cycle lies above, the climb ends with a list. The levels
that it has passed lie below, so none of them is met again. -/
theorem exists_enabledFrom {visiting : List String} {level : String}
    (known : ∀ name, ReflTransGen c.ReachesUp level name →
      name = c.defaultLevel ∨ c.hasLevel name = true)
    (acyclic : NoCycleFrom c.ReachesUp level)
    (below : ∀ name ∈ visiting, TransGen c.ReachesUp name level) :
    ∃ plugins, c.enabledFrom kind visiting level = .ok plugins := by
  induction visiting, level using enabledFrom.induct c with
  | case1 visiting => exact ⟨[], enabledFrom_default visiting⟩
  | case2 visiting level hd hl =>
    rcases known level .refl with h | h
    · exact absurd h hd
    · simp [hasLevel, OrderedTable.contains, hl] at h
  | case3 visiting level hd l hl hv => exact absurd (below level hv) (acyclic level .refl)
  | case4 visiting level hd l hl hv ih =>
    rw [enabledFrom_level hd hl, if_neg hv]
    apply foldlM_ok
    intro names parent hp
    have hup : c.ReachesUp level parent := (reachesUp_iff hd hl).2 hp
    obtain ⟨more, hmore⟩ := ih parent (fun name hr => known name (.head hup hr))
      (acyclic.step hup) (transGen_of_mem_snoc below hup)
    exact ⟨addNew names more, bind_eq_ok_iff.2 ⟨more, hmore, rfl⟩⟩

/-- A level that can be unfolded resolves. -/
theorem Unfolds.resolves {level : String} {met : List String} (h : c.Unfolds kind [level] met) :
    ∃ plugins, c.enabledPlugins level kind = .ok plugins := by
  have hself : level ∈ [level] := List.mem_singleton_self level
  exact exists_enabledFrom (h.known level hself) (noCycleFrom_of_acc (h.acc level hself))
    (fun name hn => by cases hn)

/-- A level resolves exactly where every level above is known and no cycle lies above. -/
theorem resolves_iff {level : String} :
    (∃ plugins, c.enabledPlugins level kind = .ok plugins) ↔
      (∀ name, ReflTransGen c.ReachesUp level name →
        name = c.defaultLevel ∨ c.hasLevel name = true) ∧
      NoCycleFrom c.ReachesUp level := by
  constructor
  · rintro ⟨plugins, h⟩
    obtain ⟨met, hmet, _⟩ := enabledFrom_unfolds h
    have hself : level ∈ [level] := List.mem_singleton_self level
    exact ⟨hmet.known level hself, noCycleFrom_of_acc (hmet.acc level hself)⟩
  · rintro ⟨known, acyclic⟩
    exact exists_enabledFrom known acyclic (fun name hn => by cases hn)

/-- **What a level enables.** A level resolves, for plugins of any kind alike, exactly where every
level above it is known and no cycle lies above it. It then enables the names met when it is
unfolded, each where it was met first: none twice, its own at the head, and with them all that its
parents enable. -/
theorem enabledPlugins_eq_firsts_met (c : Config) (level : String) (kind : PluginKind) :
    ((∃ plugins, c.enabledPlugins level kind = .ok plugins) ↔
      (∀ name, ReflTransGen c.ReachesUp level name →
        name = c.defaultLevel ∨ c.hasLevel name = true) ∧
      ∀ name, ReflTransGen c.ReachesUp level name → ¬ TransGen c.ReachesUp name name) ∧
    (∀ other, (∃ plugins, c.enabledPlugins level kind = .ok plugins) ↔
      ∃ plugins, c.enabledPlugins level other = .ok plugins) ∧
    (∀ plugins, c.enabledPlugins level kind = .ok plugins ↔
      ∃ met, c.Unfolds kind [level] met ∧ plugins = met.eraseDups) ∧
    ∀ plugins, c.enabledPlugins level kind = .ok plugins →
      plugins.Nodup ∧
      (∀ l, level ≠ c.defaultLevel → c.levels.get? level = some l →
        l.pluginNames kind <+: plugins) ∧
      ∀ parent, c.ReachesUp level parent →
        ∃ inherited, c.enabledPlugins parent kind = .ok inherited ∧ inherited ⊆ plugins := by
  refine ⟨resolves_iff, fun other => resolves_iff.trans resolves_iff.symm, ?_, ?_⟩
  · intro plugins
    constructor
    · exact enabledFrom_unfolds
    · rintro ⟨met, hmet, rfl⟩
      obtain ⟨plugins, h⟩ := hmet.resolves
      obtain ⟨met', hmet', rfl⟩ := enabledFrom_unfolds h
      rw [hmet.unique hmet']
      exact h
  · intro plugins h
    rcases enabledFrom_ok h with ⟨rfl, rfl⟩ | ⟨hd, _, l, hl, h⟩
    · refine ⟨List.nodup_nil, fun l hd => absurd rfl hd, ?_⟩
      intro parent hp
      exact absurd rfl hp.1
    · obtain ⟨hpre, hnodup, hparents⟩ := enabledAbove_ok h
      refine ⟨hnodup (nodup_pluginNames l kind), ?_, ?_⟩
      · intro l' _ hl'
        rw [hl] at hl'
        cases hl'
        exact hpre
      · intro parent hp
        obtain ⟨more, hmore, hsub⟩ := hparents parent ((reachesUp_iff hd hl).1 hp)
        exact ⟨more, enabledFrom_subset (List.nil_subset _) hmore, hsub⟩

end Config

end LintScan
