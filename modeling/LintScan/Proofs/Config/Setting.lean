import LintScan.Config.Resolve
import LintScan.Proofs.Walk

/-!
# What a level inherits as a setting

A level that gives a setting itself answers for all that lies above it; any other known level asks
each of its parents and puts their answers one behind the other.  This file says what comes out,
and when nothing does, in terms of the ways up from a level:

* `HandsOn` — the edges: from a known level without a text of its own to a parent other than itself.
* `Leads` — a way along these edges to the first level that gives a text, written as the positions
  of the parents that it takes.
* `settingFrom_ways` — the answer is the texts of all ways, in the order of the ways.
* `exists_settingFrom`, `settingFrom_acc` — there is an answer exactly where no cycle of the edges
  lies above.
* `pluginSetting_eq_join_ways` — these results for a question without a default.

A value that cannot be written is no text, so a level with such a value asks its parents.
-/

namespace LintScan

namespace Config

open Relation

variable {c : Config} {kind : PluginKind} {plugin key : String}

/-! ## Texts of settings -/

theorem settingText_eq_none_iff {v : Yaml.Value} :
    settingText v = none ↔ v = .null ∨ v.isWritable false = false := by
  cases v <;> simp [settingText] <;> rfl

/-- The answers of the parents one behind the other; an empty text is no answer. -/
def joinFound (found : List (Option String)) : Option String :=
  let text := String.join (found.map (·.getD ""))
  if text.isEmpty then none else some text

theorem getD_joinFound (found : List (Option String)) :
    (joinFound found).getD "" = String.join (found.map (·.getD "")) := by
  unfold joinFound
  simp only
  split
  · rename_i h
    exact (String.isEmpty_iff.1 h).symm
  · rfl

/-! ## The climb, level by level -/

/-- A known level without a text of its own hands the question on to a parent other than itself. -/
def HandsOn (c : Config) (kind : PluginKind) (plugin key : String) (level parent : String) : Prop :=
  ∃ l, c.levels.get? level = some l ∧ ownSetting l kind plugin key = none ∧
    parent ∈ l.inheritsFrom ∧ parent ≠ level

theorem handsOn_iff {level parent : String} {l : Level} (hl : c.levels.get? level = some l)
    (hown : ownSetting l kind plugin key = none) :
    c.HandsOn kind plugin key level parent ↔ parent ∈ climbParents l level := by
  constructor
  · rintro ⟨l', hl', _, h⟩
    rw [hl] at hl'
    cases hl'
    simpa [climbParents] using h
  · intro h
    exact ⟨l, hl, hown, by simpa [climbParents] using h⟩

theorem not_handsOn_of_unknown {level parent : String} (hl : c.levels.get? level = none) :
    ¬ c.HandsOn kind plugin key level parent := by
  rintro ⟨l, hl', _⟩
  rw [hl] at hl'
  cases hl'

theorem not_handsOn_of_own {level parent text : String} {l : Level}
    (hl : c.levels.get? level = some l) (hown : ownSetting l kind plugin key = some text) :
    ¬ c.HandsOn kind plugin key level parent := by
  rintro ⟨l', hl', hown', _⟩
  rw [hl] at hl'
  cases hl'
  rw [hown] at hown'
  cases hown'

theorem settingFrom_unknown (visiting : List String) {level : String}
    (hl : c.levels.get? level = none) :
    c.settingFrom kind plugin key visiting level = .ok none := by
  rw [settingFrom]
  split
  · rfl
  · rename_i h
    rw [hl] at h
    cases h

theorem settingFrom_own (visiting : List String) {level text : String} {l : Level}
    (hl : c.levels.get? level = some l) (hown : ownSetting l kind plugin key = some text) :
    c.settingFrom kind plugin key visiting level = .ok (some text) := by
  rw [settingFrom]
  split
  · rename_i h
    rw [hl] at h
    cases h
  · rename_i h
    rw [hl] at h
    cases h
    rw [hown]

theorem settingFrom_climb {visiting : List String} {level : String} {l : Level}
    (hl : c.levels.get? level = some l) (hown : ownSetting l kind plugin key = none) :
    c.settingFrom kind plugin key visiting level =
      if level ∈ visiting then .error (.inheritanceCycle (visiting ++ [level]))
      else (climbParents l level).mapM (c.settingFrom kind plugin key (visiting ++ [level])) >>=
        fun found => .ok (joinFound found) := by
  rw [settingFrom]
  split
  · rename_i h
    rw [hl] at h
    cases h
  · rename_i h
    rw [hl] at h
    cases h
    rw [hown]
    simp only
    split <;> rfl

/-- The only failure of a climb is a cycle. -/
theorem settingFrom_error {visiting : List String} {level : String} {e : ConfigError}
    (h : c.settingFrom kind plugin key visiting level = .error e) :
    ∃ chain, e = .inheritanceCycle chain := by
  induction visiting, level using settingFrom.induct c kind plugin key with
  | case1 visiting level hl =>
    rw [settingFrom_unknown visiting hl] at h
    cases h
  | case2 visiting level l hl text hown =>
    rw [settingFrom_own visiting hl hown] at h
    cases h
  | case3 visiting level l hl hown hv =>
    rw [settingFrom_climb hl hown, if_pos hv] at h
    cases h
    exact ⟨_, rfl⟩
  | case4 visiting level l hl hown hv ih =>
    rw [settingFrom_climb hl hown, if_neg hv, bind_eq_error_iff] at h
    rcases h with h | ⟨found, _, h⟩
    · obtain ⟨parent, _, hp⟩ := mapM_error h
      exact ih parent hp
    · cases h

/-- Where the climb has an answer, every way up ends. -/
theorem settingFrom_acc {visiting : List String} {level : String} {found : Option String}
    (h : c.settingFrom kind plugin key visiting level = .ok found) :
    Acc (fun parent level => c.HandsOn kind plugin key level parent) level := by
  induction visiting, level using settingFrom.induct c kind plugin key
    generalizing found with
  | case1 visiting level hl =>
    exact Acc.intro _ fun parent hp => absurd hp (not_handsOn_of_unknown hl)
  | case2 visiting level l hl text hown =>
    exact Acc.intro _ fun parent hp => absurd hp (not_handsOn_of_own hl hown)
  | case3 visiting level l hl hown hv =>
    rw [settingFrom_climb hl hown, if_pos hv] at h
    cases h
  | case4 visiting level l hl hown hv ih =>
    rw [settingFrom_climb hl hown, if_neg hv, bind_eq_ok_iff] at h
    obtain ⟨answers, hall, _⟩ := h
    apply Acc.intro
    intro parent hp
    obtain ⟨answer, hanswer⟩ := mapM_ok_step hall parent ((handsOn_iff hl hown).1 hp)
    exact ih parent hanswer

/-- A climb that has passed fewer levels has the same answer. -/
theorem settingFrom_of_subset {visiting others : List String} {level : String}
    {found : Option String} (h : c.settingFrom kind plugin key visiting level = .ok found)
    (hsub : others ⊆ visiting) : c.settingFrom kind plugin key others level = .ok found := by
  induction visiting, level using settingFrom.induct c kind plugin key
    generalizing others found with
  | case1 visiting level hl =>
    rw [settingFrom_unknown visiting hl] at h
    rw [settingFrom_unknown others hl, h]
  | case2 visiting level l hl text hown =>
    rw [settingFrom_own visiting hl hown] at h
    rw [settingFrom_own others hl hown, h]
  | case3 visiting level l hl hown hv =>
    rw [settingFrom_climb hl hown, if_pos hv] at h
    cases h
  | case4 visiting level l hl hown hv ih =>
    rw [settingFrom_climb hl hown, if_neg hv, bind_eq_ok_iff] at h
    obtain ⟨answers, hall, hjoin⟩ := h
    have hpassed : others ++ [level] ⊆ visiting ++ [level] :=
      List.append_subset.2
        ⟨List.Subset.trans hsub (List.subset_append_left _ _), List.subset_append_right _ _⟩
    have hall' := mapM_ok_map (k := id) hall fun parent _ _ hp => ih parent hp hpassed
    rw [List.map_id] at hall'
    rw [settingFrom_climb hl hown, if_neg fun hmem => hv (hsub hmem), hall']
    exact hjoin

/-- Where no cycle lies above, the climb has an answer. The levels that it has passed lie below, so
none of them is met again. -/
theorem exists_settingFrom {visiting : List String} {level : String}
    (acyclic : NoCycleFrom (c.HandsOn kind plugin key) level)
    (below : ∀ name ∈ visiting, TransGen (c.HandsOn kind plugin key) name level) :
    ∃ found, c.settingFrom kind plugin key visiting level = .ok found := by
  induction visiting, level using settingFrom.induct c kind plugin key with
  | case1 visiting level hl => exact ⟨none, settingFrom_unknown visiting hl⟩
  | case2 visiting level l hl text hown => exact ⟨some text, settingFrom_own visiting hl hown⟩
  | case3 visiting level l hl hown hv => exact absurd (below level hv) (acyclic level .refl)
  | case4 visiting level l hl hown hv ih =>
    have hall : ∃ found,
        (climbParents l level).mapM (c.settingFrom kind plugin key (visiting ++ [level]))
          = .ok found := by
      apply mapM_ok
      intro parent hp
      have hup : c.HandsOn kind plugin key level parent := (handsOn_iff hl hown).2 hp
      exact ih parent (acyclic.step hup) (transGen_of_mem_snoc below hup)
    obtain ⟨found, hfound⟩ := hall
    exact ⟨joinFound found, by rw [settingFrom_climb hl hown, if_neg hv, hfound]; rfl⟩

/-! ## The ways up -/

/-- A way from a level to the first level on it that gives a text, with that text. The way is given
by the positions of the parents that it takes, where the level itself does not count. -/
inductive Leads (c : Config) (kind : PluginKind) (plugin key : String) :
    String → List Nat → String → Prop
  | here {level text : String} {l : Level} :
      c.levels.get? level = some l → ownSetting l kind plugin key = some text →
      Leads c kind plugin key level [] text
  | up {level parent text : String} {l : Level} {i : Nat} {way : List Nat} :
      c.levels.get? level = some l → ownSetting l kind plugin key = none →
      (l.inheritsFrom.filter (· ≠ level))[i]? = some parent →
      Leads c kind plugin key parent way text →
      Leads c kind plugin key level (i :: way) text

/-- All ways from a level with their texts, depth first: a way stands before those that take a later
parent where they part. -/
structure ListsWays (c : Config) (kind : PluginKind) (plugin key level : String)
    (ways : List (List Nat × String)) : Prop where
  ascending : ways.Pairwise fun a b => a.1 < b.1
  mem_iff : ∀ way text, (way, text) ∈ ways ↔ c.Leads kind plugin key level way text

theorem listsWays_nil {level : String} (hl : c.levels.get? level = none) :
    c.ListsWays kind plugin key level [] := by
  refine ⟨List.Pairwise.nil, fun way text => ⟨fun h => (by cases h), fun h => ?_⟩⟩
  cases h with
  | here hl' => rw [hl] at hl'; cases hl'
  | up hl' => rw [hl] at hl'; cases hl'

theorem listsWays_here {level text : String} {l : Level} (hl : c.levels.get? level = some l)
    (hown : ownSetting l kind plugin key = some text) :
    c.ListsWays kind plugin key level [([], text)] := by
  refine ⟨List.pairwise_singleton _ _, fun way text' => ⟨fun h => ?_, fun h => ?_⟩⟩
  · cases List.mem_singleton.1 h
    exact .here hl hown
  · cases h with
    | here hl' hown' =>
      rw [hl] at hl'
      cases hl'
      rw [hown] at hown'
      cases hown'
      exact List.mem_singleton_self _
    | up hl' hown' =>
      rw [hl] at hl'
      cases hl'
      rw [hown] at hown'
      cases hown'

/-- The ways through some parents, the first of which has the position `k`. -/
theorem exists_ways_through {f : String → Except ConfigError (Option String)}
    (each : ∀ {parent found}, f parent = .ok found →
      ∃ ways, c.ListsWays kind plugin key parent ways ∧
        found.getD "" = String.join (ways.map (·.2)))
    {parents : List String} :
    ∀ {answers : List (Option String)} (k : Nat), parents.mapM f = .ok answers →
      ∃ ways : List (List Nat × String), ways.Pairwise (fun a b => a.1 < b.1) ∧
        (∀ way text, (way, text) ∈ ways ↔ ∃ i parent rest, parents[i]? = some parent ∧
          way = (k + i) :: rest ∧ c.Leads kind plugin key parent rest text) ∧
        String.join (answers.map (·.getD "")) = String.join (ways.map (·.2)) := by
  induction parents with
  | nil =>
    intro answers k h
    cases h
    exact ⟨[], List.Pairwise.nil, by simp, rfl⟩
  | cons p parents ih =>
    intro answers k h
    obtain ⟨answer, others, hp, hothers, rfl⟩ := mapM_cons_eq_ok_iff.1 h
    obtain ⟨first, hfirst, htext⟩ := each hp
    obtain ⟨later, hasc, hmem, hjoin⟩ := ih (k + 1) hothers
    refine ⟨first.map (fun w => (k :: w.1, w.2)) ++ later, ?_, ?_, ?_⟩
    · rw [List.pairwise_append, List.pairwise_map]
      refine ⟨hfirst.ascending.imp fun hab => List.cons_lt_cons_iff.2 (.inr ⟨rfl, hab⟩), hasc, ?_⟩
      rintro a ha ⟨way, text⟩ hb
      obtain ⟨w, _, rfl⟩ := List.mem_map.1 ha
      obtain ⟨i, _, rest, _, rfl, _⟩ := (hmem way text).1 hb
      exact List.cons_lt_cons_iff.2 (.inl (by omega))
    · intro way text
      rw [List.mem_append, hmem]
      constructor
      · rintro (h | ⟨i, parent, rest, hi, rfl, hleads⟩)
        · obtain ⟨⟨w, s⟩, hw, he⟩ := List.mem_map.1 h
          cases he
          exact ⟨0, p, w, rfl, rfl, (hfirst.mem_iff w s).1 hw⟩
        · exact ⟨i + 1, parent, rest, by simpa using hi, by congr 1; omega, hleads⟩
      · rintro ⟨i, parent, rest, hi, rfl, hleads⟩
        cases i with
        | zero =>
          cases hi
          exact .inl (List.mem_map.2 ⟨(rest, text), (hfirst.mem_iff rest text).2 hleads, rfl⟩)
        | succ i => exact .inr ⟨i, parent, rest, by simpa using hi, by congr 1; omega, hleads⟩
    · rw [List.map_cons, String.join_cons, htext, hjoin, List.map_append, String.join_append,
        List.map_map]
      rfl

theorem listsWays_up {level : String} {l : Level} (hl : c.levels.get? level = some l)
    (hown : ownSetting l kind plugin key = none) {ways : List (List Nat × String)}
    (hasc : ways.Pairwise fun a b => a.1 < b.1)
    (hmem : ∀ way text, (way, text) ∈ ways ↔ ∃ i parent rest,
      (climbParents l level)[i]? = some parent ∧ way = i :: rest ∧
        c.Leads kind plugin key parent rest text) :
    c.ListsWays kind plugin key level ways := by
  refine ⟨hasc, fun way text => (hmem way text).trans ⟨?_, ?_⟩⟩
  · rintro ⟨i, parent, rest, hi, rfl, hleads⟩
    exact .up hl hown hi hleads
  · intro h
    cases h with
    | here hl' hown' =>
      rw [hl] at hl'
      cases hl'
      rw [hown] at hown'
      cases hown'
    | up hl' _ hi hleads =>
      rw [hl] at hl'
      cases hl'
      exact ⟨_, _, _, hi, rfl, hleads⟩

/-- **The answer of a climb is the texts of all ways up, in their order.** -/
theorem settingFrom_ways {visiting : List String} {level : String} {found : Option String}
    (h : c.settingFrom kind plugin key visiting level = .ok found) :
    ∃ ways, c.ListsWays kind plugin key level ways ∧
      found.getD "" = String.join (ways.map (·.2)) := by
  induction visiting, level using settingFrom.induct c kind plugin key
    generalizing found with
  | case1 visiting level hl =>
    rw [settingFrom_unknown visiting hl] at h
    cases h
    exact ⟨[], listsWays_nil hl, rfl⟩
  | case2 visiting level l hl text hown =>
    rw [settingFrom_own visiting hl hown] at h
    cases h
    exact ⟨[([], text)], listsWays_here hl hown, by simp⟩
  | case3 visiting level l hl hown hv =>
    rw [settingFrom_climb hl hown, if_pos hv] at h
    cases h
  | case4 visiting level l hl hown hv ih =>
    rw [settingFrom_climb hl hown, if_neg hv, bind_eq_ok_iff] at h
    obtain ⟨answers, hall, h⟩ := h
    cases h
    obtain ⟨ways, hasc, hmem, hjoin⟩ :=
      exists_ways_through (fun {parent _} hp => ih parent hp) 0 hall
    simp only [Nat.zero_add] at hmem
    exact ⟨ways, listsWays_up hl hown hasc hmem, by rw [getD_joinFound, hjoin]⟩

/-! ## Questions without a default -/

theorem pluginSetting_none (level : String) :
    c.pluginSetting kind plugin level key none = c.settingFrom kind plugin key [] level := by
  unfold pluginSetting
  cases c.settingFrom kind plugin key [] level with
  | error e => rfl
  | ok found =>
    cases found <;> rfl

/-- **What a level has as a setting.** A value of its own that can be written and is not null is the
answer, as it is written. Any answer is the texts found on all ways up from the level, one behind
the other and depth first, where a way ends at the first level that gives a text. There is no answer
exactly where a way through known levels that give none comes back to a level on it. -/
theorem pluginSetting_eq_join_ways (c : Config) (kind : PluginKind) (plugin level key : String) :
    (∀ l v, c.levels.get? level = some l → l.setting? kind plugin key = some v → v ≠ .null →
      v.isWritable false = true → ∃ text, settingText v = some text ∧
        c.pluginSetting kind plugin level key none = .ok (some text)) ∧
    (∀ found, c.pluginSetting kind plugin level key none = .ok found →
      ∃ ways : List (List Nat × String), ways.Pairwise (fun a b => a.1 < b.1) ∧
        (∀ way text, (way, text) ∈ ways ↔ c.Leads kind plugin key level way text) ∧
        found.getD "" = String.join (ways.map (·.2))) ∧
    ((∃ chain, c.pluginSetting kind plugin level key none = .error (.inheritanceCycle chain)) ↔
      ∃ name, ReflTransGen (c.HandsOn kind plugin key) level name ∧
        TransGen (c.HandsOn kind plugin key) name name) := by
  rw [pluginSetting_none]
  refine ⟨?_, ?_, ?_, ?_⟩
  · intro l v hl hv hnull hwritable
    cases htext : settingText v with
    | none =>
      rcases settingText_eq_none_iff.1 htext with h | h
      · exact absurd h hnull
      · rw [hwritable] at h
        cases h
    | some text =>
      exact ⟨text, rfl, settingFrom_own [] hl (by rw [ownSetting, hv]; exact htext)⟩
  · intro found h
    obtain ⟨ways, hways, htext⟩ := settingFrom_ways h
    exact ⟨ways, hways.ascending, hways.mem_iff, htext⟩
  · rintro ⟨chain, h⟩
    apply Classical.byContradiction
    intro hno
    have acyclic : NoCycleFrom (c.HandsOn kind plugin key) level :=
      fun name hr ht => hno ⟨name, hr, ht⟩
    have below : ∀ name ∈ [], TransGen (c.HandsOn kind plugin key) name level :=
      fun _ hn => by cases hn
    obtain ⟨found, hfound⟩ := exists_settingFrom acyclic below
    rw [h] at hfound
    cases hfound
  · rintro ⟨name, hr, ht⟩
    cases hfound : c.settingFrom kind plugin key [] level with
    | ok found => exact absurd ht (noCycleFrom_of_acc (settingFrom_acc hfound) name hr)
    | error e =>
      obtain ⟨chain, rfl⟩ := settingFrom_error hfound
      exact ⟨chain, rfl⟩

/-- Two levels that give the same setting, the lower one as a mapping whose only key is a mapping of
one pair. -/
def mappedBelow : Config :=
  let settings (v : Yaml.Value) : Option PluginTable :=
    some (.ofList [("t", some (.ofList [("flags", v)]))])
  { levels := .ofList
      [("a", { tool := settings (.map [(.map [(.string "k", .int 1)], .int 2)])
               inheritsFrom := ["b"] }),
       ("b", { tool := settings (.string "up") })] }

/-- A value of its own is not enough: the mapping on the lower level cannot be written, so the level
above answers. -/
theorem pluginSetting_mappedBelow :
    ∃ l v, mappedBelow.levels.get? "a" = some l ∧ l.setting? .tool "t" "flags" = some v ∧
      v ≠ .null ∧ Text.trimEnd v.block = "? k: 1\n: 2" ∧
      mappedBelow.pluginSetting .tool "t" "a" "flags" none = .ok (some "up") := by
  refine ⟨_, _, rfl, rfl, ?_, ?_, ?_⟩
  · intro h
    cases h
  · decide +kernel
  · rw [pluginSetting_none, settingFrom_climb rfl rfl]
    decide +kernel

end Config

end LintScan
