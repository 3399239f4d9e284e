import LintScan.Proofs.Tool.Flags

/-!
# Flags of several parents

A level without flags of its own takes what its parents have, one text behind the other, before the
whole is put on a line and cut into flags.

* `parentsOf` — the parents that a level asks, none for a level that is not known.
* `settingFrom_parents` — what a level inherits is the answers of its parents as one text.
* `splitWords_flatten` — the flags of a text without quotes and backslashes are its words.
* `userFlags_eq_flatten_parents_iff` — so a level has the flags of its parents exactly if no two
  texts that follow one another meet without a blank. `userFlags_gluedParents` is where two do.
-/

namespace LintScan

namespace Config

variable {c : Config} {kind : PluginKind} {plugin key level tool : String}

/-- The parents that a level asks for what it does not have. -/
def parentsOf (c : Config) (level : String) : List String :=
  match c.levels.get? level with
  | some l => climbParents l level
  | none => []

/-- A level without a setting of its own has the answers of its parents as one text. -/
theorem settingFrom_parents {found : Option String}
    (hown : ∀ l, c.levels.get? level = some l → ownSetting l kind plugin key = none)
    (h : c.settingFrom kind plugin key [] level = .ok found) :
    ∃ answers, (c.parentsOf level).mapM (c.settingFrom kind plugin key []) = .ok answers ∧
      found.getD "" = String.join (answers.map (·.getD "")) := by
  unfold parentsOf
  cases hl : c.levels.get? level with
  | none =>
    rw [settingFrom_unknown [] hl] at h
    cases h
    exact ⟨[], rfl, rfl⟩
  | some l =>
    rw [settingFrom_climb hl (hown l hl), if_neg (by simp), bind_eq_ok_iff] at h
    obtain ⟨answers, hall, h⟩ := h
    cases h
    -- each parent is asked again on its own, where the climb has not passed the level
    have halone := mapM_ok_map (k := id) hall fun parent _ _ hp =>
      settingFrom_of_subset hp (List.nil_subset _)
    rw [List.map_id] at halone
    exact ⟨answers, halone, getD_joinFound answers⟩

end Config

/-- Without quotes and backslashes, the flags of a text are its words. -/
theorem splitWords_flatten {s : String} (h : ∀ ch ∈ s.toList, isQuoting ch = false) :
    splitWords (Config.flatten s) = Text.words s := by
  have hword : ∀ t ∈ Text.words s, Text.IsWord t.toList := fun t ht => Text.isWord_of_mem_words ht
  have hplain : ∀ ch ∈ (Text.join " " (Text.words s)).toList, isQuoting ch = false := by
    intro ch hch
    rcases Text.mem_join hch with rfl | ⟨t, ht, hch⟩
    · decide
    · exact h ch (Text.mem_of_mem_words ht hch)
  have hline : Config.flatten s = Text.join " " (Text.words s) := by
    have hquote : ∀ ch ∈ (Text.join " " (Text.words s)).toList, (ch == '"') = false := by
      intro ch hch
      simpa using (isQuoting_eq_false_iff.1 (hplain ch hch)).1
    rw [Config.flatten, Text.stripWhere_of_not_mem hquote]
    by_cases hnone : Text.words s = []
    · rw [hnone]
      rfl
    · rw [Text.trimChars_of_spaced (Text.spaced_join hnone fun t ht => (hword t ht).spaced),
        String.ofList_toList]
  rw [hline, splitWords_eq_words hplain, Text.words_join hword]

/-- **What a level inherits as flags.** A level without flags of its own, whose parents have flags
without quotes and backslashes, gives a tool the flags of its parents one after the other exactly if
of the texts that they have, those that are not empty follow one another with a blank in between:
where one ends and the next one begins with another character, two flags become one. -/
theorem userFlags_eq_flatten_parents_iff {c : Config} {tool level : String} {flags : List String}
    (hown : ∀ l, c.levels.get? level = some l → Config.ownSetting l .tool tool "flags" = none)
    (hflags : c.userFlags tool level = .ok flags)
    (hplain : ∀ parent ∈ c.parentsOf level, ∀ text,
      c.pluginSetting .tool tool parent "flags" none = .ok (some text) →
      ∀ ch ∈ text.toList, isQuoting ch = false) :
    ∃ (texts : List String) (given : List (List String)),
      (c.parentsOf level).mapM (fun parent =>
        (c.pluginSetting .tool tool parent "flags" none).map (·.getD "")) = .ok texts ∧
      (c.parentsOf level).mapM (c.userFlags tool) = .ok given ∧
      (flags = given.flatten ↔
        (texts.filter (· ≠ "")).IsChain fun a b => ¬ Text.Touches a.toList b.toList) := by
  rw [userFlags_eq, Config.pluginSetting_none, map_eq_ok_iff] at hflags
  obtain ⟨found, hfound, rfl⟩ := hflags
  obtain ⟨answers, hall, htext⟩ := Config.settingFrom_parents hown hfound
  have hquoting : ∀ answer ∈ answers, ∀ ch ∈ (answer.getD "").toList, isQuoting ch = false := by
    intro answer hanswer
    obtain ⟨parent, hparent, hp⟩ := mapM_ok_mem hall answer hanswer
    cases answer with
    | none => exact fun ch hch => by cases hch
    | some text => exact hplain parent hparent text (by rw [Config.pluginSetting_none, hp])
  have hjoined : ∀ ch ∈ (found.getD "").toList, isQuoting ch = false := by
    intro ch hch
    rw [htext, String.toList_join, List.mem_flatMap] at hch
    obtain ⟨text, htext, hch⟩ := hch
    obtain ⟨answer, hanswer, rfl⟩ := List.mem_map.1 htext
    exact hquoting answer hanswer ch hch
  refine ⟨answers.map (·.getD ""),
    answers.map fun answer => splitWords (Config.flatten (answer.getD "")), ?_, ?_, ?_⟩
  · refine mapM_ok_map hall fun parent _ answer hp => ?_
    rw [Config.pluginSetting_none, hp]
    rfl
  · refine mapM_ok_map hall fun parent _ answer hp => ?_
    rw [userFlags_eq, Config.pluginSetting_none, hp]
    rfl
  · have hwords : (answers.map fun answer => splitWords (Config.flatten (answer.getD ""))) =
        (answers.map (·.getD "")).map Text.words := by
      rw [List.map_map]
      exact List.map_congr_left fun answer hanswer => splitWords_flatten (hquoting answer hanswer)
    rw [hwords, ← List.flatMap_def, splitWords_flatten hjoined, htext, Text.words_concat_iff]

/-- A level with two parents that give a tool their flags. -/
def twoParents (first second : String) : Config :=
  { levels := .ofList
      [("all", { inheritsFrom := ["base", "extra"] }), ("base", flaggedLevel first),
       ("extra", flaggedLevel second)] }

theorem pluginSetting_twoParents (first second : String) :
    (twoParents first second).pluginSetting .tool "pylint" "base" "flags" none =
      .ok (some first) ∧
    (twoParents first second).pluginSetting .tool "pylint" "extra" "flags" none =
      .ok (some second) := by
  rw [Config.pluginSetting_none, Config.pluginSetting_none]
  exact ⟨Config.settingFrom_own [] rfl rfl, Config.settingFrom_own [] rfl rfl⟩

theorem userFlags_twoParents (first second : String) :
    (twoParents first second).userFlags "pylint" "all" =
      .ok (splitWords (Config.flatten (first ++ second))) := by
  have hall : ["base", "extra"].mapM
      ((twoParents first second).settingFrom .tool "pylint" "flags" ([] ++ ["all"])) =
      .ok [some first, some second] :=
    mapM_cons_eq_ok_iff.2 ⟨_, _, Config.settingFrom_own _ rfl rfl,
      mapM_cons_eq_ok_iff.2 ⟨_, _, Config.settingFrom_own _ rfl rfl, rfl, rfl⟩, rfl⟩
  have hparents : Config.climbParents { inheritsFrom := ["base", "extra"] } "all" =
      ["base", "extra"] := by decide
  rw [userFlags_eq, Config.pluginSetting_none, Config.settingFrom_climb rfl rfl,
    if_neg List.not_mem_nil, hparents, hall, map_eq_ok_iff]
  refine ⟨_, rfl, ?_⟩
  rw [Config.getD_joinFound]
  simp

/-- A blank at the end of the first text keeps the flags of the two parents apart. -/
theorem userFlags_spacedParents :
    (twoParents "-Wall " "-Wextra").userFlags "pylint" "all" = .ok ["-Wall", "-Wextra"] ∧
    ∃ given, ["base", "extra"].mapM ((twoParents "-Wall " "-Wextra").userFlags "pylint") =
      .ok given ∧ ["-Wall", "-Wextra"] = given.flatten := by
  have hflags : (twoParents "-Wall " "-Wextra").userFlags "pylint" "all" =
      .ok ["-Wall", "-Wextra"] := by
    rw [userFlags_twoParents]
    exact congrArg Except.ok (by decide +kernel)
  obtain ⟨hbase, hextra⟩ := pluginSetting_twoParents "-Wall " "-Wextra"
  have hown : ∀ l, (twoParents "-Wall " "-Wextra").levels.get? "all" = some l →
      Config.ownSetting l .tool "pylint" "flags" = none := by
    rintro l ⟨⟩
    rfl
  have hplain : ∀ parent ∈ (twoParents "-Wall " "-Wextra").parentsOf "all", ∀ text,
      (twoParents "-Wall " "-Wextra").pluginSetting .tool "pylint" parent "flags" none =
        .ok (some text) → ∀ ch ∈ text.toList, isQuoting ch = false := by
    intro parent hparent text htext
    have hparent : parent = "base" ∨ parent = "extra" := by
      simpa using (show parent ∈ ["base", "extra"] from hparent)
    rcases hparent with rfl | rfl
    · cases hbase.symm.trans htext
      simp [isQuoting]
    · cases hextra.symm.trans htext
      simp [isQuoting]
  obtain ⟨texts, given, htexts, hgiven, hiff⟩ :=
    userFlags_eq_flatten_parents_iff hown hflags hplain
  refine ⟨hflags, given, hgiven, hiff.2 ?_⟩
  obtain ⟨first, rest, hfirst, hrest, rfl⟩ := mapM_cons_eq_ok_iff.1 htexts
  obtain ⟨second, _, hsecond, hnil, rfl⟩ := mapM_cons_eq_ok_iff.1 hrest
  rw [hbase] at hfirst
  rw [hextra] at hsecond
  cases hfirst
  cases hsecond
  cases hnil
  refine List.isChain_cons_cons.2 ⟨?_, List.isChain_singleton _⟩
  rintro ⟨⟨c, ⟨⟩, hblank⟩, _⟩
  exact absurd hblank (by decide)

/-- Without a blank between the two texts, the last flag of the one parent and the first flag of the
other one become a flag that neither has. -/
theorem userFlags_gluedParents :
    (∀ l, (twoParents "-Wall" "-Wextra").levels.get? "all" = some l →
      Config.ownSetting l .tool "pylint" "flags" = none) ∧
    (twoParents "-Wall" "-Wextra").parentsOf "all" = ["base", "extra"] ∧
    ["base", "extra"].mapM ((twoParents "-Wall" "-Wextra").userFlags "pylint") =
      .ok [["-Wall"], ["-Wextra"]] ∧
    (twoParents "-Wall" "-Wextra").userFlags "pylint" "all" = .ok ["-Wall-Wextra"] := by
  obtain ⟨hbase, hextra⟩ := pluginSetting_twoParents "-Wall" "-Wextra"
  refine ⟨?_, by decide, ?_, ?_⟩
  · rintro l ⟨⟩
    rfl
  · have hfirst : (twoParents "-Wall" "-Wextra").userFlags "pylint" "base" = .ok ["-Wall"] := by
      rw [userFlags_eq, hbase]
      exact congrArg Except.ok (by decide +kernel)
    have hsecond : (twoParents "-Wall" "-Wextra").userFlags "pylint" "extra" =
        .ok ["-Wextra"] := by
      rw [userFlags_eq, hextra]
      exact congrArg Except.ok (by decide +kernel)
    exact mapM_cons_eq_ok_iff.2 ⟨_, _, hfirst, mapM_cons_eq_ok_iff.2 ⟨_, _, hsecond, rfl, rfl⟩, rfl⟩
  · rw [userFlags_twoParents]
    exact congrArg Except.ok (by decide +kernel)

end LintScan
