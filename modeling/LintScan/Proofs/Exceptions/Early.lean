import LintScan.Proofs.Exceptions.Filter

/-!
# Files that no tool is run on

A file rule for all tools is applied twice: to the files that discovery finds, so that no tool is
run on them, and to the issues that the tools report. This file compares the two for one file at a
time.

* `CoveredByName`, `CoveredFromRoot` — the two ways in which a rule for all tools can cover a file:
  a pattern matches its name, or its path from the root of the package.
* `mem_filterFilesEarly_iff` — before the tools run, only the files covered by name are dropped.
* `wouldIgnore_iff` — the issues of an absolute file are dropped if it is covered in either way.
* `filterFilesEarly_hides_only_ignored` — so no file is dropped whose issues would count.
* `filterFilesEarly_drops_ignored_iff` — the converse holds of the files that are covered by name
  if they are covered from the root; `filterFilesEarly_testsRule` is a file for which it fails.
-/

namespace LintScan

/-- The path of a file as seen from a directory, or its name where there is none. -/
def pathFromRoot (root : Path) (file : String) : String :=
  match Path.relativeTo? ⟨file⟩ root with
  | some p => p.text
  | none => file

theorem Issue.pathFrom_eq (i : Issue) (root : Path) :
    i.pathFrom root = pathFromRoot root i.filename := rfl

theorem ToolScope.isAll_iff {s : ToolScope} : s.isAll = true ↔ s = .all := by
  cases s <;> simp [isAll]

/-- An issue is gone from a map of which only some issues are kept exactly if it is not kept. -/
theorem IssueMap.gone_iff {m : IssueMap} {keep : String → Issue → Bool} {tool : String}
    {issues : List Issue} {i : Issue} (hm : m.get? tool = some issues) (hi : i ∈ issues) :
    (∀ kept, (m.filterEach keep).get? tool = some kept → i ∉ kept) ↔ keep tool i = false := by
  rw [IssueMap.get?_filterEach, hm]
  simp [hi]

/-! ## Rules for all tools -/

/-- The rule makes the file stage drop some issue that is reported for the file. -/
def FileRule.DropsIssueIn (r : FileRule) (root : Path) (file : String) : Prop :=
  ∃ (m : IssueMap) (tool : String) (issues : List Issue) (i : Issue),
    m.get? tool = some issues ∧ i ∈ issues ∧ i.filename = file ∧
      ∀ kept, (fileStage root [r] m {}).issues.get? tool = some kept → i ∉ kept

theorem FileRule.dropsIssueIn_iff {r : FileRule} {root : Path} {file : String}
    (hall : r.tools = .all) :
    r.DropsIssueIn root file ↔ Path.isAbsolute ⟨file⟩ = true ∧
      ∃ g ∈ r.globs, ∃ p, FilePattern.ofString? g = some p ∧
        (p.acceptsFile file = true ∨ p.accepts (pathFromRoot root file) = true) := by
  -- what the stage does with an issue depends on the file alone, as the rule is for all tools
  have hdrops : ∀ (tool : String) (i : Issue), i.filename = file →
      (fileDrops root [r] tool i = true ↔ Path.isAbsolute ⟨file⟩ = true ∧
        ∃ g ∈ r.globs, ∃ p, FilePattern.ofString? g = some p ∧
          (p.acceptsFile file = true ∨ p.accepts (pathFromRoot root file) = true)) := by
    rintro tool i rfl
    rw [fileDrops_iff]
    simp [hall, ToolScope.has, Issue.isLocated, Issue.pathFrom_eq]
  constructor
  · rintro ⟨m, tool, issues, i, hm, hi, hfile, hgone⟩
    rw [issues_fileStage, IssueMap.gone_iff hm hi, Bool.not_eq_false'] at hgone
    exact (hdrops tool i hfile).1 hgone
  · intro hcovered
    let i : Issue := ⟨file, 1, "", "", 0, "", none⟩
    have hm : (SortedTable.ofList [("", [i])] : IssueMap).get? "" = some [i] := rfl
    refine ⟨_, "", [i], i, hm, List.mem_singleton_self i, rfl, ?_⟩
    rw [issues_fileStage, IssueMap.gone_iff hm (List.mem_singleton_self i), Bool.not_eq_false']
    exact (hdrops "" i rfl).2 hcovered

namespace Exceptions

variable {x : Exceptions} {h : Host} {package : String} {root : Path} {file : String}
  {files : List String}

/-- A pattern that can be read, of a rule for all tools: a global one or one of the package. -/
def HasPatternForAll (x : Exceptions) (package : String) (p : FilePattern) : Prop :=
  ∃ r, x.HasFileRule package r ∧ r.tools = .all ∧ ∃ g ∈ r.globs, FilePattern.ofString? g = some p

/-- A rule for all tools covers the file by its name. -/
def CoveredByName (x : Exceptions) (package file : String) : Prop :=
  ∃ p, x.HasPatternForAll package p ∧ p.acceptsFile file = true

/-- A rule for all tools covers the file by its path from the root of the package. -/
def CoveredFromRoot (x : Exceptions) (package : String) (root : Path) (file : String) : Prop :=
  ∃ p, x.HasPatternForAll package p ∧ p.accepts (pathFromRoot root file) = true

/-- Some rule for all tools makes the file stage drop an issue that is reported for the file. -/
def WouldIgnore (x : Exceptions) (package : String) (root : Path) (file : String) : Prop :=
  ∃ r, x.HasFileRule package r ∧ r.tools = .all ∧ r.DropsIssueIn root file

/-! ## Before the tools run -/

theorem any_earlyGlobs_iff {accept : FilePattern → Bool} :
    (((x.earlyGlobs package).map FilePattern.compile).any fun ps => ps.any accept) = true ↔
      ∃ p, x.HasPatternForAll package p ∧ accept p = true := by
  unfold earlyGlobs HasPatternForAll
  rw [List.any_map, List.any_map, List.any_filter, List.any_eq_true]
  simp only [Function.comp_apply, Bool.and_eq_true, any_compile_iff, mem_file_rulesFor,
    ToolScope.isAll_iff]
  constructor
  · rintro ⟨r, hr, hall, g, hg, p, hp, ha⟩
    exact ⟨p, ⟨r, hr, hall, g, hg, hp⟩, ha⟩
  · rintro ⟨p, ⟨r, hr, hall, g, hg, hp⟩, ha⟩
    exact ⟨r, hr, hall, g, hg, p, hp, ha⟩

instance : Decidable (x.CoveredByName package file) := decidable_of_iff _ any_earlyGlobs_iff

instance : Decidable (x.CoveredFromRoot package root file) :=
  decidable_of_iff _ any_earlyGlobs_iff

theorem filterFilesEarly_eq_filter :
    (x.filterFilesEarly package files).1 =
      files.filter fun f => decide (¬ x.CoveredByName package f) := by
  unfold filterFilesEarly
  apply List.filter_congr
  intro f _
  rw [Bool.eq_iff_iff, Bool.not_eq_true', ← Bool.not_eq_true, any_earlyGlobs_iff,
    decide_eq_true_iff, CoveredByName]

theorem mem_filterFilesEarly_iff :
    file ∈ (x.filterFilesEarly package files).1 ↔
      file ∈ files ∧ ¬ x.CoveredByName package file := by
  rw [filterFilesEarly_eq_filter, List.mem_filter, decide_eq_true_iff]

/-! ## After the tools have run -/

theorem wouldIgnore_iff :
    x.WouldIgnore package root file ↔ Path.isAbsolute ⟨file⟩ = true ∧
      (x.CoveredByName package file ∨ x.CoveredFromRoot package root file) := by
  unfold WouldIgnore CoveredByName CoveredFromRoot HasPatternForAll
  constructor
  · rintro ⟨r, hr, hall, hdrops⟩
    obtain ⟨habs, g, hg, p, hp, ha⟩ := (FileRule.dropsIssueIn_iff hall).1 hdrops
    refine ⟨habs, ha.imp ?_ ?_⟩
    · exact fun ha => ⟨p, ⟨r, hr, hall, g, hg, hp⟩, ha⟩
    · exact fun ha => ⟨p, ⟨r, hr, hall, g, hg, hp⟩, ha⟩
  · rintro ⟨habs, ⟨p, ⟨r, hr, hall, g, hg, hp⟩, ha⟩ | ⟨p, ⟨r, hr, hall, g, hg, hp⟩, ha⟩⟩
    · exact ⟨r, hr, hall, (FileRule.dropsIssueIn_iff hall).2 ⟨habs, g, hg, p, hp, .inl ha⟩⟩
    · exact ⟨r, hr, hall, (FileRule.dropsIssueIn_iff hall).2 ⟨habs, g, hg, p, hp, .inr ha⟩⟩

/-- A rule for all tools that covers a file by its name covers its issues for each tool. -/
theorem CoveredByName.ignored {i : Issue} (hcovered : x.CoveredByName package i.filename)
    (habs : i.isLocated = true) (tool : String) : x.Ignored h package root tool i := by
  obtain ⟨p, ⟨r, hr, hall, g, hg, hp⟩, ha⟩ := hcovered
  exact .inl ⟨habs, r, hr, by rw [hall]; rfl, g, hg, p, hp, .inl ha⟩

/-! ## Both together -/

/-- **No file is dropped whose issues would count.** Before the tools run, exactly the files that a
rule for all tools covers by their names are dropped, all occurrences of them, and the others stay
in their order. Of a file that is dropped no issue would be left by a pass, whatever the tool. -/
theorem filterFilesEarly_hides_only_ignored (x : Exceptions) (h : Host) (package : String)
    (root : Path) (files : List String) :
    (x.filterFilesEarly package files).1 =
      files.filter (fun f => decide (¬ x.CoveredByName package f)) ∧
    (∀ f, (x.filterFilesEarly package files).1.count f =
      if x.CoveredByName package f then 0 else files.count f) ∧
    ∀ f ∈ files, Path.isAbsolute ⟨f⟩ = true → f ∉ (x.filterFilesEarly package files).1 →
      ∀ (m : IssueMap) (tool : String) (issues : List Issue) (i : Issue),
        m.get? tool = some issues → i ∈ issues → i.filename = f →
        ∀ kept, (x.filterIssues h package root m {}).issues.get? tool = some kept → i ∉ kept := by
  refine ⟨filterFilesEarly_eq_filter, fun f => ?_, ?_⟩
  · rw [filterFilesEarly_eq_filter]
    split
    · rename_i hcovered
      rw [List.count_eq_zero]
      simp [hcovered]
    · rename_i hfree
      exact List.count_filter (by simpa using hfree)
  · rintro f hf habs hdropped m tool issues i hm hi rfl
    have hcovered : x.CoveredByName package i.filename :=
      Decidable.byContradiction fun hfree => hdropped (mem_filterFilesEarly_iff.2 ⟨hf, hfree⟩)
    rw [issues_filterIssues_eq (FilterPass.remembers_empty h), IssueMap.gone_iff hm hi,
      decide_eq_false_iff_not, Decidable.not_not]
    exact hcovered.ignored habs tool

/-- **When a file whose issues would be ignored is dropped.** A file that discovery has found is
dropped if a rule for all tools would drop issues of it, exactly when that rule or another one for
all tools covers it by its name as soon as one covers it by its path from the root. -/
theorem filterFilesEarly_drops_ignored_iff (hf : file ∈ files)
    (habs : Path.isAbsolute ⟨file⟩ = true) :
    (x.WouldIgnore package root file → file ∉ (x.filterFilesEarly package files).1) ↔
      (x.CoveredFromRoot package root file → x.CoveredByName package file) := by
  rw [wouldIgnore_iff, mem_filterFilesEarly_iff]
  constructor
  · intro hdrops hroot
    exact Decidable.byContradiction fun hfree => hdrops ⟨habs, .inr hroot⟩ ⟨hf, hfree⟩
  · rintro hname ⟨_, hcovered⟩ ⟨_, hfree⟩
    exact hfree (hcovered.elim id hname)

/-- A document with one rule for all tools, which is given by its patterns. -/
def forAllTools (globs : List String) : Exceptions := { global := { file := [⟨.all, globs⟩] } }

/-- A pattern for a directory at any depth matches the name as well as the path from the root. -/
theorem filterFilesEarly_generated :
    "/src/pkg/gen/b.py" ∈ ["/src/pkg/a.py", "/src/pkg/gen/b.py"] ∧
      Path.isAbsolute ⟨"/src/pkg/gen/b.py"⟩ = true ∧
      (forAllTools ["*/gen/*"]).WouldIgnore "pkg" ⟨"/src/pkg"⟩ "/src/pkg/gen/b.py" ∧
      "/src/pkg/gen/b.py" ∉ ((forAllTools ["*/gen/*"]).filterFilesEarly "pkg"
        ["/src/pkg/a.py", "/src/pkg/gen/b.py"]).1 := by
  have hname : (forAllTools ["*/gen/*"]).CoveredByName "pkg" "/src/pkg/gen/b.py" := by
    decide +kernel
  have habs : Path.isAbsolute ⟨"/src/pkg/gen/b.py"⟩ = true := by decide
  have hignored : (forAllTools ["*/gen/*"]).WouldIgnore "pkg" ⟨"/src/pkg"⟩ "/src/pkg/gen/b.py" :=
    wouldIgnore_iff.2 ⟨habs, .inl hname⟩
  refine ⟨by decide, habs, hignored, ?_⟩
  exact (filterFilesEarly_drops_ignored_iff (by decide) habs).2 (fun _ => hname) hignored

/-- A pattern for a directory at the root of the package matches the path from there, but not the
name. The file is kept for the tools, and then none of their issues on it count. -/
theorem filterFilesEarly_testsRule :
    Path.isAbsolute ⟨"/src/pkg/tests/a.py"⟩ = true ∧
      (forAllTools ["tests/*"]).WouldIgnore "pkg" ⟨"/src/pkg"⟩ "/src/pkg/tests/a.py" ∧
      ((forAllTools ["tests/*"]).filterFilesEarly "pkg" ["/src/pkg/tests/a.py"]).1 =
        ["/src/pkg/tests/a.py"] := by
  have habs : Path.isAbsolute ⟨"/src/pkg/tests/a.py"⟩ = true := by decide
  refine ⟨habs, wouldIgnore_iff.2 ⟨habs, .inr ?_⟩, ?_⟩
  · decide +kernel
  · decide +kernel

end Exceptions

end LintScan
