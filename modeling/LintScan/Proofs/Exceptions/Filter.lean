import LintScan.Exceptions.Filter
import LintScan.Proofs.Text.Pieces

/-!
# Which issues count

Issues are dropped in three stages that share the files read so far and the tools warned about.
This file says which issues are dropped, for one issue at a time:

* `IgnoredByFile`, `IgnoredByMessage`, `IgnoredByMarker` — the three reasons why an issue does not
  count.
* `Remembers` — what is kept of a file is what is in it; the stages preserve this.
* `issues_run` — each stage keeps exactly the issues that it has no reason to drop.
* `issues_runAll` — and so does any sequence of stages, whatever their order.
* `filterIssues_eq_filter_ignored` — the three stages of a pass, with what follows for a second
  pass and for passes in another order.
* `acceptsFile_iff` — when the pattern of a file rule matches the name of a file.
* `filterIssues_congr` — a pass looks at nothing on the machine but the files of issues.
-/

namespace LintScan

/-! ## Reasons to ignore an issue -/

/-- The path of the file of an issue as seen from a directory, or its name where there is none. -/
def Issue.pathFrom (i : Issue) (root : Path) : String :=
  match Path.relativeTo? ⟨i.filename⟩ root with
  | some p => p.text
  | none => i.filename

namespace Exceptions

/-- A file rule that applies to a package: a global one or one of its own. -/
def HasFileRule (x : Exceptions) (package : String) (r : FileRule) : Prop :=
  r ∈ x.global.file ∨ ∃ own, x.packages.get? package = some own ∧ r ∈ own.file

/-- A message rule that applies to a package: a global one or one of its own. -/
def HasRegexRule (x : Exceptions) (package : String) (r : RegexRule) : Prop :=
  r ∈ x.global.messageRegex ∨
    ∃ own, x.packages.get? package = some own ∧ r ∈ own.messageRegex

/-- A file rule for the tool has a pattern that can be read and that matches the absolute name of
the file, or its path from the root of the package. -/
def IgnoredByFile (x : Exceptions) (package : String) (root : Path) (tool : String) (i : Issue) :
    Prop :=
  i.isLocated = true ∧ ∃ r, x.HasFileRule package r ∧ r.tools.has tool = true ∧
    ∃ g ∈ r.globs, ∃ p, FilePattern.ofString? g = some p ∧
      (p.acceptsFile i.filename = true ∨ p.accepts (i.pathFrom root) = true)

/-- A message rule for the tool can be read and matches the message, and has no patterns or one that
can be read and that matches the name of the file. -/
def IgnoredByMessage (x : Exceptions) (package : String) (tool : String) (i : Issue) : Prop :=
  ∃ r, x.HasRegexRule package r ∧ r.tools.has tool = true ∧
    (∃ regex, r.compile = .ok regex ∧ regex.matchesIn i.message = true) ∧
    (r.globs = none ∨ ∃ globs, r.globs = some globs ∧
      ∃ g ∈ globs, ∃ p, FilePattern.ofString? g = some p ∧ p.accepts i.filename = true)

/-- The file has an absolute name and can be read, and the line of the issue is there and holds the
marker. -/
def IgnoredByMarker (h : Host) (i : Issue) : Prop :=
  i.isLocated = true ∧ 1 ≤ i.lineNumber ∧
    ∃ lines, FilterPass.linesOfFile h i.filename = some lines ∧
      ∃ line, lines[(i.lineNumber - 1).toNat]? = some line ∧ Text.occursIn lineMarker line = true

theorem mem_file_rulesFor {x : Exceptions} {package : String} {r : FileRule} :
    r ∈ (x.rulesFor package).file ↔ x.HasFileRule package r := by
  unfold rulesFor HasFileRule
  cases x.packages.get? package with
  | none => simp
  | some own => simp [RuleSet.append]

theorem mem_messageRegex_rulesFor {x : Exceptions} {package : String} {r : RegexRule} :
    r ∈ (x.rulesFor package).messageRegex ↔ x.HasRegexRule package r := by
  unfold rulesFor HasRegexRule
  cases x.packages.get? package with
  | none => simp
  | some own => simp [RuleSet.append]

end Exceptions

/-! ## Files -/

namespace FilePattern

variable {p : FilePattern} {filename : String}

/-- A pattern other than that for build directories sees a whole file name. -/
theorem sees_of_ne (h : p.source ≠ buildPattern) : p.sees filename = filename := by
  unfold sees
  rw [if_neg h]

/-- The pattern for build directories sees of a file in a checkout what stands behind the directory
of the checkouts. -/
theorem sees_checkout (h : p.source = buildPattern) (rest : String) :
    p.sees (checkoutLead ++ rest) = rest := by
  unfold sees
  rw [if_pos h, String.toList_append, Text.afterLead?_eq_some_iff.2 rfl]
  exact String.ofList_toList

/-- It sees the whole name of any other file. -/
theorem sees_elsewhere (h : ∀ rest, filename ≠ checkoutLead ++ rest) :
    p.sees filename = filename := by
  unfold sees
  split
  · split
    · rename_i rest hrest
      refine absurd (String.toList_inj.1 ?_) (h (String.ofList rest))
      rw [Text.afterLead?_eq_some_iff.1 hrest, String.toList_append, String.toList_ofList]
    · rfl
  · rfl

/-- Whether a pattern matches the name of a file, said without what it sees: but for the pattern for
build directories and the files of a checkout, it has to match the whole name. -/
theorem acceptsFile_iff : p.acceptsFile filename = true ↔
    (∃ rest, p.source = buildPattern ∧ filename = checkoutLead ++ rest ∧ p.accepts rest = true) ∨
      (p.source = buildPattern → ∀ rest, filename ≠ checkoutLead ++ rest) ∧
        p.accepts filename = true := by
  unfold acceptsFile
  by_cases hsource : p.source = buildPattern
  · by_cases hlead : ∃ rest, filename = checkoutLead ++ rest
    · obtain ⟨rest, rfl⟩ := hlead
      rw [sees_checkout hsource]
      simp [hsource]
    · rw [not_exists] at hlead
      rw [sees_elsewhere hlead]
      simp [hlead]
  · rw [sees_of_ne hsource]
    simp [hsource]

end FilePattern

/-- Whether one of the file rules drops an issue of a tool. -/
def fileDrops (root : Path) (rules : List FileRule) (tool : String) (i : Issue) : Bool :=
  i.isLocated &&
    i.isInFiles root (patternsFor (rules.map fun r => (r.tools, FilePattern.compile r.globs)) tool)

theorem issues_fileStage (root : Path) (rules : List FileRule) (m : IssueMap) (pass : FilterPass) :
    (fileStage root rules m pass).issues =
      m.filterEach fun tool i => !fileDrops root rules tool i := rfl

theorem fileDrops_nil (root : Path) (tool : String) (i : Issue) :
    fileDrops root [] tool i = false := by
  simp [fileDrops, patternsFor, Issue.isInFiles]

theorem any_compile_iff {globs : List String} {accept : FilePattern → Bool} :
    (FilePattern.compile globs).any accept = true ↔
      ∃ g ∈ globs, ∃ p, FilePattern.ofString? g = some p ∧ accept p = true := by
  rw [List.any_eq_true]
  unfold FilePattern.compile
  constructor
  · rintro ⟨p, hp, ha⟩
    obtain ⟨g, hg, hgp⟩ := List.mem_filterMap.1 hp
    exact ⟨g, hg, p, hgp, ha⟩
  · rintro ⟨g, hg, p, hgp, ha⟩
    exact ⟨p, List.mem_filterMap.2 ⟨g, hg, hgp⟩, ha⟩

theorem fileDrops_iff {root : Path} {rules : List FileRule} {tool : String} {i : Issue} :
    fileDrops root rules tool i = true ↔
      i.isLocated = true ∧ ∃ r ∈ rules, r.tools.has tool = true ∧
        ∃ g ∈ r.globs, ∃ p, FilePattern.ofString? g = some p ∧
          (p.acceptsFile i.filename = true ∨ p.accepts (i.pathFrom root) = true) := by
  have hpath : ∀ patterns, i.isInFiles root patterns =
      patterns.any fun ps => ps.any fun p =>
        p.acceptsFile i.filename || p.accepts (i.pathFrom root) := fun _ => rfl
  unfold fileDrops patternsFor
  rw [Bool.and_eq_true, hpath, List.any_map, List.any_filter, List.any_map, List.any_eq_true]
  simp only [Function.comp_apply, Bool.and_eq_true, any_compile_iff, Bool.or_eq_true]

/-! ## Messages -/

/-- Whether a message rule drops an issue of a tool. -/
def RegexRule.drops (r : RegexRule) (tool : String) (i : Issue) : Bool :=
  match r.compile with
  | .error _ => false
  | .ok regex => r.tools.has tool && i.isCovered regex (r.globs.map FilePattern.compile)

/-- Whether one of the message rules drops an issue of a tool. -/
def messageDrops (rules : List RegexRule) (tool : String) (i : Issue) : Bool :=
  rules.any (·.drops tool i)

theorem issues_messageRule (r : RegexRule) (m : IssueMap) :
    (messageRule r m).1 = m.filterEach fun tool i => !r.drops tool i := by
  unfold messageRule RegexRule.drops
  cases r.compile with
  | error e => exact (IssueMap.filterEach_true m).symm
  | ok regex => rfl

theorem issues_messageStage (rules : List RegexRule) (m : IssueMap) :
    (messageStage rules m).1 = m.filterEach fun tool i => !messageDrops rules tool i := by
  induction rules generalizing m with
  | nil => exact (IssueMap.filterEach_true m).symm
  | cons r rules ih =>
    have hstep : (messageStage (r :: rules) m).1 = (messageStage rules (messageRule r m).1).1 := rfl
    rw [hstep, ih, issues_messageRule, IssueMap.filterEach_filterEach]
    simp only [messageDrops, List.any_cons, Bool.not_or]

theorem RegexRule.drops_iff {r : RegexRule} {tool : String} {i : Issue} :
    r.drops tool i = true ↔ r.tools.has tool = true ∧
      (∃ regex, r.compile = .ok regex ∧ regex.matchesIn i.message = true) ∧
      (r.globs = none ∨ ∃ globs, r.globs = some globs ∧
        ∃ g ∈ globs, ∃ p, FilePattern.ofString? g = some p ∧ p.accepts i.filename = true) := by
  unfold RegexRule.drops
  cases r.compile with
  | error e => simp
  | ok regex =>
    cases r.globs with
    | none => simp [Issue.isCovered]
    | some globs =>
      simp only [Issue.isCovered, Option.map_some, Bool.and_eq_true, any_compile_iff]
      grind

/-! ## Markers -/

/-- Whether the line of an issue holds the marker. -/
def markerDrops (h : Host) (i : Issue) : Bool :=
  i.isLocated && decide (1 ≤ i.lineNumber) &&
    match FilterPass.linesOfFile h i.filename with
    | some lines => lines[(i.lineNumber - 1).toNat]?.any (Text.occursIn lineMarker)
    | none => false

theorem markerDrops_iff {h : Host} {i : Issue} :
    markerDrops h i = true ↔ Exceptions.IgnoredByMarker h i := by
  unfold markerDrops Exceptions.IgnoredByMarker
  cases FilterPass.linesOfFile h i.filename with
  | none => simp
  | some lines => simp [Option.any_eq_true, and_assoc]

/-- What a pass has kept of a file is what is in it. -/
def FilterPass.Remembers (pass : FilterPass) (h : Host) : Prop :=
  ∀ filename lines, pass.lines.lookup filename = some lines →
    lines = FilterPass.linesOfFile h filename

namespace FilterPass

variable {h : Host} {pass : FilterPass}

theorem remembers_empty (h : Host) : ({} : FilterPass).Remembers h :=
  fun _ _ hl => by cases hl

theorem lines_warn (pass : FilterPass) (tool : String) :
    (pass.warn tool).1.lines = pass.lines := by
  unfold warn
  split <;> rfl

theorem lines_warnAll (pass : FilterPass) (tools : List String) :
    (pass.warnAll tools).1.lines = pass.lines := by
  induction tools generalizing pass with
  | nil => rfl
  | cons tool tools ih => exact (ih _).trans (lines_warn pass tool)

theorem Remembers.warnAll (hp : pass.Remembers h) (tools : List String) :
    (pass.warnAll tools).1.Remembers h := by
  intro filename lines hl
  rw [lines_warnAll] at hl
  exact hp filename lines hl

theorem Remembers.learn (hp : pass.Remembers h) (filename : String) :
    (pass.learn h filename).Remembers h := by
  unfold FilterPass.learn
  split
  · exact hp
  · intro name lines hl
    rw [List.lookup_cons] at hl
    split at hl
    · rename_i heq
      cases hl
      rw [eq_of_beq heq]
    · exact hp name lines hl

theorem lookup_learn_self (hp : pass.Remembers h) (filename : String) :
    (pass.learn h filename).lines.lookup filename = some (linesOfFile h filename) := by
  unfold FilterPass.learn
  split
  · rename_i lines hl
    rw [hl, hp filename lines hl]
  · rw [List.lookup_cons_self]

theorem lookup_learn_of_some {name : String} {lines : Option (List String)} (filename : String)
    (hl : pass.lines.lookup name = some lines) :
    (pass.learn h filename).lines.lookup name = some lines := by
  unfold FilterPass.learn
  split
  · exact hl
  · rename_i hnone
    have hne : (name == filename) = false := by
      rw [beq_eq_false_iff_ne]
      rintro rfl
      rw [hl] at hnone
      cases hnone
    rw [List.lookup_cons, hne]
    exact hl

theorem lookup_foldl_learn_of_some {name : String} {lines : Option (List String)}
    (issues : List Issue) (hl : pass.lines.lookup name = some lines) :
    (issues.foldl (fun pass i => pass.learn h i.filename) pass).lines.lookup name
      = some lines := by
  induction issues generalizing pass with
  | nil => exact hl
  | cons i issues ih => exact ih (lookup_learn_of_some i.filename hl)

theorem Remembers.foldl_learn (hp : pass.Remembers h) (issues : List Issue) :
    (issues.foldl (fun pass i => pass.learn h i.filename) pass).Remembers h := by
  induction issues generalizing pass with
  | nil => exact hp
  | cons i issues ih => exact ih (hp.learn i.filename)

/-- Every file that was to be read has been read. -/
theorem lookup_foldl_learn (hp : pass.Remembers h) {issues : List Issue} {i : Issue}
    (hi : i ∈ issues) :
    (issues.foldl (fun pass i => pass.learn h i.filename) pass).lines.lookup i.filename
      = some (linesOfFile h i.filename) := by
  induction issues generalizing pass with
  | nil => cases hi
  | cons j issues ih =>
    rw [List.foldl_cons]
    rcases List.mem_cons.1 hi with rfl | hi
    · exact lookup_foldl_learn_of_some issues (lookup_learn_self hp i.filename)
    · exact ih (hp.learn j.filename) hi

theorem isMarked_of_lookup {i : Issue}
    (hl : pass.lines.lookup i.filename = some (linesOfFile h i.filename)) :
    (i.isLocated && i.isMarked pass) = markerDrops h i := by
  unfold Issue.isMarked lineAt markerDrops
  rw [hl]
  by_cases hn : 1 ≤ i.lineNumber
  · rw [if_neg (by omega)]
    cases linesOfFile h i.filename with
    | none => simp
    | some lines =>
      rw [decide_eq_true hn, Bool.and_true]
      simp only
      cases lines[(i.lineNumber - 1).toNat]? <;> rfl
  · rw [if_pos (by omega)]
    simp [hn]

/-- Only the files of issues with a line are read, and no other issue can be marked. -/
theorem isMarked_of_no_line {i : Issue} (hn : ¬ 1 ≤ i.lineNumber) :
    (i.isLocated && i.isMarked pass) = markerDrops h i := by
  unfold Issue.isMarked lineAt markerDrops
  rw [if_pos (by omega)]
  simp [hn]

end FilterPass

theorem issues_markerStage {h : Host} {pass : FilterPass} (hp : pass.Remembers h) (m : IssueMap) :
    (markerStage h m pass).issues = m.filterEach fun _ i => !markerDrops h i := by
  have hstage : (markerStage h m pass).issues =
      m.filterEach fun _ i => !(i.isLocated && i.isMarked (markerStage h m pass).pass) := rfl
  rw [hstage]
  apply IssueMap.filterEach_congr
  intro _ i hi
  congr 1
  by_cases hread : (i.isLocated && i.lineNumber ≥ 1) = true
  · apply FilterPass.isMarked_of_lookup
    exact FilterPass.lookup_foldl_learn (hp.warnAll m.unlocatedTools)
      (List.mem_filter.2 ⟨hi, hread⟩)
  · -- a file with no absolute name is not read, but then the marker does not count either
    cases hloc : i.isLocated with
    | false => simp [markerDrops, hloc]
    | true =>
      rw [← hloc]
      apply FilterPass.isMarked_of_no_line
      simpa [hloc] using hread

/-! ## The stages of a pass -/

/-- The stages of a pass. -/
inductive FilterStage where
  | file
  | message
  | marker
  deriving Repr, DecidableEq

namespace FilterStage

variable (x : Exceptions) (h : Host) (package : String) (root : Path)

/-- What a stage does with the rules for a package. -/
def run (m : IssueMap) (pass : FilterPass) : FilterStage → Filtered
  | file => fileStage root (x.rulesFor package).file m pass
  | message =>
    let (issues, log) := messageStage (x.rulesFor package).messageRegex m
    { issues, pass, log }
  | marker => markerStage h m pass

/-- Whether a stage drops an issue of a tool. -/
def drops (tool : String) (i : Issue) : FilterStage → Bool
  | file => fileDrops root (x.rulesFor package).file tool i
  | message => messageDrops (x.rulesFor package).messageRegex tool i
  | marker => markerDrops h i

/-- Stages one after the other, each with the issues and the pass that the one before has left. -/
def runAll (m : IssueMap) (pass : FilterPass) : List FilterStage → Filtered
  | [] => { issues := m, pass }
  | stage :: stages =>
    let first := stage.run x h package root m pass
    let rest := runAll first.issues first.pass stages
    { rest with log := first.log ++ rest.log }

variable {x h package root}

theorem issues_run {pass : FilterPass} (hp : pass.Remembers h) (m : IssueMap)
    (stage : FilterStage) :
    (stage.run x h package root m pass).issues =
      m.filterEach fun tool i => !stage.drops x h package root tool i := by
  cases stage with
  | file => exact issues_fileStage root _ m pass
  | message => exact issues_messageStage _ m
  | marker => exact issues_markerStage hp m

theorem remembers_run {pass : FilterPass} (hp : pass.Remembers h) (m : IssueMap)
    (stage : FilterStage) : (stage.run x h package root m pass).pass.Remembers h := by
  cases stage with
  | file => exact hp.warnAll _
  | message => exact hp
  | marker => exact (hp.warnAll _).foldl_learn _

/-- **A sequence of stages keeps exactly the issues that none of them drops.** -/
theorem issues_runAll {pass : FilterPass} (hp : pass.Remembers h) (m : IssueMap)
    (stages : List FilterStage) :
    (runAll x h package root m pass stages).issues =
      m.filterEach fun tool i => !stages.any fun s => s.drops x h package root tool i := by
  induction stages generalizing m pass with
  | nil => exact (IssueMap.filterEach_true m).symm
  | cons stage stages ih =>
    have hstep : (runAll x h package root m pass (stage :: stages)).issues =
        (runAll x h package root (stage.run x h package root m pass).issues
          (stage.run x h package root m pass).pass stages).issues := rfl
    rw [hstep, ih (remembers_run hp m stage), issues_run hp, IssueMap.filterEach_filterEach]
    simp only [List.any_cons, Bool.not_or]

/-- Stages drop the same issues as long as the same stages are among them. -/
theorem issues_runAll_congr {pass : FilterPass} (hp : pass.Remembers h) (m : IssueMap)
    {stages others : List FilterStage} (hsame : ∀ stage, stage ∈ stages ↔ stage ∈ others) :
    (runAll x h package root m pass stages).issues =
      (runAll x h package root m pass others).issues := by
  rw [issues_runAll hp, issues_runAll hp]
  congr 1
  funext tool i
  congr 1
  rw [Bool.eq_iff_iff, List.any_eq_true, List.any_eq_true]
  simp only [hsame]

end FilterStage

namespace Exceptions

variable {x : Exceptions} {h : Host} {package : String} {root : Path} {tool : String} {i : Issue}

/-- The three reasons together. -/
def Ignored (x : Exceptions) (h : Host) (package : String) (root : Path) (tool : String)
    (i : Issue) : Prop :=
  x.IgnoredByFile package root tool i ∨ x.IgnoredByMessage package tool i ∨ IgnoredByMarker h i

theorem any_drops_iff :
    ([.file, .message, .marker].any fun s => FilterStage.drops x h package root tool i s) = true ↔
      x.Ignored h package root tool i := by
  simp only [List.any_cons, List.any_nil, Bool.or_false, Bool.or_eq_true, FilterStage.drops,
    fileDrops_iff, messageDrops, List.any_eq_true, RegexRule.drops_iff, markerDrops_iff,
    mem_file_rulesFor, mem_messageRegex_rulesFor, Ignored, IgnoredByFile, IgnoredByMessage]

instance : Decidable (x.Ignored h package root tool i) := decidable_of_iff _ any_drops_iff

/-! A stage without rules is left out, which is the same as to go through it. -/

/-- The first stage, unless there are no rules for it. -/
def fileStep (root : Path) (rules : List FileRule) (m : IssueMap) (pass : FilterPass) : Filtered :=
  if rules.isEmpty then { issues := m, pass } else fileStage root rules m pass

/-- The second stage, unless there are no rules for it. -/
def messageStep (rules : List RegexRule) (m : IssueMap) : IssueMap × List LogEntry :=
  if rules.isEmpty then (m, []) else messageStage rules m

theorem issues_fileStep (root : Path) (rules : List FileRule) (m : IssueMap) (pass : FilterPass) :
    (fileStep root rules m pass).issues =
      m.filterEach fun tool i => !fileDrops root rules tool i := by
  unfold fileStep
  split
  · rename_i hempty
    rw [List.isEmpty_iff.1 hempty]
    simp only [fileDrops_nil, Bool.not_false, IssueMap.filterEach_true]
  · rfl

theorem remembers_fileStep {pass : FilterPass} (hp : pass.Remembers h) (root : Path)
    (rules : List FileRule) (m : IssueMap) : (fileStep root rules m pass).pass.Remembers h := by
  unfold fileStep
  split
  · exact hp
  · exact hp.warnAll _

theorem issues_messageStep (rules : List RegexRule) (m : IssueMap) :
    (messageStep rules m).1 = m.filterEach fun tool i => !messageDrops rules tool i := by
  unfold messageStep
  split
  · rename_i hempty
    rw [List.isEmpty_iff.1 hempty]
    exact (IssueMap.filterEach_true m).symm
  · exact issues_messageStage rules m

theorem issues_filterIssues {pass : FilterPass} (hp : pass.Remembers h) (m : IssueMap) :
    (x.filterIssues h package root m pass).issues =
      (FilterStage.runAll x h package root m pass [.file, .message, .marker]).issues := by
  have hsteps : (x.filterIssues h package root m pass).issues =
      (markerStage h
        (messageStep (x.rulesFor package).messageRegex
          (fileStep root (x.rulesFor package).file m pass).issues).1
        (fileStep root (x.rulesFor package).file m pass).pass).issues := rfl
  rw [hsteps, issues_markerStage (remembers_fileStep hp root _ m), issues_messageStep,
    issues_fileStep, FilterStage.issues_runAll hp, IssueMap.filterEach_filterEach,
    IssueMap.filterEach_filterEach]
  congr 1
  funext tool i
  simp [FilterStage.drops]

/-- What a pass keeps, issue by issue. -/
theorem issues_filterIssues_eq {pass : FilterPass} (hp : pass.Remembers h) (m : IssueMap) :
    (x.filterIssues h package root m pass).issues =
      m.filterEach fun tool i => decide (¬ x.Ignored h package root tool i) := by
  rw [issues_filterIssues hp, FilterStage.issues_runAll hp]
  congr 1
  funext tool i
  rw [Bool.eq_iff_iff, Bool.not_eq_true', ← Bool.not_eq_true, any_drops_iff, decide_eq_true_iff]

/-- **Which issues count.** A pass keeps the tools, and of the issues of each tool, in their order,
all but those that a file rule, a message rule or a marker gives a reason to ignore. So a second
pass drops nothing more, and the stages may come in any order. -/
theorem filterIssues_eq_filter_ignored (x : Exceptions) (h : Host) (package : String) (root : Path)
    (m : IssueMap) :
    (x.filterIssues h package root m {}).issues.keys = m.keys ∧
    (∀ tool, (x.filterIssues h package root m {}).issues.get? tool =
      (m.get? tool).map fun issues =>
        issues.filter fun i => decide (¬ x.Ignored h package root tool i)) ∧
    (x.filterIssues h package root (x.filterIssues h package root m {}).issues {}).issues =
      (x.filterIssues h package root m {}).issues ∧
    ∀ stages : List FilterStage, stages.Perm [.file, .message, .marker] →
      (FilterStage.runAll x h package root m {} stages).issues =
        (x.filterIssues h package root m {}).issues := by
  have hp := FilterPass.remembers_empty h
  refine ⟨?_, fun tool => ?_, ?_, fun stages hperm => ?_⟩
  · rw [issues_filterIssues_eq hp, IssueMap.keys_filterEach]
  · rw [issues_filterIssues_eq hp, IssueMap.get?_filterEach]
  · rw [issues_filterIssues_eq hp, issues_filterIssues_eq hp, IssueMap.filterEach_filterEach]
    simp only [Bool.and_self]
  · rw [issues_filterIssues hp]
    exact FilterStage.issues_runAll_congr hp m fun stage => hperm.mem_iff

/-! ## What a pass looks at -/

variable {h' : Host}

/-- The last stage looks at nothing on the machine but the files of issues that are reported for an
absolute path. -/
theorem markerStage_congr {m : IssueMap}
    (same : ∀ i ∈ m.all, i.isLocated = true → h'.read ⟨i.filename⟩ = h.read ⟨i.filename⟩)
    (pass : FilterPass) : markerStage h' m pass = markerStage h m pass := by
  have hlearn : ∀ issues : List Issue, (∀ i ∈ issues, i ∈ m.all ∧ i.isLocated = true) →
      ∀ pass : FilterPass, issues.foldl (fun pass i => pass.learn h' i.filename) pass =
        issues.foldl (fun pass i => pass.learn h i.filename) pass := by
    intro issues hissues
    refine fun pass => List.foldl_ext _ _ _ fun pass i hi => ?_
    obtain ⟨hmem, hlocated⟩ := hissues i hi
    unfold FilterPass.learn FilterPass.linesOfFile
    rw [same i hmem hlocated]
  unfold markerStage
  simp only
  rw [hlearn]
  intro i hi
  obtain ⟨hmem, hread⟩ := List.mem_filter.1 hi
  rw [Bool.and_eq_true] at hread
  exact ⟨hmem, hread.1⟩

/-- **Nor does a whole pass look at anything else.** Rules are matched against names and messages
alone. -/
theorem filterIssues_congr {m : IssueMap}
    (same : ∀ i ∈ m.all, i.isLocated = true → h'.read ⟨i.filename⟩ = h.read ⟨i.filename⟩)
    (pass : FilterPass) :
    x.filterIssues h' package root m pass = x.filterIssues h package root m pass := by
  have hkept : ∀ i ∈ (messageStep (x.rulesFor package).messageRegex
      (fileStep root (x.rulesFor package).file m pass).issues).1.all, i ∈ m.all := by
    rw [issues_messageStep, issues_fileStep, IssueMap.filterEach_filterEach]
    exact fun i hi => IssueMap.mem_all_of_filterEach hi
  have hlast := markerStage_congr (fun i hi => same i (hkept i hi))
    (fileStep root (x.rulesFor package).file m pass).pass
  unfold filterIssues
  unfold messageStep fileStep at hlast
  simp only [hlast]

end Exceptions

end LintScan
