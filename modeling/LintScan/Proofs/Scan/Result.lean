import LintScan.Command.Run
import LintScan.Proofs.Config.Plugins
import LintScan.Proofs.Exceptions.Filter
import LintScan.Proofs.Scan.Plan

/-!
# What a scan comes to

The result of a scan tells what the tools have found and whether everything worked, and the exit
code of the program sums up the results.

* `RunsReports` — reports made one after the other, with what comes of each; told without the stage
  itself.
* `exists_runsReports` — the stage of the reports is such a run; it leaves the issues alone, and
  `success_addAll` says how the success ends.
* `exists_enabledPlugins` — a level whose tools resolve has its reports resolve too.
* `ScanEnds` — which exit code the outcomes of some scans stand for; `concludeWorkspace_ends`,
  `runPackage_ends` and `runScan_ends` find it at the end of a command.
* `run_tells_what_worked` — what a result tells, and the exit code behind it.
-/

namespace LintScan

/-! ## Runs of reports -/

/-- A report that was to be made, and what came of it: nothing, if there is no such report. -/
structure ReportRun where
  name : String
  outcome : Option (Except ReportError (Option Json))

namespace ReportRun

/-- Whether the report was made. -/
def Worked (run : ReportRun) : Prop := ∃ summary, run.outcome = some (.ok summary)

/-- A report that was tried is noted; one that does not exist or fails is logged. -/
def settle (run : ReportRun) (p : Package) : Session Unit :=
  match run.outcome with
  | none => Session.warn ("Can't find specified reporting plugin " ++ run.name ++ "!")
  | some outcome => do
    Session.note ⟨p.name, run.name, .reporting⟩
    match outcome with
    | .ok _ => return ()
    | .error e => Session.warn (run.name ++ " reporting plugin failed: " ++ e.message)

end ReportRun

namespace ScanResult

/-- The result with one more report. -/
def add (result : ScanResult) (run : ReportRun) : ScanResult :=
  match run.outcome with
  | some (.ok (some summary)) => { result with reports := result.reports.insert run.name summary }
  | some (.ok none) => result
  | some (.error _) => Runner.unsuccessful result
  | none => Runner.unsuccessful result

/-- The result with several more reports. -/
def addAll (result : ScanResult) (runs : List ReportRun) : ScanResult := runs.foldl add result

/-- A report changes neither what is reported on nor where it was found. -/
theorem add_eq (result : ScanResult) (run : ReportRun) :
    (result.add run).package = result.package ∧ (result.add run).level = result.level ∧
      (result.add run).issues = result.issues := by
  unfold add
  split <;> exact ⟨rfl, rfl, rfl⟩

theorem success_add (result : ScanResult) (run : ReportRun) :
    (result.add run).success = true ↔ result.success = true ∧ run.Worked := by
  obtain ⟨name, _ | _ | _ | summary⟩ := run <;> simp [add, Runner.unsuccessful, ReportRun.Worked]

theorem addAll_eq (result : ScanResult) (runs : List ReportRun) :
    (result.addAll runs).package = result.package ∧ (result.addAll runs).level = result.level ∧
      (result.addAll runs).issues = result.issues := by
  induction runs generalizing result with
  | nil => exact ⟨rfl, rfl, rfl⟩
  | cons run runs ih =>
    have hstep : result.addAll (run :: runs) = (result.add run).addAll runs := rfl
    obtain ⟨hp, hl, hi⟩ := result.add_eq run
    rw [hstep, ← hp, ← hl, ← hi]
    exact ih (result.add run)

theorem success_addAll (result : ScanResult) (runs : List ReportRun) :
    (result.addAll runs).success = true ↔
      result.success = true ∧ ∀ run ∈ runs, run.Worked := by
  induction runs generalizing result with
  | nil => simp [addAll]
  | cons run runs ih =>
    have hstep : result.addAll (run :: runs) = (result.add run).addAll runs := rfl
    rw [hstep, ih, success_add, List.forall_mem_cons, and_assoc]

end ScanResult

namespace Runner

/-- The reports made one after the other on the same issues. The first starts in the state `s`, each
of the others in the state that the one before has left, and the last leaves the state `s'`. -/
inductive RunsReports (r : Runner) (p : Package) (level : String) (issues : IssueMap) :
    SessionState → List ReportRun → SessionState → Prop
  | done {s : SessionState} : RunsReports r p level issues s [] s
  | missing {s s' : SessionState} {name : String} {runs : List ReportRun} :
      r.registry.reporting.get? name = none →
      RunsReports r p level issues ((ReportRun.settle ⟨name, none⟩ p).runFrom s).2 runs s' →
      RunsReports r p level issues s (⟨name, none⟩ :: runs) s'
  | made {s s₁ s' : SessionState} {plugin : ReportingPlugin} {name : String}
      {outcome : Except ReportError (Option Json)} {runs : List ReportRun} :
      r.registry.reporting.get? name = some plugin →
      (plugin.report r.context p issues level).runFrom s = (outcome, s₁) →
      RunsReports r p level issues ((ReportRun.settle ⟨name, some outcome⟩ p).runFrom s₁).2 runs
        s' →
      RunsReports r p level issues s (⟨name, some outcome⟩ :: runs) s'

variable {r : Runner} {p : Package} {level : String}

/-- A report that was made is registered. -/
theorem RunsReports.registered {issues : IssueMap} {s s' : SessionState} {runs : List ReportRun}
    (h : r.RunsReports p level issues s runs s') :
    ∀ run ∈ runs, run.Worked → ∃ plugin, r.registry.reporting.get? run.name = some plugin := by
  induction h with
  | done => simp
  | missing _ _ ih =>
    rintro run (_ | ⟨_, hrun⟩) ⟨summary, hworked⟩
    · cases hworked
    · exact ih run hrun ⟨summary, hworked⟩
  | made hplugin _ _ ih =>
    rintro run (_ | ⟨_, hrun⟩) hworked
    · exact ⟨_, hplugin⟩
    · exact ih run hrun hworked

/-- A report that does not exist is settled as such. -/
theorem report_runFrom_missing {name : String} (result : ScanResult) (s : SessionState)
    (h : r.registry.reporting.get? name = none) :
    (r.report p level result name).runFrom s =
      (result.add ⟨name, none⟩, ((ReportRun.settle ⟨name, none⟩ p).runFrom s).2) := by
  unfold report
  rw [h]
  rfl

/-- A report that exists is tried, and settled by what comes of it. -/
theorem report_runFrom_made {plugin : ReportingPlugin} {name : String}
    {outcome : Except ReportError (Option Json)} {result : ScanResult} {s s₁ : SessionState}
    (h : r.registry.reporting.get? name = some plugin)
    (hreport : (plugin.report r.context p result.issues level).runFrom s = (outcome, s₁)) :
    (r.report p level result name).runFrom s =
      (result.add ⟨name, some outcome⟩,
        ((ReportRun.settle ⟨name, some outcome⟩ p).runFrom s₁).2) := by
  unfold report
  rw [h, Session.runFrom_bind, Session.runFrom_run, hreport]
  rcases outcome with _ | _ | _ <;> rfl

/-- **The stage makes the reports of its list,** all on the same issues. -/
theorem exists_runsReports (names : List String) (result : ScanResult) (s : SessionState) :
    ∃ runs s', r.RunsReports p level result.issues s runs s' ∧ runs.map (·.name) = names ∧
      Session.runFrom (names.foldlM (r.report p level) result) s = (result.addAll runs, s') := by
  induction names generalizing result s with
  | nil => exact ⟨[], s, .done, rfl, rfl⟩
  | cons name names ih =>
    cases hplugin : r.registry.reporting.get? name with
    | none =>
      obtain ⟨runs, s', hruns, hnames, hfold⟩ :=
        ih (result.add ⟨name, none⟩) ((ReportRun.settle ⟨name, none⟩ p).runFrom s).2
      refine ⟨⟨name, none⟩ :: runs, s', .missing hplugin hruns, by rw [List.map_cons, hnames], ?_⟩
      rw [List.foldlM_cons, Session.runFrom_bind, report_runFrom_missing result s hplugin]
      exact hfold
    | some plugin =>
      obtain ⟨outcome, s₁, hreport⟩ : ∃ outcome s₁,
          (plugin.report r.context p result.issues level).runFrom s = (outcome, s₁) := ⟨_, _, rfl⟩
      obtain ⟨runs, s', hruns, hnames, hfold⟩ := ih (result.add ⟨name, some outcome⟩)
        ((ReportRun.settle ⟨name, some outcome⟩ p).runFrom s₁).2
      rw [(result.add_eq _).2.2] at hruns
      refine ⟨⟨name, some outcome⟩ :: runs, s', .made hplugin hreport hruns,
        by rw [List.map_cons, hnames], ?_⟩
      rw [List.foldlM_cons, Session.runFrom_bind, report_runFrom_made hplugin hreport]
      exact hfold

/-! ## The end of a scan -/

/-- A level whose plugins of one kind resolve has those of every kind resolve. -/
theorem exists_enabledPlugins {kind : PluginKind} {c : Config} {names : List String}
    (h : c.enabledPlugins level kind = .ok names) (other : PluginKind) :
    ∃ names, c.enabledPlugins level other = .ok names :=
  Config.resolves_iff.2 (Config.resolves_iff.1 ⟨names, h⟩)

/-- The reports of a level that resolves: there is a warning if it has none, and otherwise they are
made one after the other. -/
theorem exists_runReports {names : List String}
    (henabled : r.context.config.enabledPlugins level .reporting = .ok names)
    (result : ScanResult) (s : SessionState) :
    ∃ runs s₁ final s', r.RunsReports p level result.issues s runs s₁ ∧
      runs.map (·.name) = names ∧ (names ≠ [] → s₁ = s') ∧
      (r.runReports p level result).runFrom s = (final, s') ∧
      final.package = result.package ∧ final.level = result.level ∧
      final.issues = result.issues ∧
      (final.success = true ↔ result.success = true ∧ names ≠ [] ∧ ∀ run ∈ runs, run.Worked) := by
  unfold runReports
  rw [henabled]
  cases names with
  | nil => exact ⟨[], s, _, _, .done, rfl, absurd rfl, rfl, rfl, rfl, rfl, by simp [unsuccessful]⟩
  | cons name names =>
    obtain ⟨runs, s', hruns, hnames, hfold⟩ :
        ∃ runs s', r.RunsReports p level result.issues s runs s' ∧
          runs.map (·.name) = name :: names ∧
          Session.runFrom ((name :: names).foldlM (r.report p level) result) s =
            (result.addAll runs, s') := exists_runsReports (name :: names) result s
    obtain ⟨hp, hl, hi⟩ := result.addAll_eq runs
    refine ⟨runs, s', _, s', hruns, hnames, fun _ => rfl, hfold, hp, hl, hi, ?_⟩
    simp [ScanResult.success_addAll]

/-- The issues that a result keeps: for each tool that worked, those that count. -/
theorem get?_filterIssues_addAll {runs : List ToolRun} (once : (runs.map (·.tool)).Nodup)
    (x : Exceptions) (h : Host) (package : String) (root : Path) {tool : String}
    {found : List Issue} :
    (x.filterIssues h package root (ToolTally.addAll {} runs).issues {}).issues.get? tool =
        some found ↔
      ∃ all, ⟨tool, .ok all⟩ ∈ runs ∧
        found = all.filter fun i => decide (¬ x.Ignored h package root tool i) := by
  have hall : ∀ all, (ToolTally.addAll {} runs).issues.get? tool = some all ↔
      ⟨tool, .ok all⟩ ∈ runs := by
    intro all
    have hempty : ∀ name, (SortedTable.empty : IssueMap).get? name = none := fun _ => rfl
    have hnew : ∀ run ∈ runs, ({} : ToolTally).issues.get? run.tool = none := fun _ _ => rfl
    rw [ToolTally.get?_addAll once hnew, hempty]
    simp
  rw [Exceptions.issues_filterIssues_eq (FilterPass.remembers_empty h), IssueMap.get?_filterEach]
  simp only [Option.map_eq_some_iff, hall]
  simp only [eq_comm]

/-- No tool is planned twice. -/
theorem plan_tools_nodup {path : Path} {asked : Option String} {s s₁ : SessionState}
    {package : String} {scanned : Package} {names : List String}
    (h : (r.plan path asked).runFrom s = (.ok (.tools package scanned level names), s₁)) :
    names.Nodup := by
  obtain ⟨root, _, _, _, _, ⟨_, hplan, _⟩ | ⟨_, hplan⟩⟩ := plan_ok h
  · cases hplan
  · obtain ⟨_, _, horder, hplan⟩ := planAt_ok hplan
    cases hplan
    exact (toolOrder_ordered horder).nodup

/-- What a scan that is not left out has gone through. -/
theorem run_ok {path : Path} {asked : Option String} {s s' : SessionState} {result : ScanResult}
    (h : (r.run path asked).runFrom s = (.ok result, s'))
    (counts : r.exceptions.ignores result.package = false) :
    ∃ scanned s₁ toolRuns s₂ reportNames reportRuns s₃ s₄,
      (r.plan path asked).runFrom s =
        (.ok (.tools result.package scanned result.level (toolRuns.map (·.tool))), s₁) ∧
      r.RunsTools scanned result.level s₁ toolRuns s₂ ∧
      s₃.host = s₂.host ∧
      r.context.config.enabledPlugins result.level .reporting = .ok reportNames ∧
      reportRuns.map (·.name) = reportNames ∧
      r.RunsReports scanned result.level result.issues s₃ reportRuns s₄ ∧
      (reportNames ≠ [] → s₄ = s') ∧
      result.issues = (r.exceptions.filterIssues s₂.host scanned.name scanned.path
        (ToolTally.addAll {} toolRuns).issues {}).issues ∧
      (result.success = true ↔ (∀ run ∈ toolRuns, ∃ found, run.outcome = .ok found) ∧
        reportNames ≠ [] ∧ ∀ run ∈ reportRuns, run.Worked) := by
  rw [run_eq_plan_carryOut] at h
  obtain ⟨plan, s₁, hplan, h⟩ := Attempt.runFrom_bind_ok_iff.1 h
  obtain ⟨root, level, _, _, _, ⟨hignored, rfl, _⟩ | ⟨_, hat⟩⟩ := plan_ok hplan
  · cases h
    rw [hignored] at counts
    cases counts
  · obtain ⟨scanned, names, horder, rfl⟩ := planAt_ok hat
    obtain ⟨enabled, _, htool, _, _⟩ := toolOrder_eq_ok_iff.1 horder
    obtain ⟨reportNames, hreport⟩ := exists_enabledPlugins htool .reporting
    obtain ⟨toolRuns, s₂, _, _, hruns, rfl, hconclude, hcarry⟩ :=
      exists_carryOut (Package.ofPath root).name scanned horder s₁
    rw [hcarry] at h
    cases h
    -- The reports are made on the issues that count, once their log has been written.
    let filtered := r.exceptions.filterIssues s₂.host scanned.name scanned.path
      (ToolTally.addAll {} toolRuns).issues {}
    obtain ⟨reportRuns, s₄, _, _, hmade, hnames, hend, hstage, hpackage, hlevel, hissues,
        hsuccess⟩ :=
      exists_runReports (p := scanned) hreport ⟨(Package.ofPath root).name, level, filtered.issues,
        (ToolTally.addAll {} toolRuns).success, .empty⟩ ((Session.logAll filtered.log).runFrom s₂).2
    cases hconclude.symm.trans hstage
    rw [← hissues] at hmade
    rw [ToolTally.success_addAll] at hsuccess
    rw [hpackage, hlevel]
    refine ⟨scanned, s₁, toolRuns, s₂, reportNames, reportRuns,
      ((Session.logAll filtered.log).runFrom s₂).2, s₄, hplan, hruns, rfl, hreport, hnames, hmade,
      hend, hissues, ?_⟩
    simpa using hsuccess

end Runner

/-! ## Exit codes -/

namespace ScanResult

/-- Whether the result tells of a failure or holds an issue. -/
def IsDirty (result : ScanResult) : Prop :=
  result.success = false ∨ ∃ tool found i, result.issues.get? tool = some found ∧ i ∈ found

theorem isClean_iff {result : ScanResult} : result.isClean = true ↔ ¬ result.IsDirty := by
  have hissues : result.issueCount = 0 ↔
      ¬ ∃ tool found i, result.issues.get? tool = some found ∧ i ∈ found := by
    unfold issueCount
    rw [List.length_eq_zero_iff, List.eq_nil_iff_forall_not_mem]
    simp only [IssueMap.mem_all_iff]
    grind
  simp only [isClean, IsDirty, Bool.and_eq_true, beq_iff_eq, hissues, not_or, Bool.not_eq_false]

end ScanResult

/-- The exit code that the outcomes of some scans stand for: two if a scan failed, else one if the
user wants a check and a result is dirty, else zero. -/
inductive ScanEnds (check : Bool) (outcomes : List (Except RunError ScanResult)) : Nat → Prop
  | failed : (∃ e, .error e ∈ outcomes) → ScanEnds check outcomes 2
  | dirty : (∀ e, .error e ∉ outcomes) → check = true →
      (∃ result, .ok result ∈ outcomes ∧ result.IsDirty) → ScanEnds check outcomes 1
  | clean : (∀ e, .error e ∉ outcomes) →
      (check = true → ∀ result, .ok result ∈ outcomes → ¬ result.IsDirty) →
      ScanEnds check outcomes 0

/-- No outcomes stand for two exit codes. -/
theorem ScanEnds.unique {check : Bool} {outcomes : List (Except RunError ScanResult)}
    {code code' : Nat} (h : ScanEnds check outcomes code) (h' : ScanEnds check outcomes code') :
    code = code' := by
  cases h with
  | failed herror =>
    obtain ⟨e, he⟩ := herror
    cases h' with
    | failed => rfl
    | dirty hok => exact absurd he (hok e)
    | clean hok => exact absurd he (hok e)
  | dirty hok hcheck hdirty =>
    obtain ⟨result, hmem, hd⟩ := hdirty
    cases h' with
    | failed herror => exact absurd herror.choose_spec (hok _)
    | dirty => rfl
    | clean _ hclean => exact absurd hd (hclean hcheck result hmem)
  | clean hok hclean =>
    cases h' with
    | failed herror => exact absurd herror.choose_spec (hok _)
    | dirty _ hcheck hdirty =>
      obtain ⟨result, hmem, hd⟩ := hdirty
      exact absurd hd (hclean hcheck result hmem)
    | clean => rfl

theorem ScanEnds.iff_eq {check : Bool} {outcomes : List (Except RunError ScanResult)}
    {code code' : Nat} (h : ScanEnds check outcomes code) :
    ScanEnds check outcomes code' ↔ code = code' :=
  ⟨h.unique, fun he => he ▸ h⟩

/-- Where no scan failed, the exit code is that of the results. -/
theorem scanCode_ends (check : Bool) (results : List ScanResult) :
    ScanEnds check (results.map .ok) (scanCode check results) := by
  have hok : ∀ e, (.error e : Except RunError ScanResult) ∉ results.map .ok := by simp
  have hclean : results.all (·.isClean) = true ↔ ∀ result ∈ results, ¬ result.IsDirty := by
    simp [ScanResult.isClean_iff]
  unfold scanCode
  split
  · rename_i h
    simp only [Bool.and_eq_true, Bool.not_eq_true', ← Bool.not_eq_true, hclean] at h
    refine .dirty hok h.1 ?_
    simpa using h.2
  · rename_i h
    simp only [Bool.and_eq_true, Bool.not_eq_true', ← Bool.not_eq_true, hclean] at h
    refine .clean hok fun hcheck => ?_
    simpa [hcheck] using h

theorem conclude_code (settings : Settings) (results : List ScanResult) (s : SessionState) :
    ((conclude settings results).runFrom s).1 = scanCode settings.check results := by
  unfold conclude
  split <;> rfl

theorem concludeWorkspace_code (settings : Settings) (outcomes : List PackageOutcome)
    (s : SessionState) :
    ((concludeWorkspace settings outcomes).runFrom s).1 =
      if (PackageOutcome.results outcomes).length < outcomes.length then 2
      else scanCode settings.check (PackageOutcome.results outcomes) := by
  unfold concludeWorkspace
  simp only [Session.runFrom_bind]
  split
  · rfl
  · exact conclude_code settings _ _

/-- Where no scan of a workspace failed, its outcomes are its results. -/
theorem map_ok_results {outcomes : List PackageOutcome}
    (h : ∀ e, .error e ∉ outcomes.map (·.result)) :
    (PackageOutcome.results outcomes).map .ok = outcomes.map (·.result) := by
  induction outcomes with
  | nil => rfl
  | cons o outcomes ih =>
    simp only [List.map_cons, List.mem_cons, not_or] at h
    cases ho : o.result with
    | error e => exact absurd ho.symm (h e).1
    | ok result =>
      have hsome : o.result.toOption = some result := by rw [ho]; rfl
      have hstep : PackageOutcome.results (o :: outcomes) =
          result :: PackageOutcome.results outcomes := List.filterMap_cons_some hsome
      rw [hstep, List.map_cons, List.map_cons, ho, ih fun e => (h e).2]

/-- The exit code behind the scans of a workspace. -/
theorem concludeWorkspace_ends (settings : Settings) (outcomes : List PackageOutcome)
    (s : SessionState) :
    ScanEnds settings.check (outcomes.map (·.result))
      ((concludeWorkspace settings outcomes).runFrom s).1 := by
  have hfewer : (PackageOutcome.results outcomes).length < outcomes.length ↔
      ∃ e, .error e ∈ outcomes.map (·.result) := by
    unfold PackageOutcome.results
    rw [List.length_filterMap_lt_length_iff_exists]
    constructor
    · rintro ⟨o, ho, hnone⟩
      cases hr : o.result with
      | error e => exact ⟨e, hr ▸ List.mem_map_of_mem ho⟩
      | ok result => rw [hr] at hnone; cases hnone
    · rintro ⟨e, he⟩
      obtain ⟨o, ho, hr⟩ := List.mem_map.1 he
      exact ⟨o, ho, by rw [hr]; rfl⟩
  rw [concludeWorkspace_code]
  split
  · rename_i h
    exact .failed (hfewer.1 h)
  · rename_i h
    rw [← map_ok_results fun e he => h (hfewer.2 ⟨e, he⟩)]
    exact scanCode_ends _ _

/-- The exit code behind the scan of a single package. -/
theorem runPackage_ends (r : Runner) (path : Path) (s : SessionState) :
    ScanEnds r.context.settings.check [((r.run path none).runFrom s).1]
      ((runPackage r path).runFrom s).1 := by
  unfold runPackage
  rw [Session.runFrom_bind, Session.runFrom_run]
  obtain ⟨e | result, s₁⟩ := (r.run path none).runFrom s
  · exact .failed ⟨e, List.mem_singleton_self _⟩
  · exact (conclude_code r.context.settings [result] s₁).symm ▸ scanCode_ends _ [result]

/-- A runner keeps the settings that it is loaded for. -/
theorem Runner.settings_load {settings : Settings} {registry : Registry} {r : Runner}
    {s s' : SessionState} (h : (Runner.load settings registry).runFrom s = (.ok r, s')) :
    r.context.settings = settings := by
  unfold Runner.load at h
  obtain ⟨_, _, _, h⟩ := Attempt.runFrom_bind_ok_iff.1 h
  obtain ⟨_, _, _, h⟩ := Attempt.runFrom_bind_ok_iff.1 h
  obtain ⟨_, _, _, h⟩ := Attempt.runFrom_bind_ok_iff.1 h
  obtain ⟨_, _, _, h⟩ := Attempt.runFrom_bind_ok_iff.1 h
  obtain ⟨_, _, _, h⟩ := Attempt.runFrom_bind_ok_iff.1 h
  cases h
  rfl

/-- To settle the settings changes the journal only. -/
theorem settle_runFrom (o : Overrides) (s : SessionState) :
    ((settle o).runFrom s).1 = (Settings.resolve s.host o).1 ∧
      ((settle o).runFrom s).2.host = s.host := by
  unfold settle
  simp only [Session.runFrom_bind]
  split
  · split <;> exact ⟨rfl, rfl⟩
  · exact ⟨rfl, rfl⟩

/-- A scan with settings that give no runner ends with two; with a runner, which keeps the settings,
it ends as the scans of that runner do. -/
theorem scanWith_runFrom (settings : Settings) (workspace : Bool) (path : Path)
    (s : SessionState) :
    (∀ e s₁, (Runner.load settings .builtin).runFrom s = (.error e, s₁) →
      ((scanWith settings workspace path).runFrom s).1 = 2) ∧
    ∀ r s₁, (Runner.load settings .builtin).runFrom s = (.ok r, s₁) →
      r.context.settings = settings ∧
      (scanWith settings workspace path).runFrom s =
        (if workspace then runPackages r path else runPackage r path).runFrom s₁ := by
  unfold scanWith
  rw [Session.runFrom_bind, Session.runFrom_run]
  constructor
  · intro e s₁ h
    rw [h]
    rfl
  · intro r s₁ h
    rw [h]
    exact ⟨Runner.settings_load h, rfl⟩

/-- A command for a scan settles the settings, which changes the journal only, and scans with
them. -/
theorem runScan_runFrom (workspace : Bool) (o : Overrides) (s : SessionState) :
    ∃ s₁, s₁.host = s.host ∧ (runScan workspace o).runFrom s =
      (scanWith (Settings.resolve s.host o).1 workspace ⟨o.root.getD ""⟩).runFrom s₁ := by
  obtain ⟨hsettings, hhost⟩ := settle_runFrom o s
  unfold runScan
  simp only [Session.runFrom_bind, hsettings]
  split
  · simp only [Session.runFrom_bind]
    refine ⟨_, ?_, rfl⟩
    exact hhost
  · exact ⟨_, hhost, rfl⟩

/-- **What a result tells, and the exit code behind it.** A scan of a package that counts has the
issues of the tools that worked, without those that do not count, under the names of those tools. It
is successful if every tool worked and there are reports and every one of them worked; the reports
resolve because the tools did.  The program ends with two if a scan failed, else with one if the
user wants a check and a result is dirty, else with zero. -/
theorem run_tells_what_worked (r : Runner) :
    (∀ path asked s result s', (r.run path asked).runFrom s = (.ok result, s') →
      r.exceptions.ignores result.package = false →
      ∃ scanned s₁ toolRuns s₂ reportNames reportRuns s₃ s₄,
        (r.plan path asked).runFrom s =
          (.ok (.tools result.package scanned result.level (toolRuns.map (·.tool))), s₁) ∧
        r.RunsTools scanned result.level s₁ toolRuns s₂ ∧
        (∀ tool, tool ∈ result.issues.keys ↔ ∃ found, ⟨tool, .ok found⟩ ∈ toolRuns) ∧
        (∀ tool found, ⟨tool, .ok found⟩ ∈ toolRuns → result.issues.get? tool =
          some (found.filter fun i =>
            decide (¬ r.exceptions.Ignored s₂.host scanned.name scanned.path tool i))) ∧
        s₃.host = s₂.host ∧
        r.context.config.enabledPlugins result.level .reporting = .ok reportNames ∧
        reportRuns.map (·.name) = reportNames ∧
        r.RunsReports scanned result.level result.issues s₃ reportRuns s₄ ∧
        (reportNames ≠ [] → s₄ = s') ∧
        (result.success = true ↔ (∀ run ∈ toolRuns, ∃ found, run.outcome = .ok found) ∧
          reportNames ≠ [] ∧ ∀ run ∈ reportRuns,
            (∃ plugin, r.registry.reporting.get? run.name = some plugin) ∧ run.Worked)) ∧
    (∀ outcomes s code, ScanEnds r.context.settings.check (outcomes.map (·.result)) code ↔
      ((concludeWorkspace r.context.settings outcomes).runFrom s).1 = code) ∧
    (∀ root s,
      (∀ e s₁, (r.runWorkspace root).runFrom s = (.error e, s₁) →
        ((runPackages r root).runFrom s).1 = 2) ∧
      ∀ outcomes s₁, (r.runWorkspace root).runFrom s = (.ok outcomes, s₁) →
        (runPackages r root).runFrom s =
          (concludeWorkspace r.context.settings outcomes).runFrom s₁) ∧
    (∀ path s code, ScanEnds r.context.settings.check [((r.run path none).runFrom s).1] code ↔
      ((runPackage r path).runFrom s).1 = code) ∧
    ∀ workspace o s, ∃ s₁, s₁.host = s.host ∧
      (∀ e s₂, (Runner.load (Settings.resolve s.host o).1 .builtin).runFrom s₁ = (.error e, s₂) →
        ((runScan workspace o).runFrom s).1 = 2) ∧
      ∀ loaded s₂,
        (Runner.load (Settings.resolve s.host o).1 .builtin).runFrom s₁ = (.ok loaded, s₂) →
        loaded.context.settings.check = (Settings.resolve s.host o).1.check ∧
        (runScan workspace o).runFrom s =
          (if workspace then runPackages loaded ⟨o.root.getD ""⟩
            else runPackage loaded ⟨o.root.getD ""⟩).runFrom s₂ := by
  refine ⟨?_, fun outcomes s code => (concludeWorkspace_ends _ outcomes s).iff_eq, ?_,
    fun path s code => (runPackage_ends r path s).iff_eq, ?_⟩
  · intro path asked s result s' h counts
    obtain ⟨scanned, s₁, toolRuns, s₂, reportNames, reportRuns, s₃, s₄, hplan, hruns, hhost,
      hreport, hnames, hmade, hend, hissues, hsuccess⟩ := Runner.run_ok h counts
    have hget : ∀ tool found, result.issues.get? tool = some found ↔
        ∃ all, ⟨tool, .ok all⟩ ∈ toolRuns ∧ found = all.filter fun i =>
          decide (¬ r.exceptions.Ignored s₂.host scanned.name scanned.path tool i) := by
      intro tool found
      rw [hissues]
      exact Runner.get?_filterIssues_addAll (Runner.plan_tools_nodup hplan) r.exceptions s₂.host
        scanned.name scanned.path
    refine ⟨scanned, s₁, toolRuns, s₂, reportNames, reportRuns, s₃, s₄, hplan, hruns, ?_, ?_, hhost,
      hreport, hnames, hmade, hend, ?_⟩
    · intro tool
      rw [SortedTable.mem_keys_iff]
      simp only [hget]
      constructor
      · rintro ⟨_, all, hall, _⟩
        exact ⟨all, hall⟩
      · rintro ⟨all, hall⟩
        exact ⟨_, all, hall, rfl⟩
    · exact fun tool found hfound => (hget tool _).2 ⟨found, hfound, rfl⟩
    · rw [hsuccess]
      refine and_congr_right fun _ => and_congr_right fun _ => forall₂_congr fun run hrun => ?_
      exact ⟨fun hworked => ⟨hmade.registered run hrun hworked, hworked⟩, fun h => h.2⟩
  · intro root s
    unfold runPackages
    rw [Session.runFrom_bind, Session.runFrom_run]
    refine ⟨fun e s₁ h => ?_, fun outcomes s₁ h => ?_⟩
    · rw [h]
      rfl
    · rw [h]
  · intro workspace o s
    obtain ⟨s₁, hhost, hrun⟩ := runScan_runFrom workspace o s
    obtain ⟨hfails, hworks⟩ := scanWith_runFrom (Settings.resolve s.host o).1 workspace
      ⟨o.root.getD ""⟩ s₁
    rw [hrun]
    refine ⟨s₁, hhost, hfails, fun loaded s₂ h => ?_⟩
    obtain ⟨hsettings, hsame⟩ := hworks loaded s₂ h
    exact ⟨by rw [hsettings], hsame⟩

end LintScan
