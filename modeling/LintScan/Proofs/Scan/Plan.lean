import LintScan.Proofs.Scan.Tools

/-!
# What comes before the tools

A scan can fail, but only before its first tool is started.  This file cuts a scan in two at that
point:

* `Runner.plan` — the first part: everything up to the list of tools to run.
* `Runner.carryOut` — the second part; `run_eq_plan_carryOut` says that the two make up a scan.
* `Runner.rewired` — a runner whose tools and reports do something else; `plan_rewired` says that
  the first part does not notice.
* `exists_carryOut` — the second part runs the tools that are planned, and does not fail.
* `run_fails_before_tools` — what follows for a scan that fails.
-/

namespace LintScan

/-- What a scan has come to before it starts a tool: the result for a package that is to be ignored,
or a package as discovery has left it, its first name, its level, and the tools to run. -/
inductive ScanPlan where
  | ignored (result : ScanResult)
  | tools (package : String) (scanned : Package) (level : String) (names : List String)

namespace Runner

variable {r : Runner} {p : Package} {path : Path} {asked : Option String} {level : String}

/-! ## The two parts of a scan -/

/-- The first part of the scan of a package at a known level. -/
def planAt (r : Runner) (p : Package) (level : String) : Attempt RunError ScanPlan := do
  r.prepareOutput p.name level
  let scanned ← r.runDiscovery p level
  let names ← RunError.ofExcept id (r.toolOrder level)
  return .tools p.name scanned level names

/-- The first part of a scan, up to the list of tools. -/
def plan (r : Runner) (path : Path) (asked : Option String) : Attempt RunError ScanPlan := do
  let h ← Session.host
  match h.canonical? path with
  | none => throw (.packageNotFound path)
  | some root =>
    let p := Package.ofPath root
    let level := r.levelOf p.name asked
    if !r.context.config.hasLevel level then throw (.unknownLevel level)
    if r.exceptions.ignores p.name then return .ignored { package := p.name, level }
    r.planAt p level

/-- What is done with the tally of the tools: the issues that count are handed to the reports. -/
def conclude (r : Runner) (package : String) (scanned : Package) (level : String)
    (tally : ToolTally) : Session ScanResult := do
  let h ← Session.host
  let filtered := r.exceptions.filterIssues h scanned.name scanned.path tally.issues {}
  Session.logAll filtered.log
  r.runReports scanned level
    { package, level, issues := filtered.issues, success := tally.success }

/-- The second part of a scan: the tools, and the reports on what they have found. -/
def carryOut (r : Runner) : ScanPlan → Attempt RunError ScanResult
  | .ignored result => return result
  | .tools package scanned level names => do
    let tally ← names.foldlM (r.runTool scanned level) {}
    r.conclude package scanned level tally

theorem scanAt_eq_planAt_carryOut (r : Runner) (p : Package) (level : String) :
    r.scanAt p level = r.planAt p level >>= r.carryOut := by
  unfold scanAt planAt runTools
  simp only [bind_assoc, pure_bind]
  rfl

theorem run_eq_plan_carryOut (r : Runner) (path : Path) (asked : Option String) :
    r.run path asked = r.plan path asked >>= r.carryOut := by
  unfold run plan
  simp only [scanAt_eq_planAt_carryOut, bind_assoc]
  congr 1
  funext h
  cases h.canonical? path with
  | none => rfl
  | some root =>
    simp only
    split
    · rfl
    · split
      · rfl
      · rfl

theorem planAt_ok {s s₁ : SessionState} {plan : ScanPlan}
    (h : (r.planAt p level).runFrom s = (.ok plan, s₁)) :
    ∃ scanned names, r.toolOrder level = .ok names ∧
      plan = .tools p.name scanned level names := by
  unfold planAt at h
  obtain ⟨_, _, _, h⟩ := Attempt.runFrom_bind_ok_iff.1 h
  obtain ⟨scanned, _, _, h⟩ := Attempt.runFrom_bind_ok_iff.1 h
  obtain ⟨names, _, horder, h⟩ := Attempt.runFrom_bind_ok_iff.1 h
  rw [Attempt.runFrom_ofExcept, Prod.mk.injEq, mapError_eq_ok_iff] at horder
  rw [Attempt.runFrom_pure, Prod.mk.injEq, Except.ok.injEq] at h
  exact ⟨scanned, names, horder.1, h.1.symm⟩

/-- What a scan has settled when it comes to its tools. -/
theorem plan_ok {s s₁ : SessionState} {plan : ScanPlan}
    (h : (r.plan path asked).runFrom s = (.ok plan, s₁)) :
    ∃ root level, s.host.canonical? path = some root ∧
      level = r.levelOf (Package.ofPath root).name asked ∧
      r.context.config.hasLevel level = true ∧
      ((r.exceptions.ignores (Package.ofPath root).name = true ∧
          plan = .ignored ⟨(Package.ofPath root).name, level, .empty, true, .empty⟩ ∧ s₁ = s) ∨
        (r.exceptions.ignores (Package.ofPath root).name = false ∧
          (r.planAt (Package.ofPath root) level).runFrom s = (.ok plan, s₁))) := by
  unfold Runner.plan at h
  rw [Attempt.runFrom_bind_of_ok _ (Attempt.runFrom_lift Session.host s), Session.runFrom_host] at h
  cases hroot : s.host.canonical? path with
  | none =>
    rw [hroot] at h
    cases h
  | some root =>
    rw [hroot] at h
    refine ⟨root, _, rfl, rfl, ?_⟩
    simp only at h
    split at h
    · cases h
    · rename_i hlevel
      refine ⟨by simpa using hlevel, ?_⟩
      split at h
      · rename_i hignored
        cases h
        exact .inl ⟨hignored, rfl, rfl⟩
      · rename_i hignored
        exact .inr ⟨by simpa using hignored, h⟩

end Runner

/-! ## Other tools and reports -/

/-- The registry with tools and reports that do something else. Their names and what the tools need
stay. -/
def Registry.rewired (g : Registry)
    (scans : String → PluginContext → Package → String → Attempt ToolError (List Issue))
    (reports : String → PluginContext → Package → IssueMap → String →
      Attempt ReportError (Option Json)) : Registry :=
  { g with
    tool := g.tool.map fun name t => { t with scan := scans name }
    reporting := g.reporting.map fun name plugin => { plugin with report := reports name } }

/-- The runner with tools and reports that do something else. -/
def Runner.rewired (r : Runner)
    (scans : String → PluginContext → Package → String → Attempt ToolError (List Issue))
    (reports : String → PluginContext → Package → IssueMap → String →
      Attempt ReportError (Option Json)) : Runner :=
  { r with registry := r.registry.rewired scans reports }

namespace Runner

variable {r : Runner} {path : Path} {asked : Option String} {level : String}
  {scans : String → PluginContext → Package → String → Attempt ToolError (List Issue)}
  {reports : String → PluginContext → Package → IssueMap → String →
    Attempt ReportError (Option Json)}

theorem toolDependencies_rewired :
    (r.rewired scans reports).registry.toolDependencies = r.registry.toolDependencies := by
  apply SortedTable.ext_entries
  simp [rewired, Registry.rewired, Registry.toolDependencies, SortedTable.map]

theorem toolOrder_rewired : (r.rewired scans reports).toolOrder level = r.toolOrder level := by
  unfold toolOrder
  rw [toolDependencies_rewired]
  rfl

/-- Before the first tool a scan is the same whatever the tools and the reports do. -/
theorem plan_rewired : (r.rewired scans reports).plan path asked = r.plan path asked := by
  unfold plan planAt
  simp only [toolOrder_rewired]
  rfl

/-- **Once the tools are known, a scan does not fail.** From whatever state, it runs them all and
comes to a result. -/
theorem exists_carryOut (package : String) (scanned : Package) {names : List String}
    (horder : r.toolOrder level = .ok names) (s : SessionState) :
    ∃ runs s₁ result s', r.RunsTools scanned level s runs s₁ ∧ runs.map (·.tool) = names ∧
      (r.conclude package scanned level (ToolTally.addAll {} runs)).runFrom s₁ = (result, s') ∧
      (r.carryOut (.tools package scanned level names)).runFrom s = (.ok result, s') := by
  obtain ⟨runs, s₁, hruns, hnames, hfold⟩ :
      ∃ runs s₁, r.RunsTools scanned level s runs s₁ ∧ runs.map (·.tool) = names ∧
        (names.foldlM (r.runTool scanned level) {}).runFrom s =
          (.ok (ToolTally.addAll {} runs), s₁) :=
    exists_runsTools (toolOrder_registered horder) {} s
  refine ⟨runs, s₁, _, _, hruns, hnames, rfl, ?_⟩
  unfold carryOut
  rw [Attempt.runFrom_bind_of_ok _ hfold]
  exact Attempt.runFrom_lift _ s₁

/-- Where the first part of a scan comes to a plan, the whole scan comes to a result. -/
theorem run_ok_of_plan_ok {s s₁ : SessionState} {plan : ScanPlan}
    (h : (r.plan path asked).runFrom s = (.ok plan, s₁)) :
    ∃ result s', (r.run path asked).runFrom s = (.ok result, s') := by
  rw [run_eq_plan_carryOut, Attempt.runFrom_bind_of_ok _ h]
  obtain ⟨root, level, _, _, _, ⟨_, rfl, _⟩ | ⟨_, hplan⟩⟩ := plan_ok h
  · exact ⟨_, s₁, rfl⟩
  · obtain ⟨scanned, names, horder, rfl⟩ := planAt_ok hplan
    obtain ⟨_, _, result, s', _, _, _, hrun⟩ :=
      exists_carryOut (Package.ofPath root).name scanned horder s₁
    exact ⟨result, s', hrun⟩

/-- A scan fails exactly where its first part does, and in the same way. -/
theorem run_error_iff_plan_error {s s' : SessionState} {e : RunError} :
    (r.run path asked).runFrom s = (.error e, s') ↔
      (r.plan path asked).runFrom s = (.error e, s') := by
  constructor
  · intro h
    rcases hp : (r.plan path asked).runFrom s with ⟨cause | plan, s₁⟩
    · rw [run_eq_plan_carryOut, Attempt.runFrom_bind, hp] at h
      cases h
      rfl
    · obtain ⟨result, t, hok⟩ := run_ok_of_plan_ok hp
      rw [hok] at h
      cases h
  · intro h
    rw [run_eq_plan_carryOut, Attempt.runFrom_bind, h]

/-- **A scan that fails has started no tool and made no report.** It fails in the first part, so it
fails in the same way and leaves the same state, log and journal included, whatever the tools and
the reports would do.  And where the first part has come to a list of tools, each of them is run,
and the scan has a result whatever they do. -/
theorem run_fails_before_tools (r : Runner) (path : Path) (asked : Option String)
    (s : SessionState) :
    (∀ e s', (r.run path asked).runFrom s = (.error e, s') →
      (r.plan path asked).runFrom s = (.error e, s') ∧
        ∀ scans reports, ((r.rewired scans reports).run path asked).runFrom s = (.error e, s')) ∧
    ∀ package scanned level names s₁,
      (r.plan path asked).runFrom s = (.ok (.tools package scanned level names), s₁) →
        ∀ scans reports, ∃ runs s₂ result s',
          (r.rewired scans reports).RunsTools scanned level s₁ runs s₂ ∧
          runs.map (·.tool) = names ∧
          ((r.rewired scans reports).run path asked).runFrom s = (.ok result, s') := by
  constructor
  · intro e s' h
    have hplan := run_error_iff_plan_error.1 h
    refine ⟨hplan, fun scans reports => run_error_iff_plan_error.2 ?_⟩
    rw [plan_rewired]
    exact hplan
  · intro package scanned level names s₁ h scans reports
    obtain ⟨root, _, _, _, _, ⟨_, hplan, _⟩ | ⟨_, hplan⟩⟩ := plan_ok h
    · cases hplan
    · obtain ⟨scanned, names, horder, hplan⟩ := planAt_ok hplan
      cases hplan
      have horder' : (r.rewired scans reports).toolOrder level = .ok names := by
        rw [toolOrder_rewired]
        exact horder
      obtain ⟨runs, s₂, result, s', hruns, hnames, _, hrun⟩ :=
        exists_carryOut (Package.ofPath root).name scanned horder' s₁
      refine ⟨runs, s₂, result, s', hruns, hnames, ?_⟩
      rw [← plan_rewired] at h
      rw [run_eq_plan_carryOut, Attempt.runFrom_bind_of_ok _ h]
      exact hrun

end Runner

end LintScan
