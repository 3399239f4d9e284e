import LintScan.Proofs.Pool.Steps
import LintScan.Scan.Workspace

/-!
# Scans in steps

A scan cut into steps does the same as the scan at one go, however its plugins are cut:

* `Runner.Cutting` — the plugins of a runner, cut into steps.
* `Cutting.scan` — the scan of the package at a path in steps: the stages of the scan, with the
  steps of the plugins in the place of the plugins.
* `Cutting.scan_does` — it does what the scan does.
-/

namespace LintScan

open Steps

variable {ε α : Type}

/-! ## The steps of a runner -/

namespace Steps

/-- The result of a query inside a scan. -/
def ofExcept (wrap : ε → RunError) (x : Except ε α) : ExceptT RunError Steps α :=
  match x with
  | .ok a => pure a
  | .error e => throw (wrap e)

/-- Notes that a plugin was run. -/
def noteTiming (t : Timing) : Steps Unit :=
  note fun j => { j with timings := j.timings ++ [t] }

/-- Adds entries to the log. -/
def logAll (es : List LogEntry) : Steps Unit := note fun j => { j with log := j.log ++ es }

/-- Logs a warning. -/
def warn (text : String) : Steps Unit := logAll [⟨.warning, text⟩]

theorem DoesAttempt.ofExcept (wrap : ε → RunError) (x : Except ε α) :
    DoesAttempt (Steps.ofExcept wrap x) (RunError.ofExcept wrap x) := by
  cases x with
  | error e => exact .throw _
  | ok a => exact .pure a

theorem Does.noteTiming (t : Timing) : (Steps.noteTiming t).Does (Session.note t) := fun _ => rfl

theorem Does.logAll (es : List LogEntry) : (Steps.logAll es).Does (Session.logAll es) :=
  fun _ => rfl

theorem Does.warn (text : String) : (Steps.warn text).Does (Session.warn text) := fun _ => rfl

end Steps

/-! ## The steps of a scan -/

namespace Runner

/-- The plugins of a runner, cut into steps. -/
structure Cutting (r : Runner) where
  discovery : (name : String) → Package → (level : String) → Steps Package
  tool : (name : String) → Package → (level : String) → Steps (Except ToolError (List Issue))
  report : (name : String) → Package → IssueMap → (level : String) →
    Steps (Except ReportError (Option Json))
  discovery_does : ∀ name d, r.registry.discovery.get? name = some d →
    ∀ p level, (discovery name p level).Does (d.scan r.context p level (some r.exceptions))
  tool_does : ∀ name t, r.registry.tool.get? name = some t →
    ∀ p level, (tool name p level).Does (t.scan r.context p level).run
  report_does : ∀ name plugin, r.registry.reporting.get? name = some plugin →
    ∀ p issues level, (report name p issues level).Does (plugin.report r.context p issues level).run

namespace Cutting

variable {r : Runner} (cut : r.Cutting)

/-- Makes the output directory of a package, if output is wanted. -/
def prepareOutput (r : Runner) (package level : String) : ExceptT RunError Steps Unit := do
  match r.context.settings.outputDirectory with
  | none => return ()
  | some root =>
    let h ← (Steps.host : Steps Host)
    if !h.hasDirectory root then throw (.outputDirectory root)
    match r.context.settings.packageOutput? package level with
    | none => return ()
    | some dir =>
      match ← (Steps.changeFiles fun t cwd => t.makeDirectories cwd dir : Steps _) with
      | .ok () => return ()
      | .error e => throw (.createDirectory dir e)

/-- Runs a discovery plugin. -/
def discover (level : String) (p : Package) (name : String) : ExceptT RunError Steps Package := do
  match r.registry.discovery.get? name with
  | none => throw (.order .discovery (.unknownPlugin name))
  | some _ =>
    let p ← cut.discovery name p level
    noteTiming ⟨p.name, name, .discovery⟩
    return p

/-- Runs the discovery plugins of a level with all that they need. -/
def runDiscovery (p : Package) (level : String) : ExceptT RunError Steps Package := do
  let names ← ofExcept .config (r.discoveryNames level)
  let order ← ofExcept (.order .discovery) (r.registry.discoveryDependencies.order true names)
  order.foldlM (cut.discover level) p

/-- Runs a tool. A failure is logged. -/
def runTool (p : Package) (level : String) (tally : ToolTally) (name : String) :
    ExceptT RunError Steps ToolTally := do
  match r.registry.tool.get? name with
  | none => throw (.order .tool (.unknownPlugin name))
  | some _ =>
    let outcome ← (cut.tool name p level : Steps _)
    noteTiming ⟨p.name, name, .tool⟩
    match outcome with
    | .ok found => return { tally with issues := tally.issues.insert name found }
    | .error e =>
      warn (name ++ " tool plugin failed: " ++ e.message)
      return { tally with success := false }

/-- Runs the tools of a level. -/
def runTools (p : Package) (level : String) : ExceptT RunError Steps ToolTally := do
  let order ← ofExcept id (r.toolOrder level)
  order.foldlM (cut.runTool p level) {}

/-- Makes a report on a result and adds its summary. A failure is logged. -/
def makeReport (p : Package) (level : String) (result : ScanResult) (name : String) :
    Steps ScanResult := do
  match r.registry.reporting.get? name with
  | none =>
    warn ("Can't find specified reporting plugin " ++ name ++ "!")
    return unsuccessful result
  | some _ =>
    let outcome ← cut.report name p result.issues level
    noteTiming ⟨p.name, name, .reporting⟩
    match outcome with
    | .ok (some summary) => return { result with reports := result.reports.insert name summary }
    | .ok none => return result
    | .error e =>
      warn (name ++ " reporting plugin failed: " ++ e.message)
      return unsuccessful result

/-- Makes the reports of a level. -/
def runReports (p : Package) (level : String) (result : ScanResult) : Steps ScanResult :=
  match r.context.config.enabledPlugins level .reporting with
  | .error e => do
    warn ("unable to resolve reporting plugins: " ++ e.message)
    return unsuccessful result
  | .ok [] => do
    warn ("No reporting plugins enabled for level " ++ level)
    return unsuccessful result
  | .ok names => names.foldlM (cut.makeReport p level) result

/-- Scans the package at a path from the root, at a known level. -/
def scanAt (p : Package) (level : String) : ExceptT RunError Steps ScanResult := do
  prepareOutput r p.name level
  let scanned ← cut.runDiscovery p level
  let tally ← cut.runTools scanned level
  let h ← (Steps.host : Steps Host)
  let filtered := r.exceptions.filterIssues h scanned.name scanned.path tally.issues {}
  logAll filtered.log
  cut.runReports scanned level
    { package := p.name, level, issues := filtered.issues, success := tally.success }

/-- Scans the package at a path at its own level. -/
def scanPath (path : Path) : ExceptT RunError Steps ScanResult := do
  let h ← (Steps.host : Steps Host)
  match h.canonical? path with
  | none => throw (.packageNotFound path)
  | some root =>
    let p := Package.ofPath root
    let level := r.levelOf p.name none
    if !r.context.config.hasLevel level then throw (.unknownLevel level)
    if r.exceptions.ignores p.name then return { package := p.name, level }
    cut.scanAt p level

/-- The scan of the package at a path in steps, with all that it can come to. -/
def scan (path : Path) : Steps (Except RunError ScanResult) := (cut.scanPath path).run

/-! ## A scan in steps is the scan -/

variable {cut} {p : Package} {level : String}

theorem prepareOutput_does (r : Runner) (package level : String) :
    DoesAttempt (prepareOutput r package level) (r.prepareOutput package level) := by
  unfold prepareOutput Runner.prepareOutput
  cases r.context.settings.outputDirectory with
  | none => exact .pure ()
  | some root =>
    refine .bind (.lift .host) fun h => ?_
    simp only
    split
    · exact fun _ => rfl
    · cases r.context.settings.packageOutput? package level with
      | none => exact .pure ()
      | some dir =>
        refine .bind (.lift (.changeFiles _)) fun outcome => ?_
        cases outcome with
        | ok _ => exact .pure ()
        | error e => exact .throw _

theorem discover_does (name : String) :
    DoesAttempt (cut.discover level p name) (r.discover level p name) := by
  unfold discover Runner.discover
  cases hd : r.registry.discovery.get? name with
  | none => exact .throw _
  | some d =>
    exact .bind (.lift (cut.discovery_does name d hd p level)) fun p =>
      .bind (.lift (.noteTiming _)) fun _ => .pure p

theorem runDiscovery_does : DoesAttempt (cut.runDiscovery p level) (r.runDiscovery p level) :=
  .bind (.ofExcept _ _) fun _ => .bind (.ofExcept _ _) fun order =>
    .foldlM (fun _ name => discover_does name) order p

theorem runTool_does (tally : ToolTally) (name : String) :
    DoesAttempt (cut.runTool p level tally name) (r.runTool p level tally name) := by
  unfold runTool Runner.runTool
  cases ht : r.registry.tool.get? name with
  | none => exact .throw _
  | some t =>
    refine .bind (.lift (cut.tool_does name t ht p level)) fun outcome =>
      .bind (.lift (.noteTiming _)) fun _ => ?_
    cases outcome with
    | ok found => exact .pure _
    | error e => exact .bind (.lift (.warn _)) fun _ => .pure _

theorem runTools_does : DoesAttempt (cut.runTools p level) (r.runTools p level) :=
  .bind (.ofExcept _ _) fun order => .foldlM runTool_does order {}

theorem makeReport_does (result : ScanResult) (name : String) :
    (cut.makeReport p level result name).Does (r.report p level result name) := by
  unfold makeReport Runner.report
  cases hp : r.registry.reporting.get? name with
  | none => exact .bind (.warn _) fun _ => .pure _
  | some plugin =>
    refine .bind (cut.report_does name plugin hp p result.issues level) fun outcome =>
      .bind (.noteTiming _) fun _ => ?_
    rcases outcome with e | _ | summary
    · exact .bind (.warn _) fun _ => .pure _
    · exact .pure _
    · exact .pure _

theorem runReports_does (result : ScanResult) :
    (cut.runReports p level result).Does (r.runReports p level result) := by
  unfold runReports Runner.runReports
  rcases r.context.config.enabledPlugins level .reporting with e | _ | ⟨name, names⟩
  · exact .bind (.warn _) fun _ => .pure _
  · exact .bind (.warn _) fun _ => .pure _
  · exact .foldlM makeReport_does (name :: names) result

theorem scanAt_does : DoesAttempt (cut.scanAt p level) (r.scanAt p level) :=
  .bind (prepareOutput_does r p.name level) fun _ => .bind runDiscovery_does fun _ =>
    .bind runTools_does fun _ => .bind (.lift .host) fun _ => .bind (.lift (.logAll _)) fun _ =>
      .lift (runReports_does _)

/-- **A scan in steps does what the scan does,** however its plugins are cut. -/
theorem scan_does (cut : r.Cutting) (path : Path) :
    (cut.scan path).Does (r.run path none).run := by
  refine DoesAttempt.bind (.lift .host) fun h => ?_
  cases h.canonical? path with
  | none => exact .throw _
  | some root =>
    simp only
    split
    · exact fun _ => rfl
    · split
      · exact .pure _
      · exact scanAt_does

end Cutting

end Runner

end LintScan
