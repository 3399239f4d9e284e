import LintScan.Scan.Basic

/-!
# Scanning a package

A scan finds out the level, runs the discovery plugins and the tools behind what they need, drops
the issues that do not count, and hands the rest to the reports.

* `Runner.runDiscovery`, `Runner.runTools`, `Runner.runReports` — the stages.
* `Runner.run` — the scan of the package at a path. Once the tools have been put in order it cannot
  fail any more: a tool or report that fails only makes the result unsuccessful.
-/

namespace LintScan

/-- The path from the root without links and steps up, of something that exists. -/
def Host.canonical? (h : Host) (p : Path) : Option Path :=
  match h.files.find h.workingDirectory p with
  | .ok (place, _) => some ⟨"/" ++ Text.join "/" place⟩
  | .error _ => none

namespace Runner

/-- Makes the output directory of a package, if output is wanted. -/
def prepareOutput (r : Runner) (package level : String) : Attempt RunError Unit := do
  match r.context.settings.outputDirectory with
  | none => return ()
  | some root =>
    let h ← Session.host
    if !h.hasDirectory root then throw (.outputDirectory root)
    match r.context.settings.packageOutput? package level with
    | none => return ()
    | some dir =>
      match ← (Session.makeDirectories dir : Session _) with
      | .ok () => return ()
      | .error e => throw (.createDirectory dir e)

/-! ## Discovery -/

/-- Runs a discovery plugin. -/
def discover (r : Runner) (level : String) (p : Package) (name : String) :
    Attempt RunError Package := do
  match r.registry.discovery.get? name with
  | none => throw (.order .discovery (.unknownPlugin name))
  | some d =>
    let p ← d.scan r.context p level (some r.exceptions)
    Session.note ⟨p.name, name, .discovery⟩
    return p

/-- The discovery plugins of a level: those that it enables, or all of them if it enables none. -/
def discoveryNames (r : Runner) (level : String) : Except ConfigError (List String) := do
  let enabled ← r.context.config.enabledPlugins level .discovery
  .ok (if enabled.isEmpty then r.registry.discovery.keys else enabled)

/-- Runs the discovery plugins of a level with all that they need. -/
def runDiscovery (r : Runner) (p : Package) (level : String) : Attempt RunError Package := do
  let names ← RunError.ofExcept .config (r.discoveryNames level)
  let order ← RunError.ofExcept (.order .discovery)
    (r.registry.discoveryDependencies.order true names)
  order.foldlM (r.discover level) p

/-! ## Tools -/

/-- What the tools have found so far, and whether all of them worked. -/
structure ToolTally where
  issues : IssueMap := .empty
  success : Bool := true

/-- The tools of a level in the order in which they run. Where some tools are forced, only those and
what they need run. -/
def toolOrder (r : Runner) (level : String) : Except RunError (List String) := do
  let enabled ← (r.context.config.enabledPlugins level .tool).mapError .config
  let deps := r.registry.toolDependencies
  let order ← (deps.order false enabled).mapError (.order .tool)
  match r.context.settings.forceToolList with
  | none => .ok order
  | some forced =>
    let kept := deps.closure forced
    .ok (order.filter fun name => kept.contains name)

/-- Runs a tool. A failure is logged. -/
def runTool (r : Runner) (p : Package) (level : String) (tally : ToolTally) (name : String) :
    Attempt RunError ToolTally := do
  match r.registry.tool.get? name with
  | none => throw (.order .tool (.unknownPlugin name))
  | some t =>
    let outcome ← Attempt.outcome (t.scan r.context p level)
    Session.note ⟨p.name, name, .tool⟩
    match outcome with
    | .ok found => return { tally with issues := tally.issues.insert name found }
    | .error e =>
      Session.warn (name ++ " tool plugin failed: " ++ e.message)
      return { tally with success := false }

/-- Runs the tools of a level. -/
def runTools (r : Runner) (p : Package) (level : String) : Attempt RunError ToolTally := do
  let order ← RunError.ofExcept id (r.toolOrder level)
  order.foldlM (r.runTool p level) {}

/-! ## Reports -/

/-- The result without success. -/
def unsuccessful (result : ScanResult) : ScanResult := { result with success := false }

/-- Makes a report on a result and adds its summary. A failure is logged. -/
def report (r : Runner) (p : Package) (level : String) (result : ScanResult) (name : String) :
    Session ScanResult := do
  match r.registry.reporting.get? name with
  | none =>
    Session.warn ("Can't find specified reporting plugin " ++ name ++ "!")
    return unsuccessful result
  | some plugin =>
    let outcome ← (plugin.report r.context p result.issues level).run
    Session.note ⟨p.name, name, .reporting⟩
    match outcome with
    | .ok (some summary) => return { result with reports := result.reports.insert name summary }
    | .ok none => return result
    | .error e =>
      Session.warn (name ++ " reporting plugin failed: " ++ e.message)
      return unsuccessful result

/-- Makes the reports of a level. -/
def runReports (r : Runner) (p : Package) (level : String) (result : ScanResult) :
    Session ScanResult :=
  match r.context.config.enabledPlugins level .reporting with
  | .error e => do
    Session.warn ("unable to resolve reporting plugins: " ++ e.message)
    return unsuccessful result
  | .ok [] => do
    Session.warn ("No reporting plugins enabled for level " ++ level)
    return unsuccessful result
  | .ok names => names.foldlM (r.report p level) result

/-! ## The whole scan -/

/-- Scans the package at a path from the root, at a known level. -/
def scanAt (r : Runner) (p : Package) (level : String) : Attempt RunError ScanResult := do
  r.prepareOutput p.name level
  let scanned ← r.runDiscovery p level
  let tally ← r.runTools scanned level
  let h ← Session.host
  let filtered := r.exceptions.filterIssues h scanned.name scanned.path tally.issues {}
  Session.logAll filtered.log
  r.runReports scanned level
    { package := p.name, level, issues := filtered.issues, success := tally.success }

/-- Scans the package at a path, at the level asked for or at its own one. A package that is to be
ignored has a result without issues. -/
def run (r : Runner) (path : Path) (asked : Option String) : Attempt RunError ScanResult := do
  let h ← Session.host
  match h.canonical? path with
  | none => throw (.packageNotFound path)
  | some root =>
    let p := Package.ofPath root
    let level := r.levelOf p.name asked
    if !r.context.config.hasLevel level then throw (.unknownLevel level)
    if r.exceptions.ignores p.name then return { package := p.name, level }
    r.scanAt p level

end Runner

end LintScan
