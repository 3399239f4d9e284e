import LintScan.Command.Arguments
import LintScan.Command.LogFilter
import LintScan.Scan.Workspace

/-!
# Running commands

* `Command.run` — carries a command out and gives its exit code.
* `Command.reach` — the paths below which a command finds all that it reads.
* `runArguments` — carries out the arguments of a command line.
* `scanCode` — the exit code of a scan: one if the user wants a check and a result is not clean.
-/

namespace LintScan

open Style

/-- The version of the program. -/
def programVersion : String := "0.1.0"

/-- Whether complaints are printed in colour. -/
def Host.usesColor (h : Host) : Bool := !h.noColor

/-- The head of a complaint. -/
def Host.head (h : Host) (color : Color) (word : String) : String :=
  bold h.usesColor (color.paint h.usesColor word)

/-- The head of an error. -/
def Host.errorHead (h : Host) : String := h.head .red "error:"

/-- The head of a note. -/
def Host.noteHead (h : Host) : String := h.head .yellow "note:"

/-- The head of a piece of information. -/
def Host.infoHead (h : Host) : String := h.head .blue "info:"

/-- Reports an error that ends the program, with its exit code. -/
def failWith (message : String) : Session Nat := do
  let h ← Session.host
  Session.complain (h.errorHead ++ " " ++ message)
  return 2

/-! ## Levels -/

/-- The plugins of a kind at a level, or why they cannot be told. -/
def Config.kindLine (c : Config) (level : String) (kind : PluginKind) : String :=
  let plugins := match c.enabledPlugins level kind with
    | .ok names => Text.join ", " names
    | .error e => e.message
  "  " ++ kind.name ++ ": " ++ plugins

/-- The lines about a level. -/
def Config.levelLines (c : Config) (level : String) : List String :=
  level :: [PluginKind.discovery, .tool, .reporting].map (c.kindLine level)

/-- Settles the settings of a command line and the depth of the log, and complains about a log
filter that cannot be read. The log begins afterwards, so it does not tell of a settings file that
is passed over. -/
def settle (o : Overrides) : Session Settings := do
  let h ← Session.host
  let (settings, _) := Settings.resolve h o
  Session.setLogDepth (.choose settings.logLevel h.logFilter)
  match settings.logLevel with
  | some filter =>
    if (readFilter? filter).isNone then
      Session.complain ("invalid log level '" ++ filter ++ "': invalid filter directive")
  | none => pure ()
  return settings

/-- Prints the levels with the plugins that they enable. -/
def runLevels (o : Overrides) : Session Nat := do
  let settings ← settle o
  let h ← Session.host
  let (resources, log) := Resources.ofPaths h h.resourceRoot settings.userPaths
  Session.logAll log
  match resources.config h settings with
  | .error e => failWith e.message
  | .ok config =>
    for line in config.levelNames.flatMap config.levelLines do
      Session.printLine line
    return 0

/-! ## Scans -/

/-- A text with blanks behind it up to a width. -/
def padRight (width : Nat) (s : String) : String :=
  s ++ String.ofList (List.replicate (width - s.length) ' ')

/-- A text with blanks before it up to a width. -/
def padLeft (width : Nat) (s : String) : String :=
  String.ofList (List.replicate (width - s.length) ' ') ++ s

/-- A row of the table of timings. -/
def timingRow (package kind plugin seconds : String) : String :=
  padRight 24 package ++ " " ++ padRight 10 kind ++ " " ++ padRight 24 plugin ++ " "
    ++ padLeft 10 seconds

/-- The table of the plugins that ran, in the order of the packages and then of their runs. A
session knows no clock, so every plugin takes no time. -/
def timingTable (timings : List Timing) : List String :=
  let rows := timings.mergeSort fun a b => a.package ≤ b.package
  timingRow "package" "type" "plugin" "seconds"
    :: rows.map fun t => timingRow t.package t.kind.name t.plugin "0.000"

/-- Whether everything worked and no issue counts. -/
def ScanResult.isClean (r : ScanResult) : Bool := r.success && r.issueCount == 0

/-- The exit code of a scan without errors. -/
def scanCode (check : Bool) (results : List ScanResult) : Nat :=
  if check && !results.all (·.isClean) then 1 else 0

/-- Prints what the user wants to see behind the reports, and gives the exit code. -/
def conclude (settings : Settings) (results : List ScanResult) : Session Nat := do
  if settings.timings then
    for line in timingTable (← get).journal.timings do
      Session.printLine line
  return scanCode settings.check results

/-- Scans a single package. -/
def runPackage (runner : Runner) (path : Path) : Session Nat := do
  match ← (runner.run path none).run with
  | .error e => failWith e.message
  | .ok result => conclude runner.context.settings [result]

/-- The results among some outcomes. -/
def PackageOutcome.results (outcomes : List PackageOutcome) : List ScanResult :=
  outcomes.filterMap fun o => o.result.toOption

/-- Complains about the scans of a workspace that have failed, says how many have not, and gives the
exit code. -/
def concludeWorkspace (settings : Settings) (outcomes : List PackageOutcome) : Session Nat := do
  let h ← Session.host
  for o in outcomes do
    match o.result with
    | .ok _ => pure ()
    | .error e => Session.complain (h.errorHead ++ " " ++ o.path.text ++ ": " ++ e.message)
  let results := PackageOutcome.results outcomes
  Session.complain (h.infoHead ++ " Scanned " ++ toString results.length ++ " packages.")
  if results.length < outcomes.length then return 2
  conclude settings results

/-- Scans the packages of a workspace. -/
def runPackages (runner : Runner) (root : Path) : Session Nat := do
  match ← (runner.runWorkspace root).run with
  | .error e => failWith e.message
  | .ok outcomes => concludeWorkspace runner.context.settings outcomes

/-- Scans a package or the packages of a workspace, with a runner for some settings. -/
def scanWith (settings : Settings) (workspace : Bool) (path : Path) : Session Nat := do
  match ← (Runner.load settings .builtin).run with
  | .error e => failWith e.message
  | .ok runner => if workspace then runPackages runner path else runPackage runner path

/-- Scans what the command line says. -/
def runScan (workspace : Bool) (o : Overrides) : Session Nat := do
  let settings ← settle o
  let h ← Session.host
  if !settings.settingsFound then
    Session.complain (h.noteHead ++ " No lintherd.toml found; using defaults.")
  scanWith settings workspace ⟨o.root.getD ""⟩

/-- Carries a command out and gives its exit code. -/
def Command.run : Command → Session Nat
  | .version => do
    Session.printLine programVersion
    return 0
  | .levels config userConfig userPaths => runLevels { config, userConfig, userPaths }
  | .scan workspace overrides => runScan workspace overrides

/-! ## What a command reads -/

/-- What a command says about the settings. -/
def Command.overrides : Command → Overrides
  | .version => {}
  | .levels config userConfig userPaths => { config, userConfig, userPaths }
  | .scan _ overrides => overrides

/-- The path that a command is about. -/
def Command.root (c : Command) : Path := ⟨c.overrides.root.getD "."⟩

/-- The paths that decide where the settings of a command are found. -/
def Command.settingsPaths (c : Command) : List Path :=
  c.root.ancestors.flatMap fun d => Settings.rootMarks.map fun n => d.join ⟨n⟩

/-- The paths that settings name. -/
def Settings.namedPaths (s : Settings) : List Path :=
  s.userPaths ++ s.outputDirectory.toList
    ++ ([s.config, s.exceptions, s.profile] ++ s.userConfig.toList).map Path.mk

/-- The paths below which a command finds all that it reads, on a machine with its settings. -/
def Command.reach (c : Command) (h : Host) : List Path :=
  c.root :: c.settingsPaths ++ (Settings.resolve h c.overrides).1.namedPaths

/-! ## Command lines -/

/-- How the program is used. -/
def usage : String := "usage: lintherd version | levels [options] | scan <path> [options]"

/-- Carries a command line out and gives its exit code. -/
def runArguments (arguments : List String) : Session Nat := do
  match Command.ofArguments arguments with
  | .ok command => command.run
  | .error .version =>
    Session.printLine ("lintherd " ++ programVersion)
    return 0
  | .error .help =>
    Session.printLine usage
    return 0
  | .error e =>
    Session.complain ("lintherd: " ++ e.message)
    Session.complain usage
    return 2

end LintScan
