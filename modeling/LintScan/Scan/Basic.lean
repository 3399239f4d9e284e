import LintScan.Profile.Basic
import LintScan.Scan.Registry

/-!
# Scans

* `Runner` — everything that the scans of some packages share.
* `ScanResult` — the outcome of a scan.
* `RunError` — why a package is not scanned.
* `Runner.load` — the runner for some settings.
* `Runner.levelOf` — the level of a package.
-/

namespace LintScan

/-- Why a package is not scanned. -/
inductive RunError where
  | packageNotFound (path : Path)
  | unknownLevel (level : String)
  | order (kind : PluginKind) (e : OrderError)
  | outputDirectory (path : Path)
  | createDirectory (path : Path) (cause : FileError)
  | config (e : ConfigError)
  | profile (e : ProfileError)
  | exceptions (e : ExceptionsError)
  deriving Repr, DecidableEq

/-- The text of the error about the order of plugins of a kind. -/
def OrderError.message (kind : PluginKind) : OrderError → String
  | unknownPlugin name => "can't find specified " ++ kind.name ++ " plugin " ++ name
  | missingDependency plugin dependency =>
    "plugin " ++ plugin ++ " depends on plugin " ++ dependency ++ " which isn't enabled"
  | cycle chain => "dependency cycle between plugins: " ++ Text.join " -> " chain

/-- The text of the error. -/
def RunError.message : RunError → String
  | packageNotFound path => "no package found at " ++ path.text
  | unknownLevel level => "can't find specified level " ++ level ++ " in config"
  | order kind e => e.message kind
  | outputDirectory path => "output directory not found at " ++ path.text
  | createDirectory path cause => "unable to create " ++ path.text ++ ": " ++ cause.message
  | config e => e.message
  | profile e => e.message
  | exceptions e => e.message

/-- The outcome of a scan: the issues that count, without the tools that failed; whether every tool
and every report worked; and the summaries of the reports. -/
structure ScanResult where
  package : String
  level : String
  issues : IssueMap := .empty
  success : Bool := true
  reports : SortedTable String Json := .empty

/-- The number of issues. -/
def ScanResult.issueCount (r : ScanResult) : Nat := r.issues.all.length

/-- Everything that the scans of some packages share. -/
structure Runner where
  context : PluginContext
  exceptions : Exceptions
  profile : Option Profile
  registry : Registry

/-- The result of a query inside a scan. -/
def RunError.ofExcept {ε α : Type} (wrap : ε → RunError) (r : Except ε α) : Attempt RunError α :=
  match r with
  | .ok a => pure a
  | .error e => throw (wrap e)

namespace Runner

/-- The runner for some settings. The profile is left out where the settings fix a level. -/
def load (settings : Settings) (registry : Registry) : Attempt RunError Runner := do
  let h ← Session.host
  let (resources, log) := Resources.ofPaths h h.resourceRoot settings.userPaths
  Session.logAll log
  let config ← RunError.ofExcept .config (resources.config h settings)
  let exceptions ← RunError.ofExcept .exceptions
    (Exceptions.load h.files h.workingDirectory (resources.resolve h settings.exceptions))
  let load (_ : Unit) :=
    Profile.load h.files h.workingDirectory (resources.resolve h settings.profile)
  let profile ← RunError.ofExcept .profile
    (if settings.level.isSome then .ok none else (load ()).map some)
  return { context := { settings, config, resources }, exceptions, profile, registry }

/-- The level of a package: the one asked for, that of the settings, that of the profile, or the
default level. -/
def levelOf (r : Runner) (package : String) (asked : Option String) : String :=
  ((asked.or r.context.settings.level).or (r.profile.map (·.levelOf package))).getD "default"

end Runner

end LintScan
