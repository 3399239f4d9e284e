import LintScan.Session.Host
import LintScan.Settings.Document
import LintScan.Text.Blank

/-!
# Settings

A scan is set up by the command line, by a settings file, and by defaults, in this order.

* `Overrides` — what the command line says.
* `Settings` — the settings in force.
* `Host.detectRoot` — where the settings file is looked for: the nearest directory, upwards from the
  start, that holds one or that is the root of a checkout.
* `Settings.resolve` — the three put together.
-/

namespace LintScan

/-- What the command line says about settings. -/
structure Overrides where
  root : Option String := none
  profile : Option String := none
  config : Option String := none
  userConfig : Option String := none
  exceptions : Option String := none
  outputDirectory : Option String := none
  level : Option String := none
  userPaths : Option (List String) := none
  logLevel : Option String := none
  maxProcs : Option Nat := none
  mappingFileSuffix : Option String := none
  check : Option Bool := none
  timings : Option Bool := none
  forceToolList : Option (List String) := none
  deriving Repr, DecidableEq

/-- The settings in force. -/
structure Settings where
  root : Path := ⟨""⟩
  profile : String := ""
  config : String := ""
  userConfig : Option String := none
  exceptions : String := ""
  outputDirectory : Option Path := none
  level : Option String := none
  userPaths : List Path := []
  logLevel : Option String := none
  maxProcs : Option Nat := none
  mappingFileSuffix : Option String := none
  check : Bool := false
  timings : Bool := false
  forceToolList : Option (List String) := none
  bins : SortedTable String String := .empty
  settingsFound : Bool := false

/-- The pieces of a list between commas, without blanks around them and without empty ones. -/
def Text.splitList (s : String) : List String :=
  (((Text.splitAtEach ',' s.toList).map Text.trimChars).filter (!·.isEmpty)).map String.ofList

/-- What the output about a package at a level is called. -/
def stamp (package level : String) : Path := ⟨package ++ "-" ++ level⟩

namespace Settings

/-- The program that runs a tool. -/
def binaryFor (s : Settings) (tool : String) : String := (s.bins.get? tool).getD tool

/-- The output directory of a package at a level, if output is wanted. -/
def packageOutput? (s : Settings) (package level : String) : Option Path :=
  s.outputDirectory.map fun d => d.join (stamp package level)

end Settings

/-! ## The settings file -/

/-- The names of a settings file in YAML, by precedence. -/
def Settings.yamlNames : List String := ["lintherd.yaml", "lintherd.yml"]

/-- The name of a settings file in TOML. -/
def Settings.tomlName : String := "lintherd.toml"

/-- The names whose presence makes a directory the root of a scan. -/
def Settings.rootMarks : List String := Settings.tomlName :: Settings.yamlNames ++ [".git"]

/-- Where the settings file is looked for. -/
def Host.detectRoot (h : Host) (start : Path) : Path :=
  (start.ancestors.find? fun d => Settings.rootMarks.any fun n => h.hasPath (d.join ⟨n⟩)).getD start

namespace SettingsDocument

/-- Why a settings file is passed over. -/
def ignored (path : Path) (cause : Yaml.Problem) : LogEntry :=
  ⟨.warning, "ignoring " ++ path.text ++ ": " ++ cause.message⟩

/-- The settings of a file; one that is not text is passed over, and one that is malformed with a
warning. -/
def loadAt (h : Host) (path : Path) (read : String → Except Yaml.Problem SettingsDocument) :
    Option SettingsDocument × List LogEntry :=
  match h.readText path with
  | .error _ => (none, [])
  | .ok text =>
    match read text with
    | .ok d => (some d, [])
    | .error e => (none, [ignored path e])

/-- The settings of the first settings file of a directory. -/
def load (h : Host) (root : Path) : Option SettingsDocument × List LogEntry :=
  let toml := root.join ⟨Settings.tomlName⟩
  if h.hasPath toml then loadAt h toml ofToml
  else
    match (Settings.yamlNames.map fun n => root.join ⟨n⟩).find? h.hasPath with
    | some path => loadAt h path ofYaml
    | none => (none, [])

end SettingsDocument

namespace Settings

/-- The place of a user path. A relative one that does not exist is seen from the root. -/
def userPath (h : Host) (root : Path) (p : String) : Path :=
  let path : Path := ⟨p⟩
  if !path.isAbsolute && !h.hasPath path then root.join path else path

/-- The settings of the command line over those of a document over the defaults. -/
def combine (h : Host) (root : Path) (o : Overrides) (found : Bool) (d : SettingsDocument) :
    Settings where
  root := root
  profile := (o.profile.or d.profile).getD "profile.yaml"
  config := (o.config.or d.config).getD "config.yaml"
  userConfig := o.userConfig.or d.userConfig
  exceptions := (o.exceptions.or d.exceptions).getD "exceptions.yaml"
  outputDirectory := (o.outputDirectory.or d.outputDirectory).map Path.mk
  level := o.level.or d.level
  userPaths := ((o.userPaths.or d.userPaths).getD []).map (userPath h root)
  logLevel := o.logLevel.or d.logLevel
  maxProcs := o.maxProcs.or d.maxProcs
  mappingFileSuffix := o.mappingFileSuffix.or d.mappingFileSuffix
  check := (o.check.or d.check).getD false
  timings := (o.timings.or d.timings).getD false
  forceToolList := o.forceToolList.or d.forceToolList
  bins := d.bins.getD .empty
  settingsFound := found

/-- The settings in force for a command line. -/
def resolve (h : Host) (o : Overrides) : Settings × List LogEntry :=
  let root := h.detectRoot ⟨o.root.getD "."⟩
  let (found, log) := SettingsDocument.load h root
  (combine h root o found.isSome (found.getD {}), log)

end Settings

end LintScan
