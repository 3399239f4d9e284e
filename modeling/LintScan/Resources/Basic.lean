import LintScan.Config.Basic
import LintScan.Settings.Basic

/-!
# Resources

Documents and mapping files are looked up in a chain of directories: those of the user in order, and
then the directory of what comes with the program.

* `Resources` — the chain.
* `Resources.file?` — the first directory with a file wins.
* `Resources.resolve?` — a path that leads to a file stands for itself.
* `Resources.config` — the configuration that the settings name.
* `PluginContext` — the settings, the configuration and the chain together.
-/

namespace LintScan

/-- A chain of directories to look resources up in. -/
structure Resources where
  userPaths : List Path := []
  defaultPath : Path
  deriving Repr

namespace Resources

/-- A user path with the complaint about one that is no directory. -/
def userPath (h : Host) (p : Path) : Path ⊕ LogEntry :=
  if h.hasDirectory p then .inl (h.absolute p)
  else if h.hasPath p then
    .inr ⟨.failure, p.text ++ " is not a directory and not used as a path"⟩
  else .inr ⟨.failure, "Could not find path " ++ p.text⟩

/-- The chain of the user paths that are directories, ahead of `defaultPath`. -/
def ofPaths (h : Host) (defaultPath : Path) (paths : List Path) : Resources × List LogEntry :=
  let sorted := paths.map (userPath h)
  ({ userPaths := sorted.filterMap Sum.getLeft?, defaultPath }, sorted.filterMap Sum.getRight?)

/-- All directories in the order in which they are searched. -/
def paths (r : Resources) : List Path := r.userPaths ++ [r.defaultPath]

/-- The place of a resource in a directory. -/
def place (root : Path) (name : String) : Path := (root.join ⟨"rsc"⟩).join ⟨name⟩

/-- The first of some directories' files of a name. -/
def fileIn? (h : Host) (roots : List Path) (name : String) : Option Path :=
  (roots.map fun root => place root name).find? h.hasFile

/-- The file of a name. -/
def file? (r : Resources) (h : Host) (name : String) : Option Path := fileIn? h r.paths name

/-- The file of a name in the directories of the user. -/
def userFile? (r : Resources) (h : Host) (name : String) : Option Path :=
  fileIn? h r.userPaths name

/-- The file of a name among those that come with the program. -/
def defaultFile? (r : Resources) (h : Host) (name : String) : Option Path :=
  fileIn? h [r.defaultPath] name

/-- The file that a name leads to as a path, or else the resource of that name. -/
def resolve? (r : Resources) (h : Host) (name : String) : Option Path :=
  if h.hasFile ⟨name⟩ then some ⟨name⟩ else r.file? h name

/-- The file that a name leads to, or the name as a path if there is none. -/
def resolve (r : Resources) (h : Host) (name : String) : Path := (r.resolve? h name).getD ⟨name⟩

/-- The document whose levels are merged over the base document `base`: the one that the settings
name, or the first of the user that is named like the base document. -/
def userConfig? (r : Resources) (h : Host) (s : Settings) (base : Option Path) : Option Path :=
  let found := match s.userConfig with
    | some name => r.resolve? h name
    | none => r.userFile? h s.config
  found.filter fun p => base.map Path.parts != some p.parts

/-- The configuration that the settings name. -/
def config (r : Resources) (h : Host) (s : Settings) : Except ConfigError Config :=
  let base := r.resolve? h s.config
  Config.load h.files h.workingDirectory base (r.userConfig? h s base) "default"

end Resources

/-- What every plugin sees of a scan. -/
structure PluginContext where
  settings : Settings
  config : Config
  resources : Resources

end LintScan
