import LintScan.Exceptions.Filter
import LintScan.Package.Walk
import LintScan.Resources.Basic

/-!
# Discovery

* `Package.collect` — puts the files that are claimed under a tag, without those whose issues would
  not count anyway.
* `DiscoveryPlugin` — claims the files of one kind, or learns about a package in a way of its own.
* `DiscoveryPlugin.builtin` — the kinds of files that are known from the start.
-/

namespace LintScan

namespace Package

/-- The paths of the files that are claimed. -/
def pathsClaimed (p : Package) (claims : PackageFile → Bool) : List Path :=
  (p.fileList.filter claims).map (·.path)

/-- Walks the package and puts the claimed files under a tag. -/
def collect (tag : String) (claims : PackageFile → Bool) (x : Option Exceptions) (p : Package) :
    Session Package := do
  let p ← p.walk
  let found := p.pathsClaimed claims
  match x with
  | none => return p.setPaths tag found
  | some x =>
    let (kept, log) := x.filterFilesEarly p.name (found.map (·.text))
    Session.logAll log
    return p.setPaths tag (kept.map Path.mk)

end Package

/-- A discovery plugin. Its dependencies have to run before it. Unless it has a way of its own to
learn about a package at a level, it puts the files that it claims under its tag. -/
structure DiscoveryPlugin where
  name : String
  dependencies : List String := []
  tag : String := ""
  claims : PackageFile → Bool := fun _ => false
  scan : PluginContext → Package → (level : String) → Option Exceptions → Session Package :=
    fun _ p _ x => Package.collect tag claims x p

namespace PackageFile

/-- Whether the name ends in one of the given ways. -/
def hasExtension (f : PackageFile) (extensions : List String) : Bool :=
  extensions.any fun e => Text.endsWith e.toList f.name.toList

/-- Whether the description mentions one of the given kinds. -/
def isDescribedAs (f : PackageFile) (kinds : List String) : Bool :=
  kinds.any fun k => Text.occursIn k f.description

end PackageFile

namespace DiscoveryPlugin

/-! ## Built-in plugins -/

/-- Python sources by name or description. -/
def python : DiscoveryPlugin where
  name := "python"
  tag := Tag.python
  claims f := f.hasExtension [".py"]
    || (f.isDescribedAs ["python script"] && !f.hasExtension [".cfg"])

/-- Shell scripts by name or description. -/
def shell : DiscoveryPlugin where
  name := "shell"
  tag := Tag.shell
  claims f := f.hasExtension [".sh", ".bash", ".zsh", ".csh", ".ksh", ".dash"]
    || f.isDescribedAs ["shell script", "dash script", "zsh script"]

/-- YAML documents by name. -/
def yaml : DiscoveryPlugin where
  name := "yaml"
  tag := Tag.yaml
  claims f := f.hasExtension [".yaml", ".yml"]

/-- C and C++ sources by name or description. -/
def c : DiscoveryPlugin where
  name := "c"
  tag := Tag.c
  claims f := f.hasExtension [".c", ".cc", ".cpp", ".cxx", ".h", ".hxx", ".hpp"]
    || (f.isDescribedAs ["c source", "c program", "c++ source"] && !f.hasExtension [".cfg"])

/-- Markdown documents by name. -/
def markdown : DiscoveryPlugin where
  name := "markdown"
  tag := Tag.markdown
  claims f := f.hasExtension [".md"]

/-- The built-in plugins. -/
def builtin : List DiscoveryPlugin := [python, shell, yaml, c, markdown]

end DiscoveryPlugin

end LintScan
