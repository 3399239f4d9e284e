import LintScan.Files.Path
import LintScan.Json.Basic
import LintScan.Table.Sorted

/-!
# Packages

A package is a tree of files with what discovery learns about it.

* `PackageFile` — what is known of a file.
* `Package` — a name, a root, the files once they are walked, and the finds of discovery by tag.
* `Package.paths` — the paths under a tag.
-/

namespace LintScan

/-- A file of a package: its name in lower case, its path, and what sniffing says of it in lower
case. -/
structure PackageFile where
  name : String
  path : Path
  description : String
  deriving Repr, DecidableEq

/-- What discovery finds: paths, or some other value. -/
inductive Discovered where
  | paths (ps : List Path)
  | value (v : Json)
  deriving Repr

/-- The files of a package in the order of their paths. -/
abbrev PackageFiles := SortedTable (List String) PackageFile

/-- A package. -/
structure Package where
  name : String
  path : Path
  files : Option PackageFiles := none
  discovered : SortedTable String Discovered := .empty

namespace Package

/-- The package at a path, named by the last part of the path. -/
def ofPath (path : Path) : Package := { name := path.fileName?.getD path.text, path }

/-- Whether the files of the package are known. -/
def walked (p : Package) : Bool := p.files.isSome

/-- The files of the package; none before the walk. -/
def fileList (p : Package) : List PackageFile :=
  match p.files with
  | some t => t.values
  | none => []

/-- The find under a tag. -/
def get? (p : Package) (tag : String) : Option Discovered := p.discovered.get? tag

/-- The package with a find under a tag. -/
def insert (p : Package) (tag : String) (d : Discovered) : Package :=
  { p with discovered := p.discovered.insert tag d }

/-- The package with paths under a tag. -/
def setPaths (p : Package) (tag : String) (paths : List Path) : Package :=
  p.insert tag (.paths paths)

/-- The package with a value under a tag. -/
def setValue (p : Package) (tag : String) (v : Json) : Package := p.insert tag (.value v)

/-- The paths under a tag; none if nothing or something else is there. -/
def paths (p : Package) (tag : String) : List Path :=
  match p.get? tag with
  | some (.paths ps) => ps
  | _ => []

/-- The value under a tag; none if nothing or paths are there. -/
def value? (p : Package) (tag : String) : Option Json :=
  match p.get? tag with
  | some (.value v) => some v
  | _ => none

/-- The tags with a find. -/
def tags (p : Package) : List String := p.discovered.keys

end Package

/-! ## The tags of the built-in kinds of files -/

namespace Tag

/-- Python sources. -/
def python : String := "python_src"

/-- Shell scripts. -/
def shell : String := "shell_src"

/-- YAML documents. -/
def yaml : String := "yaml"

/-- C and C++ sources. -/
def c : String := "c_src"

/-- Markdown documents. -/
def markdown : String := "md_src"

end Tag

end LintScan
