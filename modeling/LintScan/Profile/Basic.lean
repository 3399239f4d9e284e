import LintScan.Config.Basic

/-!
# Profiles

A profile says at which level each package is scanned.

* `Profile` — a default level and the levels of single packages.
* `Profile.levelOf` — the level of a package.
* `ProfileError` — why a profile cannot be loaded.
-/

namespace LintScan

open Yaml (Problem Source Value)

/-- The levels that packages are scanned at. -/
structure Profile where
  default : String
  packages : SortedTable String String := .empty

/-- Why a profile cannot be loaded. -/
inductive ProfileError where
  | unreadable (path : Path) (cause : FileError)
  | malformed (path : Path) (cause : Problem)
  | empty (path : Path)
  | missingDefault (path : Path)
  deriving Repr, DecidableEq

/-- The text of the error. -/
def ProfileError.message : ProfileError → String
  | unreadable path cause => "failed to read " ++ path.text ++ ": " ++ cause.message
  | malformed path cause => path.text ++ " is not a valid YAML file: " ++ cause.message
  | empty path => path.text ++ " is empty, can't continue"
  | missingDefault path => "no 'default' key found in " ++ path.text

namespace Profile

variable {α : Type}

/-- Reads a profile. -/
def read (s : Source α) (a : α) : Except Problem Profile := do
  let fs ← s.fields ["default", "packages"] a
  let default ← Source.field fs "default" s.string
  let packages ← s.optionalField fs "packages" fun a => do
    let pairs ← Source.expect (s.map? a)
    s.readPairs s.string pairs
  .ok { default, packages := .ofList (packages.getD []) }

/-- Whether a value is a mapping with a default level. -/
def hasDefault (v : Value) : Bool :=
  match v.untagged with
  | .map pairs => pairs.any fun (k, _) => k.alike (.string "default")
  | _ => false

/-- The profile of a text read from a path. -/
def ofTextAt (path : Path) (text : String) : Except ProfileError Profile :=
  match Yaml.readValue text with
  | .error e => .error (.malformed path e)
  | .ok .null => .error (.empty path)
  | .ok v =>
    if hasDefault v then
      match read .values v with
      | .error e => .error (.malformed path e)
      | .ok p => .ok p
    else .error (.missingDefault path)

/-- The profile of a text. -/
def ofText (text : String) : Except ProfileError Profile := ofTextAt .memory text

/-- The profile of a file. -/
def load (files : FileTree) (cwd : Place) (path : Path) : Except ProfileError Profile :=
  match files.readText cwd path with
  | .ok text => ofTextAt path text
  | .error e => .error (.unreadable path e)

/-- The level of a package: its own, or the default. -/
def levelOf (p : Profile) (package : String) : String :=
  (p.packages.get? package).getD p.default

end Profile

end LintScan
