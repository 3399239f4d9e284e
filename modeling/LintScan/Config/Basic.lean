import LintScan.Files.Tree
import LintScan.Level.Basic

/-!
# Configurations

A configuration is a table of levels with the name of the level that ends every climb through the
parents and enables nothing itself.

* `Config` — the levels of the base document with those of the user document merged over them.
* `ConfigError` — why a configuration cannot be loaded or a level cannot be resolved.
* `Config.merge` — user levels replace base levels of the same name as a whole.
-/

namespace LintScan

/-- Why a configuration cannot be loaded or a level cannot be resolved. -/
inductive ConfigError where
  | unreadable (path : Path) (cause : FileError)
  | malformed (path : Path) (cause : Yaml.Problem)
  | unknownLevel (level : String)
  | inheritanceCycle (chain : List String)
  deriving Repr, DecidableEq

/-- The text of the error. -/
def ConfigError.message : ConfigError → String
  | unreadable path cause => "failed to read " ++ path.text ++ ": " ++ cause.message
  | malformed path cause => path.text ++ " is not a valid YAML file: " ++ cause.message
  | unknownLevel level => "level '" ++ level ++ "' is not defined"
  | inheritanceCycle chain => "inheritance cycle between levels: " ++ Text.join " -> " chain

/-- The levels that a scan may run at. -/
structure Config where
  levels : OrderedTable Level := .empty
  defaultLevel : String := "default"

/-- The path that stands for a text that was read from no file. -/
def Path.memory : Path := ⟨"<memory>"⟩

namespace Config

/-- Whether a level is defined. -/
def hasLevel (c : Config) (level : String) : Bool := c.levels.contains level

/-- The names of the levels in order. -/
def levelNames (c : Config) : List String := c.levels.keys

/-- A user level; one that inherits only from itself inherits from nothing. -/
def ownLevel (name : String) (l : Level) : Level :=
  if l.inheritsFrom = [name] then { l with inheritsFrom := [] } else l

/-- The configuration with user levels merged over it. -/
def merge (c : Config) (user : OrderedTable Level) : Config :=
  { c with levels := c.levels.insertAll (user.map ownLevel).entries }

/-- The levels of a document; a level without contents is an empty level. A null document has no
levels. -/
def levelsOfValue (v : Yaml.Value) : Except Yaml.Problem (OrderedTable Level) :=
  match v with
  | .null => .ok .empty
  | v => (LevelTable.readDocument .values v).map fun t => t.map fun _ l => l.getD {}

/-- The levels of a text read from a path. -/
def levelsOfText (path : Path) (text : String) : Except ConfigError (OrderedTable Level) :=
  match Yaml.readValue text >>= levelsOfValue with
  | .ok t => .ok t
  | .error e => .error (.malformed path e)

/-- The configuration of a base document. -/
def ofText (base : String) : Except ConfigError Config :=
  (levelsOfText .memory base).map fun levels => { levels }

/-- The configuration with a user document merged over it. -/
def withUserText (c : Config) (user : String) : Except ConfigError Config :=
  (levelsOfText .memory user).map c.merge

/-- The levels of a file. -/
def levelsOfFile (files : FileTree) (cwd : Place) (path : Path) :
    Except ConfigError (OrderedTable Level) :=
  match files.readText cwd path with
  | .ok text => levelsOfText path text
  | .error e => .error (.unreadable path e)

/-- Loads the base document and the user document over it. A base document that does not exist makes
a configuration without levels, and a user document that does not exist is passed over. -/
def load (files : FileTree) (cwd : Place) (base user : Option Path) (defaultLevel : String) :
    Except ConfigError Config :=
  match base.filter (files.exists? cwd) with
  | none => .ok { defaultLevel }
  | some base => do
    let levels ← levelsOfFile files cwd base
    let c : Config := { levels, defaultLevel }
    match user.filter (files.exists? cwd) with
    | none => .ok c
    | some user => do
      let levels ← levelsOfFile files cwd user
      .ok (c.merge levels)

end Config

end LintScan
