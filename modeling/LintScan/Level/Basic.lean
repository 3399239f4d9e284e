import LintScan.Table.Ordered
import LintScan.Table.Sorted
import LintScan.Text.Blank
import LintScan.Yaml.Source

/-!
# Levels

A level names the plugins to run, the settings to run them with, and the levels it inherits from.

* `PluginKind` — discovery plugins find files, tools look at them, and reporting plugins show what
  the tools found.
* `PluginTable`, `Level` — the parts of a level document.
* `Level.read`, `LevelTable.readDocument` — reads them from either raw form of a document.
-/

namespace LintScan

open Yaml (Problem Source Value)

/-- The three kinds of plugins. -/
inductive PluginKind where
  | discovery
  | tool
  | reporting
  deriving Repr, DecidableEq

/-- The name of a kind in documents and messages. -/
def PluginKind.name : PluginKind → String
  | discovery => "discovery"
  | tool => "tool"
  | reporting => "reporting"

/-- The settings of a plugin. -/
abbrev PluginSettings := SortedTable String Value

/-- The plugins of one kind, each with its settings if it has any. -/
abbrev PluginTable := OrderedTable (Option PluginSettings)

/-- A level. -/
structure Level where
  discovery : Option PluginTable := none
  tool : Option PluginTable := none
  reporting : Option PluginTable := none
  inheritsFrom : List String := []

/-- The plugins of a kind that the level itself lists. -/
def Level.plugins (l : Level) : PluginKind → Option PluginTable
  | .discovery => l.discovery
  | .tool => l.tool
  | .reporting => l.reporting

/-- The names of the plugins of a kind that the level itself lists. -/
def Level.pluginNames (l : Level) (kind : PluginKind) : List String :=
  match l.plugins kind with
  | some t => t.keys
  | none => []

/-- A setting of a plugin on the level itself. -/
def Level.setting? (l : Level) (kind : PluginKind) (plugin key : String) : Option Value :=
  match (l.plugins kind).bind (·.get? plugin) with
  | some (some settings) => settings.get? key
  | _ => none

/-- The levels of a document in order. A level may be given without contents. -/
abbrev LevelTable := OrderedTable (Option Level)

variable {α : Type}

/-- Reads the settings of a plugin. -/
def PluginSettings.read (s : Source α) (a : α) : Except Problem PluginSettings := do
  let pairs ← Source.expect (s.map? a)
  let entries ← s.readPairs s.value pairs
  .ok (SortedTable.ofList entries)

/-- Reads a table of plugins: a mapping from names to settings, or a list of names. -/
def PluginTable.read (s : Source α) (a : α) : Except Problem PluginTable :=
  match s.shape a with
  | .null => .ok .empty
  | .seq items => do
    let names ← items.mapM s.string
    .ok (.ofList (names.map fun n => (n, none)))
  | .map pairs => do
    let entries ← s.readPairs (s.optional (PluginSettings.read s)) pairs
    .ok (.ofList entries)
  | .other => .error .badShape

/-- Reads the parents of a level: one name or a list of names, of which blank ones do not count. -/
def Level.readParents (s : Source α) (a : α) : Except Problem (List String) := do
  let parents ← match ← s.optional s.stringOrList a with
    | none => .ok []
    | some (.inl name) => .ok [name]
    | some (.inr names) => .ok names
  .ok (parents.filter fun p => !Text.isBlankText p)

/-- Reads a level. -/
def Level.read (s : Source α) (a : α) : Except Problem Level := do
  let fs ← s.fields ["discovery", "tool", "reporting", "inherits_from"] a
  let discovery ← s.optionalField fs "discovery" (PluginTable.read s)
  let tool ← s.optionalField fs "tool" (PluginTable.read s)
  let reporting ← s.optionalField fs "reporting" (PluginTable.read s)
  let inheritsFrom ← match fs.lookup "inherits_from" with
    | some a => Level.readParents s a
    | none => .ok []
  .ok { discovery, tool, reporting, inheritsFrom }

/-- Reads a table of levels. -/
def LevelTable.read (s : Source α) (a : α) : Except Problem LevelTable :=
  match s.shape a with
  | .null => .ok .empty
  | .map pairs => do
    let entries ← s.readPairs (s.optional (Level.read s)) pairs
    .ok (.ofList entries)
  | _ => .error .badShape

/-- Reads a level document. -/
def LevelTable.readDocument (s : Source α) (a : α) : Except Problem LevelTable := do
  let fs ← s.fields ["levels"] a
  match fs.lookup "levels" with
  | some a => LevelTable.read s a
  | none => .ok .empty

/-- The levels of a text, read straight from it. -/
def LevelTable.ofText (text : String) : Except Problem LevelTable := do
  match ← Yaml.readNode text with
  | some n => LevelTable.readDocument .nodes n
  | none => .ok .empty

/-- The plugins of a text, read straight from it. -/
def PluginTable.ofText (text : String) : Except Problem PluginTable := do
  match ← Yaml.readNode text with
  | some n => PluginTable.read .nodes n
  | none => .error .badShape

end LintScan
