import LintScan.Config.Basic
import LintScan.Table.Unvisited
import LintScan.Text.Blank
import LintScan.Unicode.Case
import LintScan.Yaml.Value.Block

/-!
# Resolving levels

Both questions to a level climb through its parents in the order in which it inherits from them,
past the level itself. A climb that comes back to a level it is still in has met a cycle.

* `Config.enabledPlugins` — the plugins of a level: its own, then those of each parent; the first
  occurrence of a name counts.
* `Config.pluginSetting` — a setting of a plugin: the level's own value, or else the values resolved
  from every parent, one behind the other.

Each step of a climb enters a known level that it is not in yet, so a climb ends.
-/

namespace LintScan

namespace Config

/-- The names of a list, then the further names that are not among them yet. -/
def addNew (names more : List String) : List String :=
  more.foldl (fun acc n => if n ∈ acc then acc else acc ++ [n]) names

/-- The parents of a level other than itself. -/
def climbParents (l : Level) (level : String) : List String :=
  l.inheritsFrom.filter (· ≠ level)

/-- The plugins of a level, reached through the levels `visiting`. -/
def enabledFrom (c : Config) (kind : PluginKind) (visiting : List String) (level : String) :
    Except ConfigError (List String) :=
  if level = c.defaultLevel then .ok []
  else
    match _known : c.levels.get? level with
    | none => .error (.unknownLevel level)
    | some l =>
      if _fresh : level ∈ visiting then .error (.inheritanceCycle (visiting ++ [level]))
      else
        (climbParents l level).foldlM
          (fun names parent => do
            let more ← enabledFrom c kind (visiting ++ [level]) parent
            .ok (addNew names more))
          (l.pluginNames kind)
termination_by unvisited c.levels.keys visiting
decreasing_by exact unvisited_append_lt (OrderedTable.mem_keys_of_get? _known) _fresh

/-- The plugins of a kind that a level enables. -/
def enabledPlugins (c : Config) (level : String) (kind : PluginKind) :
    Except ConfigError (List String) :=
  enabledFrom c kind [] level

/-- The text of a setting; null is no setting, nor is a value that cannot be written. -/
def settingText : Yaml.Value → Option String
  | .null => none
  | .string s => some s
  | .bool b => some (if b then "true" else "false")
  | .int n => some (toString n)
  | .real x => some (Yaml.realText x)
  | v => if v.isWritable false then some (Text.trimEnd v.block) else none

/-- The text of a setting on the level itself. -/
def ownSetting (l : Level) (kind : PluginKind) (plugin key : String) : Option String :=
  (l.setting? kind plugin key).bind settingText

/-- A setting of a plugin at a level, reached through the levels `visiting`. -/
def settingFrom (c : Config) (kind : PluginKind) (plugin key : String) (visiting : List String)
    (level : String) : Except ConfigError (Option String) :=
  match _known : c.levels.get? level with
  | none => .ok none
  | some l =>
    match ownSetting l kind plugin key with
    | some s => .ok (some s)
    | none =>
      if _fresh : level ∈ visiting then .error (.inheritanceCycle (visiting ++ [level]))
      else do
        let found ← (climbParents l level).mapM
          (fun parent => settingFrom c kind plugin key (visiting ++ [level]) parent)
        let text := String.join (found.map (·.getD ""))
        .ok (if text.isEmpty then none else some text)
termination_by unvisited c.levels.keys visiting
decreasing_by exact unvisited_append_lt (OrderedTable.mem_keys_of_get? _known) _fresh

/-- A setting of a plugin at a level, or the default where neither the level nor an ancestor has
it. An undefined level has no settings. -/
def pluginSetting (c : Config) (kind : PluginKind) (plugin level key : String)
    (default : Option String) : Except ConfigError (Option String) := do
  let found ← settingFrom c kind plugin key [] level
  .ok (found.or default)

/-- A value on a single line: runs of blanks become one space, and double quotes and then blanks go
from both ends. -/
def flatten (value : String) : String :=
  let joined := (Text.join " " (Text.words value)).toList
  String.ofList (Text.trimChars (Text.stripWhere (· == '"') joined))

/-- A setting of a tool on a single line. -/
def toolSetting (c : Config) (plugin level key : String) (default : Option String) :
    Except ConfigError (Option String) := do
  let found ← c.pluginSetting .tool plugin level key default
  .ok (found.map flatten)

/-- Whether a setting switches something on. -/
def isOn (value : Option String) : Bool :=
  match value with
  | some v => ["y", "yes", "t", "true", "on", "1"].contains (Unicode.lowercase v)
  | none => false

end Config

end LintScan
