import LintScan.Table.Sorted
import LintScan.Toml.Read
import LintScan.Yaml.Source

/-!
# Settings documents

* `SettingsDocument` — what a settings file may say; everything may be left out.
* `SettingsDocument.ofYaml`, `SettingsDocument.ofToml` — reads it from a text. Both forms answer the
  same questions, so there is one reader.
-/

namespace LintScan

open Yaml (Problem Source)

/-- What a settings file may say. -/
structure SettingsDocument where
  profile : Option String := none
  config : Option String := none
  userConfig : Option String := none
  exceptions : Option String := none
  outputDirectory : Option String := none
  level : Option String := none
  userPaths : Option (List String) := none
  logLevel : Option String := none
  maxProcs : Option Nat := none
  mappingFileSuffix : Option String := none
  check : Option Bool := none
  timings : Option Bool := none
  forceToolList : Option (List String) := none
  bins : Option (SortedTable String String) := none

/-- TOML values answer by their type. Nothing in TOML is absent that is written down. -/
def Toml.source : Source Toml where
  isAbsent _ := false
  string?
    | .string s => some s
    | _ => none
  bool?
    | .boolean b => some b
    | _ => none
  count?
    | .integer n => if 0 ≤ n then some n.toNat else none
    | _ => none
  seq?
    | .array items => some items
    | .elements tables => some (tables.map (.table .header))
    | _ => none
  map?
    | .table _ entries => some (entries.map fun (k, v) => (.string k, v))
    | _ => none
  shape _ := .other
  value _ := .error .badShape

namespace SettingsDocument

variable {α : Type}

/-- The fields of a settings document. -/
def fieldNames : List String :=
  ["profile", "config", "user_config", "exceptions", "output_directory", "level", "user_paths",
    "log_level", "max_procs", "mapping_file_suffix", "check", "timings", "force_tool_list", "bins"]

/-- Reads the binaries of tools. -/
def readBins (s : Source α) (a : α) : Except Problem (SortedTable String String) := do
  let pairs ← Source.expect (s.map? a)
  let entries ← s.readPairs s.string pairs
  .ok (.ofList entries)

/-- Reads a settings document. -/
def read (s : Source α) (a : α) : Except Problem SettingsDocument := do
  let fs ← s.fields fieldNames a
  let text (name : String) := s.optionalField fs name s.string
  let texts (name : String) := s.optionalField fs name s.strings
  let switch (name : String) := s.optionalField fs name s.bool
  let profile ← text "profile"
  let config ← text "config"
  let userConfig ← text "user_config"
  let exceptions ← text "exceptions"
  let outputDirectory ← text "output_directory"
  let level ← text "level"
  let userPaths ← texts "user_paths"
  let logLevel ← text "log_level"
  let maxProcs ← s.optionalField fs "max_procs" s.count
  let mappingFileSuffix ← text "mapping_file_suffix"
  let check ← switch "check"
  let timings ← switch "timings"
  let forceToolList ← texts "force_tool_list"
  let bins ← s.optionalField fs "bins" (readBins s)
  .ok { profile, config, userConfig, exceptions, outputDirectory, level, userPaths, logLevel,
        maxProcs, mappingFileSuffix, check, timings, forceToolList, bins }

/-- The settings of a YAML text. A text without a document says nothing. -/
def ofYaml (text : String) : Except Problem SettingsDocument := do
  match ← Yaml.readNode text with
  | some n => read .nodes n
  | none => .ok {}

/-- The settings of a TOML text. -/
def ofToml (text : String) : Except Problem SettingsDocument :=
  match TomlTable.ofText? text with
  | some entries => read Toml.source (.table .header entries)
  | none => .error .badToken

end SettingsDocument

end LintScan
