import LintScan.Resources.Basic
import LintScan.Text.Lines

/-!
# Mapping files

A mapping file gives references for the warnings of a tool, one `warning:reference` a line.

* `readMapping` — the mapping of a text, with a complaint about each line that is no pair.
* `Resources.mapping` — the mapping of a tool.
-/

namespace LintScan

/-- The references for the warnings of a tool. -/
abbrev Mapping := SortedTable String String

/-- What a line of a mapping file says. -/
inductive MappingLine where
  | blank
  | pair (warning reference : String)
  | invalid (line : String)
  deriving Repr, DecidableEq

/-- Reads a line: a warning and a reference with one colon between them. -/
def MappingLine.ofChars (line : List Char) : MappingLine :=
  let trimmed := Text.trimChars line
  if trimmed.isEmpty then .blank
  else
    match Text.splitAtEach ':' trimmed with
    | [warning, reference] => .pair (String.ofList warning) (String.ofList reference)
    | _ => .invalid (String.ofList trimmed)

/-- The pairs of some lines. -/
def MappingLine.pairs (ls : List MappingLine) : List (String × String) :=
  ls.filterMap fun
    | .pair warning reference => some (warning, reference)
    | _ => none

/-- A complaint about a line of the file called `file`, if it is neither blank nor a pair. -/
def MappingLine.complaint? (file : String) : MappingLine → Option LogEntry
  | .invalid line => some ⟨.warning, "Invalid line " ++ line ++ " in mapping file " ++ file⟩
  | _ => none

/-- The mapping of the text of a file. The last line of a warning counts. -/
def readMapping (file text : String) : Mapping × List LogEntry :=
  let ls := (Text.linesOf text.toList).map MappingLine.ofChars
  (.ofList (MappingLine.pairs ls), ls.filterMap (MappingLine.complaint? file))

namespace Resources

/-- The name of the mapping file of a tool. -/
def mappingName (tool : String) : String := "plugin_mapping/" ++ tool ++ ".txt"

/-- The mapping file of a tool. One with the suffix of the settings comes first. -/
def mappingFile? (r : Resources) (h : Host) (s : Settings) (tool : String) : Option Path :=
  let special := s.mappingFileSuffix.bind fun suffix =>
    r.file? h (mappingName (tool ++ "-" ++ suffix))
  special.or (r.file? h (mappingName tool))

/-- The mapping of a tool, empty if there is no file that can be read. -/
def mapping (r : Resources) (h : Host) (s : Settings) (tool : String) : Mapping × List LogEntry :=
  match r.mappingFile? h s tool with
  | none => (.empty, [])
  | some path =>
    match h.readText path with
    | .ok text => readMapping (mappingName tool) text
    | .error e =>
      (.empty, [⟨.warning, "unable to read mapping file " ++ path.text ++ ": " ++ e.message⟩])

end Resources

end LintScan
