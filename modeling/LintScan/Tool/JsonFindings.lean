import LintScan.Issue.Basic
import LintScan.Json.Read
import LintScan.Text.Blank

/-!
# Findings in JSON

* `JsonFinding` — a finding as a JSON document tells it. Any part may be missing.
* `JsonFinding.listOf?` — the findings of a document: a list of objects, or of lists of the five
  parts in order.
* `JsonFinding.issue?` — the issue of a finding that has a file, a level, a code and a message.
-/

namespace LintScan

/-- A finding as a JSON document tells it. -/
structure JsonFinding where
  file : Option String
  line : Option Int
  level : Option String
  code : Option Int
  message : Option String
  deriving Repr, DecidableEq

namespace JsonFinding

/-- The names of the parts in order. -/
def partNames : List String := ["file", "line", "level", "code", "message"]

/-- A part that may be null. -/
def part? {α : Type} (read : Json → Option α) : Json → Option (Option α)
  | .null => some none
  | v => (read v).map some

/-- The string of a value. -/
def text? : Json → Option String
  | .string s => some s
  | _ => none

/-- The finding of five parts. -/
def ofParts? (file line level code message : Json) : Option JsonFinding := do
  some {
    file := ← part? text? file
    line := ← part? Json.int64? line
    level := ← part? text? level
    code := ← part? Json.int64? code
    message := ← part? text? message }

/-- The finding of a value. No part may be given twice; what is not a part is passed over. -/
def ofJson? : Json → Option JsonFinding
  | .array [file, line, level, code, message] => ofParts? file line level code message
  | .object members =>
    let parts := members.filter fun m => partNames.contains m.1
    let part (name : String) : Json := (parts.lookup name).getD .null
    if (parts.map (·.1)).Nodup then
      ofParts? (part "file") (part "line") (part "level") (part "code") (part "message")
    else none
  | _ => none

/-- The findings of a text. -/
def listOf? (text : String) : Option (List JsonFinding) :=
  match Json.readFor? (fun name => partNames.contains name) text with
  | some (.array items) => items.mapM ofJson?
  | _ => none

/-- How grave a level is. -/
def severityOf (level : String) : Int :=
  if level = "style" ∨ level = "info" then 1
  else if level = "error" then 5
  else 3

/-- The issue of a finding. Line zero stands for a line that is not known. -/
def issue? (f : JsonFinding) (tool : String) : Option Issue := do
  let filename ← f.file
  let level ← f.level
  let code ← f.code
  let message ← f.message
  some {
    filename
    lineNumber := f.line.getD 0
    tool
    issueType := "SC" ++ toString code
    severity := severityOf level
    message
    certReference := none }

/-- The issues of an output, or nothing if a chunk that is not blank holds no findings. -/
def issuesOf? (tool : String) (output : List String) : Option (List Issue) := do
  let found ← (output.filter fun chunk => !Text.isBlankText chunk).mapM listOf?
  some (found.flatten.filterMap fun f => f.issue? tool)

end JsonFinding

end LintScan
