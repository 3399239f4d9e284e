import LintScan.Decimal.Read
import LintScan.Issue.Basic
import LintScan.Regex.Capture
import LintScan.Text.Lines
import LintScan.Tool.Mapping

/-!
# Findings on single lines

Most tools print a finding on a line of its own and other text on other lines.

* `LineFormat` — the form of a finding's line and the issue that its parts make.
* `LineFormat.issuesOf` — the issues of an output; a line that is no finding is passed over.
* `pylintLines`, `mypyLines`, `yamllintLines`, `markdownlintLines` — the formats of four tools.
-/

namespace LintScan

open Regex (Captures)

/-- The form of a finding's line and the issue that its parts make. -/
structure LineFormat where
  form : Regex
  issue? : Captures → Option Issue

namespace LineFormat

/-- The issue of a line, if it is a finding. -/
def issueOf? (f : LineFormat) (line : String) : Option Issue :=
  (f.form.captures? line).bind f.issue?

/-- The issues of an output that comes in chunks. -/
def issuesOf (f : LineFormat) (output : List String) : List Issue :=
  (output.flatMap Text.lines).filterMap f.issueOf?

/-! ## Parts of a line -/

/-- Any text of at least one character, as long as possible or as short as possible. -/
def text (greedy : Bool) : Regex := .iter (.char (.compl (.single '\n'))) 1 none greedy

/-- At least one digit. -/
def digits : Regex := .iter (.char .digit) 1 none true

/-- A blank. -/
def blank : Regex := .char .blank

/-- The given text. -/
def lit (s : String) : Regex := .ofChars s.toList

/-- An expression that may be missing. -/
def optional (r : Regex) : Regex := .iter r 0 (some 1) true

/-- The parts up to the end of the line. -/
def line (parts : List Regex) : Regex := .seqs (parts ++ [.look .textEnd])

/-- The line number in a group, if it is one. -/
def number? (cs : Captures) (group : Nat) : Option Int := do
  let n ← Decimal.readUnsigned? 10 (← cs.get? group).toList
  if Decimal.fitsSigned 64 n then some n else none

end LineFormat

open LineFormat

/-! ## Formats -/

/-- The kind and the message of a finding with the object that its head may name. -/
def splitHead (head message : String) : String × String :=
  match Text.cutAt? ',' head.toList with
  | none => (head, message)
  | some (kind, object) =>
    let object := Text.trimChars object
    (String.ofList kind,
      if object.isEmpty then message else String.ofList object ++ ": " ++ message)

/-- The warning that a kind `warning(symbol)` names. -/
def warningOf (kind : String) : String := String.ofList (kind.toList.takeWhile (· != '('))

/-- Lines `path:line: [warning(symbol), object] message`, with references from a mapping. -/
def pylintLines (references : Mapping) : LineFormat where
  form := line [.group 1 (text true), lit ":", .group 2 digits, lit ":", blank, lit "[",
    .group 3 (text false), lit "]", blank, .group 4 (text true)]
  issue? cs := do
    let lineNumber ← number? cs 2
    let (issueType, message) := splitHead (← cs.get? 3) (← cs.get? 4)
    some {
      filename := ← cs.get? 1
      lineNumber
      tool := "pylint"
      issueType
      severity := 5
      message
      certReference := references.get? (warningOf issueType) }

/-- How grave a message of the type checker is; notes are no issues. -/
def checkerSeverity? (word : String) : Option Int :=
  if word = "error" then some 5 else if word = "warning" then some 3 else none

/-- Lines `path:line:column: severity: message [code]`, where column and code may be missing and the
path is absolute. -/
def mypyLines : LineFormat where
  form := line [.group 1 (text false), lit ":", .group 2 digits, lit ":",
    optional (.seqs [digits, lit ":"]), blank,
    .group 3 (.alts [lit "error", lit "warning", lit "note"]), lit ":", blank,
    .group 4 (text false),
    optional (.seqs [.iter blank 1 none true, lit "[",
      .group 5 (.iter (.char (.union .word (.single '-'))) 1 none true), lit "]"])]
  issue? cs := do
    let filename ← cs.get? 1
    let word ← cs.get? 3
    if !Path.isAbsolute ⟨filename⟩ then none
    some {
      filename
      severity := ← checkerSeverity? word
      lineNumber := ← number? cs 2
      tool := "mypy"
      issueType := (cs.get? 5).getD word
      message := ← cs.get? 4
      certReference := none }

/-- Lines `path:line:column: [severity] message (rule)`. -/
def yamllintLines : LineFormat where
  form := line [.group 1 (text true), lit ":", .group 2 digits, lit ":", .group 3 digits, lit ":",
    blank, lit "[", .group 4 (text false), lit "]", blank, .group 5 (text true), blank, lit "(",
    .group 6 (text true), lit ")"]
  issue? cs := do
    some {
      filename := ← cs.get? 1
      lineNumber := ← number? cs 2
      tool := "yamllint"
      issueType := ← cs.get? 6
      severity := if (← cs.get? 4) = "error" then 5 else 3
      message := ← cs.get? 5
      certReference := none }

/-- Lines `path:line:column rule message`, where the column may be missing. -/
def markdownlintLines : LineFormat where
  form := line [.group 1 (text false), lit ":", .group 2 digits,
    optional (.seqs [lit ":", digits]), blank,
    .group 3 (.iter (.char (.compl .blank)) 1 none true), blank, .group 4 (text true)]
  issue? cs := do
    some {
      filename := ← cs.get? 1
      lineNumber := ← number? cs 2
      tool := "markdownlint"
      issueType := ← cs.get? 3
      severity := 3
      message := ← cs.get? 4
      certReference := none }

end LintScan
