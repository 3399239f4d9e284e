import LintScan.Issue.Basic

/-!
# The console report

Each tool has a header with the number of its distinct issues and a line for each of them, and a
footer adds the numbers up.

* `Style.bold`, `Color.paint` — a text between the control sequences that switch a style on and off,
  or the text itself where colours are not wanted.
* `IssueMap.consoleLines` — the lines of the report, in colour or plain.
-/

namespace LintScan

namespace Style

/-- The control sequence with a number. -/
def control (code : String) : String := "\x1b[" ++ code ++ "m"

/-- A text in bold, if `on`. -/
def bold (on : Bool) (s : String) : String :=
  if on then control "1" ++ s ++ control "0" else s

/-- A colour. -/
inductive Color where
  | red
  | yellow
  | blue
  | gray
  deriving Repr, DecidableEq

/-- The number that switches a colour on. -/
def Color.code : Color → String
  | red => "31"
  | yellow => "33"
  | blue => "34"
  | gray => "90"

/-- A text in a colour, if `on`. -/
def Color.paint (c : Color) (on : Bool) (s : String) : String :=
  if on then control c.code ++ s ++ control "39" else s

end Style

open Style

/-- A severity in the colour of its tier. -/
def SeverityTier.paint (color : Bool) : SeverityTier → String → String
  | error, s => bold color (Color.red.paint color s)
  | high, s => bold color (Color.yellow.paint color s)
  | normal, s => Color.blue.paint color s
  | low, s => Color.gray.paint color s

/-- The line of an issue. -/
def Issue.consoleLine (color : Bool) (i : Issue) : String :=
  let reference := match i.certReference with
    | some r => " (" ++ r ++ ")"
    | none => ""
  let severity := i.tier.paint color ("[" ++ toString i.severity ++ "]")
  let location := bold color (i.filename ++ ":" ++ toString i.lineNumber)
  location ++ ": " ++ i.tool ++ ":" ++ i.issueType ++ ": " ++ i.message ++ reference ++ " "
    ++ severity

namespace IssueMap

/-- The lines of a tool. -/
def toolLines (color : Bool) (tool : String) (issues : List Issue) : List String :=
  let shown := distinct issues
  bold color ("Tool " ++ tool ++ ": " ++ toString shown.length ++ " unique issues")
    :: shown.map fun i => "  " ++ i.consoleLine color

/-- The number of issues that are shown. -/
def shownCount (m : IssueMap) : Nat :=
  (m.values.map fun issues => (distinct issues).length).foldr (· + ·) 0

/-- The lines of the report. -/
def consoleLines (color : Bool) (m : IssueMap) : List String :=
  m.entries.flatMap (fun e => toolLines color e.1 e.2)
    ++ [bold color (toString m.shownCount ++ " total unique issues")]

end IssueMap

end LintScan
