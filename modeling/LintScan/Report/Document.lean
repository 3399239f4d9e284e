import LintScan.Issue.Basic
import LintScan.Json.Basic

/-!
# Report documents

* `Issue.report`, `IssueMap.document` — the JSON document of all issues.
* `Issue.record`, `IssueMap.recordLines` — one JSON object a line for a build server.
* `Summary.json` — the counts as a JSON object.
-/

namespace LintScan

/-- An issue in the JSON document. A missing reference is an empty one. -/
def Issue.report (i : Issue) : Json :=
  .object [
    ("fileName", .string i.filename),
    ("lineNumber", .int i.lineNumber),
    ("tool", .string i.tool),
    ("type", .string i.issueType),
    ("severity", .int i.severity),
    ("message", .string i.message),
    ("certReference", .string (i.certReference.getD ""))]

/-- The JSON document of all issues. -/
def IssueMap.document (m : IssueMap) : Json := .object [("issues", .array (m.all.map Issue.report))]

/-- An issue for a build server. -/
def Issue.record (i : Issue) : Json :=
  .object [
    ("category", .string i.tool),
    ("fileName", .string i.filename),
    ("lineStart", .int i.lineNumber),
    ("message", .string i.message),
    ("severity", .string i.tier.name),
    ("type", .string i.issueType)]

/-- One line for each issue. -/
def IssueMap.recordLines (m : IssueMap) : String :=
  String.join (m.all.map fun i => i.record.write ++ "\n")

/-- The counts as a JSON object. -/
def Summary.json (s : Summary) : Json :=
  .object [
    ("tools", .int s.tools),
    ("issues", .int s.issues),
    ("low", .int s.low),
    ("normal", .int s.normal),
    ("high", .int s.high),
    ("errors", .int s.errors)]

end LintScan
