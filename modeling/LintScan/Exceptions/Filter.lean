import LintScan.Exceptions.Pattern
import LintScan.Issue.Basic
import LintScan.Text.Lines

/-!
# Filtering issues

Issues that an exceptions document covers are dropped in three stages: by file, by message, and by a
marker on the line they are reported for. Each stage keeps the tools and the order of the issues.

* `FilterPass` — what the stages of a pass share: the tools already warned about, and the lines of
  the files already read.
* `fileStage`, `messageStage`, `markerStage` — the stages.
* `Exceptions.filterIssues` — all three; a stage without rules is left out.
* `Exceptions.filterFilesEarly` — drops discovered files whose issues would not count for any tool.
-/

namespace LintScan

/-- What the stages of a pass share. -/
structure FilterPass where
  warned : SortedTable String Unit := .empty
  lines : List (String × Option (List String)) := []

/-- The outcome of a stage. -/
structure Filtered where
  issues : IssueMap
  pass : FilterPass
  log : List LogEntry := []

/-- Whether the issue is reported for an absolute path. -/
def Issue.isLocated (i : Issue) : Bool := Path.isAbsolute ⟨i.filename⟩

/-- The tools of the issues that are not reported for an absolute path, once for each issue. -/
def IssueMap.unlocatedTools (m : IssueMap) : List String :=
  m.entries.flatMap fun e => (e.2.filter (!·.isLocated)).map fun _ => e.1

namespace FilterPass

/-- The warning about a tool that reports relative paths. -/
def warningFor (tool : String) : LogEntry :=
  ⟨.warning, "File exceptions not available for " ++ tool
    ++ " tool plugin due to lack of absolute paths for issues."⟩

/-- Warns about a tool, unless that was done before. -/
def warn (pass : FilterPass) (tool : String) : FilterPass × List LogEntry :=
  if (pass.warned.get? tool).isSome then (pass, [])
  else ({ pass with warned := pass.warned.insert tool () }, [warningFor tool])

/-- Warns about several tools. -/
def warnAll (pass : FilterPass) : List String → FilterPass × List LogEntry
  | [] => (pass, [])
  | tool :: rest =>
    let (pass, first) := pass.warn tool
    let (pass, more) := pass.warnAll rest
    (pass, first ++ more)

/-- The lines of a file, if it can be read. -/
def linesOfFile (h : Host) (filename : String) : Option (List String) :=
  match h.read ⟨filename⟩ with
  | .ok bytes => some (Text.sourceLines (Text.Utf8.decodeLossy bytes))
  | .error _ => none

/-- Reads a file, unless that was done before. -/
def learn (h : Host) (pass : FilterPass) (filename : String) : FilterPass :=
  match pass.lines.lookup filename with
  | some _ => pass
  | none => { pass with lines := (filename, linesOfFile h filename) :: pass.lines }

/-- The line of a file that was read, counted from one. -/
def lineAt (pass : FilterPass) (filename : String) (number : Int) : Option String :=
  if number < 1 then none
  else match pass.lines.lookup filename with
    | some (some ls) => ls[(number - 1).toNat]?
    | _ => none

end FilterPass

/-! ## Files -/

/-- The patterns of each file rule that applies to a tool. -/
def patternsFor (rules : List (ToolScope × List FilePattern)) (tool : String) :
    List (List FilePattern) :=
  (rules.filter (·.1.has tool)).map (·.2)

/-- Whether one of the patterns matches the file of an issue, by its name or by the path from the
package. -/
def Issue.isInFiles (i : Issue) (root : Path) (patterns : List (List FilePattern)) : Bool :=
  let fromRoot := match Path.relativeTo? ⟨i.filename⟩ root with
    | some p => p.text
    | none => i.filename
  patterns.any fun ps => ps.any fun p => p.acceptsFile i.filename || p.accepts fromRoot

/-- Drops the issues of files that a rule covers. -/
def fileStage (root : Path) (rules : List FileRule) (m : IssueMap) (pass : FilterPass) :
    Filtered :=
  let compiled := rules.map fun r => (r.tools, FilePattern.compile r.globs)
  let (pass, log) := pass.warnAll m.unlocatedTools
  { issues := m.filterEach fun tool i =>
      !(i.isLocated && i.isInFiles root (patternsFor compiled tool))
    pass
    log := rules.flatMap (FilePattern.warnings ·.globs) ++ log }

/-! ## Messages -/

/-- Whether a rule with the given expression and patterns covers an issue. -/
def Issue.isCovered (i : Issue) (r : Regex) (patterns : Option (List FilePattern)) : Bool :=
  (match patterns with
    | some ps => ps.any (·.accepts i.filename)
    | none => true)
    && r.matchesIn i.message

/-- Drops the issues that a message rule covers. -/
def messageRule (r : RegexRule) (m : IssueMap) : IssueMap × List LogEntry :=
  match r.compile with
  | .error e => (m, [r.warning e])
  | .ok regex =>
    let patterns := r.globs.map FilePattern.compile
    (m.filterEach fun tool i => !(r.tools.has tool && i.isCovered regex patterns),
      FilePattern.warnings (r.globs.getD []))

/-- Drops the issues that a rule covers, rule by rule. -/
def messageStage : List RegexRule → IssueMap → IssueMap × List LogEntry
  | [], m => (m, [])
  | r :: rules, m =>
    let (m, first) := messageRule r m
    let (m, more) := messageStage rules m
    (m, first ++ more)

/-! ## Markers -/

/-- The marker of a line whose issues do not count. -/
def lineMarker : String := "NOLINT"

/-- Whether the line of an issue is known to hold the marker. -/
def Issue.isMarked (i : Issue) (pass : FilterPass) : Bool :=
  match pass.lineAt i.filename i.lineNumber with
  | some line => Text.occursIn lineMarker line
  | none => false

/-- Drops the issues of lines that hold the marker. -/
def markerStage (h : Host) (m : IssueMap) (pass : FilterPass) : Filtered :=
  let (pass, log) := pass.warnAll m.unlocatedTools
  let pass := (m.all.filter fun i => i.isLocated && i.lineNumber ≥ 1).foldl
    (fun pass i => pass.learn h i.filename) pass
  { issues := m.filterEach fun _ i => !(i.isLocated && i.isMarked pass), pass, log }

namespace Exceptions

/-- Drops the issues of a package that do not count. -/
def filterIssues (x : Exceptions) (h : Host) (package : String) (root : Path) (m : IssueMap)
    (pass : FilterPass) : Filtered :=
  let rules := x.rulesFor package
  let first : Filtered :=
    if rules.file.isEmpty then { issues := m, pass } else fileStage root rules.file m pass
  let (m, messageLog) :=
    if rules.messageRegex.isEmpty then (first.issues, [])
    else messageStage rules.messageRegex first.issues
  let last := markerStage h m first.pass
  { last with log := first.log ++ messageLog ++ last.log }

/-- The patterns of the rules that apply to all tools. -/
def earlyGlobs (x : Exceptions) (package : String) : List (List String) :=
  ((x.rulesFor package).file.filter (·.tools.isAll)).map (·.globs)

/-- Drops the files that a rule for all tools covers. -/
def filterFilesEarly (x : Exceptions) (package : String) (files : List String) :
    List String × List LogEntry :=
  let globs := x.earlyGlobs package
  let patterns := globs.map FilePattern.compile
  (files.filter fun f => !patterns.any fun ps => ps.any (·.acceptsFile f),
    globs.flatMap FilePattern.warnings)

end Exceptions

end LintScan
