import LintScan.Report.Console
import LintScan.Report.Document
import LintScan.Tool.Basic

/-!
# Reporting

* `ReportingPlugin` — shows the issues of a package that count, and may give a summary.
* `ReportError` — why a report is not made.
* `reportFile`, `writeReport` — puts a report into a directory.
* `ReportingPlugin.builtin` — the reports that are known from the start.
-/

namespace LintScan

/-- Why a report is not made. -/
inductive ReportError where
  | unwritable (path : Path) (cause : FileError)
  | config (e : ConfigError)
  deriving Repr, DecidableEq

/-- The text of the error. -/
def ReportError.message : ReportError → String
  | unwritable path cause => "unable to write report " ++ path.text ++ ": " ++ cause.message
  | config e => e.message

/-- A reporting plugin shows the issues of a package at a level, and may give a summary. -/
structure ReportingPlugin where
  name : String
  report : PluginContext → Package → IssueMap → (level : String) →
    Attempt ReportError (Option Json)

/-- The outcome of a change of files inside a report. -/
def ReportError.ofChange (path : Path) (change : Session (Except FileError Unit)) :
    Attempt ReportError Unit := do
  match ← (change : Session _) with
  | .ok () => return ()
  | .error e => throw (.unwritable path e)

/-- The end of the name of a JSON document. -/
def documentSuffix : String := ".lintherd.json"

/-- The end of the name of a report for a build server. -/
def recordsSuffix : String := ".jenkins-ng.json"

/-- The ends of the names of the reports that are written to files. -/
def reportSuffixes : List String := [documentSuffix, recordsSuffix]

/-- The file of a report on a package at a level in a directory. -/
def reportFile (dir : Path) (package level suffix : String) : Path :=
  dir.join ⟨(stamp package level).text ++ suffix⟩

/-- Writes a report on a package at a level into a directory, which is made if it is missing. -/
def writeReport (dir : Path) (package level suffix contents : String) :
    Attempt ReportError Path := do
  let path := reportFile dir package level suffix
  ReportError.ofChange dir (Session.makeDirectories dir)
  ReportError.ofChange path (Session.writeFile path (Text.Utf8.encode contents))
  return path

/-- The directory of a report: the output directory of the package, or the working directory. -/
def PluginContext.reportDirectory (ctx : PluginContext) (package level : String) : Path :=
  (ctx.settings.packageOutput? package level).getD ⟨"."⟩

namespace ReportingPlugin

/-- A switch of a reporting plugin at a level. -/
def isSwitchedOn (ctx : PluginContext) (plugin level key : String) : Attempt ReportError Bool :=
  match ctx.config.pluginSetting .reporting plugin level key none with
  | .ok value => return Config.isOn value
  | .error e => throw (.config e)

/-- Prints the issues for a reader. -/
def console : ReportingPlugin where
  name := "print_to_console"
  report _ _ issues _ := do
    let h ← Session.host
    for line in issues.consoleLines (!h.noColor) do
      Session.printLine line
    return some (Summary.ofIssues issues).json

/-- Writes the issues as a JSON document to a file, prints it, or both. -/
def json : ReportingPlugin where
  name := "json"
  report ctx p issues level := do
    let toFile ← isSwitchedOn ctx "json" level "files"
    let toTerminal ← isSwitchedOn ctx "json" level "terminal"
    let line := issues.document.write
    if toFile then
      let _ ← writeReport (ctx.reportDirectory p.name level) p.name level documentSuffix line
    if toTerminal then
      Session.printLine line
    return none

/-- Writes the issues for a build server, if output is wanted. -/
def records : ReportingPlugin where
  name := "write_jenkins_warnings_ng"
  report ctx p issues level :=
    match ctx.settings.packageOutput? p.name level with
    | none => return none
    | some dir => do
      let _ ← writeReport dir p.name level recordsSuffix issues.recordLines
      return none

/-- Shows nothing. -/
def silent : ReportingPlugin where
  name := "do_nothing"
  report _ _ _ _ := return none

/-- The built-in plugins. -/
def builtin : List ReportingPlugin := [console, json, records, silent]

end ReportingPlugin

end LintScan
