import LintScan.Issue.Basic
import LintScan.Package.Basic
import LintScan.Tool.Flags
import LintScan.Tool.Mapping

/-!
# Tools

* `ToolPlugin` — runs a program over files and reads what it prints.
* `ToolPlugin.usualScan` — the issues of a package: the files under the tags of the tool, its flags,
  its run, a log of its output, and the issues of that output.
* `ToolError` — why a tool has no results.
-/

namespace LintScan

/-- Why a tool has no results. -/
inductive ToolError where
  | missingBinary (binary : String) (cause : FileError)
  | exitCode (tool : String) (code : Int)
  | signal (tool : String)
  | badOutput (tool problem : String)
  | config (e : ConfigError)
  deriving Repr, DecidableEq

/-- The text of the error. -/
def ToolError.message : ToolError → String
  | missingBinary binary cause => "couldn't find " ++ binary ++ " executable: " ++ cause.message
  | exitCode tool code => tool ++ " failed with exit code " ++ toString code
  | signal tool => tool ++ " terminated by signal"
  | badOutput tool problem => "unable to parse " ++ tool ++ " output: " ++ problem
  | config e => e.message

/-- A session that may fail. -/
abbrev Attempt (ε : Type) := ExceptT ε Session

/-- The outcome of an attempt; to look at it does not fail. -/
def Attempt.outcome {ε δ α : Type} (a : Attempt ε α) : Attempt δ (Except ε α) :=
  ExceptT.lift (ExceptT.run a)

/-- The result of a configuration query inside a tool. -/
def ToolError.ofConfig {α : Type} (r : Except ConfigError α) : Attempt ToolError α :=
  match r with
  | .ok a => pure a
  | .error e => throw (.config e)

namespace ToolPlugin

/-- The log of a tool in the output directory of a package. -/
def logFile (dir : Path) (tool : String) : Path := dir.join ⟨tool ++ ".log"⟩

/-- Writes the log of a tool into the output directory of the package, if output is wanted. -/
def keepLog (tool : String) (ctx : PluginContext) (p : Package) (level : String)
    (output : List String) : Session Unit := do
  match ctx.settings.packageOutput? p.name level with
  | none => return ()
  | some dir =>
    let path := logFile dir tool
    match ← Session.writeFile path (Text.Utf8.encode (String.join output)) with
    | .ok () => return ()
    | .error e => Session.warn ("unable to write " ++ path.text ++ ": " ++ e.message)

/-- The usual way in which a tool finds the issues of a package. A package without files for the
tool has none, and the tool is not run. -/
def usualScan (tool : String) (fileTypes : List String)
    (run : PluginContext → Package → String → List Path → List String →
      Attempt ToolError (List String))
    (issuesOf : PluginContext → List String → Package → Attempt ToolError (List Issue))
    (ctx : PluginContext) (p : Package) (level : String) : Attempt ToolError (List Issue) := do
  let files := fileTypes.flatMap p.paths
  if files.isEmpty then return []
  let flags ← ToolError.ofConfig (ctx.config.userFlags tool level)
  let output ← run ctx p level files flags
  keepLog tool ctx p level output
  issuesOf ctx output p

end ToolPlugin

/-- A tool. Its dependencies have to run before it, and it looks at the files under its tags. -/
structure ToolPlugin where
  name : String
  dependencies : List String := []
  fileTypes : List String
  /-- Runs the tool on a package at a level, over files with the user's flags, and gives its output
  in chunks. -/
  run : PluginContext → Package → (level : String) → (files : List Path) → (flags : List String) →
    Attempt ToolError (List String)
  /-- The issues of an output. -/
  issuesOf : PluginContext → (output : List String) → Package → Attempt ToolError (List Issue)
  /-- The issues of a package at a level; a tool may have a way of its own to find them. -/
  scan : PluginContext → Package → (level : String) → Attempt ToolError (List Issue) :=
    ToolPlugin.usualScan name fileTypes run issuesOf

end LintScan
