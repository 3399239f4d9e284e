import LintScan.Tool.Invocation
import LintScan.Tool.JsonFindings
import LintScan.Tool.LineFormat

/-!
# Built-in tools

* `ToolPlugin.builtin` — the tools that are known from the start: two for Python, and one each for
  shell scripts, YAML and Markdown.
-/

namespace LintScan.ToolPlugin

/-- The codes of a tool that ends with one when it has findings. -/
def zeroOrOne (code : Int) : Bool := code == 0 || code == 1

/-- Runs the program of a tool with the given flags, and gives all it printed. -/
def runForText (tool : String) (ctx : PluginContext) (flags userFlags : List String)
    (files : List Path) (expected : Int → Bool) : Attempt ToolError ToolOutput :=
  runTool tool (ctx.settings.binaryFor tool) (commandArgs flags userFlags files) expected

/-! ## Python -/

/-- The template that puts each finding on one line. -/
def pylintTemplate : String :=
  "--msg-template=\x7babspath\x7d:\x7bline\x7d: [\x7bmsg_id\x7d(\x7bsymbol\x7d), \x7bobj\x7d] "
    ++ "\x7bmsg\x7d"

/-- The style checker. Its exit code is a set of findings, but for the one of a usage error. -/
def pylint : ToolPlugin where
  name := "pylint"
  fileTypes := [Tag.python]
  run ctx _ _ files flags := do
    let jobs := match ctx.settings.maxProcs with
      | some n => ["-j" ++ toString n]
      | none => []
    let o ← runForText "pylint" ctx [pylintTemplate, "--reports=no"] (flags ++ jobs) files
      fun code => 0 ≤ code && code ≤ 255 && code != 32
    return [o.combined]
  issuesOf ctx output _ := do
    let h ← Session.host
    let (references, log) := ctx.resources.mapping h ctx.settings "pylint"
    Session.logAll log
    return (pylintLines references).issuesOf output

/-- The type checker. -/
def mypy : ToolPlugin where
  name := "mypy"
  fileTypes := [Tag.python]
  run ctx _ _ files flags := do
    let fixed := ["--show-absolute-path", "--show-error-codes", "--no-error-summary"]
    let o ← runForText "mypy" ctx fixed flags files zeroOrOne
    return [o.combined]
  issuesOf _ output _ := return mypyLines.issuesOf output

/-! ## Shell scripts -/

/-- The checker of shell scripts. Only its regular output holds findings. -/
def shellcheck : ToolPlugin where
  name := "shellcheck"
  fileTypes := [Tag.shell]
  run ctx _ _ files flags := do
    let o ← runForText "shellcheck" ctx ["-f", "json"] flags files zeroOrOne
    return [o.output]
  issuesOf _ output _ :=
    match JsonFinding.issuesOf? "shellcheck" output with
    | some issues => return issues
    | none => throw (.badOutput "shellcheck" "no list of findings")

/-! ## Documents -/

/-- The checker of YAML documents. -/
def yamllint : ToolPlugin where
  name := "yamllint"
  fileTypes := [Tag.yaml]
  run ctx _ _ files flags := do
    let o ← runForText "yamllint" ctx ["-f", "parsable"] flags files zeroOrOne
    return [o.combined]
  issuesOf _ output _ := return yamllintLines.issuesOf output

/-- What is printed when the Markdown checker itself is broken, which its exit code does not
tell. -/
def brokenModuleTexts : List String := ["Error: Cannot find module", "Require stack:"]

/-- The name of the configuration of the Markdown checker, unless a level has another one. -/
def markdownConfigName : String := ".markdownlintrc"

/-- The checker of Markdown documents. -/
def markdownlint : ToolPlugin where
  name := "markdownlint"
  fileTypes := [Tag.markdown]
  run ctx _ level files flags := do
    let name ← ToolError.ofConfig
      (ctx.config.toolSetting "markdownlint" level "config" (some markdownConfigName))
    let h ← Session.host
    let fixed := match ctx.resources.file? h (name.getD markdownConfigName) with
      | some path => ["-c", path.text]
      | none => []
    let o ← runForText "markdownlint" ctx fixed flags files zeroOrOne
    if brokenModuleTexts.any fun t => Text.occursIn t o.combined then
      Session.warn ("markdownlint exception: " ++ o.combined)
      throw (.exitCode "markdownlint" o.code)
    return [o.combined]
  issuesOf _ output _ := return markdownlintLines.issuesOf output

/-- The built-in tools. -/
def builtin : List ToolPlugin := [pylint, mypy, shellcheck, yamllint, markdownlint]

end LintScan.ToolPlugin
