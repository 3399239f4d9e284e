import LintScan.Proofs.Session
import LintScan.Proofs.Tool.Markdownlint
import LintScan.Proofs.Tool.Mypy
import LintScan.Proofs.Tool.Yamllint
import LintScan.Tool.Builtin

/-!
# Tools with a finding on each line

The type checker and the two document checkers print each finding on a line of its own.

* `MypyLine`, `YamllintLine`, `MarkdownlintLine` — the lines of their outputs.
* `ToolPlugin.lineCheckers_issuesOf` — an output has the issues of the findings written in it, in
  order. Of the type checker, notes and what is said of relative paths are no findings.
-/

namespace LintScan

/-- The lines of an output of the type checker. -/
abbrev MypyLine := OutputLine mypyLines.form MypyReport

/-- The lines of an output of the YAML checker. -/
abbrev YamllintLine := OutputLine yamllintLines.form YamllintFinding

/-- The lines of an output of the Markdown checker. -/
abbrev MarkdownlintLine := OutputLine markdownlintLines.form MarkdownlintFinding

namespace ToolPlugin

/-- Each of the three checkers has one issue for each finding in an output, in order, whatever other
lines stand between them and wherever the output is cut between lines. -/
theorem lineCheckers_issuesOf (ctx : PluginContext) (p : Package) (s : SessionState)
    (chunks : List String) :
    (∀ groups : List (List MypyLine), OutputLine.Output (fun f => f.text) groups chunks →
      ((mypy.issuesOf ctx chunks p).runFrom s).1 =
        .ok ((groups.flatten.filterMap OutputLine.finding?).filterMap fun f => f.issue?)) ∧
    (∀ groups : List (List YamllintLine), OutputLine.Output (fun f => f.text) groups chunks →
      ((yamllint.issuesOf ctx chunks p).runFrom s).1 =
        .ok ((groups.flatten.filterMap OutputLine.finding?).map fun f => f.issue)) ∧
    (∀ groups : List (List MarkdownlintLine), OutputLine.Output (fun f => f.text) groups chunks →
      ((markdownlint.issuesOf ctx chunks p).runFrom s).1 =
        .ok ((groups.flatten.filterMap OutputLine.finding?).map fun f => f.issue)) := by
  refine ⟨fun groups h => ?_, fun groups h => ?_, fun groups h => ?_⟩
  · have hissues := LineFormat.issuesOf_output (f := mypyLines) (fun r => r.issueOf?_text) h
    exact congrArg Except.ok hissues
  · have hissues := LineFormat.issuesOf_written (f := yamllintLines) (fun r => r.issueOf?_text) h
    exact congrArg Except.ok hissues
  · have hissues :=
      LineFormat.issuesOf_written (f := markdownlintLines) (fun r => r.issueOf?_text) h
    exact congrArg Except.ok hissues

/-- An error with a column and a code. Its message ends like another code. -/
def codedReport : MypyReport where
  path := "/src/b.py"
  line := 12
  column? := some 5
  word := .error
  message := "Name not defined: (1:2) [a b] [x]"
  code? := some "name-defined"
  path_ne := by decide
  colon_notMem_path := by decide
  message_ne := by decide
  oneLine := by decide
  told := fun _ => {
    line_lt := by decide
    message_end := by decide
    code_plain := by decide
    noCode := nofun }

/-- A warning with neither of them. -/
def plainReport : MypyReport where
  path := "/src/c.py"
  line := 3
  column? := none
  word := .warning
  message := "Unused (see 4:5: error: no)"
  code? := none
  path_ne := by decide
  colon_notMem_path := by decide
  message_ne := by decide
  oneLine := by decide
  told := fun _ => {
    line_lt := by decide
    message_end := by decide
    code_plain := nofun
    noCode := fun _ _ hrest _ h => absurd (hrest.mem h.bracket_mem) (by decide) }

/-- A note. -/
def noteReport : MypyReport where
  path := "/src/c.py"
  line := 3
  column? := none
  word := .note
  message := "See there [misc] "
  code? := none
  path_ne := by decide
  colon_notMem_path := by decide
  message_ne := by decide
  oneLine := by decide
  told := fun h => absurd (by decide) h

/-- An error on a relative path. -/
def relativeReport : MypyReport where
  path := "a.py"
  line := 9
  column? := none
  word := .error
  message := "skipped"
  code? := some "misc"
  path_ne := by decide
  colon_notMem_path := by decide
  message_ne := by decide
  oneLine := by decide
  told := fun h => absurd (by decide) h

/-- An error whose message has brackets, numbers and colons in it. -/
def nestedFinding : YamllintFinding where
  path := "/src/a.yml"
  line := 3
  column := 1
  level := .error
  message := "wrong (expected 2: [4] but found :3)"
  rule := "indentation"
  path_ne := by decide
  message_ne := by decide
  rule_ne := by decide
  line_lt := by decide
  rule_plain := by decide
  oneLine := by decide
  noPlace := fun _ hplace h =>
    absurd (Nat.le_trans h.three_le_count (hplace.sublist.count_le ':')) (by decide)

/-- A finding without a column. -/
def bareFinding : MarkdownlintFinding where
  path := "/src/a.md"
  line := 8
  column? := none
  rule := "MD013/line-length"
  message := "Line length [Expected: 80; Actual: 93]"
  path_ne := by decide
  colon_notMem_path := by decide
  line_lt := by decide
  rule_ne := by decide
  rule_plain := by decide
  message_ne := by decide
  oneLine := by decide

/-- A finding with a column. -/
def columnFinding : MarkdownlintFinding where
  path := "/src/a.md"
  line := 9
  column? := some 3
  rule := "MD033/no-inline-html"
  message := "7:8 Inline HTML"
  path_ne := by decide
  colon_notMem_path := by decide
  line_lt := by decide
  rule_ne := by decide
  rule_plain := by decide
  message_ne := by decide
  oneLine := by decide

/-- A machine on which nothing is found. -/
def bareHost : Host where
  files := ⟨[]⟩
  workingDirectory := []
  searchPath := none
  noColor := true
  logFilter := none
  resourceRoot := ⟨"/"⟩
  programs := fun _ => none

/-- Reports of the type checker, with another line behind them. -/
def mypyMixed : List (List MypyLine) :=
  [[.finding plainReport, .finding noteReport],
    [.finding relativeReport, .finding codedReport, .other "Found 3 errors" (by decide)]]

/-- They stand in two chunks with different line endings. -/
def mypyChunks : List String :=
  [plainReport.text ++ "\n" ++ noteReport.text ++ "\r\n",
    relativeReport.text ++ "\n" ++ codedReport.text ++ "\nFound 3 errors"]

theorem output_mypyChunks : OutputLine.Output (fun f => f.text) mypyMixed mypyChunks := by
  have hfirst : (plainReport.text ++ "\n" ++ noteReport.text ++ "\r\n").toList =
      plainReport.text.toList ++ '\n' :: (noteReport.text.toList ++ ['\r', '\n']) := by simp
  have hsecond : (relativeReport.text ++ "\n" ++ codedReport.text ++ "\nFound 3 errors").toList =
      relativeReport.text.toList ++ '\n' ::
        (codedReport.text.toList ++ '\n' :: "Found 3 errors".toList) := by simp
  refine .cons ?_ (.cons ?_ .nil)
  · rw [hfirst]
    exact .feed plainReport.feed_notMem_text (by decide)
      (.returnFeed noteReport.feed_notMem_text .nothing)
  · rw [hsecond]
    exact .feed relativeReport.feed_notMem_text (by decide)
      (.feed codedReport.feed_notMem_text (by decide) (.last (by decide) (by decide)))

/-- A finding of the YAML checker between other lines. -/
def yamllintMixed : List (List YamllintLine) :=
  [[.other "/src/a.yml" (by decide), .finding nestedFinding], [.other "done" (by decide)]]

def yamllintChunks : List String := ["/src/a.yml\n" ++ nestedFinding.text ++ "\n", "done\n"]

theorem output_yamllintChunks :
    OutputLine.Output (fun f => f.text) yamllintMixed yamllintChunks := by
  have hfirst : ("/src/a.yml\n" ++ nestedFinding.text ++ "\n").toList =
      "/src/a.yml".toList ++ '\n' :: (nestedFinding.text.toList ++ ['\n']) := by simp
  refine .cons ?_ (.cons (.feed (by decide) (by decide) .nothing) .nil)
  rw [hfirst]
  exact .feed (by decide) (by decide) (.feed nestedFinding.feed_notMem_text (by decide) .nothing)

/-- Findings of the Markdown checker with an empty line between them. -/
def markdownlintMixed : List (List MarkdownlintLine) :=
  [[.finding bareFinding, .other "" (by decide)], [.finding columnFinding]]

def markdownlintChunks : List String := [bareFinding.text ++ "\n\n", columnFinding.text]

theorem output_markdownlintChunks :
    OutputLine.Output (fun f => f.text) markdownlintMixed markdownlintChunks := by
  have hfirst : (bareFinding.text ++ "\n\n").toList =
      bareFinding.text.toList ++ '\n' :: ([] ++ ['\n']) := by simp
  refine .cons ?_ (.cons (.last (by decide) columnFinding.feed_notMem_text) .nil)
  rw [hfirst]
  exact .feed bareFinding.feed_notMem_text (by decide) (.feed (by decide) (by decide) .nothing)

/-- The three checkers with other lines between their findings. -/
theorem lineCheckers_issuesOf_mixed :
    ((mypy.issuesOf ⟨{}, {}, { defaultPath := ⟨"/"⟩ }⟩ mypyChunks (.ofPath ⟨"/src"⟩)).runFrom
        { host := bareHost }).1 =
      .ok [
        { filename := "/src/c.py", lineNumber := 3, tool := "mypy", issueType := "warning"
          severity := 3, message := "Unused (see 4:5: error: no)", certReference := none },
        { filename := "/src/b.py", lineNumber := 12, tool := "mypy", issueType := "name-defined"
          severity := 5, message := "Name not defined: (1:2) [a b] [x]", certReference := none }] ∧
    ((yamllint.issuesOf ⟨{}, {}, { defaultPath := ⟨"/"⟩ }⟩ yamllintChunks
        (.ofPath ⟨"/src"⟩)).runFrom { host := bareHost }).1 = .ok [nestedFinding.issue] ∧
    ((markdownlint.issuesOf ⟨{}, {}, { defaultPath := ⟨"/"⟩ }⟩ markdownlintChunks
        (.ofPath ⟨"/src"⟩)).runFrom { host := bareHost }).1 =
      .ok [bareFinding.issue, columnFinding.issue] := by
  refine ⟨?_, ?_, ?_⟩
  · rw [(lineCheckers_issuesOf _ _ _ _).1 _ output_mypyChunks]
    decide +kernel
  · rw [(lineCheckers_issuesOf _ _ _ _).2.1 _ output_yamllintChunks]
    decide +kernel
  · rw [(lineCheckers_issuesOf _ _ _ _).2.2 _ output_markdownlintChunks]
    decide +kernel

end ToolPlugin

end LintScan
