import LintScan.Exceptions.Document
import LintScan.Glob.Translate
import LintScan.Regex.Match
import LintScan.Regex.Pattern.Read
import LintScan.Session.Host

/-!
# Compiled rules

* `FilePattern` — a pattern for files together with its text, which decides how it sees a file name.
* `FilePattern.compile`, `FilePattern.warnings` — the patterns of a list that can be read, and a
  warning for each of the others.
* `RegexRule.compile` — the expression of a message rule, anchored at the head of the message.
-/

namespace LintScan

/-- A pattern for files. -/
structure FilePattern where
  source : String
  regex : Regex
  deriving Repr

namespace FilePattern

/-- Reads a pattern; a set with a reversed range cannot be read. -/
def read (source : String) : Except Regex.PatternError FilePattern := do
  let regex ← Regex.ofPattern (Glob.translate source)
  return ⟨source, regex⟩

/-- The pattern of a text that can be read. -/
def ofString? (source : String) : Option FilePattern := (read source).toOption

/-- The patterns that can be read. -/
def compile (globs : List String) : List FilePattern := globs.filterMap ofString?

/-- A warning for a pattern that cannot be read. -/
def warning (source : String) (e : Regex.PatternError) : LogEntry :=
  ⟨.warning, "Invalid glob in exception: " ++ source ++ ": " ++ e.message⟩

/-- A warning for each pattern that cannot be read. -/
def warnings (globs : List String) : List LogEntry :=
  globs.filterMap fun g => match read g with
    | .ok _ => none
    | .error e => some (warning g e)

/-- The pattern that would match every file of a checkout on a build server. -/
def buildPattern : String := "*/build/*"

/-- The directory of the checkouts of a build server. -/
def checkoutLead : String := "/home/travis/build/"

/-- The file name as the pattern sees it: the pattern for build directories does not see the
directory of the checkouts. -/
def sees (p : FilePattern) (filename : String) : String :=
  if p.source = buildPattern then
    match Text.afterLead? checkoutLead.toList filename.toList with
    | some rest => String.ofList rest
    | none => filename
  else filename

/-- Whether the pattern matches a text. -/
def accepts (p : FilePattern) (s : String) : Bool := p.regex.matchesIn s

/-- Whether the pattern matches a file name as it sees it. -/
def acceptsFile (p : FilePattern) (filename : String) : Bool := p.accepts (p.sees filename)

end FilePattern

/-- The expression of a message rule: a match of the pattern at the head of the message. -/
def RegexRule.compile (r : RegexRule) : Except Regex.PatternError Regex :=
  Regex.ofPattern ("^(?:" ++ r.regex ++ ")")

/-- The warning for a message rule that cannot be read. -/
def RegexRule.warning (r : RegexRule) (e : Regex.PatternError) : LogEntry :=
  ⟨.warning, "Invalid regular expression in exception: " ++ r.regex ++ ": " ++ e.message⟩

end LintScan
