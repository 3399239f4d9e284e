import LintScan.Config.Basic

/-!
# Exceptions

An exceptions document says which findings do not count, for all packages and for single ones, and
which packages are not scanned at all.

* `ToolScope`, `FileRule`, `RegexRule`, `RuleSet` — the rules.
* `Exceptions` — the rules of a document.
* `Exceptions.rulesFor` — the rules that apply to a package: the global ones, then its own.
* `ExceptionsError` — why a document cannot be loaded.
-/

namespace LintScan

open Yaml (Problem Source Value)

/-- The tools that a rule applies to. -/
inductive ToolScope where
  | all
  | only (tools : List String)
  deriving Repr, DecidableEq

/-- Whether the scope is not limited to some tools. -/
def ToolScope.isAll : ToolScope → Bool
  | all => true
  | only _ => false

/-- Whether the scope holds a tool. -/
def ToolScope.has : ToolScope → String → Bool
  | all, _ => true
  | only tools, t => tools.contains t

/-- Findings in files that match one of the patterns do not count. -/
structure FileRule where
  tools : ToolScope
  globs : List String
  deriving Repr, DecidableEq

/-- Findings whose message begins with a match of `regex` do not count, in all files or in those
that match one of the patterns. -/
structure RegexRule where
  tools : ToolScope
  regex : String
  globs : Option (List String)
  deriving Repr, DecidableEq

/-- The rules for a package. -/
structure RuleSet where
  file : List FileRule := []
  messageRegex : List RegexRule := []
  deriving Repr, DecidableEq

/-- The rules of both sets, one set behind the other. -/
def RuleSet.append (r s : RuleSet) : RuleSet :=
  ⟨r.file ++ s.file, r.messageRegex ++ s.messageRegex⟩

/-- The rules of an exceptions document. -/
structure Exceptions where
  ignoredPackages : List String := []
  global : RuleSet := {}
  packages : SortedTable String RuleSet := .empty

/-- Why an exceptions document cannot be loaded. -/
inductive ExceptionsError where
  | unreadable (path : Path) (cause : FileError)
  | malformed (path : Path) (cause : Problem)
  | empty (path : Path)
  deriving Repr, DecidableEq

/-- The text of the error. -/
def ExceptionsError.message : ExceptionsError → String
  | unreadable path cause => "failed to read " ++ path.text ++ ": " ++ cause.message
  | malformed path cause => path.text ++ " is not a valid exceptions file: " ++ cause.message
  | empty path => path.text ++ " is empty, can't continue"

variable {α : Type}

/-- Reads a scope: the word `all`, the name of a tool, or a list of names. -/
def ToolScope.read (s : Source α) (a : α) : Except Problem ToolScope := do
  match ← s.stringOrList a with
  | .inl "all" => .ok .all
  | .inl name => .ok (.only [name])
  | .inr names => .ok (.only names)

/-- Reads a file rule. -/
def FileRule.read (s : Source α) (a : α) : Except Problem FileRule := do
  let fs ← s.fields ["tools", "globs"] a
  let tools ← Source.field fs "tools" (ToolScope.read s)
  let globs ← match fs.lookup "globs" with
    | some a => s.strings a
    | none => .ok []
  .ok { tools, globs }

/-- Reads a message rule. -/
def RegexRule.read (s : Source α) (a : α) : Except Problem RegexRule := do
  let fs ← s.fields ["tools", "regex", "globs"] a
  let tools ← Source.field fs "tools" (ToolScope.read s)
  let regex ← Source.field fs "regex" s.string
  let globs ← s.optionalField fs "globs" s.strings
  .ok { tools, regex, globs }

/-- Reads a set of rules. -/
def RuleSet.read (s : Source α) (a : α) : Except Problem RuleSet := do
  let fs ← s.fields ["file", "message_regex"] a
  let file ← s.optionalField fs "file" (s.list (FileRule.read s))
  let messageRegex ← s.optionalField fs "message_regex" (s.list (RegexRule.read s))
  .ok { file := file.getD [], messageRegex := messageRegex.getD [] }

/-- Reads a section: its rules, if it has any. -/
def RuleSet.readSection (s : Source α) (a : α) : Except Problem (Option RuleSet) := do
  let fs ← s.fields ["exceptions"] a
  s.optionalField fs "exceptions" (RuleSet.read s)

namespace Exceptions

/-- Reads an exceptions document. -/
def read (s : Source α) (a : α) : Except Problem Exceptions := do
  let fs ← s.fields ["ignore_packages", "global", "packages"] a
  let ignored ← s.optionalField fs "ignore_packages" s.strings
  let global ← s.optionalField fs "global" (RuleSet.readSection s)
  let packages ← s.optionalField fs "packages" fun a => do
    let pairs ← Source.expect (s.map? a)
    s.readPairs (s.optional (RuleSet.readSection s)) pairs
  let ruled := ((SortedTable.ofList (packages.getD [])).entries).filterMap fun (name, rules) =>
    rules.join.map fun r => (name, r)
  .ok {
    ignoredPackages := ignored.getD []
    global := global.join.getD {}
    packages := SortedTable.ofList ruled }

/-- The rules of a text read from a path. -/
def ofTextAt (path : Path) (text : String) : Except ExceptionsError Exceptions :=
  match Yaml.readValue text with
  | .error e => .error (.malformed path e)
  | .ok .null => .error (.empty path)
  | .ok v =>
    match read .values v with
    | .error e => .error (.malformed path e)
    | .ok x => .ok x

/-- The rules of a text. -/
def ofText (text : String) : Except ExceptionsError Exceptions := ofTextAt .memory text

/-- The rules of a file. -/
def load (files : FileTree) (cwd : Place) (path : Path) : Except ExceptionsError Exceptions :=
  match files.readText cwd path with
  | .ok text => ofTextAt path text
  | .error e => .error (.unreadable path e)

/-- Whether a package is not scanned. -/
def ignores (x : Exceptions) (package : String) : Bool := x.ignoredPackages.contains package

/-- The rules that apply to a package: the global ones, then its own. -/
def rulesFor (x : Exceptions) (package : String) : RuleSet :=
  match x.packages.get? package with
  | some own => x.global.append own
  | none => x.global

end Exceptions

end LintScan
