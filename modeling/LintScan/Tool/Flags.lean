import LintScan.Config.Resolve

/-!
# Flags

The flags of a tool are one setting, written as words the way a shell reads them.

* `splitWords` — the words: blanks separate them, single quotes keep everything as it is, double
  quotes keep everything but escapes, and a backslash keeps the next character.
* `Config.userFlags` — the flags of a tool at a level.
-/

namespace LintScan

/-- Where a character stands among quotes. -/
inductive Quoting where
  | bare
  | single
  | double
  deriving Repr, DecidableEq

/-- The characters that a backslash keeps inside double quotes. Before any other the backslash
stands for itself. -/
def Quoting.escapable : List Char := ['"', '\\', '$', '\x60']

/-- The words of a text, where `word` is the part of the current word that is already read. Quotes
begin a word even if they hold nothing, and quotes that are not closed end with the text. -/
def splitFrom : Quoting → Option (List Char) → List Char → List (List Char)
  | _, word, [] => word.toList
  | .single, word, c :: rest =>
    if c = '\'' then splitFrom .bare word rest
    else splitFrom .single (some (word.getD [] ++ [c])) rest
  | .double, word, '"' :: rest => splitFrom .bare word rest
  | .double, word, '\\' :: c :: rest =>
    let kept := if Quoting.escapable.contains c then [c] else ['\\', c]
    splitFrom .double (some (word.getD [] ++ kept)) rest
  | .double, word, c :: rest => splitFrom .double (some (word.getD [] ++ [c])) rest
  | .bare, word, '\\' :: c :: rest => splitFrom .bare (some (word.getD [] ++ [c])) rest
  | .bare, word, c :: rest =>
    if c = '\'' then splitFrom .single (some (word.getD [])) rest
    else if c = '"' then splitFrom .double (some (word.getD [])) rest
    else if c = '\\' then splitFrom .bare (some (word.getD [])) rest
    else if Text.isBlank c then word.toList ++ splitFrom .bare none rest
    else splitFrom .bare (some (word.getD [] ++ [c])) rest

/-- The words of a text. -/
def splitWords (s : String) : List String := (splitFrom .bare none s.toList).map String.ofList

/-- The flags of a tool at a level. -/
def Config.userFlags (c : Config) (tool level : String) : Except ConfigError (List String) := do
  match ← c.toolSetting tool level "flags" none with
  | some flags => .ok (splitWords flags)
  | none => .ok []

end LintScan
