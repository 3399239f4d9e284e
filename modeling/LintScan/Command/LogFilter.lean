import LintScan.Regex.Pattern.Read
import LintScan.Session.Log
import LintScan.Text.Pieces
import LintScan.Unicode.Property

/-!
# Log filters

A filter is a list of directives with commas between them. A directive gives a depth to a part of
the program, to a span, or to everything.

* `LogDepth.ofText?` — the depth that a number or a name stands for.
* `readFilter?` — the greatest depth that a filter may reach.
* `LogDepth.choose` — the depth of the filter asked for, or of that of the environment.
-/

namespace LintScan

namespace LogDepth

/-- The depth of a number from zero to five or of a name, in which case does not matter. -/
def ofText? (s : String) : Option LogDepth :=
  let digits := match s.toList with
    | '+' :: rest => rest
    | cs => cs
  if digits ≠ [] ∧ digits.all Char.isDigit then
    all[digits.foldl (fun n c => n * 10 + (c.toNat - '0'.toNat)) 0]?
  else if s.isEmpty then some error
  else all.find? fun d => d.name.toList == s.toList.map Char.toLower

/-- The depth of a text, where no text stands for the greatest. -/
def ofOptional? (s : List Char) : Option LogDepth :=
  if s.isEmpty then some trace else ofText? (String.ofList s)

end LogDepth

/-! ## Directives -/

/-- Whether a directive may begin with a character. -/
def startsDirective (c : Char) : Bool :=
  c == '-' || c == ':' || c == '_' || Unicode.isAlphabetic c
    || Unicode.hasAny Unicode.numbers c

/-- Whether a text is the value of a field: a truth value, a number, or a pattern. -/
def isFieldValue (value : List Char) : Bool :=
  (Regex.ofPattern (String.ofList value)).isOk

/-- Whether the fields of a span ask for values; nothing if one of them is malformed. -/
def asksForValues? (fields : List Char) : Option Bool :=
  if fields.isEmpty then none
  else
    match Text.splitAtEach '=' fields with
    | _ :: value :: _ => if isFieldValue value then some true else none
    | _ => some false

/-- The depth of what stands behind a span. -/
def depthBehind? : List Char → Option LogDepth
  | [] => some .trace
  | '=' :: level => LogDepth.ofOptional? level
  | _ => none

/-- The depth of a directive for a span, from behind its opening bracket. A span whose fields ask
for values may reach any depth. -/
def spanDepth? (body : List Char) : Option LogDepth :=
  let name := body.takeWhile fun c => c != ']' && c != '\x7b'
  match body.drop name.length with
  | ']' :: rest => depthBehind? rest
  | '\x7b' :: rest => do
    let (fields, rest) ← Text.cutAt? '\x7d' rest
    let valued ← asksForValues? fields
    match rest with
    | ']' :: rest => (depthBehind? rest).map fun d => if valued then .trace else d
    | _ => none
  | _ => none

/-- The depth of a directive. A target without a level may reach any depth. -/
def directiveDepth? (directive : String) : Option LogDepth :=
  let cs := directive.toList
  match cs with
  | [] => some .trace
  | '[' :: body => spanDepth? body
  | c :: _ =>
    if !startsDirective c then none
    else
      let target := cs.takeWhile fun c => c != '=' && c != '['
      match cs.drop target.length with
      | '=' :: level => LogDepth.ofOptional? level
      | '[' :: body => spanDepth? body
      | _ => some ((LogDepth.ofText? directive).getD .trace)

/-- The greatest depth that a filter may reach, if all its directives are well formed. A filter
without directives lets nothing through. -/
def readFilter? (filter : String) : Option LogDepth := do
  let directives := (Text.splitAtEach ',' filter.toList).filter (!·.isEmpty)
  let depths ← directives.mapM fun d => directiveDepth? (String.ofList d)
  some (depths.foldl LogDepth.max .off)

/-- The depth of the filter asked for, or else of the filter of the environment, or else that of
warnings. -/
def LogDepth.choose (asked environment : Option String) : LogDepth :=
  ((asked.bind readFilter?).or (environment.bind readFilter?)).getD .warn

end LintScan
