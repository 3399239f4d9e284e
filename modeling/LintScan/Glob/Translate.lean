import LintScan.Regex.Pattern.Escape

/-!
# Shell patterns

A pattern matches a whole text: `*` stands for any characters, `?` for one, and a bracketed set for
one of its members, or for one other character if it begins with `!`. A bracket that is never
closed stands for itself. Slashes and line breaks are characters like any other.

* `Glob.cutSet?` — finds the end of a bracketed set.
* `Glob.translate` — the regular expression that says the same. A hyphen in a set is passed on as it
  stands, so sets have the ranges of regular expressions; everything else is escaped.
-/

namespace LintScan.Glob

/-- What belongs to the body of a set only because it stands at its head, the `!` and a closing
bracket, and the text behind that. -/
def cutHead : List Char → List Char × List Char
  | '!' :: ']' :: rest => (['!', ']'], rest)
  | '!' :: rest => (['!'], rest)
  | ']' :: rest => ([']'], rest)
  | cs => ([], cs)

/-- The body of a set and the text behind its closing bracket; the text starts behind the opening
one. -/
def cutSet? (cs : List Char) : Option (List Char × List Char) :=
  let (head, rest) := cutHead cs
  match rest.dropWhile (· != ']') with
  | _ :: behind => some (head ++ rest.takeWhile (· != ']'), behind)
  | [] => none

theorem cutHead_append (cs : List Char) : (cutHead cs).1 ++ (cutHead cs).2 = cs := by
  unfold cutHead
  split <;> rfl

theorem cutSet?_length {cs body behind : List Char} (h : cutSet? cs = some (body, behind)) :
    behind.length < cs.length := by
  have hhead := congrArg List.length (cutHead_append cs)
  have hrest := (List.dropWhile_sublist (l := (cutHead cs).2) (· != ']')).length_le
  unfold cutSet? at h
  simp only at h
  split at h
  · rename_i d t heq
    rw [heq] at hrest
    cases h
    simp only [List.length_append, List.length_cons] at hhead hrest
    omega
  · cases h

/-- A member of a set as a member of a class. -/
def memberText (c : Char) : List Char := if c = '-' then ['-'] else Regex.escapeChar c

/-- The class for a set with the given body. -/
def setText : List Char → List Char
  | '!' :: members => '[' :: '^' :: members.flatMap memberText ++ [']']
  | members => '[' :: members.flatMap memberText ++ [']']

/-- The expression for a pattern, without its ends. Several stars in a row say the same as one. -/
def translateChars : List Char → List Char
  | [] => []
  | c :: rest =>
    if c = '*' then '.' :: '*' :: translateChars (rest.dropWhile (· == '*'))
    else if c = '?' then '.' :: translateChars rest
    else if c = '[' then
      match _h : cutSet? rest with
      | some (body, behind) => setText body ++ translateChars behind
      | none => Regex.escapeChar '[' ++ translateChars rest
    else Regex.escapeChar c ++ translateChars rest
termination_by cs => cs.length
decreasing_by
  · simp only [List.length_cons]
    have := (List.dropWhile_sublist (l := rest) (· == '*')).length_le
    omega
  · simp
  · simp only [List.length_cons]
    have := cutSet?_length _h
    omega
  · simp
  · simp

/-- The expression for a pattern. It sees line breaks as characters, and matches the whole text. -/
def translate (glob : String) : String :=
  "(?s)\\A" ++ String.ofList (translateChars glob.toList) ++ "\\z"

end LintScan.Glob
