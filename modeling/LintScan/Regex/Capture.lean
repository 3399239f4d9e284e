import LintScan.Regex.Basic

/-!
# Captured groups

* `walk` — tries the ways to match an expression in order of preference and gives each to a
  continuation until one succeeds.
* `captures?` — the groups of the preferred match that starts at the head of a text.
-/

namespace LintScan.Regex

/-- A place in a text: the character before it and the text behind it. -/
structure Cursor where
  before : Option Char
  rest : List Char
  deriving Repr, DecidableEq

/-- The texts of the groups matched so far, the latest first. -/
abbrev Captures := List (Nat × List Char)

/-- The text of a group. -/
def Captures.get? (cs : Captures) (index : Nat) : Option String :=
  (cs.lookup index).map String.ofList

/-- What is done with a cursor and captures behind a match. -/
abbrev Continuation := Cursor → Captures → Option Captures

/-- The first result, or else the second one. -/
def orTry (first : Option Captures) (second : Unit → Option Captures) : Option Captures :=
  match first with
  | some r => some r
  | none => second ()

/-- Iterates `body` from `min` to `max` times. A round beyond `min` has to consume text, so
`fuel` above the length of the text and `min` together is never used up. -/
def iterate (body : Cursor → Captures → Continuation → Option Captures) (greedy : Bool) :
    Nat → Nat → Option Nat → Cursor → Captures → Continuation → Option Captures
  | 0, _, _, at_, cs, k => k at_ cs
  | fuel + 1, min, max, at_, cs, k =>
    if max == some 0 then k at_ cs
    else if min > 0 then
      body at_ cs fun next cs' => iterate body greedy fuel (min - 1) (max.map (· - 1)) next cs' k
    else
      let more (_ : Unit) := body at_ cs fun next cs' =>
        if next.rest.length < at_.rest.length then
          iterate body greedy fuel 0 (max.map (· - 1)) next cs' k
        else none
      if greedy then orTry (more ()) fun _ => k at_ cs else orTry (k at_ cs) more

/-- Tries the matches of an expression at a cursor in order of preference. -/
def walk : Regex → Cursor → Captures → Continuation → Option Captures
  | .empty, at_, cs, k => k at_ cs
  | .char set, at_, cs, k =>
    match at_.rest with
    | [] => none
    | c :: rest => if set.has c then k ⟨some c, rest⟩ cs else none
  | .look a, at_, cs, k => if a.holds at_.before at_.rest.head? then k at_ cs else none
  | .seq r s, at_, cs, k => walk r at_ cs fun next cs' => walk s next cs' k
  | .alt r s, at_, cs, k => orTry (walk r at_ cs k) fun _ => walk s at_ cs k
  | .iter r min max greedy, at_, cs, k =>
    iterate (walk r) greedy (at_.rest.length + min + 1) min max at_ cs k
  | .group index r, at_, cs, k =>
    walk r at_ cs fun next cs' =>
      k next ((index, at_.rest.take (at_.rest.length - next.rest.length)) :: cs')

/-- The groups of the preferred match at the head of the text. -/
def captures? (r : Regex) (s : String) : Option Captures :=
  walk r ⟨none, s.toList⟩ [] fun _ cs => some cs

end LintScan.Regex
