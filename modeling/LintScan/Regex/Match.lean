import LintScan.Regex.Basic

/-!
# Matching

A match is searched by the set of positions that an expression can reach from a set of positions,
so the time does not grow with the number of ways to match.

* `reach` — the ends of all matches that start in a set of positions.
* `matchesIn` — whether the text holds a match at all.
-/

namespace LintScan.Regex

/-- Joins two ascending lists of positions. -/
def mergeAscending (fuel : Nat) (xs ys : List Nat) : List Nat :=
  match fuel, xs, ys with
  | 0, xs, _ => xs
  | _ + 1, [], ys => ys
  | _ + 1, xs, [] => xs
  | fuel + 1, x :: xs, y :: ys =>
    if x < y then x :: mergeAscending fuel xs (y :: ys)
    else if y < x then y :: mergeAscending fuel (x :: xs) ys
    else x :: mergeAscending fuel xs ys

/-- The union of two ascending lists of positions. -/
def unite (xs ys : List Nat) : List Nat := mergeAscending (xs.length + ys.length + 1) xs ys

/-- Applies `step` `n` times, and stops early at a set that does not change. -/
def repeatStep (step : List Nat → List Nat) : Nat → List Nat → List Nat
  | 0, ps => ps
  | n + 1, ps =>
    let next := step ps
    if next == ps then ps else repeatStep step n next

/-- The positions reached by at most `n` applications of `step`, where `front` holds the positions
reached for the first time by the last one. -/
def closure (step : List Nat → List Nat) : Nat → List Nat → List Nat → List Nat
  | 0, reached, _ => reached
  | n + 1, reached, front =>
    let fresh := (step front).filter (!reached.contains ·)
    if fresh.isEmpty then reached else closure step n (unite reached fresh) fresh

/-- The ends of the matches of the expression that start in one of the positions. -/
def reach (text : Array Char) : Regex → List Nat → List Nat
  | .empty, ps => ps
  | .char set, ps => ps.filterMap fun p =>
      match text[p]? with
      | some c => if set.has c then some (p + 1) else none
      | none => none
  | .look a, ps => ps.filter fun p =>
      a.holds (if p = 0 then none else text[p - 1]?) text[p]?
  | .seq r s, ps => reach text s (reach text r ps)
  | .alt r s, ps => unite (reach text r ps) (reach text s ps)
  | .iter r min max _, ps =>
    let start := repeatStep (reach text r) min ps
    let more := match max with
      | none => text.size + 1
      | some m => Nat.min (m - min) (text.size + 1)
    closure (reach text r) more start start
  | .group _ r, ps => reach text r ps

/-- Whether the expression matches some part of the text. -/
def matchesIn (r : Regex) (s : String) : Bool :=
  let text := s.toList.toArray
  !(reach text r (List.range (text.size + 1))).isEmpty

end LintScan.Regex
