import LintScan.Text.Lines

/-!
# Written lines

The reader of lines undoes the writing of lines, whichever of the two endings each line has and
whether the last one has an ending or not.

* `linesFrom_feed`, `linesFrom_last` — the reader up to the end of a line, and at the end of the
  text.
* `Writes` — a text writes some lines. A line feed may stand by itself only behind a line that does
  not end in a carriage return, as the return would count as part of the ending.
* `writes_iff` — a text writes exactly the lines that are read from it.
-/

namespace LintScan.Text

/-! ## The reader -/

section Reader

variable {line start cs : List Char}

@[simp] theorem dropReturn_return (line : List Char) : dropReturn (line ++ ['\r']) = line := by
  simp [dropReturn]

theorem dropReturn_of_ne (h : line.getLast? ≠ some '\r') : dropReturn line = line := by
  unfold dropReturn
  split
  · rename_i rest heq
    rw [← List.head?_reverse, heq] at h
    exact absurd rfl h
  · rfl

theorem linesFrom_feed (h : '\n' ∉ line) :
    linesFrom start (line ++ '\n' :: cs) = dropReturn (start ++ line) :: linesFrom [] cs := by
  induction line generalizing start with
  | nil => rw [List.nil_append, List.append_nil, linesFrom]
  | cons c line ih =>
    have hc : c ≠ '\n' := fun heq => h (heq ▸ List.mem_cons_self)
    have hline : '\n' ∉ line := fun hmem => h (List.mem_cons_of_mem c hmem)
    rw [List.cons_append, linesFrom.eq_3 _ _ _ hc, ih hline, List.append_assoc,
      List.singleton_append]

theorem linesFrom_last (h : '\n' ∉ line) :
    linesFrom start line = if (start ++ line).isEmpty then [] else [start ++ line] := by
  induction line generalizing start with
  | nil => rw [List.append_nil, linesFrom]
  | cons c line ih =>
    have hc : c ≠ '\n' := fun heq => h (heq ▸ List.mem_cons_self)
    have hline : '\n' ∉ line := fun hmem => h (List.mem_cons_of_mem c hmem)
    rw [linesFrom.eq_3 _ _ _ hc, ih hline, List.append_assoc, List.singleton_append]

end Reader

/-! ## Texts that write lines -/

/-- A text writes some lines, each with one of the two endings, the last one with an ending or
without one. -/
inductive Writes : List (List Char) → List Char → Prop
  | nothing : Writes [] []
  | last {line : List Char} (hne : line ≠ []) (hline : '\n' ∉ line) : Writes [line] line
  | feed {line cs : List Char} {ls : List (List Char)} (hline : '\n' ∉ line)
      (hend : line.getLast? ≠ some '\r') (rest : Writes ls cs) :
      Writes (line :: ls) (line ++ '\n' :: cs)
  | returnFeed {line cs : List Char} {ls : List (List Char)} (hline : '\n' ∉ line)
      (rest : Writes ls cs) :
      Writes (line :: ls) (line ++ '\r' :: '\n' :: cs)

variable {ls : List (List Char)} {cs : List Char}

theorem Writes.linesOf_eq (h : Writes ls cs) : linesOf cs = ls := by
  induction h with
  | nothing => rfl
  | last hne hline =>
    rw [linesOf, linesFrom_last hline, List.nil_append, if_neg (by simpa using hne)]
  | feed hline hend rest ih =>
    rw [linesOf, linesFrom_feed hline, List.nil_append, dropReturn_of_ne hend]
    exact congrArg _ ih
  | @returnFeed line cs ls hline rest ih =>
    have hreturn : '\n' ∉ line ++ ['\r'] := by simp [hline]
    have happ : line ++ '\r' :: '\n' :: cs = (line ++ ['\r']) ++ '\n' :: cs := by simp
    rw [linesOf, happ, linesFrom_feed hreturn, List.nil_append, dropReturn_return]
    exact congrArg _ ih

theorem writes_linesOf (cs : List Char) : Writes (linesOf cs) cs := by
  -- By the length: the text behind the first line feed is shorter.
  induction hlength : cs.length using Nat.strongRecOn generalizing cs with
  | _ n ih =>
  by_cases hfeed : '\n' ∈ cs
  · obtain ⟨line, rest, rfl, hline⟩ := List.eq_append_cons_of_mem hfeed
    have hrest := ih rest.length (by simp [← hlength]; omega) rest rfl
    rw [linesOf, linesFrom_feed hline, List.nil_append]
    by_cases hend : line.getLast? = some '\r'
    · obtain ⟨line, rfl⟩ := List.getLast?_eq_some_iff.1 hend
      rw [dropReturn_return, List.append_assoc, List.singleton_append]
      exact .returnFeed (fun h => hline (List.mem_append_left _ h)) hrest
    · rw [dropReturn_of_ne hend]
      exact .feed hline hend hrest
  · rw [linesOf, linesFrom_last hfeed, List.nil_append]
    cases cs with
    | nil => exact .nothing
    | cons c cs => exact .last (List.cons_ne_nil c cs) hfeed

/-- A text writes exactly the lines that are read from it. -/
theorem writes_iff : Writes ls cs ↔ linesOf cs = ls :=
  ⟨Writes.linesOf_eq, fun h => h ▸ writes_linesOf cs⟩

end LintScan.Text
