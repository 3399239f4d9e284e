import LintScan.Text.Lines
import Mathlib.Data.List.Basic

/-!
# The lines of a source file

A source file may end its lines with a line feed, a carriage return, or the two together, and may
change between them.  The lines and their endings make up the text, so the lines are all that a
reader can see of it beside the choice of the endings.

* `WritesSource` — a text writes some lines, each with one of the endings. A lone carriage return
  has no line feed behind it, as the two would be one ending.
* `writesSource_iff` — a text writes exactly the lines that are read from it.
* `sourceLinesOf_withEnds` — the lines of a text stay the same when all its line feeds become
  endings of another kind.
-/

namespace LintScan.Text

/-! ## Lines and their endings -/

/-- What ends a line of a source file. -/
inductive LineEnd where
  | feed
  | carriage
  | both
  deriving Repr, DecidableEq

/-- The characters of an ending. -/
def LineEnd.chars : LineEnd → List Char
  | feed => ['\n']
  | carriage => ['\r']
  | both => ['\r', '\n']

/-- A line holds nothing that ends a line. -/
def IsLine (line : List Char) : Prop := '\n' ∉ line ∧ '\r' ∉ line

/-- A text writes some lines. A run of the rules cuts off one line after the other with its ending;
only the last line may go without one, and then it is not empty. -/
inductive WritesSource : List (List Char) → List Char → Prop
  | nothing : WritesSource [] []
  | last {line : List Char} (hne : line ≠ []) (hline : IsLine line) : WritesSource [line] line
  | ended {line cs : List Char} {ls : List (List Char)} (hline : IsLine line) (e : LineEnd)
      (halone : e = .carriage → cs.head? ≠ some '\n') (rest : WritesSource ls cs) :
      WritesSource (line :: ls) (line ++ (e.chars ++ cs))

variable {line start cs : List Char} {ls : List (List Char)}

theorem isLine_nil : IsLine [] := ⟨List.not_mem_nil, List.not_mem_nil⟩

theorem isLine_cons_iff {c : Char} : IsLine (c :: line) ↔ (c ≠ '\n' ∧ c ≠ '\r') ∧ IsLine line := by
  simp only [IsLine, List.mem_cons, not_or, ne_eq, eq_comm (a := c)]
  exact and_and_and_comm

theorem IsLine.snoc {c : Char} (h : IsLine line) (hfeed : c ≠ '\n') (hcarriage : c ≠ '\r') :
    IsLine (line ++ [c]) := by
  simp [IsLine, h.1, h.2, hfeed.symm, hcarriage.symm]

theorem WritesSource.isLine (h : WritesSource ls cs) : ∀ line ∈ ls, IsLine line := by
  induction h with
  | nothing => exact fun _ hmem => absurd hmem List.not_mem_nil
  | last _ hline => simpa using hline
  | ended hline _ _ _ ih =>
    intro line hmem
    rcases List.mem_cons.1 hmem with rfl | hmem
    · exact hline
    · exact ih line hmem

/-! ## The reader -/

theorem sourceLinesFrom_chars (h : IsLine line) :
    sourceLinesFrom start (line ++ cs) = sourceLinesFrom (start ++ line) cs := by
  induction line generalizing start with
  | nil => rw [List.nil_append, List.append_nil]
  | cons c line ih =>
    obtain ⟨⟨hfeed, hcarriage⟩, hline⟩ := isLine_cons_iff.1 h
    rw [List.cons_append, sourceLinesFrom.eq_5 _ _ _ (fun _ hc => absurd hc hcarriage)
      (fun hc => absurd hc hcarriage) hfeed, ih hline, List.append_assoc, List.singleton_append]

theorem sourceLinesFrom_end (e : LineEnd) (halone : e = .carriage → cs.head? ≠ some '\n') :
    sourceLinesFrom start (e.chars ++ cs) = start :: sourceLinesFrom [] cs := by
  cases e with
  | feed => rfl
  | both => rfl
  | carriage =>
    cases cs with
    | nil => rfl
    | cons c cs =>
      have hc : c ≠ '\n' := fun hc => halone rfl (congrArg some hc)
      exact sourceLinesFrom.eq_3 _ _ fun rest hrest => hc (List.cons.inj hrest).1

theorem WritesSource.sourceLinesOf_eq (h : WritesSource ls cs) : sourceLinesOf cs = ls := by
  unfold sourceLinesOf
  induction h with
  | nothing => rfl
  | @last line hne hline =>
    have hread : sourceLinesFrom [] (line ++ []) = sourceLinesFrom ([] ++ line) [] :=
      sourceLinesFrom_chars hline
    rw [List.append_nil, List.nil_append, sourceLinesFrom] at hread
    rw [hread, if_neg (by simpa using hne)]
  | ended hline e halone _ ih =>
    rw [sourceLinesFrom_chars hline, List.nil_append, sourceLinesFrom_end e halone, ih]

/-- The lines that are read write the text, and a part of the first line that is already read goes
before it. -/
theorem writesSource_sourceLinesFrom (h : IsLine start) :
    WritesSource (sourceLinesFrom start cs) (start ++ cs) := by
  fun_induction sourceLinesFrom start cs with
  | case1 start hempty =>
    rw [List.isEmpty_iff.1 hempty]
    exact .nothing
  | case2 start hne =>
    rw [List.append_nil]
    exact .last (by simpa using hne) h
  | case3 start rest ih => exact .ended h .both (fun he => nomatch he) (ih isLine_nil)
  | case4 start rest halone ih =>
    refine .ended h .carriage (fun _ hhead => ?_) (ih isLine_nil)
    obtain ⟨tail, htail⟩ := List.head?_eq_some_iff.1 hhead
    exact halone tail htail
  | case5 start rest ih => exact .ended h .feed (fun he => nomatch he) (ih isLine_nil)
  | case6 start c rest _ hcarriage hfeed ih =>
    have hstart := ih (h.snoc hfeed hcarriage)
    rwa [List.append_assoc, List.singleton_append] at hstart

/-- A text writes exactly the lines that are read from it. -/
theorem writesSource_iff : WritesSource ls cs ↔ sourceLinesOf cs = ls :=
  ⟨WritesSource.sourceLinesOf_eq, fun h => h ▸ writesSource_sourceLinesFrom isLine_nil⟩

/-! ## Other endings -/

/-- The text with another ending in the place of each line feed. -/
def withEnds (e : LineEnd) (cs : List Char) : List Char :=
  cs.flatMap fun c => if c = '\n' then e.chars else [c]

variable {e : LineEnd}

theorem withEnds_append (a b : List Char) : withEnds e (a ++ b) = withEnds e a ++ withEnds e b :=
  List.flatMap_append

theorem withEnds_of_isLine (h : IsLine line) : withEnds e line = line := by
  induction line with
  | nil => rfl
  | cons c line ih =>
    obtain ⟨⟨hfeed, _⟩, hline⟩ := isLine_cons_iff.1 h
    rw [withEnds, List.flatMap_cons, if_neg hfeed, ← withEnds, ih hline, List.singleton_append]

/-- Where line feeds become carriage returns, none is left. -/
theorem feed_notMem_withEnds : '\n' ∉ withEnds .carriage cs := by
  unfold withEnds
  rw [List.mem_flatMap]
  rintro ⟨c, _, hmem⟩
  split at hmem
  · simp [LineEnd.chars] at hmem
  · rename_i hc
    exact hc (List.mem_singleton.1 hmem).symm

theorem WritesSource.withEnds (h : WritesSource ls cs) (plain : '\r' ∉ cs) :
    WritesSource ls (withEnds e cs) := by
  induction h with
  | nothing => exact .nothing
  | last hne hline =>
    rw [withEnds_of_isLine hline]
    exact .last hne hline
  | @ended line cs ls hline end_ halone _ ih =>
    -- without carriage returns every ending of the text is a line feed
    have hfeed : end_ = .feed := by
      cases end_ with
      | feed => rfl
      | carriage => simp [LineEnd.chars] at plain
      | both => simp [LineEnd.chars] at plain
    have hplain : '\r' ∉ cs := fun hmem =>
      plain (List.mem_append_right _ (List.mem_append_right _ hmem))
    subst hfeed
    have hend : Text.withEnds e LineEnd.feed.chars = e.chars := by
      simp [Text.withEnds, LineEnd.chars]
    rw [withEnds_append, withEnds_append, withEnds_of_isLine hline, hend]
    refine .ended hline e (fun he hhead => ?_) (ih hplain)
    subst he
    exact feed_notMem_withEnds (List.mem_of_mem_head? hhead)

/-- Without carriage returns, it makes no difference to the lines which ending stands for a line
feed. -/
theorem sourceLinesOf_withEnds (plain : '\r' ∉ cs) (e : LineEnd) :
    sourceLinesOf (withEnds e cs) = sourceLinesOf cs :=
  ((writesSource_iff.2 rfl).withEnds plain).sourceLinesOf_eq

end LintScan.Text
