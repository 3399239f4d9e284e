import LintScan.Proofs.Text.Pieces
import LintScan.Proofs.Tool.Lines

/-!
# The findings of the YAML checker

The form of a line of the YAML checker has a path, a message and a rule that each take as much as
they can. So a finding is read back if its message holds nothing that looks like the place behind a
path, and its rule no bracket that opens.

* `IsPlace` — what stands between a path and a level.
* `walkAll_headParts`, `walkAll_messageParts` — what stands behind the path is taken as it was
  written.
* `exists_place_of_walkAll` — the form goes on behind a path only in front of a place.
* `YamllintFinding.issueOf?_text` — so a finding is read back from its line.
-/

namespace LintScan

open Regex

/-! ## Findings on lines -/

/-- How grave a finding of the YAML checker is. -/
inductive YamllintLevel where
  | error
  | warning
  deriving Repr, DecidableEq

namespace YamllintLevel

def text : YamllintLevel → String
  | error => "error"
  | warning => "warning"

def severity : YamllintLevel → Int
  | error => 5
  | warning => 3

end YamllintLevel

/-- What a finding of the YAML checker says. -/
structure YamllintRecord where
  path : String
  line : Nat
  column : Nat
  level : YamllintLevel
  message : String
  rule : String
  deriving Repr, DecidableEq

namespace YamllintRecord

/-- The line that a finding is printed on. -/
def text (r : YamllintRecord) : String :=
  r.path ++ ":" ++ toString r.line ++ ":" ++ toString r.column ++ ": [" ++ r.level.text ++ "] "
    ++ r.message ++ " (" ++ r.rule ++ ")"

/-- The issue that a finding is. -/
def issue (r : YamllintRecord) : Issue where
  filename := r.path
  lineNumber := r.line
  tool := "yamllint"
  issueType := r.rule
  severity := r.level.severity
  message := r.message
  certReference := none

/-- What stands behind the message. -/
def ending (r : YamllintRecord) : List Char := ' ' :: '(' :: (r.rule.toList ++ [')'])

theorem toList_text (r : YamllintRecord) : r.text.toList =
    r.path.toList ++ ':' :: (Nat.toDigits 10 r.line ++ ':' :: (Nat.toDigits 10 r.column ++
      ':' :: ' ' :: '[' :: (r.level.text.toList ++ ']' :: ' ' ::
        (r.message.toList ++ r.ending)))) := by
  simp [text, ending]

end YamllintRecord

/-- A text is a place: a line and a column between colons, a blank and a bracket that opens. -/
def IsPlace (cs : List Char) : Prop :=
  ∃ line column blank, line ≠ [] ∧ (∀ d ∈ line, CharSet.digit.has d = true) ∧ column ≠ [] ∧
    (∀ d ∈ column, CharSet.digit.has d = true) ∧ Text.isBlank blank = true ∧
    cs = ':' :: (line ++ ':' :: (column ++ [':', blank, '[']))

/-- A finding that can be told from the line it is written on. -/
structure YamllintFinding extends YamllintRecord where
  path_ne : path ≠ ""
  message_ne : message ≠ ""
  rule_ne : rule ≠ ""
  line_lt : line < Decimal.valuesOf 63
  rule_plain : '(' ∉ rule.toList
  oneLine : ∀ s ∈ [path, message, rule], '\n' ∉ s.toList
  noPlace : ∀ place, place <:+: message.toList → ¬ IsPlace place

namespace YamllintFinding

variable (f : YamllintFinding)

theorem feed_notMem_path : '\n' ∉ f.path.toList :=
  f.oneLine f.path (by simp)

theorem feed_notMem_message : '\n' ∉ f.message.toList :=
  f.oneLine f.message (by simp)

theorem feed_notMem_rule : '\n' ∉ f.rule.toList :=
  f.oneLine f.rule (by simp)

/-- A finding can be written on a line. -/
theorem feed_notMem_text : '\n' ∉ f.text.toList := by
  have hdigits (n : Nat) : '\n' ∉ Nat.toDigits 10 n := fun h =>
    absurd (CharSet.has_digit_of_mem_toDigits h) (by decide)
  have hlevel : '\n' ∉ f.level.text.toList := by cases f.level <;> decide
  simp [YamllintRecord.toList_text, YamllintRecord.ending, f.feed_notMem_path,
    f.feed_notMem_message, f.feed_notMem_rule, hdigits, hlevel]

end YamllintFinding

/-! ## The form of a line -/

namespace LineFormat

variable {b : Option Char} {cs message rule : List Char} {groups r : Captures}

/-- The parts of the form behind the message. -/
def ruleParts : List Regex :=
  [blank, .char (.single '('), .group 6 (text true), .char (.single ')'), .look .textEnd]

/-- The parts of the form from the bracket behind the level. -/
def messageParts : List Regex :=
  [.char (.single ']'), blank, .group 5 (text true)] ++ ruleParts

/-- The parts of the form behind the path. -/
def placeParts : List Regex :=
  [.char (.single ':'), .group 2 digits, .char (.single ':'), .group 3 digits, .char (.single ':'),
    blank, .char (.single '['), .group 4 (text false)] ++ messageParts

theorem captures?_yamllint (s : String) :
    yamllintLines.form.captures? s =
      walkAll (.group 1 (text true) :: placeParts) ⟨none, s.toList⟩ [] := rfl

/-- The rule between the brackets at the end of a line is taken. -/
theorem walkAll_ruleParts (hne : rule ≠ []) (hline : '\n' ∉ rule) :
    walkAll ruleParts ⟨b, ' ' :: '(' :: (rule ++ [')'])⟩ groups = some ((6, rule) :: groups) := by
  rw [ruleParts, walkAll_cons, walk_blank, walkAll_cons, walk_lit_cons, walkAll_cons]
  refine walk_group_greedy hne (has_text hline) (fun b' => ?_) fun b' more rest hmore _ heq => ?_
  · rw [walkAll_cons, walk_lit_cons, walkAll_textEnd, if_pos rfl]
  · -- Behind a longer rule there would be no bracket left.
    obtain ⟨d, more, rfl⟩ := List.exists_cons_of_ne_nil hmore
    have hrest : rest = [] := (List.append_eq_nil_iff.1 (List.cons.inj heq).2.symm).2
    rw [hrest, walkAll_cons]
    rfl

/-- The rule stands behind a blank and a bracket. -/
theorem exists_bracket_of_walkAll (h : walkAll ruleParts ⟨b, cs⟩ groups = some r) :
    ∃ c rest, Text.isBlank c = true ∧ cs = c :: '(' :: rest := by
  rw [ruleParts, walkAll_cons, blank, walk_char_eq_some_iff] at h
  obtain ⟨c, rest, rfl, hblank, hrest⟩ := h
  rw [walkAll_cons, walk_lit_eq_some_iff] at hrest
  obtain ⟨rest, rfl, -⟩ := hrest
  exact ⟨c, rest, hblank, rfl⟩

/-- The level in its brackets and the message up to the last bracket that opens are taken. -/
theorem walkAll_messageParts (hmessage : message ≠ []) (hmessageLine : '\n' ∉ message)
    (hrule : rule ≠ []) (hruleLine : '\n' ∉ rule) (hplain : '(' ∉ rule) :
    walkAll messageParts ⟨b, ']' :: ' ' :: (message ++ ' ' :: '(' :: (rule ++ [')']))⟩ groups =
      some ((6, rule) :: (5, message) :: groups) := by
  rw [messageParts, List.cons_append, walkAll_cons, walk_lit_cons, List.cons_append, walkAll_cons,
    walk_blank, List.cons_append, walkAll_cons]
  refine walk_group_greedy hmessage (has_text hmessageLine)
    (fun b' => walkAll_ruleParts hrule hruleLine) fun b' more rest hmore _ heq => ?_
  refine Option.eq_none_iff_forall_ne_some.2 fun r hr => ?_
  obtain ⟨c, rest, hblank, rfl⟩ := exists_bracket_of_walkAll hr
  -- A longer message would be followed by a bracket that opens within the rule.
  obtain ⟨d, more, rfl⟩ := List.exists_cons_of_ne_nil hmore
  have htail : '(' :: (rule ++ [')']) = more ++ c :: '(' :: rest := (List.cons.inj heq).2
  cases more with
  | nil =>
    rw [← (List.cons.inj htail).1] at hblank
    exact absurd hblank (by decide)
  | cons e more =>
    have hmem : '(' ∈ rule ++ [')'] := by simp [(List.cons.inj htail).2]
    exact absurd hmem (by simp [hplain])

theorem bracket_mem_of_walkAll (h : walkAll messageParts ⟨b, cs⟩ groups = some r) :
    '(' ∈ cs := by
  rw [messageParts, List.cons_append, walkAll_cons, walk_lit_eq_some_iff] at h
  obtain ⟨rest₁, rfl, hblank⟩ := h
  rw [List.cons_append, walkAll_cons, blank, walk_char_eq_some_iff] at hblank
  obtain ⟨_, rest₂, rfl, -, hmessage⟩ := hblank
  rw [List.cons_append, walkAll_cons] at hmessage
  obtain ⟨_, message, rest₃, -, -, rfl, hrule⟩ := exists_run_of_walk_group hmessage
  obtain ⟨_, rest, -, rfl⟩ := exists_bracket_of_walkAll hrule
  simp

/-- Where the form goes on behind a path, a place stands there and a bracket opens behind it. -/
theorem exists_place_of_walkAll (h : walkAll placeParts ⟨b, cs⟩ groups = some r) :
    ∃ place rest, IsPlace place ∧ cs = place ++ rest ∧ '(' ∈ rest := by
  rw [placeParts, List.cons_append, walkAll_cons, walk_lit_eq_some_iff] at h
  obtain ⟨rest₁, rfl, hline⟩ := h
  rw [List.cons_append, walkAll_cons] at hline
  obtain ⟨_, line, rest₂, hlineNe, hlineDigits, rfl, hcolon⟩ := exists_run_of_walk_group hline
  rw [List.cons_append, walkAll_cons, walk_lit_eq_some_iff] at hcolon
  obtain ⟨rest₃, rfl, hcolumn⟩ := hcolon
  rw [List.cons_append, walkAll_cons] at hcolumn
  obtain ⟨_, column, rest₄, hcolumnNe, hcolumnDigits, rfl, hcolon⟩ :=
    exists_run_of_walk_group hcolumn
  rw [List.cons_append, walkAll_cons, walk_lit_eq_some_iff] at hcolon
  obtain ⟨rest₅, rfl, hblank⟩ := hcolon
  rw [List.cons_append, walkAll_cons, blank, walk_char_eq_some_iff] at hblank
  obtain ⟨c, rest₆, rfl, hc, hopen⟩ := hblank
  rw [List.cons_append, walkAll_cons, walk_lit_eq_some_iff] at hopen
  obtain ⟨rest₇, rfl, hlevel⟩ := hopen
  rw [List.cons_append, walkAll_cons] at hlevel
  obtain ⟨_, level, rest, -, -, rfl, hmessage⟩ := exists_run_of_walk_group hlevel
  have hplace : IsPlace (':' :: (line ++ ':' :: (column ++ [':', c, '[']))) :=
    ⟨line, column, c, hlineNe, hlineDigits, hcolumnNe, hcolumnDigits, hc, rfl⟩
  exact ⟨_, level ++ rest, hplace, by simp,
    List.mem_append_right level (bracket_mem_of_walkAll hmessage)⟩

/-- Behind a path the form takes a line, a column, a level, a message and a rule. -/
theorem walkAll_placeParts (line column : Nat) {level : List Char} (hlevel : level ≠ [])
    (hbracket : ']' ∉ level) (hlevelLine : '\n' ∉ level)
    (hk : ∀ b, walkAll messageParts ⟨b, ']' :: cs⟩
      ((4, level) :: (3, Nat.toDigits 10 column) :: (2, Nat.toDigits 10 line) :: groups) = some r) :
    walkAll placeParts
        ⟨b, ':' :: (Nat.toDigits 10 line ++ ':' :: (Nat.toDigits 10 column ++
          ':' :: ' ' :: '[' :: (level ++ ']' :: cs)))⟩ groups = some r := by
  have hcolon : CharSet.digit.has ':' = false := by decide
  simp only [placeParts, List.cons_append, List.nil_append]
  rw [walkAll_cons, walk_lit_cons, walkAll_cons]
  refine walk_digits (CharSet.head_not_digit hcolon) fun b' => ?_
  rw [walkAll_cons, walk_lit_cons, walkAll_cons]
  refine walk_digits (CharSet.head_not_digit hcolon) fun b' => ?_
  rw [walkAll_cons, walk_lit_cons, walkAll_cons, walk_blank, walkAll_cons, walk_lit_cons,
    walkAll_cons]
  refine walk_group_lazy hlevel (has_text hlevelLine) hk fun b' front back _ hback heq => ?_
  -- A shorter level is followed by a character of the level, which is no bracket.
  obtain ⟨c, back, rfl⟩ := List.exists_cons_of_ne_nil hback
  rw [messageParts, List.cons_append, walkAll_cons]
  exact walk_lit_of_ne fun hc => hbracket (by simp [heq, hc])

end LineFormat

/-! ## A finding on a line -/

namespace IsPlace

variable {place cs rest message : List Char}

/-- A place does not begin where no colon stands. -/
theorem suffix_of_notMem (h : IsPlace place) {front : List Char} (hfront : ':' ∉ front)
    (hsuffix : place ++ rest <:+ front ++ cs) : place ++ rest <:+ cs := by
  obtain ⟨line, column, c, -, -, -, -, -, rfl⟩ := h
  exact LineFormat.suffix_of_notMem hfront hsuffix

/-- A place has a digit behind its first colon. -/
theorem ne_blank (h : IsPlace place) : ':' :: ' ' :: cs ≠ place ++ rest := by
  obtain ⟨line, column, c, hne, hdigits, -, -, -, rfl⟩ := h
  intro heq
  obtain ⟨d, line, rfl⟩ := List.exists_cons_of_ne_nil hne
  have hd := hdigits d List.mem_cons_self
  rw [← (List.cons.inj (List.cons.inj heq).2).1] at hd
  exact absurd hd (by decide)

theorem exists_open (h : IsPlace place) : ∃ front, place = front ++ ['['] := by
  obtain ⟨line, column, c, -, -, -, -, -, rfl⟩ := h
  exact ⟨':' :: (line ++ ':' :: (column ++ [':', c])), by simp⟩

/-- A place holds three colons. -/
theorem three_le_count (h : IsPlace place) : 3 ≤ place.count ':' := by
  obtain ⟨line, column, c, -, -, -, -, -, rfl⟩ := h
  simp only [List.count_cons, List.count_append, beq_self_eq_true, if_true]
  omega

/-- No place begins at the colon in front of a column that a blank follows. -/
theorem ne_column (h : IsPlace place) {column : List Char}
    (hcolumn : ∀ d ∈ column, CharSet.digit.has d = true) :
    ':' :: (column ++ ':' :: ' ' :: cs) ≠ place ++ rest := by
  have hcolon {ds : List Char} (hds : ∀ d ∈ ds, CharSet.digit.has d = true) : ':' ∉ ds := fun h =>
    absurd (hds ':' h) (by decide)
  obtain ⟨line, column', c, -, hline, hne, hdigits, -, rfl⟩ := h
  intro heq
  have htail : column ++ ':' :: ' ' :: cs = line ++ ':' :: (column' ++ [':', c, '['] ++ rest) := by
    simpa using heq
  have hcut := Text.cutAt?_append (hcolon hcolumn) (' ' :: cs)
  rw [htail, Text.cutAt?_append (hcolon hline), Option.some.injEq, Prod.mk.injEq] at hcut
  -- The column of the place would begin with a blank.
  obtain ⟨d, column', rfl⟩ := List.exists_cons_of_ne_nil hne
  have hd := hdigits d List.mem_cons_self
  rw [(List.cons.inj hcut.2).1] at hd
  exact absurd hd (by decide)

/-- A place with a bracket that opens behind it stands in the message, if no bracket opens behind
the one at the end of the message. -/
theorem infix_message (h : IsPlace place) {ending : List Char} (hplain : '(' ∉ ending)
    (hrest : '(' ∈ rest) (hsuffix : place ++ rest <:+ message ++ ' ' :: '(' :: ending) :
    place <:+: message := by
  obtain ⟨before, heq⟩ := hsuffix
  rw [← List.append_assoc] at heq
  rcases List.append_eq_append_iff.1 heq with ⟨after, rfl, -⟩ | ⟨more, hmore, htail⟩
  · exact ⟨before, after, rfl⟩
  -- Otherwise the place would end behind the message.
  cases more with
  | nil => exact ⟨before, [], by rw [hmore, List.append_nil, List.append_nil]⟩
  | cons c more =>
    obtain ⟨rfl, hbehind⟩ := List.cons.inj htail
    cases more with
    | nil =>
      obtain ⟨front, rfl⟩ := h.exists_open
      rw [← List.append_assoc] at hmore
      exact absurd (List.append_inj_right' hmore rfl) (by decide)
    | cons d more =>
      have hending : ending = more ++ rest := (List.cons.inj hbehind).2
      rw [hending] at hplain
      exact absurd (List.mem_append_right more hrest) hplain

end IsPlace

namespace YamllintFinding

variable (f : YamllintFinding)

/-- No place with a bracket that opens behind it begins behind the path of a finding. -/
theorem not_place {place rest : List Char} (hplace : IsPlace place) (hrest : '(' ∈ rest) :
    ¬ place ++ rest <:+ Nat.toDigits 10 f.line ++ ':' :: (Nat.toDigits 10 f.column ++
      ':' :: ' ' :: '[' :: (f.level.text.toList ++ ']' :: ' ' ::
        (f.message.toList ++ f.ending))) := by
  intro h
  have hcolon (n : Nat) : ':' ∉ Nat.toDigits 10 n := CharSet.notMem_toDigits (by decide)
  have hlevel : ':' ∉ ' ' :: '[' :: (f.level.text.toList ++ [']', ' ']) := by
    cases f.level <;> decide
  have hending : '(' ∉ f.rule.toList ++ [')'] := by simp [f.rule_plain]
  have hline := hplace.suffix_of_notMem (hcolon f.line) h
  rcases List.suffix_cons_iff.1 hline with heq | hline
  · exact hplace.ne_column (fun d => CharSet.has_digit_of_mem_toDigits) heq.symm
  have hcolumn := hplace.suffix_of_notMem (hcolon f.column) hline
  rcases List.suffix_cons_iff.1 hcolumn with heq | hcolumn
  · exact hplace.ne_blank heq.symm
  have hmessage : place ++ rest <:+ f.message.toList ++ f.ending := by
    refine hplace.suffix_of_notMem hlevel ?_
    simpa using hcolumn
  exact f.noPlace place (hplace.infix_message hending hrest hmessage) hplace

/-- The form takes a finding apart into the texts it was made of. -/
theorem captures?_text :
    yamllintLines.form.captures? f.text =
      some [(6, f.rule.toList), (5, f.message.toList), (4, f.level.text.toList),
        (3, Nat.toDigits 10 f.column), (2, Nat.toDigits 10 f.line), (1, f.path.toList)] := by
  have hpath : f.path.toList ≠ [] := mt String.toList_eq_nil_iff.1 f.path_ne
  have hmessage : f.message.toList ≠ [] := mt String.toList_eq_nil_iff.1 f.message_ne
  have hrule : f.rule.toList ≠ [] := mt String.toList_eq_nil_iff.1 f.rule_ne
  have hlevel : f.level.text.toList ≠ [] := by cases f.level <;> decide
  have hbracket : ']' ∉ f.level.text.toList := by cases f.level <;> decide
  have hlevelLine : '\n' ∉ f.level.text.toList := by cases f.level <;> decide
  rw [LineFormat.captures?_yamllint, f.toList_text, walkAll_cons]
  refine walk_group_greedy hpath (LineFormat.has_text f.feed_notMem_path) (fun b => ?_)
    fun b more rest hmore _ heq => ?_
  · exact LineFormat.walkAll_placeParts f.line f.column hlevel hbracket hlevelLine fun b' =>
      LineFormat.walkAll_messageParts hmessage f.feed_notMem_message hrule f.feed_notMem_rule
        f.rule_plain
  · refine Option.eq_none_iff_forall_ne_some.2 fun r hr => ?_
    obtain ⟨place, tail, hplace, rfl, htail⟩ := LineFormat.exists_place_of_walkAll hr
    obtain ⟨c, more, rfl⟩ := List.exists_cons_of_ne_nil hmore
    exact f.not_place hplace htail ⟨more, (List.cons.inj heq).2.symm⟩

/-- A finding is read back from its line. -/
theorem issueOf?_text : yamllintLines.issueOf? f.text = some f.issue := by
  have hnumber : LineFormat.number? [(6, f.rule.toList), (5, f.message.toList),
      (4, f.level.text.toList), (3, Nat.toDigits 10 f.column), (2, Nat.toDigits 10 f.line),
      (1, f.path.toList)] 2 = some (f.line : Int) :=
    LineFormat.number?_toDigits rfl f.line_lt
  have hseverity : (if f.level.text = "error" then 5 else 3) = f.level.severity := by
    cases f.level <;> rfl
  rw [LineFormat.issueOf?, f.captures?_text, Option.bind_some]
  simp [yamllintLines, hnumber, Captures.get?, YamllintRecord.issue, List.lookup_cons, hseverity]

end YamllintFinding

end LintScan
