import LintScan.Proofs.Tool.Lines

/-!
# The findings of the Markdown checker

The Markdown checker prints a finding with or without a column. Its rule ends at the first blank, so
a finding is read back whatever its message says.

* `walkAll_ruleMessage` — the rule up to a blank and the message behind it are taken.
* `walk_columnBehind` — a column is passed over, whether it stands there or not.
* `MarkdownlintFinding.issueOf?_text` — so a finding is read back from its line.
-/

namespace LintScan

open Regex

/-- What a finding of the Markdown checker says. -/
structure MarkdownlintRecord where
  path : String
  line : Nat
  column? : Option Nat
  rule : String
  message : String
  deriving Repr, DecidableEq

namespace MarkdownlintRecord

/-- The column with the colon in front of it. -/
def column (r : MarkdownlintRecord) : String :=
  match r.column? with
  | none => ""
  | some n => ":" ++ toString n

/-- The line that a finding is printed on. -/
def text (r : MarkdownlintRecord) : String :=
  r.path ++ ":" ++ toString r.line ++ r.column ++ " " ++ r.rule ++ " " ++ r.message

/-- The issue that a finding is. -/
def issue (r : MarkdownlintRecord) : Issue where
  filename := r.path
  lineNumber := r.line
  tool := "markdownlint"
  issueType := r.rule
  severity := 3
  message := r.message
  certReference := none

theorem toList_column (r : MarkdownlintRecord) :
    r.column.toList = r.column?.elim [] fun n => ':' :: Nat.toDigits 10 n := by
  unfold column
  cases r.column? <;> simp

theorem toList_text (r : MarkdownlintRecord) : r.text.toList =
    r.path.toList ++ ':' :: (Nat.toDigits 10 r.line ++ (r.column.toList ++
      ' ' :: (r.rule.toList ++ ' ' :: r.message.toList))) := by
  simp [text]

end MarkdownlintRecord

/-- A finding that can be told from the line it is written on. -/
structure MarkdownlintFinding extends MarkdownlintRecord where
  path_ne : path ≠ ""
  colon_notMem_path : ':' ∉ path.toList
  line_lt : line < Decimal.valuesOf 63
  rule_ne : rule ≠ ""
  rule_plain : rule.toList.any Text.isBlank = false
  message_ne : message ≠ ""
  oneLine : ∀ s ∈ [path, message], '\n' ∉ s.toList

/-! ## The form of a line -/

namespace LineFormat

variable {b : Option Char} {rule message rest : List Char} {groups r : Captures} {k : Continuation}

/-- The parts of the form behind the place. -/
def ruleMessageParts : List Regex :=
  [.group 3 (.iter (.char (.compl .blank)) 1 none true), blank, .group 4 (text true),
    .look .textEnd]

theorem captures?_markdownlint (s : String) :
    markdownlintLines.form.captures? s =
      walkAll (.group 1 (text false) :: .char (.single ':') :: .group 2 digits ::
        optional (.seqs [.char (.single ':'), digits]) :: blank :: ruleMessageParts)
        ⟨none, s.toList⟩ [] := rfl

/-- The rule up to a blank and the message behind it are taken. -/
theorem walkAll_ruleMessage (hrule : rule ≠ []) (hplain : rule.any Text.isBlank = false)
    (hmessage : message ≠ []) (hline : '\n' ∉ message) :
    walkAll ruleMessageParts ⟨b, rule ++ ' ' :: message⟩ groups =
      some ((4, message) :: (3, rule) :: groups) := by
  have hhas : ∀ c ∈ rule, (CharSet.compl .blank).has c = true := fun c hc =>
    congrArg Bool.not (Bool.eq_false_iff.2 (List.any_eq_false.1 hplain c hc))
  rw [ruleMessageParts, walkAll_cons]
  refine walk_group_greedy hrule hhas (fun b' => ?_) fun b' more rest hmore hhas heq => ?_
  · rw [walkAll_cons, walk_blank]
    exact walkAll_rest hmessage hline
  · -- A longer rule would have a blank in it.
    obtain ⟨c, more, rfl⟩ := List.exists_cons_of_ne_nil hmore
    have hspace := hhas c List.mem_cons_self
    rw [← (List.cons.inj heq).1] at hspace
    exact absurd hspace (by decide)

/-- A column is passed over, whether it stands there or not. -/
theorem walk_columnBehind (f : MarkdownlintRecord)
    (hk : ∀ b', k ⟨b', ' ' :: rest⟩ groups = some r) :
    walk (optional (.seqs [.char (.single ':'), digits])) ⟨b, f.column.toList ++ ' ' :: rest⟩
      groups k = some r := by
  rw [optional, f.toList_column]
  cases f.column? with
  | none =>
    rw [Option.elim_none, List.nil_append, walk_optional_missing]
    · exact hk b
    · intro k
      rw [walk_seqs_cons, walk_lit_of_ne (by decide)]
  | some n =>
    rw [Option.elim_some]
    refine walk_optional_taken (List.cons_ne_nil _ _) (fun k hk => ?_) hk
    rw [List.cons_append, walk_seqs_cons, walk_lit_cons]
    exact walk_number (CharSet.head_not_digit (by decide)) hk

end LineFormat

/-! ## A finding on a line -/

namespace MarkdownlintFinding

variable (f : MarkdownlintFinding)

theorem feed_notMem_path : '\n' ∉ f.path.toList :=
  f.oneLine f.path (by simp)

theorem feed_notMem_message : '\n' ∉ f.message.toList :=
  f.oneLine f.message (by simp)

/-- A finding can be written on a line. -/
theorem feed_notMem_text : '\n' ∉ f.text.toList := by
  have hdigits (n : Nat) : '\n' ∉ Nat.toDigits 10 n := CharSet.notMem_toDigits (by decide)
  have hrule : '\n' ∉ f.rule.toList := fun h =>
    absurd (show Text.isBlank '\n' = true by decide) (List.any_eq_false.1 f.rule_plain '\n' h)
  have hcolumn : '\n' ∉ f.column.toList := by
    rw [f.toList_column]
    cases f.column? with
    | none => exact List.not_mem_nil
    | some n => simp [hdigits]
  simp [MarkdownlintRecord.toList_text, f.feed_notMem_path, f.feed_notMem_message, hdigits, hrule,
    hcolumn]

/-- The form takes a finding apart into the texts it was made of. -/
theorem captures?_text :
    markdownlintLines.form.captures? f.text =
      some [(4, f.message.toList), (3, f.rule.toList), (2, Nat.toDigits 10 f.line),
        (1, f.path.toList)] := by
  have hpath : f.path.toList ≠ [] := mt String.toList_eq_nil_iff.1 f.path_ne
  have hrule : f.rule.toList ≠ [] := mt String.toList_eq_nil_iff.1 f.rule_ne
  have hmessage : f.message.toList ≠ [] := mt String.toList_eq_nil_iff.1 f.message_ne
  rw [LineFormat.captures?_markdownlint, f.toList_text]
  refine LineFormat.walkAll_place hpath f.colon_notMem_path f.feed_notMem_path ?_ fun b => ?_
  · -- Behind the line number stands a colon or a blank.
    rw [f.toList_column]
    cases f.column? <;> exact CharSet.head_not_digit (by decide)
  rw [walkAll_cons]
  refine LineFormat.walk_columnBehind _ fun b' => ?_
  rw [walkAll_cons, LineFormat.walk_blank]
  exact LineFormat.walkAll_ruleMessage hrule f.rule_plain hmessage f.feed_notMem_message

/-- A finding is read back from its line. -/
theorem issueOf?_text : markdownlintLines.issueOf? f.text = some f.issue := by
  have hnumber : LineFormat.number? [(4, f.message.toList), (3, f.rule.toList),
      (2, Nat.toDigits 10 f.line), (1, f.path.toList)] 2 = some (f.line : Int) :=
    LineFormat.number?_toDigits rfl f.line_lt
  rw [LineFormat.issueOf?, f.captures?_text, Option.bind_some]
  simp [markdownlintLines, hnumber, Captures.get?, MarkdownlintRecord.issue, List.lookup_cons]

end MarkdownlintFinding

end LintScan
