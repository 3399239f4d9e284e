import LintScan.Proofs.Tool.Lines

/-!
# The findings of the type checker

The type checker prints a finding with or without a column, and with or without a code in brackets
at the end of the line. The message in between is the shortest one behind which the line may end, so
it is read back if nothing at its own end looks like a code.

* `MypyRecord.issue?` — what is made of a finding. Notes and findings on relative paths make none.
* `walkAll_endParts_code`, `ends_of_walkAll_endParts` — the code at the end of a line, and the only
  ends of a line.
* `walkAll_frontParts` — everything in front of the message is taken as it was written.
* `MypyReport.issueOf?_text` — so the line of a finding makes the issue that the finding is, and the
  line of any other report makes none.
-/

namespace LintScan

open Regex

/-! ## Findings on lines -/

/-- The word in front of a message of the type checker. -/
inductive CheckerWord where
  | error
  | warning
  | note
  deriving Repr, DecidableEq

namespace CheckerWord

def text : CheckerWord → String
  | error => "error"
  | warning => "warning"
  | note => "note"

/-- How grave a finding is. A note is no finding. -/
def severity? : CheckerWord → Option Int
  | error => some 5
  | warning => some 3
  | note => none

theorem checkerSeverity?_text (w : CheckerWord) : checkerSeverity? w.text = w.severity? := by
  cases w <;> rfl

end CheckerWord

/-- What the type checker reports on a line. -/
structure MypyRecord where
  path : String
  line : Nat
  column? : Option Nat
  word : CheckerWord
  message : String
  code? : Option String
  deriving Repr, DecidableEq

namespace MypyRecord

/-- The column with the colon behind it. -/
def column (r : MypyRecord) : String :=
  match r.column? with
  | none => ""
  | some n => toString n ++ ":"

/-- The code behind the message. -/
def ending (r : MypyRecord) : String :=
  match r.code? with
  | none => ""
  | some code => "  [" ++ code ++ "]"

/-- The line that a report is printed on. -/
def text (r : MypyRecord) : String :=
  r.path ++ ":" ++ toString r.line ++ ":" ++ r.column ++ " " ++ r.word.text ++ ": " ++ r.message
    ++ r.ending

/-- The issue that a report is. Notes are none, and neither is what is said of a relative path. -/
def issue? (r : MypyRecord) : Option Issue :=
  if Path.isAbsolute ⟨r.path⟩ then
    r.word.severity?.map fun severity => {
      filename := r.path
      lineNumber := r.line
      tool := "mypy"
      issueType := r.code?.getD r.word.text
      severity
      message := r.message
      certReference := none }
  else none

theorem toList_column (r : MypyRecord) :
    r.column.toList = r.column?.elim [] fun n => Nat.toDigits 10 n ++ [':'] := by
  unfold column
  cases r.column? <;> simp

theorem toList_ending (r : MypyRecord) :
    r.ending.toList =
      r.code?.elim [] fun code => ' ' :: ' ' :: '[' :: (code.toList ++ [']']) := by
  unfold ending
  cases r.code? <;> simp

theorem toList_text (r : MypyRecord) : r.text.toList =
    r.path.toList ++ ':' :: (Nat.toDigits 10 r.line ++ ':' :: (r.column.toList ++
      ' ' :: (r.word.text.toList ++ ':' :: ' ' :: (r.message.toList ++ r.ending.toList)))) := by
  simp [text]

end MypyRecord

/-- The characters of a code. -/
def LineFormat.codeSet : CharSet := .union .word (.single '-')

/-- A text is a code in brackets with blanks in front of it. -/
def CodeTail (code cs : List Char) : Prop :=
  ∃ blanks, blanks ≠ [] ∧ (∀ c ∈ blanks, Text.isBlank c = true) ∧ code ≠ [] ∧
    (∀ c ∈ code, LineFormat.codeSet.has c = true) ∧ cs = blanks ++ '[' :: (code ++ [']'])

/-- A report can be told from its line. Its code is one, and a message without a code does not end
like one with a code. -/
structure MypyRecord.Told (r : MypyRecord) : Prop where
  line_lt : r.line < Decimal.valuesOf 63
  message_end : r.message.toList.getLast?.any Text.isBlank = false
  code_plain : ∀ code ∈ r.code?, code ≠ "" ∧ code.toList.all LineFormat.codeSet.has = true
  noCode : r.code? = none → ∀ rest, rest <:+ r.message.toList → ∀ code, ¬ CodeTail code rest

/-- A report on a line. If it is a finding, then it can be told from its line. -/
structure MypyReport extends MypyRecord where
  path_ne : path ≠ ""
  colon_notMem_path : ':' ∉ path.toList
  message_ne : message ≠ ""
  oneLine : ∀ s ∈ [path, message, code?.getD ""], '\n' ∉ s.toList
  told : toMypyRecord.issue? ≠ none → toMypyRecord.Told

namespace MypyReport

variable (f : MypyReport)

theorem feed_notMem_path : '\n' ∉ f.path.toList :=
  f.oneLine f.path (by simp)

theorem feed_notMem_message : '\n' ∉ f.message.toList :=
  f.oneLine f.message (by simp)

theorem feed_notMem_ending : '\n' ∉ f.ending.toList := by
  have hcode := f.oneLine (f.code?.getD "") (by simp)
  rw [f.toList_ending]
  cases hcode? : f.code? with
  | none => exact List.not_mem_nil
  | some code =>
    rw [hcode?, Option.getD_some] at hcode
    simp [hcode]

theorem feed_notMem_column : '\n' ∉ f.column.toList := by
  rw [f.toList_column]
  cases f.column? with
  | none => exact List.not_mem_nil
  | some n =>
    have hdigits : '\n' ∉ Nat.toDigits 10 n := CharSet.notMem_toDigits (by decide)
    simp [hdigits]

/-- A report can be written on a line. -/
theorem feed_notMem_text : '\n' ∉ f.text.toList := by
  have hdigits : '\n' ∉ Nat.toDigits 10 f.line := CharSet.notMem_toDigits (by decide)
  have hword : '\n' ∉ f.word.text.toList := by cases f.word <;> decide
  simp [MypyRecord.toList_text, f.feed_notMem_path, f.feed_notMem_column, f.feed_notMem_message,
    f.feed_notMem_ending, hdigits, hword]

end MypyReport

/-! ## The end of a line -/

namespace CodeTail

variable {code cs back : List Char}

theorem bracket_mem (h : CodeTail code cs) : '[' ∈ cs := by
  obtain ⟨blanks, -, -, -, -, rfl⟩ := h
  exact List.mem_append_right blanks List.mem_cons_self

/-- A text that does not end in a blank is no beginning of a code in brackets that goes on with a
blank. -/
theorem not_append_blank (hback : back ≠ []) (hlast : back.getLast?.any Text.isBlank = false)
    (rest : List Char) : ¬ CodeTail code (back ++ ' ' :: rest) := by
  rintro ⟨blanks, -, hblanks, -, hcode, heq⟩
  rcases List.append_eq_append_iff.1 heq with ⟨more, rfl, -⟩ | ⟨more, -, hrest⟩
  · have hblank := hblanks (back.getLast hback) (by simp)
    rw [List.getLast?_eq_some_getLast hback, Option.any_some, hblank] at hlast
    cases hlast
  · -- The blank would stand in the brackets.
    have hspace : ' ' ∈ '[' :: (code ++ [']']) := by simp [hrest]
    have hmem : ' ' ∈ code := by simpa using hspace
    exact absurd (hcode ' ' hmem) (by decide)

end CodeTail

namespace LineFormat

variable {b : Option Char} {cs code message ending : List Char} {groups r : Captures}

/-- The parts of a code in brackets. -/
def codeParts : List Regex :=
  [.iter blank 1 none true, .char (.single '['), .group 5 (.iter (.char codeSet) 1 none true),
    .char (.single ']')]

/-- The parts of the form behind the message. -/
def endParts : List Regex := [optional (.seqs codeParts), .look .textEnd]

/-- The parts of the form in front of the message. -/
def frontParts : List Regex :=
  [.group 1 (text false), .char (.single ':'), .group 2 digits, .char (.single ':'),
    optional (.seqs [digits, .char (.single ':')]), blank,
    .group 3 (.alts [lit "error", lit "warning", lit "note"]), .char (.single ':'), blank]

theorem captures?_mypy (s : String) :
    mypyLines.form.captures? s =
      walkAll (frontParts ++ .group 4 (text false) :: endParts) ⟨none, s.toList⟩ [] := rfl

variable {k : Continuation}

/-- A code in brackets is taken whole. -/
theorem walk_codeParts (h : CodeTail code cs)
    (hk : ∀ b', k ⟨b', []⟩ ((5, code) :: groups) = some r) :
    walk (.seqs codeParts) ⟨b, cs⟩ groups k = some r := by
  obtain ⟨blanks, hne, hblanks, hcodeNe, hcode, rfl⟩ := h
  rw [codeParts, walk_seqs_cons, blank]
  refine walk_run_greedy hne hblanks (fun b' => ?_) fun b' more rest hmore hhas heq => ?_
  · rw [walk_seqs_cons, walk_lit_cons, walk_seqs_cons]
    refine walk_group_greedy hcodeNe hcode (fun b' => ?_) fun b' more rest hmore hhas heq => ?_
    · exact walk_lit_cons.trans (hk _)
    · obtain ⟨c, more, rfl⟩ := List.exists_cons_of_ne_nil hmore
      obtain ⟨rfl, -⟩ := List.cons.inj heq
      exact absurd (hhas ']' List.mem_cons_self) (by decide)
  · obtain ⟨c, more, rfl⟩ := List.exists_cons_of_ne_nil hmore
    obtain ⟨rfl, -⟩ := List.cons.inj heq
    exact absurd (hhas '[' List.mem_cons_self) (by decide)

/-- Where these parts match, the text begins with a code in brackets. -/
theorem exists_code_of_walk (h : walk (.seqs codeParts) ⟨b, cs⟩ groups k = some r) :
    ∃ b' code head rest, CodeTail code head ∧ cs = head ++ rest ∧
      k ⟨b', rest⟩ ((5, code) :: groups) = some r := by
  rw [codeParts, walk_seqs_cons, blank] at h
  obtain ⟨_, blanks, rest₁, hne, hblanks, rfl, hopen⟩ := exists_run_of_walk h
  rw [walk_seqs_cons, walk_lit_eq_some_iff] at hopen
  obtain ⟨rest₂, rfl, hcode⟩ := hopen
  rw [walk_seqs_cons] at hcode
  obtain ⟨_, code, rest₃, hcodeNe, hcodes, rfl, hclose⟩ := exists_run_of_walk_group hcode
  obtain ⟨rest, rfl, hk⟩ := walk_lit_eq_some_iff.1 hclose
  exact ⟨_, code, blanks ++ '[' :: (code ++ [']']), rest,
    ⟨blanks, hne, hblanks, hcodeNe, hcodes, rfl⟩, by simp, hk⟩

/-- The code at the end of a line is taken. -/
theorem walkAll_endParts_code (h : CodeTail code cs) :
    walkAll endParts ⟨b, cs⟩ groups = some ((5, code) :: groups) := by
  rw [endParts, walkAll_cons, optional, ← List.append_nil cs]
  refine walk_optional_taken (List.ne_nil_of_mem h.bracket_mem) (fun k hk => ?_)
    fun _ => walkAll_textEnd
  rw [List.append_nil]
  exact walk_codeParts h hk

/-- The end of a line is one without a code. -/
theorem walkAll_endParts_nil : walkAll endParts ⟨b, []⟩ groups = some groups := by
  rw [endParts, walkAll_cons, optional, walk_optional_missing, walkAll_textEnd, if_pos rfl]
  intro k
  refine Option.eq_none_iff_forall_ne_some.2 fun r hr => ?_
  obtain ⟨_, _, head, _, hhead, heq, -⟩ := exists_code_of_walk hr
  exact List.ne_nil_of_mem hhead.bracket_mem (List.append_eq_nil_iff.1 heq.symm).1

/-- A line ends, or else a code stands at its end. -/
theorem ends_of_walkAll_endParts (h : walkAll endParts ⟨b, cs⟩ groups = some r) :
    (cs = [] ∧ r = groups) ∨ ∃ code, CodeTail code cs ∧ r = (5, code) :: groups := by
  rw [endParts, walkAll_cons, optional, walk_optional] at h
  cases hcode : walk (.seqs codeParts) ⟨b, cs⟩ groups (fun next groups =>
      if next.rest.length < cs.length then walkAll [.look .textEnd] next groups else none) with
  | some r' =>
    rw [hcode, orTry_some] at h
    obtain ⟨b', code, head, rest, htail, rfl, hk⟩ := exists_code_of_walk hcode
    simp only [Option.ite_none_right_eq_some, walkAll_textEnd, Option.some.injEq] at h hk
    obtain ⟨-, rfl, rfl⟩ := hk
    rw [List.append_nil]
    exact .inr ⟨code, htail, h.symm⟩
  | none =>
    rw [hcode, orTry_none, walkAll_textEnd, Option.ite_none_right_eq_some] at h
    exact .inl ⟨h.1, (Option.some.inj h.2).symm⟩

/-! ## The message -/

/-- The message that is taken is the shortest one behind which the line may end. -/
theorem walkAll_message (hne : message ≠ []) (hline : '\n' ∉ message)
    (hk : ∀ b', walkAll endParts ⟨b', ending⟩ ((4, message) :: groups) = some r)
    (hshorter : ∀ front back, back ≠ [] → message = front ++ back →
      ∀ code, ¬ CodeTail code (back ++ ending)) :
    walkAll (.group 4 (text false) :: endParts) ⟨b, message ++ ending⟩ groups = some r := by
  rw [walkAll_cons]
  refine walk_group_lazy hne (has_text hline) hk fun b' front back _ hback heq => ?_
  refine Option.eq_none_iff_forall_ne_some.2 fun r hr => ?_
  rcases ends_of_walkAll_endParts hr with ⟨hnil, -⟩ | ⟨code, htail, -⟩
  · exact hback (List.append_eq_nil_iff.1 hnil).1
  · exact hshorter front back hback heq code htail

/-- Some message is taken from every text, and the groups in front of it stay as they are. -/
theorem exists_walkAll_message (hne : cs ≠ []) (hline : '\n' ∉ cs) :
    ∃ r, walkAll (.group 4 (text false) :: endParts) ⟨b, cs⟩ groups = some r ∧
      ∀ index, index < 4 → r.lookup index = groups.lookup index := by
  have hsome : ∃ r, walkAll (.group 4 (text false) :: endParts) ⟨b, cs ++ []⟩ groups = some r :=
    exists_of_walk_group hne (has_text hline) fun b' groups => ⟨groups, walkAll_endParts_nil⟩
  obtain ⟨r, hr⟩ := hsome
  rw [List.append_nil] at hr
  refine ⟨r, hr, fun index hindex => ?_⟩
  rw [walkAll_cons] at hr
  obtain ⟨_, message, rest, -, -, -, hrest⟩ := exists_run_of_walk_group hr
  rcases ends_of_walkAll_endParts hrest with ⟨-, rfl⟩ | ⟨code, -, rfl⟩
  · exact lookup_skip hindex message groups
  · rw [lookup_skip (Nat.lt_succ_of_lt hindex), lookup_skip hindex]

/-! ## What stands in front of the message -/

section Front

variable {rest : List Char} (f : MypyRecord)

/-- A column is passed over, whether it stands there or not. -/
theorem walk_column (hk : ∀ b', k ⟨b', ' ' :: rest⟩ groups = some r) :
    walk (optional (.seqs [digits, .char (.single ':')])) ⟨b, f.column.toList ++ ' ' :: rest⟩
      groups k = some r := by
  rw [optional, f.toList_column]
  cases f.column? with
  | none =>
    rw [Option.elim_none, List.nil_append, walk_optional_missing]
    · exact hk b
    · intro k
      refine Option.eq_none_iff_forall_ne_some.2 fun r hr => ?_
      rw [walk_seqs_cons, digits] at hr
      obtain ⟨_, number, tail, hne, hdigits, heq, -⟩ := exists_run_of_walk hr
      obtain ⟨d, number, rfl⟩ := List.exists_cons_of_ne_nil hne
      have hd := hdigits d List.mem_cons_self
      rw [← (List.cons.inj heq).1] at hd
      exact absurd hd (by decide)
  | some n =>
    rw [Option.elim_some]
    refine walk_optional_taken (by simp) (fun k hk => ?_) hk
    rw [List.append_assoc, walk_seqs_cons]
    refine walk_number (CharSet.head_not_digit (by decide)) fun b' => ?_
    exact walk_lit_cons.trans (hk _)

/-- The word is the one that stands there. -/
theorem walk_word (hk : ∀ b', k ⟨b', rest⟩ ((3, f.word.text.toList) :: groups) = some r) :
    walk (.group 3 (.alts [lit "error", lit "warning", lit "note"]))
      ⟨b, f.word.text.toList ++ rest⟩ groups k = some r := by
  refine walk_group (fun k hk => ?_) hk
  have halts (at_ : Cursor) : walk (.alts [lit "error", lit "warning", lit "note"]) at_ groups k =
      orTry (walk (lit "error") at_ groups k) fun _ =>
        orTry (walk (lit "warning") at_ groups k) fun _ => walk (lit "note") at_ groups k := rfl
  rw [halts]
  cases f.word with
  | error => rw [CheckerWord.text, walk_lit hk, orTry_some]
  | warning =>
    have herror : walk (lit "error") ⟨b, "warning".toList ++ rest⟩ groups k = none :=
      walk_lit_eq_none rfl (show 'w' ≠ 'e' by decide)
    rw [CheckerWord.text, herror, orTry_none, walk_lit hk, orTry_some]
  | note =>
    have herror : walk (lit "error") ⟨b, "note".toList ++ rest⟩ groups k = none :=
      walk_lit_eq_none rfl (show 'n' ≠ 'e' by decide)
    have hwarning : walk (lit "warning") ⟨b, "note".toList ++ rest⟩ groups k = none :=
      walk_lit_eq_none rfl (show 'n' ≠ 'w' by decide)
    rw [CheckerWord.text, herror, orTry_none, hwarning, orTry_none, walk_lit hk]

end Front

end LineFormat

/-! ## A report on a line -/

namespace MypyReport

open LineFormat

variable (f : MypyReport)

/-- The groups that everything in front of the message makes. -/
def front : Captures :=
  [(3, f.word.text.toList), (2, Nat.toDigits 10 f.line), (1, f.path.toList)]

/-- Everything in front of the message is taken as it was written. -/
theorem walkAll_frontParts {parts : List Regex} {rest : List Char} {r : Captures}
    (hk : walkAll parts ⟨some ' ', rest⟩ f.front = some r) :
    walkAll (frontParts ++ parts)
        ⟨none, f.path.toList ++ ':' :: (Nat.toDigits 10 f.line ++ ':' :: (f.column.toList ++
          ' ' :: (f.word.text.toList ++ ':' :: ' ' :: rest)))⟩ [] = some r := by
  have hpath : f.path.toList ≠ [] := mt String.toList_eq_nil_iff.1 f.path_ne
  simp only [frontParts, List.cons_append, List.nil_append]
  refine walkAll_place hpath f.colon_notMem_path f.feed_notMem_path ?_ fun b => ?_
  · exact CharSet.head_not_digit (by decide)
  rw [walkAll_cons, walk_lit_cons, walkAll_cons]
  refine walk_column _ fun b' => ?_
  rw [walkAll_cons, walk_blank, walkAll_cons]
  refine walk_word _ fun b' => ?_
  rw [walkAll_cons, walk_lit_cons, walkAll_cons, walk_blank]
  exact hk

/-- The code behind the message is taken as it is, if there is one. -/
theorem walkAll_endParts_ending (h : f.Told) (b : Option Char) (groups : Captures) :
    walkAll endParts ⟨b, f.ending.toList⟩ groups =
      some (f.code?.toList.map (fun code => (5, code.toList)) ++ groups) := by
  rw [f.toList_ending]
  cases hcode : f.code? with
  | none => exact walkAll_endParts_nil
  | some code =>
    obtain ⟨hne, hplain⟩ := h.code_plain code hcode
    have htail : CodeTail code.toList (' ' :: ' ' :: '[' :: (code.toList ++ [']'])) :=
      ⟨[' ', ' '], List.cons_ne_nil _ _, List.all_eq_true.1 (by decide),
        mt String.toList_eq_nil_iff.1 hne, List.all_eq_true.1 hplain, rfl⟩
    exact walkAll_endParts_code htail

/-- No part at the end of the message looks like a code with what stands behind the message. -/
theorem not_codeTail (h : f.Told) {front back code : List Char} (hback : back ≠ [])
    (heq : f.message.toList = front ++ back) : ¬ CodeTail code (back ++ f.ending.toList) := by
  rw [f.toList_ending]
  cases hcode : f.code? with
  | none =>
    rw [Option.elim_none, List.append_nil]
    exact h.noCode hcode back ⟨front, heq.symm⟩ code
  | some code' =>
    have hlast : back.getLast? = f.message.toList.getLast? := by
      rw [heq, List.getLast?_append_of_ne_nil _ hback]
    exact CodeTail.not_append_blank hback (hlast ▸ h.message_end) _

/-- The groups that a finding is taken apart into. -/
def groups : Captures :=
  f.code?.toList.map (fun code => (5, code.toList)) ++ (4, f.message.toList) :: f.front

/-- A finding that can be told from its line has its message and its code taken as they are. -/
theorem captures?_text_of_told (h : f.Told) :
    mypyLines.form.captures? f.text = some f.groups := by
  have hmessage : f.message.toList ≠ [] := mt String.toList_eq_nil_iff.1 f.message_ne
  rw [captures?_mypy, f.toList_text]
  refine f.walkAll_frontParts ?_
  exact walkAll_message hmessage f.feed_notMem_message
    (fun b' => f.walkAll_endParts_ending h b' _)
    fun front back hback heq code => f.not_codeTail h hback heq

/-- Whatever the message is, the path and the word are taken as they are. -/
theorem exists_captures?_text :
    ∃ groups, mypyLines.form.captures? f.text = some groups ∧ groups.get? 1 = some f.path ∧
      groups.get? 3 = some f.word.text := by
  have hmessage : f.message.toList ++ f.ending.toList ≠ [] :=
    List.append_ne_nil_of_left_ne_nil (mt String.toList_eq_nil_iff.1 f.message_ne) _
  have hline : '\n' ∉ f.message.toList ++ f.ending.toList := by
    rw [List.mem_append, not_or]
    exact ⟨f.feed_notMem_message, f.feed_notMem_ending⟩
  obtain ⟨groups, hgroups, hfront⟩ : ∃ r, walkAll (.group 4 (text false) :: endParts)
      ⟨some ' ', f.message.toList ++ f.ending.toList⟩ f.front = some r ∧
      ∀ index, index < 4 → r.lookup index = f.front.lookup index :=
    exists_walkAll_message hmessage hline
  refine ⟨groups, ?_, get?_of_lookup (hfront 1 (by decide)), get?_of_lookup (hfront 3 (by decide))⟩
  rw [captures?_mypy, f.toList_text]
  exact f.walkAll_frontParts hgroups

theorem lookup_groups {index : Nat} (h : index < 5) :
    f.groups.lookup index = List.lookup index ((4, f.message.toList) :: f.front) := by
  unfold groups
  cases f.code? with
  | none => rfl
  | some code => exact lookup_skip h code.toList _

theorem get?_path : f.groups.get? 1 = some f.path :=
  get?_of_lookup (f.lookup_groups (by decide))

theorem get?_word : f.groups.get? 3 = some f.word.text :=
  get?_of_lookup (f.lookup_groups (by decide))

theorem get?_message : f.groups.get? 4 = some f.message :=
  get?_of_lookup (f.lookup_groups (by decide))

theorem get?_code : f.groups.get? 5 = f.code? := by
  unfold groups
  cases f.code? with
  | none => rfl
  | some code => exact get?_of_lookup rfl

/-- Nothing is made of the path and the word of a report that is no finding. -/
theorem issue?_eq_none {groups : Captures} (hpath : groups.get? 1 = some f.path)
    (hword : groups.get? 3 = some f.word.text) (h : f.issue? = none) :
    mypyLines.issue? groups = none := by
  cases habsolute : Path.isAbsolute ⟨f.path⟩ with
  | false => simp [mypyLines, hpath, habsolute]
  | true =>
    have hseverity : checkerSeverity? f.word.text = none := by
      rw [CheckerWord.checkerSeverity?_text]
      simpa [MypyRecord.issue?, habsolute] using h
    simp [mypyLines, hpath, hword, hseverity]

/-- The line of a report makes the issue that the report is, if it is one. -/
theorem issueOf?_text : mypyLines.issueOf? f.text = f.issue? := by
  cases hissue : f.issue? with
  | none =>
    obtain ⟨groups, hgroups, hpath, hword⟩ := f.exists_captures?_text
    rw [LineFormat.issueOf?, hgroups, Option.bind_some]
    exact f.issue?_eq_none hpath hword hissue
  | some issue =>
    have htold : f.Told := f.told (by simp [hissue])
    rw [MypyRecord.issue?, Option.ite_none_right_eq_some, Option.map_eq_some_iff] at hissue
    obtain ⟨habsolute, severity, hseverity, rfl⟩ := hissue
    have hnumber : number? f.groups 2 = some (f.line : Int) :=
      number?_toDigits (f.lookup_groups (by decide)) htold.line_lt
    rw [← CheckerWord.checkerSeverity?_text] at hseverity
    rw [LineFormat.issueOf?, f.captures?_text_of_told htold, Option.bind_some]
    simp [mypyLines, hnumber, f.get?_path, f.get?_word, f.get?_message, f.get?_code, habsolute,
      hseverity]

end MypyReport

end LintScan
