import LintScan.Proofs.Json.Written
import LintScan.Proofs.Regex.Plain
import LintScan.Proofs.Regex.Preferred
import LintScan.Proofs.Text.Lines
import LintScan.Tool.LineFormat

/-!
# Findings among other lines

What the formats of lines have in common.

* `walk_lit_cons`, `walk_lit`, `walk_number`, `walk_digits`, `walkAll_rest` — the parts of a form in
  front of what they match: a character, a fixed text, a number, and all that is left.
* `walkAll_place` — the parts for a path without colons and a line number behind it.
* `get?_of_lookup`, `number?_toDigits` — the text of a group and a written number are read back.
* `OutputLine`, `OutputLine.Output` — a line that a finding is written on, or another one, and an
  output in chunks that writes such lines.
* `issuesOf_output`, `issuesOf_written` — an output has the issues of the findings written in it, in
  order, whatever the other lines are and wherever it is cut into chunks between lines.
-/

namespace LintScan

open Regex

/-! ## Numbers -/

namespace Regex.CharSet

theorem has_digit_of_isDigit {c : Char} (h : c.isDigit = true) : digit.has c = true := by
  obtain ⟨hlo, hhi⟩ : 0x30 ≤ c.toNat ∧ c.toNat ≤ 0x39 := by
    simpa [Char.isDigit, Char.le_def, UInt32.le_iff_toNat_le] using h
  have hspan : (⟨0x30, 0x39, 1⟩ : Unicode.Span).has c.toNat = true := by
    simp [Unicode.Span.has, hlo, hhi, Nat.mod_one]
  rw [digit, has, Unicode.decimalNumberSpans, Unicode.covers_cons, hspan, Bool.true_or,
    if_neg (Nat.not_lt.2 hlo)]

theorem has_digit_of_mem_toDigits {n : Nat} {c : Char} (h : c ∈ Nat.toDigits 10 n) :
    digit.has c = true :=
  has_digit_of_isDigit (Json.isDigit_toDigits n c h)

theorem notMem_toDigits {n : Nat} {c : Char} (hc : digit.has c = false) :
    c ∉ Nat.toDigits 10 n := by
  intro h
  rw [has_digit_of_mem_toDigits h] at hc
  cases hc

/-- A number ends in front of a character that is no digit. -/
theorem head_not_digit {d : Char} {cs : List Char} (hd : digit.has d = false) :
    ∀ c ∈ (d :: cs).head?, digit.has c = false := by
  rintro c ⟨⟩
  exact hd

end Regex.CharSet

namespace Decimal

theorem fitsSigned_natCast {bits n : Nat} (h : n < valuesOf bits) :
    fitsSigned (bits + 1) (n : Int) = true := by
  rw [fitsSigned, decide_eq_true_eq, Nat.add_sub_cancel]
  omega

theorem digitValue?_of_isDigit {c : Char} (h : c.isDigit = true) :
    digitValue? 10 c = some (c.toNat - '0'.toNat) := by
  obtain ⟨hlo, hhi⟩ : '0' ≤ c ∧ c ≤ '9' := by
    simpa [Char.isDigit, Char.le_def, UInt32.le_iff_toNat_le] using h
  have hhi' : c.toNat ≤ '9'.toNat := hhi
  have hvalue : c.toNat - '0'.toNat < 10 :=
    Nat.lt_succ_of_le (Nat.sub_le_sub_right hhi' '0'.toNat)
  simp only [digitValue?, hlo, hhi, and_self, if_true, hvalue]

theorem foldl_digitValue? {ds : List Char} (h : ∀ d ∈ ds, d.isDigit = true) (n : Nat) :
    ds.foldl (fun n d => n.bind fun n => (digitValue? 10 d).map (n * 10 + ·)) (some n) =
      some (Nat.ofDigitChars 10 ds n) := by
  rw [Nat.ofDigitChars_eq_foldl]
  induction ds generalizing n with
  | nil => rfl
  | cons d ds ih =>
    obtain ⟨hd, hds⟩ := List.forall_mem_cons.1 h
    rw [List.foldl_cons, List.foldl_cons, Option.bind_some, digitValue?_of_isDigit hd,
      Option.map_some, Nat.mul_comm n 10]
    exact ih hds _

theorem readUnsigned?_toDigits (n : Nat) : readUnsigned? 10 (Nat.toDigits 10 n) = some n := by
  have hfold := foldl_digitValue? (Json.isDigit_toDigits n) 0
  rw [Nat.ofDigitChars_ten_toDigits] at hfold
  obtain ⟨c, ds, hds, -⟩ := Json.exists_toDigits_cons n
  rw [hds] at hfold ⊢
  exact hfold

end Decimal

namespace LineFormat

open Regex (Captures)

theorem get?_of_lookup {cs : Captures} {group : Nat} {s : String}
    (h : cs.lookup group = some s.toList) : cs.get? group = some s := by
  rw [Captures.get?, h, Option.map_some, String.ofList_toList]

theorem lookup_skip {group other : Nat} (h : group < other) (text : List Char) (cs : Captures) :
    List.lookup group ((other, text) :: cs) = cs.lookup group := by
  rw [List.lookup_cons, beq_eq_false_iff_ne.2 (Nat.ne_of_lt h)]

/-- A number that fits into a word is read back from the group that holds its digits. -/
theorem number?_toDigits {cs : Captures} {group n : Nat}
    (hgroup : cs.lookup group = some (Nat.toDigits 10 n)) (hn : n < Decimal.valuesOf 63) :
    number? cs group = some (n : Int) := by
  have hfits : Decimal.fitsSigned 64 (n : Int) = true := Decimal.fitsSigned_natCast hn
  have hread : (cs.get? group).bind (Decimal.readUnsigned? 10 ·.toList) = some n := by
    rw [Captures.get?, hgroup, Option.map_some, Option.bind_some, String.toList_ofList,
      Decimal.readUnsigned?_toDigits]
  have hnumber : number? cs group = ((cs.get? group).bind (Decimal.readUnsigned? 10 ·.toList)).bind
      fun n => if Decimal.fitsSigned 64 n then some (n : Int) else none := by
    unfold number?
    cases cs.get? group <;> rfl
  rw [hnumber, hread, Option.bind_some, if_pos hfits]

/-! ## Parts of a form -/

section Walk

variable {b : Option Char} {cs : List Char} {groups r : Captures} {k : Continuation} {c : Char}
  {index : Nat}

theorem walk_lit_cons : walk (.char (.single c)) ⟨b, c :: cs⟩ groups k = k ⟨some c, cs⟩ groups :=
  walk_char_cons (has_single.2 rfl)

theorem walk_lit_eq_some_iff : walk (.char (.single c)) ⟨b, cs⟩ groups k = some r ↔
    ∃ rest, cs = c :: rest ∧ k ⟨some c, rest⟩ groups = some r := by
  simp only [walk_char_eq_some_iff, has_single]
  constructor
  · rintro ⟨_, rest, hcs, rfl, hk⟩
    exact ⟨rest, hcs, hk⟩
  · rintro ⟨rest, hcs, hk⟩
    exact ⟨c, rest, hcs, rfl, hk⟩

/-- A character other than the wanted one is not matched. -/
theorem walk_lit_of_ne {d : Char} (h : d ≠ c) :
    walk (.char (.single c)) ⟨b, d :: cs⟩ groups k = none := by
  refine Option.eq_none_iff_forall_ne_some.2 fun r hr => ?_
  obtain ⟨rest, heq, -⟩ := walk_lit_eq_some_iff.1 hr
  exact h (List.cons.inj heq).1

/-- A fixed text is walked through. -/
theorem walk_lit {s : String} (hk : ∀ b', k ⟨b', cs⟩ groups = some r) :
    walk (lit s) ⟨b, s.toList ++ cs⟩ groups k = some r := by
  unfold lit
  generalize s.toList = head
  fun_induction ofChars head generalizing b with
  | case1 => exact hk b
  | case2 c => exact walk_lit_cons.trans (hk (some c))
  | case3 c rest _ ih =>
    rw [walk, List.cons_append, walk_lit_cons]
    exact ih

/-- It is not walked through from another character than its first one. -/
theorem walk_lit_eq_none {s : String} {d : Char} (h : s.toList.head? = some c) (hd : d ≠ c) :
    walk (lit s) ⟨b, d :: cs⟩ groups k = none := by
  obtain ⟨rest, hs⟩ := List.head?_eq_some_iff.1 h
  rw [lit, hs]
  cases rest with
  | nil => exact walk_lit_of_ne hd
  | cons e rest =>
    rw [ofChars, walk]
    · exact walk_lit_of_ne hd
    · exact List.cons_ne_nil e rest

theorem walk_blank : walk blank ⟨b, ' ' :: cs⟩ groups k = k ⟨some ' ', cs⟩ groups :=
  walk_char_cons (show CharSet.blank.has ' ' = true by decide)

/-- A number is walked through up to a character that is no digit. -/
theorem walk_number {n : Nat} (hcs : ∀ c ∈ cs.head?, CharSet.digit.has c = false)
    (hk : ∀ b, k ⟨b, cs⟩ groups = some r) :
    walk digits ⟨b, Nat.toDigits 10 n ++ cs⟩ groups k = some r := by
  refine walk_run_greedy Nat.toDigits_ne_nil (fun c => CharSet.has_digit_of_mem_toDigits) hk ?_
  rintro b' more rest hmore hhas rfl
  obtain ⟨c, more, rfl⟩ := List.exists_cons_of_ne_nil hmore
  exact absurd (hhas c List.mem_cons_self) (by simp [hcs c rfl])

/-- A group holds the number that is walked through. -/
theorem walk_digits {n : Nat} (hcs : ∀ c ∈ cs.head?, CharSet.digit.has c = false)
    (hk : ∀ b, k ⟨b, cs⟩ ((index, Nat.toDigits 10 n) :: groups) = some r) :
    walk (.group index digits) ⟨b, Nat.toDigits 10 n ++ cs⟩ groups k = some r :=
  walk_group (fun _ hk => walk_number hcs hk) hk

theorem has_compl_single {d : Char} (h : d ≠ c) : (CharSet.compl (.single c)).has d = true := by
  have hsingle : (CharSet.single c).has d = false :=
    Bool.eq_false_iff.2 fun hd => h (has_single.1 hd)
  rw [CharSet.has, hsingle, Bool.not_false]

theorem has_text (h : '\n' ∉ cs) : ∀ d ∈ cs, (CharSet.compl (.single '\n')).has d = true :=
  fun _ hd => has_compl_single fun heq => h (heq ▸ hd)

/-- A path without colons and the line number behind it are taken as they are. -/
theorem walkAll_place {path : List Char} {n : Nat} {parts : List Regex} (hne : path ≠ [])
    (hcolon : ':' ∉ path) (hline : '\n' ∉ path) (hcs : ∀ c ∈ cs.head?, CharSet.digit.has c = false)
    (hk : ∀ b, walkAll parts ⟨b, cs⟩ ((2, Nat.toDigits 10 n) :: (1, path) :: groups) = some r) :
    walkAll (.group 1 (text false) :: .char (.single ':') :: .group 2 digits :: parts)
      ⟨b, path ++ ':' :: (Nat.toDigits 10 n ++ cs)⟩ groups = some r := by
  rw [walkAll_cons]
  refine walk_group_lazy hne (has_text hline) (fun b' => ?_) fun b' front back _ hback heq => ?_
  · rw [walkAll_cons, walk_lit_cons, walkAll_cons]
    exact walk_digits hcs hk
  · -- A shorter path is followed by a character of the path, which is no colon.
    obtain ⟨c, back, rfl⟩ := List.exists_cons_of_ne_nil hback
    rw [walkAll_cons]
    exact walk_lit_of_ne fun hc => hcolon (by simp [heq, hc])

theorem walkAll_textEnd :
    walkAll [.look .textEnd] ⟨b, cs⟩ groups = if cs = [] then some groups else none := by
  cases cs <;> simp [walkAll, seqs, walk, Anchor.holds]

/-- The last part of a form takes what is left of a line. -/
theorem walkAll_rest (hne : cs ≠ []) (hline : '\n' ∉ cs) :
    walkAll [.group index (text true), .look .textEnd] ⟨b, cs⟩ groups =
      some ((index, cs) :: groups) := by
  have hall : walk (.group index (text true)) ⟨b, cs ++ []⟩ groups
      (fun next groups => walkAll [.look .textEnd] next groups) = some ((index, cs) :: groups) :=
    walk_group_greedy hne (has_text hline) (fun _ => walkAll_textEnd)
      fun b' more rest hmore _ heq => absurd (List.append_eq_nil_iff.1 heq.symm).1 hmore
  rwa [List.append_nil] at hall

end Walk

/-- A text that begins with a character does not begin where this character does not stand. -/
theorem suffix_of_notMem {front rest : List Char} (hfront : c ∉ front)
    (h : c :: rest <:+ front ++ cs) : c :: rest <:+ cs := by
  induction front with
  | nil => exact h
  | cons d front ih =>
    obtain ⟨hd, hmore⟩ := not_or.1 (List.mem_cons.not.1 hfront)
    rcases List.suffix_cons_iff.1 h with heq | h
    · exact absurd (List.cons.inj heq).1 hd
    · exact ih hmore h

end LineFormat

/-! ## Outputs -/

/-- A line of an output: one that a finding is written on, or another one, which does not have the
form of a finding. -/
inductive OutputLine (form : Regex) (φ : Type) where
  | finding (x : φ)
  | other (line : String) (silent : form.captures? line = none)

namespace OutputLine

variable {form : Regex} {φ : Type}

/-- The text of a line, where `write` puts a finding on a line. -/
def text (write : φ → String) : OutputLine form φ → String
  | finding x => write x
  | other line _ => line

/-- The finding on a line. -/
def finding? : OutputLine form φ → Option φ
  | finding x => some x
  | other _ _ => none

/-- Each chunk of an output writes its lines. -/
def Output (write : φ → String) : List (List (OutputLine form φ)) → List String → Prop :=
  List.Forall₂ fun ls chunk => Text.Writes (ls.map fun l => (l.text write).toList) chunk.toList

end OutputLine

namespace LineFormat

variable {f : LineFormat} {φ : Type} {write : φ → String}

theorem lines_of_output {form : Regex} {groups : List (List (OutputLine form φ))}
    {chunks : List String} (h : OutputLine.Output write groups chunks) :
    chunks.flatMap Text.lines = groups.flatten.map (·.text write) := by
  induction h with
  | nil => rfl
  | @cons ls chunk groups chunks hwrites _ ih =>
    have hchunk : Text.lines chunk = ls.map (·.text write) := by
      rw [Text.lines, hwrites.linesOf_eq, List.map_map]
      exact List.map_congr_left fun _ _ => String.ofList_toList
    rw [List.flatMap_cons, List.flatten_cons, List.map_append, hchunk, ih]

/-- What the lines of findings make by themselves, an output makes of its findings in their order.
The other lines and the cuts between chunks change nothing. -/
theorem issuesOf_output {issue? : φ → Option Issue} (hread : ∀ x, f.issueOf? (write x) = issue? x)
    {groups : List (List (OutputLine f.form φ))} {chunks : List String}
    (h : OutputLine.Output write groups chunks) :
    f.issuesOf chunks = (groups.flatten.filterMap OutputLine.finding?).filterMap issue? := by
  rw [issuesOf, lines_of_output h, List.filterMap_map, List.filterMap_filterMap]
  refine List.filterMap_congr fun l _ => ?_
  cases l with
  | finding x => exact hread x
  | other line silent => simp [OutputLine.text, OutputLine.finding?, issueOf?, silent]

/-- Where each finding by itself is read as an issue, an output has the issues of its findings in
their order. -/
theorem issuesOf_written {issue : φ → Issue} (hread : ∀ x, f.issueOf? (write x) = some (issue x))
    {groups : List (List (OutputLine f.form φ))} {chunks : List String}
    (h : OutputLine.Output write groups chunks) :
    f.issuesOf chunks = (groups.flatten.filterMap OutputLine.finding?).map issue := by
  rw [issuesOf_output hread h]
  exact congrFun List.filterMap_eq_map' _

end LineFormat

end LintScan
