import LintScan.Proofs.Json.Written
import LintScan.Report.Console
import Mathlib.Algebra.GroupWithZero.Nat
import Mathlib.Data.List.Forall2

/-!
# What the console report shows

The report has a block of lines for each tool and a footer. In colour it holds the same texts, with
style sequences among them.

* `ShowsEach` — a list that holds each issue of another one once, in the order of their first
  occurrences; `showsEach_distinct` — the issues that are shown of a tool are such a list.
* `Style.removed` — a text without the style sequences in it.
* `Style.ReadsAs` — a text that, in front of any other one, reads as a given text once the styles
  are removed; what is put together of such texts is such a text (`append`, `bold`, `paint`).
* `consoleLines_show_each_once` — the lines of the plain report, and those of the coloured one
  without their styles.
-/

namespace LintScan

/-! ## Issues that are shown -/

/-- A list holds the issues of another one, each once, in the order of their first occurrences. -/
structure ShowsEach (issues shown : List Issue) : Prop where
  nodup : shown.Nodup
  mem_iff : ∀ i, i ∈ shown ↔ i ∈ issues
  ordered : shown.Pairwise fun a b => issues.idxOf a < issues.idxOf b

/-- In such an order no issue stands twice. -/
theorem ShowsEach.of_ordered {issues shown : List Issue} (mem_iff : ∀ i, i ∈ shown ↔ i ∈ issues)
    (ordered : shown.Pairwise fun a b => issues.idxOf a < issues.idxOf b) :
    ShowsEach issues shown := by
  refine ⟨ordered.imp fun hab heq => ?_, mem_iff, ordered⟩
  rw [heq] at hab
  exact Nat.lt_irrefl _ hab

namespace IssueMap

/-- A repetition is passed over, and an issue that is new goes to the end. -/
theorem distinct_concat (issues : List Issue) (i : Issue) :
    distinct (issues ++ [i]) =
      if i ∈ distinct issues then distinct issues else distinct issues ++ [i] := by
  unfold distinct
  rw [List.foldl_concat]
  simp only [List.mem_reverse]
  split
  · rfl
  · rw [List.reverse_cons]

theorem showsEach_distinct (issues : List Issue) : ShowsEach issues (distinct issues) := by
  -- From the front, as the list is gone through.
  induction hlength : issues.length generalizing issues with
  | zero =>
    obtain rfl := List.length_eq_zero_iff.1 hlength
    exact .of_ordered (fun i => Iff.rfl) .nil
  | succ n ih =>
    rcases List.eq_nil_or_concat issues with rfl | ⟨front, i, rfl⟩
    · cases hlength
    · rw [List.concat_eq_append] at hlength ⊢
      have hshown := ih front (by simpa using hlength)
      have hkept : (distinct front).Pairwise fun a b =>
          (front ++ [i]).idxOf a < (front ++ [i]).idxOf b := by
        refine hshown.ordered.imp_of_mem fun ha hb hab => ?_
        rwa [List.idxOf_append_of_mem ((hshown.mem_iff _).1 ha),
          List.idxOf_append_of_mem ((hshown.mem_iff _).1 hb)]
      rw [distinct_concat]
      split
      · rename_i hi
        refine .of_ordered (fun j => ?_) hkept
        rw [hshown.mem_iff, List.mem_append, List.mem_singleton]
        refine ⟨.inl, ?_⟩
        rintro (hj | rfl)
        · exact hj
        · exact (hshown.mem_iff j).1 hi
      · rename_i hi
        have hnew : i ∉ front := fun h => hi ((hshown.mem_iff i).2 h)
        refine .of_ordered (fun j => ?_)
          (List.pairwise_append.2 ⟨hkept, List.pairwise_singleton _ i, ?_⟩)
        · rw [List.mem_append, List.mem_append, hshown.mem_iff]
        · intro a ha b hb
          have ha := (hshown.mem_iff a).1 ha
          have hlt := List.idxOf_lt_length_of_mem ha
          rw [List.mem_singleton.1 hb, List.idxOf_append_of_mem ha, List.idxOf_append,
            if_neg hnew]
          omega

end IssueMap

/-! ## Styles -/

namespace Style

/-- What stands behind the parameters of a style sequence and its end. -/
def afterParameters? : List Char → Option (List Char)
  | [] => none
  | c :: cs =>
    if c = 'm' then some cs
    else if c.isDigit || c = ';' then afterParameters? cs
    else none

/-- What stands behind a style sequence that a text begins with. -/
def afterSequence? : List Char → Option (List Char)
  | '\x1b' :: '[' :: cs => afterParameters? cs
  | _ => none

theorem length_afterParameters? {cs rest : List Char} (h : afterParameters? cs = some rest) :
    rest.length < cs.length := by
  induction cs with
  | nil => cases h
  | cons c cs ih =>
    unfold afterParameters? at h
    split at h
    · cases h
      simp
    · split at h
      · have hlt := ih h
        simp only [List.length_cons]
        omega
      · cases h

theorem length_afterSequence? {cs rest : List Char} (h : afterSequence? cs = some rest) :
    rest.length < cs.length := by
  unfold afterSequence? at h
  split at h
  · have hlt := length_afterParameters? h
    simp only [List.length_cons]
    omega
  · cases h

/-- The characters of a text that do not belong to style sequences. -/
def unstyled (cs : List Char) : List Char :=
  match _sequence : afterSequence? cs with
  | some rest => unstyled rest
  | none =>
    match cs with
    | [] => []
    | c :: cs => c :: unstyled cs
termination_by cs.length
decreasing_by
  · exact length_afterSequence? _sequence
  · simp

/-- A text without the style sequences in it. -/
def removed (s : String) : String := String.ofList (unstyled s.toList)

theorem unstyled_nil : unstyled [] = [] := by
  rw [unstyled]
  rfl

theorem unstyled_of_sequence {cs rest : List Char} (h : afterSequence? cs = some rest) :
    unstyled cs = unstyled rest := by
  rw [unstyled]
  split
  · rename_i heq
    rw [h] at heq
    cases heq
    rfl
  · rename_i heq
    rw [h] at heq
    cases heq

theorem unstyled_cons {c : Char} (hc : c ≠ '\x1b') (cs : List Char) :
    unstyled (c :: cs) = c :: unstyled cs := by
  have hnone : afterSequence? (c :: cs) = none := by
    unfold afterSequence?
    split
    · rename_i heq
      exact absurd (List.cons.inj heq).1 hc
    · rfl
  rw [unstyled]
  split
  · rename_i heq
    rw [hnone] at heq
    cases heq
  · rfl

theorem afterParameters?_digits {digits : List Char} (h : ∀ c ∈ digits, c.isDigit = true)
    (rest : List Char) : afterParameters? (digits ++ 'm' :: rest) = some rest := by
  induction digits with
  | nil => rfl
  | cons c digits ih =>
    obtain ⟨hc, hdigits⟩ := List.forall_mem_cons.1 h
    have hm : c ≠ 'm' := by
      rintro rfl
      exact absurd hc (by decide)
    rw [List.cons_append, afterParameters?, if_neg hm, hc, Bool.true_or, if_pos rfl]
    exact ih hdigits

/-- In front of any other text, a text is read as a plain one once the styles are removed. -/
def ReadsAs (styled plain : String) : Prop :=
  ∀ rest : List Char, unstyled (styled.toList ++ rest) = plain.toList ++ unstyled rest

namespace ReadsAs

variable {styled plain s t : String}

theorem removed_eq (h : ReadsAs styled plain) : removed styled = plain := by
  have hall := h []
  rw [List.append_nil, unstyled_nil, List.append_nil] at hall
  rw [removed, hall, String.ofList_toList]

/-- A text without escapes is read as it is. -/
theorem of_unescaped (h : '\x1b' ∉ s.toList) : ReadsAs s s := by
  intro rest
  generalize s.toList = cs at h ⊢
  induction cs with
  | nil => rfl
  | cons c cs ih =>
    obtain ⟨hc, hcs⟩ := not_or.1 (List.mem_cons.not.1 h)
    rw [List.cons_append, unstyled_cons (Ne.symm hc), ih hcs, List.cons_append]

theorem append (h : ReadsAs styled plain) (hmore : ReadsAs s t) :
    ReadsAs (styled ++ s) (plain ++ t) := by
  intro rest
  rw [String.toList_append, String.toList_append, List.append_assoc, h, hmore, List.append_assoc]

theorem control {code : String} (h : code.toList.all Char.isDigit = true) :
    ReadsAs (control code) "" := by
  intro rest
  have hsequence : afterSequence? ((Style.control code).toList ++ rest) = some rest := by
    have htext : (Style.control code).toList ++ rest =
        '\x1b' :: '[' :: (code.toList ++ 'm' :: rest) := by
      simp [Style.control]
    rw [htext, afterSequence?]
    exact afterParameters?_digits (List.all_eq_true.1 h) rest
  rw [unstyled_of_sequence hsequence]
  rfl

/-- A text between two style sequences is read as the text. -/
theorem between {on off : String} (hon : on.toList.all Char.isDigit = true)
    (hoff : off.toList.all Char.isDigit = true) (h : ReadsAs styled plain) :
    ReadsAs (Style.control on ++ styled ++ Style.control off) plain := by
  have hall := ((control hon).append h).append (control hoff)
  rwa [String.empty_append, String.append_empty] at hall

theorem bold (h : ReadsAs styled plain) : ReadsAs (bold true styled) (bold false plain) :=
  between (by decide) (by decide) h

theorem paint (h : ReadsAs styled plain) (c : Color) :
    ReadsAs (c.paint true styled) (c.paint false plain) := by
  have hcode : c.code.toList.all Char.isDigit = true := by cases c <;> decide
  exact between hcode (by decide) h

end ReadsAs

end Style

/-! ## Lines -/

open Style

theorem unescaped_toString (n : Int) : '\x1b' ∉ (toString n).toList := by
  have hdigits (m : Nat) : '\x1b' ∉ Nat.toDigits 10 m := fun h =>
    absurd (Json.isDigit_toDigits m _ h) (by decide)
  rw [Json.toList_toString]
  split
  · exact hdigits _
  · simp [hdigits]

/-- No text of an issue holds an escape. -/
def Issue.Unescaped (i : Issue) : Prop :=
  ∀ s ∈ [i.filename, i.tool, i.issueType, i.message, i.certReference.getD ""], '\x1b' ∉ s.toList

/-- The line that the plain report has for an issue. -/
def Issue.entryLine (i : Issue) : String :=
  "  " ++ i.filename ++ ":" ++ toString i.lineNumber ++ ": " ++ i.tool ++ ":" ++ i.issueType ++ ": "
    ++ i.message ++ (match i.certReference with | some r => " (" ++ r ++ ")" | none => "")
    ++ " [" ++ toString i.severity ++ "]"

theorem Issue.entryLine_eq (i : Issue) : "  " ++ i.consoleLine false = i.entryLine := by
  rw [← String.toList_inj]
  unfold Issue.consoleLine Issue.entryLine
  cases i.tier <;> cases i.certReference <;> simp [SeverityTier.paint, Style.bold, Color.paint]

/-- In colour, a severity reads as in the plain report. -/
theorem SeverityTier.readsAs_paint (tier : SeverityTier) {s : String} (h : '\x1b' ∉ s.toList) :
    ReadsAs (tier.paint true s) (tier.paint false s) := by
  have hs : ReadsAs s s := .of_unescaped h
  cases tier with
  | error => exact (hs.paint .red).bold
  | high => exact (hs.paint .yellow).bold
  | normal => exact hs.paint .blue
  | low => exact hs.paint .gray

/-- In colour, the line of an issue reads as in the plain report. -/
theorem Issue.readsAs_consoleLine {i : Issue} (h : i.Unescaped) :
    ReadsAs (i.consoleLine true) (i.consoleLine false) := by
  have hreference : '\x1b' ∉
      (match i.certReference with | some r => " (" ++ r ++ ")" | none => "").toList := by
    have hfield := h (i.certReference.getD "") (by simp)
    cases hr : i.certReference with
    | none => simp
    | some r =>
      rw [hr] at hfield
      simpa using hfield
  have hlocation : '\x1b' ∉ (i.filename ++ ":" ++ toString i.lineNumber).toList := by
    simpa [h i.filename (by simp)] using unescaped_toString i.lineNumber
  have hseverity : '\x1b' ∉ ("[" ++ toString i.severity ++ "]").toList := by
    simpa using unescaped_toString i.severity
  have hcolon : ReadsAs ": " ": " := .of_unescaped (by decide)
  have hjoint : ReadsAs ":" ":" := .of_unescaped (by decide)
  have hspace : ReadsAs " " " " := .of_unescaped (by decide)
  have htool : ReadsAs i.tool i.tool := .of_unescaped (h i.tool (by simp))
  have htype : ReadsAs i.issueType i.issueType := .of_unescaped (h i.issueType (by simp))
  have hmessage : ReadsAs i.message i.message := .of_unescaped (h i.message (by simp))
  have hfront := (ReadsAs.of_unescaped hlocation).bold
  have hkind := (((hfront.append hcolon).append htool).append hjoint).append htype
  have htext := ((hkind.append hcolon).append hmessage).append (.of_unescaped hreference)
  exact (htext.append hspace).append (i.tier.readsAs_paint hseverity)

namespace IssueMap

/-- The line above the issues of a tool. -/
def headerLine (tool : String) (n : Nat) : String :=
  "Tool " ++ tool ++ ": " ++ toString n ++ " unique issues"

/-- The last line of the report. -/
def footerLine (n : Nat) : String := toString n ++ " total unique issues"

theorem unescaped_toString_nat (n : Nat) : '\x1b' ∉ (toString n).toList := by
  have h := unescaped_toString (n : Int)
  rwa [Int.toString_eq_repr, Int.repr_eq_if, if_pos (Int.natCast_nonneg n)] at h

theorem removed_toolLines {tool : String} {issues : List Issue} (htool : '\x1b' ∉ tool.toList)
    (hissues : ∀ i ∈ issues, i.Unescaped) :
    (toolLines true tool issues).map removed = toolLines false tool issues := by
  have hheader : '\x1b' ∉ ("Tool " ++ tool ++ ": " ++ toString (distinct issues).length
      ++ " unique issues").toList := by
    simpa [htool] using unescaped_toString_nat (distinct issues).length
  have hindent : ReadsAs "  " "  " := .of_unescaped (by decide)
  unfold toolLines
  simp only [List.map_cons, List.map_map]
  congr 1
  · exact (ReadsAs.of_unescaped hheader).bold.removed_eq
  · refine List.map_congr_left fun i hi => ?_
    have hi := hissues i (((showsEach_distinct issues).mem_iff i).1 hi)
    exact (hindent.append (Issue.readsAs_consoleLine hi)).removed_eq

/-- **What the console report shows.** The plain report has for each tool, in the order of their
names, a header with the number of its distinct issues and a line for each of these, in the order of
their first occurrences, and at its end a footer with the sum of these numbers. If no text in the
map holds an escape, the coloured report without its styles is the plain one. -/
theorem consoleLines_show_each_once (m : IssueMap) :
    (∃ shown : List (String × List Issue),
      (shown.map (·.1)).Pairwise (· < ·) ∧
      List.Forall₂ (fun e s => s.1 = e.1 ∧ ShowsEach e.2 s.2) m.entries shown ∧
      m.consoleLines false =
        shown.flatMap (fun s => headerLine s.1 s.2.length :: s.2.map Issue.entryLine)
          ++ [footerLine (shown.map (·.2.length)).sum]) ∧
    ((∀ tool ∈ m.keys, '\x1b' ∉ tool.toList) → (∀ i ∈ m.all, i.Unescaped) →
      (m.consoleLines true).map removed = m.consoleLines false) := by
  constructor
  · refine ⟨m.entries.map fun e => (e.1, distinct e.2), ?_, ?_, ?_⟩
    · rw [List.map_map]
      exact m.ascending
    · rw [List.forall₂_map_right_iff, List.forall₂_same]
      exact fun e _ => ⟨rfl, showsEach_distinct e.2⟩
    · have hlines (e : String × List Issue) : toolLines false e.1 e.2 =
          headerLine e.1 (distinct e.2).length :: (distinct e.2).map Issue.entryLine := by
        unfold toolLines
        simp only [Issue.entryLine_eq]
        rfl
      have hcount : m.shownCount = (m.entries.map fun e => (distinct e.2).length).sum := by
        rw [shownCount, SortedTable.values, List.map_map]
        rfl
      rw [consoleLines, hcount, List.flatMap_map, List.map_map]
      simp only [hlines]
      rfl
  · intro hkeys hissues
    have hfooter : '\x1b' ∉ (toString m.shownCount ++ " total unique issues").toList := by
      simpa using unescaped_toString_nat m.shownCount
    rw [consoleLines, consoleLines, List.map_append, List.map_flatMap]
    congr 1
    · refine List.flatMap_congr fun e he => removed_toolLines ?_ fun i hi => ?_
      · exact hkeys e.1 (List.mem_map_of_mem he)
      · exact hissues i (List.mem_flatten.2 ⟨e.2, List.mem_map_of_mem he, hi⟩)
    · exact congrArg (fun line => [line]) (ReadsAs.of_unescaped hfooter).bold.removed_eq

/-- An issue that is as grave as can be. -/
def graveIssue : Issue where
  filename := "/src/a.py"
  lineNumber := 3
  tool := "pylint"
  issueType := "W0612"
  severity := 5
  message := "Unused variable"
  certReference := some "EXP12-C"

/-- The same issue twice, in colour. -/
theorem consoleLines_show_each_once_twice :
    (consoleLines true (.ofList [("pylint", [graveIssue, graveIssue])])).map removed =
      ["Tool pylint: 1 unique issues",
        "  /src/a.py:3: pylint:W0612: Unused variable (EXP12-C) [5]", "1 total unique issues"] := by
  rw [(consoleLines_show_each_once _).2 (by decide) ?_]
  · decide +kernel
  · have hall : all (.ofList [("pylint", [graveIssue, graveIssue])]) = [graveIssue, graveIssue] :=
      rfl
    have hgrave : graveIssue.Unescaped := by
      unfold Issue.Unescaped
      decide
    simp [hall, hgrave]

end IssueMap

end LintScan
