import LintScan.Proofs.Json.Written
import LintScan.Report.Document
import LintScan.Scan.Basic
import LintScan.Tool.JsonFindings

/-!
# What reports tell

The issues of a scan are written for a build server, one JSON object a line, and as one JSON
document. Whoever reads a report back has the issues again, whatever characters are in them, and
the counts of the summary agree with both.

* `Json.textAt?`, `Json.intAt?` — a reader of objects by the names of their members.
* `IssueRecord.ofJson?`, `Issue.ofReport?` — what the reader has of a line and of an entry of the
  document; `ofJson?_record` and `ofReport?_report` say that it is all that was written.
* `issues_eq_sum_tiers` — each issue is counted in one tier.
* `reports_read_back` — both reports and the counts together.
-/

namespace LintScan

/-! ## Reading objects -/

namespace Json

/-- The value of the first member with a name. -/
def member? (name : String) : Json → Option Json
  | object members => members.lookup name
  | _ => none

/-- The integer that a value is. -/
def int? : Json → Option Int
  | number text => match text.toList with
    | '-' :: ds => (naturalOf? ds).map fun n => -(n : Int)
    | ds => (naturalOf? ds).map Int.ofNat
  | _ => none

/-- The string that a member is. -/
def textAt? (name : String) (v : Json) : Option String := (v.member? name).bind JsonFinding.text?

/-- The integer that a member is. -/
def intAt? (name : String) (v : Json) : Option Int := (v.member? name).bind int?

theorem naturalOf?_toDigits (n : Nat) : naturalOf? (Nat.toDigits 10 n) = some n := by
  have hdigits : (Nat.toDigits 10 n).all Char.isDigit = true :=
    List.all_eq_true.2 (isDigit_toDigits n)
  have hvalue : (Nat.toDigits 10 n).foldl
      (fun (n : Nat) (d : Char) => n * 10 + (d.toNat - '0'.toNat)) 0 = n := by
    have h : Nat.ofDigitChars 10 (Nat.toDigits 10 n) 0 = n := Nat.ofDigitChars_ten_toDigits
    simpa only [Nat.ofDigitChars_eq_foldl, Nat.mul_comm] using h
  rw [naturalOf?, if_pos hdigits, hvalue]

/-- An integer is the one that was written. -/
theorem int?_int (n : Int) : int? (.int n) = some n := by
  have hvalue (m : Nat) := naturalOf?_toDigits m
  unfold int int?
  simp only [toList_toString]
  by_cases hn : 0 ≤ n
  · obtain ⟨c, ds, hds, hc⟩ := exists_toDigits_cons n.toNat
    have hminus : c ≠ '-' := by
      rintro rfl
      exact absurd hc (by decide)
    have hread := hvalue n.toNat
    rw [if_pos hn, hds]
    rw [hds] at hread
    simp [hminus, hread, Int.max_eq_left hn]
  · have hneg : 0 ≤ -n := by omega
    simp [hn, hvalue, Int.max_eq_left hneg]

theorem textAt?_object (name : String) (members : List (String × Json)) :
    textAt? name (.object members) = (members.lookup name).bind JsonFinding.text? := rfl

theorem intAt?_object (name : String) (members : List (String × Json)) :
    intAt? name (.object members) = (members.lookup name).bind int? := rfl

end Json

/-! ## Reading issues -/

/-- What a line for a build server tells of an issue. -/
structure IssueRecord where
  tool : String
  filename : String
  lineNumber : Int
  message : String
  tier : String
  issueType : String
  deriving Repr, DecidableEq

/-- What is to be told of an issue. -/
def Issue.told (i : Issue) : IssueRecord where
  tool := i.tool
  filename := i.filename
  lineNumber := i.lineNumber
  message := i.message
  tier := i.tier.name
  issueType := i.issueType

/-- The record of an object. -/
def IssueRecord.ofJson? (v : Json) : Option IssueRecord := do
  some {
    tool := ← v.textAt? "category"
    filename := ← v.textAt? "fileName"
    lineNumber := ← v.intAt? "lineStart"
    message := ← v.textAt? "message"
    tier := ← v.textAt? "severity"
    issueType := ← v.textAt? "type" }

/-- The issue of an entry of a document, which always tells a reference. -/
def Issue.ofReport? (v : Json) : Option Issue := do
  some {
    filename := ← v.textAt? "fileName"
    lineNumber := ← v.intAt? "lineNumber"
    tool := ← v.textAt? "tool"
    issueType := ← v.textAt? "type"
    severity := ← v.intAt? "severity"
    message := ← v.textAt? "message"
    certReference := some (← v.textAt? "certReference") }

/-- The issues of a document. -/
def Issue.ofDocument? (v : Json) : Option (List Issue) :=
  match v.member? "issues" with
  | some (.array items) => items.mapM Issue.ofReport?
  | _ => none

theorem IssueRecord.ofJson?_record (i : Issue) : ofJson? i.record = some i.told := by
  simp [ofJson?, Issue.record, Json.textAt?_object, Json.intAt?_object, List.lookup_cons,
    Json.int?_int, JsonFinding.text?, Issue.told]

/-- The issue with an empty reference in place of a missing one. -/
def Issue.withReference (i : Issue) : Issue :=
  { i with certReference := some (i.certReference.getD "") }

theorem Issue.ofReport?_report (i : Issue) : ofReport? i.report = some i.withReference := by
  simp [ofReport?, Issue.report, Json.textAt?_object, Json.intAt?_object, List.lookup_cons,
    Json.int?_int, JsonFinding.text?, Issue.withReference]

/-! ## Both reports -/

theorem Issue.integral_record (i : Issue) : i.record.Integral := by
  refine .object fun m hm => ?_
  simp only [List.mem_cons, List.not_mem_nil, or_false] at hm
  rcases hm with rfl | rfl | rfl | rfl | rfl | rfl
  all_goals first | exact .string _ | exact .int _

theorem Issue.integral_report (i : Issue) : i.report.Integral := by
  refine .object fun m hm => ?_
  simp only [List.mem_cons, List.not_mem_nil, or_false] at hm
  rcases hm with rfl | rfl | rfl | rfl | rfl | rfl | rfl
  all_goals first | exact .string _ | exact .int _

namespace IssueMap

variable (m : IssueMap)

theorem integral_document : m.document.Integral := by
  refine .object fun member hmember => ?_
  obtain rfl := List.mem_singleton.1 hmember
  refine .array fun v hv => ?_
  obtain ⟨i, _, rfl⟩ := List.mem_map.1 hv
  exact i.integral_report

/-- All issues stand in the order of the tools, and under each tool in the order of its list. -/
theorem all_eq_flatMap : m.all = m.entries.flatMap (·.2) ∧
    (m.entries.map (·.1)).Pairwise (· < ·) :=
  ⟨List.flatMap_def.symm, m.ascending⟩

/-- The lines for a build server, without their line feeds. -/
def lines : List String := m.all.map (·.record.write)

theorem recordLines_eq : m.recordLines = String.join (m.lines.map (· ++ "\n")) := by
  rw [recordLines, lines, List.map_map]
  rfl

theorem lineFeed_notMem_lines {l : String} (h : l ∈ m.lines) : '\n' ∉ l.toList := by
  obtain ⟨i, _, rfl⟩ := List.mem_map.1 h
  exact fun hmem => absurd (Json.le_of_mem_write i.integral_record _ hmem) (by decide)

/-- The lines tell all issues. -/
theorem read_lines :
    m.lines.mapM (fun l => (Json.read? l).bind IssueRecord.ofJson?) =
      some (m.all.map Issue.told) := by
  have hread : (fun l => (Json.read? l).bind IssueRecord.ofJson?) ∘
      (fun i : Issue => i.record.write) = fun i => pure i.told := by
    funext i
    rw [Function.comp_apply, Json.read?, Json.readFor?_write _ i.integral_record, Option.bind_some,
      IssueRecord.ofJson?_record, Option.pure_def]
  rw [lines, List.mapM_map, hread, List.mapM_pure, Option.pure_def]

/-- The document tells all issues. -/
theorem read_document :
    (Json.read? m.document.write).bind Issue.ofDocument? =
      some (m.all.map Issue.withReference) := by
  rw [Json.read?, Json.readFor?_write _ m.integral_document, Option.bind_some]
  have hdocument : Issue.ofDocument? m.document =
      (m.all.map Issue.report).mapM Issue.ofReport? := rfl
  have hread : Issue.ofReport? ∘ Issue.report = fun i => pure i.withReference :=
    funext Issue.ofReport?_report
  rw [hdocument, List.mapM_map, hread, List.mapM_pure, Option.pure_def]

end IssueMap

/-! ## Counts -/

/-- The number of issues in a tier. -/
def Summary.inTier (s : Summary) : SeverityTier → Nat
  | .low => s.low
  | .normal => s.normal
  | .high => s.high
  | .error => s.errors

theorem SeverityTier.name_inj {t u : SeverityTier} : t.name = u.name ↔ t = u := by
  cases t <;> cases u <;> decide

theorem Summary.inTier_ofIssues (m : IssueMap) (t : SeverityTier) :
    (ofIssues m).inTier t = m.all.countP (·.tier == t) := by
  cases t <;> rfl

/-- Each issue is counted in one tier. -/
theorem Summary.issues_eq_sum_tiers (m : IssueMap) :
    (ofIssues m).issues =
      (ofIssues m).low + (ofIssues m).normal + (ofIssues m).high + (ofIssues m).errors := by
  simp only [ofIssues]
  induction m.all with
  | nil => rfl
  | cons i issues ih =>
    simp only [List.countP_cons, List.length_cons]
    cases i.tier <;> simp <;> omega

/-- **What reports tell.** The lines for a build server are as many as there are issues, each
without a line feed but the one that ends it, and tell every issue in order; so does the document,
which tells all that there is of an issue but whether a reference is missing or empty. The summary
counts what both tell, and each of its tiers the lines of that tier. -/
theorem reports_read_back (r : ScanResult) :
    ∃ (lines : List String) (records : List IssueRecord) (reported : List Issue),
      r.issues.recordLines = String.join (lines.map (· ++ "\n")) ∧
      (∀ l ∈ lines, '\n' ∉ l.toList) ∧
      lines.mapM (fun l => (Json.read? l).bind IssueRecord.ofJson?) = some records ∧
      records = r.issues.all.map Issue.told ∧
      (Json.read? r.issues.document.write).bind Issue.ofDocument? = some reported ∧
      reported = r.issues.all.map Issue.withReference ∧
      lines.length = r.issueCount ∧
      reported.length = r.issueCount ∧
      (Summary.ofIssues r.issues).issues = r.issueCount ∧
      (let s := Summary.ofIssues r.issues
       s.issues = s.low + s.normal + s.high + s.errors) ∧
      ∀ t : SeverityTier,
        (Summary.ofIssues r.issues).inTier t = records.countP (·.tier = t.name) := by
  refine ⟨r.issues.lines, r.issues.all.map Issue.told, r.issues.all.map Issue.withReference,
    r.issues.recordLines_eq, fun l => r.issues.lineFeed_notMem_lines, r.issues.read_lines, rfl,
    r.issues.read_document, rfl, List.length_map _, List.length_map _, rfl,
    Summary.issues_eq_sum_tiers r.issues, fun t => ?_⟩
  rw [Summary.inTier_ofIssues, List.countP_map]
  refine List.countP_congr fun i _ => ?_
  simp [Issue.told, SeverityTier.name_inj]

end LintScan
