import LintScan.Table.Sorted

/-!
# Issues

* `Issue` — one finding of a tool. Two findings with the same fields are the same issue.
* `SeverityTier` — the four buckets that reports sort severities into.
* `IssueMap` — the issues of each tool that ran; a tool without issues has an empty list, a tool
  that failed is absent.
* `filterEach_filterEach`, `filterEach_congr` — what two choices of issues amount to, and when they
  are the same.
* `Summary` — how many tools and issues there are, and how many issues in each tier.
-/

namespace LintScan

/-- A finding of a tool. -/
structure Issue where
  filename : String
  lineNumber : Int
  tool : String
  issueType : String
  severity : Int
  message : String
  certReference : Option String
  deriving Repr, DecidableEq

/-- A bucket of severities. -/
inductive SeverityTier where
  | low
  | normal
  | high
  | error
  deriving Repr, DecidableEq

namespace SeverityTier

/-- The bucket of a severity: up to zero low, up to two normal, up to four high. -/
def ofSeverity (severity : Int) : SeverityTier :=
  if severity > 4 then error
  else if severity > 2 then high
  else if severity > 0 then normal
  else low

/-- The name of a tier in reports. -/
def name : SeverityTier → String
  | low => "LOW"
  | normal => "NORMAL"
  | high => "HIGH"
  | error => "ERROR"

end SeverityTier

/-- The tier of an issue. -/
def Issue.tier (i : Issue) : SeverityTier := .ofSeverity i.severity

/-- The issues of each tool. -/
abbrev IssueMap := SortedTable String (List Issue)

namespace IssueMap

/-- All issues, in the order of the tools. -/
def all (m : IssueMap) : List Issue := m.values.flatten

theorem mem_all_iff {m : IssueMap} {i : Issue} :
    i ∈ m.all ↔ ∃ tool issues, m.get? tool = some issues ∧ i ∈ issues := by
  simp only [all, SortedTable.values, List.mem_flatten, List.mem_map, SortedTable.get?_eq_some_iff]
  constructor
  · rintro ⟨_, ⟨⟨tool, issues⟩, he, rfl⟩, hi⟩
    exact ⟨tool, issues, he, hi⟩
  · rintro ⟨tool, issues, he, hi⟩
    exact ⟨issues, ⟨(tool, issues), he, rfl⟩, hi⟩

/-- The map that keeps of each tool's issues those that `keep` accepts. -/
def filterEach (m : IssueMap) (keep : String → Issue → Bool) : IssueMap :=
  m.map fun tool issues => issues.filter (keep tool)

theorem keys_filterEach (m : IssueMap) (keep : String → Issue → Bool) :
    (m.filterEach keep).keys = m.keys :=
  SortedTable.keys_map _ m

theorem get?_filterEach (m : IssueMap) (keep : String → Issue → Bool) (tool : String) :
    (m.filterEach keep).get? tool = (m.get? tool).map (·.filter (keep tool)) :=
  SortedTable.get?_map _ m tool

theorem mem_all_of_filterEach {m : IssueMap} {keep : String → Issue → Bool} {i : Issue}
    (h : i ∈ (m.filterEach keep).all) : i ∈ m.all := by
  obtain ⟨tool, issues, hissues, hi⟩ := mem_all_iff.1 h
  rw [get?_filterEach] at hissues
  obtain ⟨old, hold, rfl⟩ := Option.map_eq_some_iff.1 hissues
  exact mem_all_iff.2 ⟨tool, old, hold, (List.mem_filter.1 hi).1⟩

theorem filterEach_congr {m : IssueMap} {p q : String → Issue → Bool}
    (h : ∀ tool, ∀ i ∈ m.all, p tool i = q tool i) : m.filterEach p = m.filterEach q := by
  apply SortedTable.ext_entries
  apply List.map_congr_left
  rintro ⟨tool, issues⟩ he
  have hmem : ∀ i ∈ issues, i ∈ m.all := by
    intro i hi
    exact List.mem_flatten.2 ⟨issues, List.mem_map.2 ⟨(tool, issues), he, rfl⟩, hi⟩
  exact congrArg (Prod.mk tool) (List.filter_congr fun i hi => h tool i (hmem i hi))

theorem filterEach_filterEach (m : IssueMap) (p q : String → Issue → Bool) :
    (m.filterEach p).filterEach q = m.filterEach fun tool i => p tool i && q tool i := by
  apply SortedTable.ext_entries
  simp [filterEach, SortedTable.map, List.filter_filter, Bool.and_comm]

theorem filterEach_true (m : IssueMap) : (m.filterEach fun _ _ => true) = m := by
  apply SortedTable.ext_entries
  apply (List.map_congr_left _).trans (List.map_id m.entries)
  rintro ⟨tool, issues⟩ _
  exact congrArg (Prod.mk tool) (List.filter_eq_self.2 fun _ _ => rfl)

/-- The issues of a list without later repetitions. -/
def distinct (issues : List Issue) : List Issue :=
  (issues.foldl (fun seen i => if i ∈ seen then seen else i :: seen) []).reverse

end IssueMap

/-- How many tools and issues there are. -/
structure Summary where
  tools : Nat
  issues : Nat
  low : Nat
  normal : Nat
  high : Nat
  errors : Nat
  deriving Repr, DecidableEq

/-- The counts of a map. -/
def Summary.ofIssues (m : IssueMap) : Summary :=
  let count (t : SeverityTier) : Nat := m.all.countP (·.tier == t)
  { tools := m.size, issues := m.all.length, low := count .low, normal := count .normal,
    high := count .high, errors := count .error }

end LintScan
