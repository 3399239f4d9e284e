import LintScan.Proofs.Exceptions.Filter

/-!
# Which tools are warned about

Two stages of a pass pass over the issues that are not reported for an absolute path, and each of
them asks for a warning at every such issue. What the pass keeps of its warnings is what stops the
second one.

* `FilterPass.Tells` — a piece of the log holds one warning for each tool that a pass has come to
  know in the meantime, and no other; the pieces of two stages make up one.
* `FilterPass.tells_warnAll`, `FilterPass.mem_warned_warnAll` — what a run of requests does.
* `Exceptions.tells_filterIssues`, `Exceptions.mem_warned_filterIssues` — what a whole pass does,
  whatever it knows before.
* `Exceptions.filterIssues_warns_once` — these for a new pass, and that it keeps the same issues as
  any other.
-/

namespace LintScan

/-- One of the issues of a tool is not reported for an absolute path. -/
def IssueMap.HasUnlocated (m : IssueMap) (tool : String) : Prop :=
  ∃ issues, m.get? tool = some issues ∧ ∃ i ∈ issues, i.isLocated = false

theorem IssueMap.mem_unlocatedTools {m : IssueMap} {tool : String} :
    tool ∈ m.unlocatedTools ↔ m.HasUnlocated tool := by
  unfold unlocatedTools HasUnlocated
  simp only [List.mem_flatMap, List.mem_map, List.mem_filter, SortedTable.get?_eq_some_iff,
    Bool.not_eq_true']
  constructor
  · rintro ⟨⟨_, issues⟩, he, i, hi, rfl⟩
    exact ⟨issues, he, i, hi⟩
  · rintro ⟨issues, he, i, hi⟩
    exact ⟨(tool, issues), he, i, hi, rfl⟩

theorem IssueMap.HasUnlocated.of_filterEach {m : IssueMap} {keep : String → Issue → Bool}
    {tool : String} (h : (m.filterEach keep).HasUnlocated tool) : m.HasUnlocated tool := by
  obtain ⟨kept, hkept, i, hi, hloc⟩ := h
  rw [get?_filterEach, Option.map_eq_some_iff] at hkept
  obtain ⟨issues, hissues, rfl⟩ := hkept
  exact ⟨issues, hissues, i, (List.mem_filter.1 hi).1, hloc⟩

namespace FilterPass

variable {pass pass' pass'' : FilterPass} {log log' : List LogEntry} {tool other : String}

/-! ## Warnings -/

theorem warningFor_inj (h : warningFor tool = warningFor other) : tool = other := by
  have htext := congrArg LogEntry.text h
  simpa only [warningFor, String.append_left_inj, String.append_right_inj] using htext

theorem warningFor_ne_of_head {e : LogEntry} (h : e.text.toList.head? = some 'I') :
    e ≠ warningFor tool := by
  rintro rfl
  simp [warningFor, String.toList_append] at h

theorem notMem_warnings (globs : List String) (tool : String) :
    warningFor tool ∉ FilePattern.warnings globs := by
  intro h
  obtain ⟨g, _, hg⟩ := List.mem_filterMap.1 h
  split at hg
  · cases hg
  · rename_i e _
    refine warningFor_ne_of_head ?_ (Option.some.inj hg)
    simp only [FilePattern.warning, String.toList_append]
    rfl

theorem notMem_messageRule (r : RegexRule) (m : IssueMap) (tool : String) :
    warningFor tool ∉ (messageRule r m).2 := by
  unfold messageRule
  split
  · rename_i e _
    simp only [List.mem_singleton]
    refine (warningFor_ne_of_head ?_).symm
    simp only [RegexRule.warning, String.toList_append]
    rfl
  · exact notMem_warnings _ tool

theorem notMem_messageStage (rules : List RegexRule) (m : IssueMap) (tool : String) :
    warningFor tool ∉ (messageStage rules m).2 := by
  induction rules generalizing m with
  | nil => exact List.not_mem_nil
  | cons r rules ih =>
    intro h
    rcases List.mem_append.1 h with h | h
    · exact notMem_messageRule r m tool h
    · exact ih _ h

/-! ## What a piece of the log tells -/

/-- Between two states of a pass no warning is forgotten, and the log holds one warning for each
tool that is new and none for any other. -/
structure Tells (pass pass' : FilterPass) (log : List LogEntry) : Prop where
  kept : pass.warned.keys ⊆ pass'.warned.keys
  told : ∀ tool, log.count (warningFor tool) =
    if tool ∈ pass'.warned.keys ∧ tool ∉ pass.warned.keys then 1 else 0

theorem Tells.of_silent (hsame : pass'.warned = pass.warned)
    (hsilent : ∀ tool, warningFor tool ∉ log) : Tells pass pass' log := by
  refine ⟨by rw [hsame]; exact List.Subset.refl _, fun tool => ?_⟩
  rw [List.count_eq_zero.2 (hsilent tool), hsame, if_neg fun h => h.2 h.1]

theorem Tells.append (h : Tells pass pass' log) (h' : Tells pass' pass'' log') :
    Tells pass pass'' (log ++ log') := by
  refine ⟨fun tool ht => h'.kept (h.kept ht), fun tool => ?_⟩
  have hkept := @h.kept tool
  have hkept' := @h'.kept tool
  rw [List.count_append, h.told, h'.told]
  by_cases hthen : tool ∈ pass'.warned.keys
  · simp [hthen, hkept' hthen]
  · have hbefore : tool ∉ pass.warned.keys := fun ht => hthen (hkept ht)
    simp [hthen, hbefore]

theorem mem_warned_warn :
    other ∈ (pass.warn tool).1.warned.keys ↔ other = tool ∨ other ∈ pass.warned.keys := by
  have hsome (t : String) : (pass.warned.get? t).isSome = true ↔ t ∈ pass.warned.keys := by
    rw [SortedTable.mem_keys_iff, Option.isSome_iff_exists]
  unfold warn
  split
  · rename_i hknown
    rw [hsome] at hknown
    exact ⟨.inr, fun h => h.elim (· ▸ hknown) id⟩
  · simp only [SortedTable.mem_keys_iff, SortedTable.get?_insert]
    by_cases h : other = tool <;> simp [h]

theorem tells_warn (pass : FilterPass) (tool : String) :
    Tells pass (pass.warn tool).1 (pass.warn tool).2 := by
  refine ⟨fun _ ht => mem_warned_warn.2 (.inr ht), fun other => ?_⟩
  simp only [mem_warned_warn]
  unfold warn
  split
  · rename_i hknown
    have hmem : tool ∈ pass.warned.keys :=
      SortedTable.mem_keys_iff.2 (Option.isSome_iff_exists.1 hknown)
    rw [List.count_nil, if_neg]
    rintro ⟨rfl | ht, hnew⟩
    · exact hnew hmem
    · exact hnew ht
  · rename_i hnew
    have hmem : tool ∉ pass.warned.keys := fun h =>
      hnew (Option.isSome_iff_exists.2 (SortedTable.mem_keys_iff.1 h))
    by_cases h : other = tool
    · subst h
      simp [hmem]
    · have hne : warningFor tool ≠ warningFor other := fun he => h (warningFor_inj he).symm
      simp [h, hne]

/-! ## Stages -/

theorem mem_warned_warnAll {tools : List String} :
    tool ∈ (pass.warnAll tools).1.warned.keys ↔ tool ∈ tools ∨ tool ∈ pass.warned.keys := by
  induction tools generalizing pass with
  | nil => simp [warnAll]
  | cons first tools ih =>
    have hstep : (pass.warnAll (first :: tools)).1 = ((pass.warn first).1.warnAll tools).1 := rfl
    rw [hstep, ih, mem_warned_warn, List.mem_cons, or_left_comm, or_assoc]

/-- However often a warning is asked for, it is given once. -/
theorem tells_warnAll (pass : FilterPass) (tools : List String) :
    Tells pass (pass.warnAll tools).1 (pass.warnAll tools).2 := by
  induction tools generalizing pass with
  | nil => exact .of_silent rfl fun _ => List.not_mem_nil
  | cons first tools ih => exact (tells_warn pass first).append (ih _)

theorem warned_foldl_learn (h : Host) (issues : List Issue) (pass : FilterPass) :
    (issues.foldl (fun pass i => pass.learn h i.filename) pass).warned = pass.warned := by
  induction issues generalizing pass with
  | nil => rfl
  | cons i issues ih =>
    rw [List.foldl_cons, ih]
    unfold learn
    split <;> rfl

theorem tells_fileStage (root : Path) (rules : List FileRule) (m : IssueMap) (pass : FilterPass) :
    Tells pass (fileStage root rules m pass).pass (fileStage root rules m pass).log := by
  refine Tells.append (.of_silent rfl fun tool h => ?_) (tells_warnAll pass m.unlocatedTools)
  obtain ⟨r, _, hr⟩ := List.mem_flatMap.1 h
  exact notMem_warnings r.globs tool hr

theorem mem_warned_fileStage {root : Path} {rules : List FileRule} {m : IssueMap} :
    tool ∈ (fileStage root rules m pass).pass.warned.keys ↔
      m.HasUnlocated tool ∨ tool ∈ pass.warned.keys := by
  rw [← IssueMap.mem_unlocatedTools]
  exact mem_warned_warnAll

theorem warned_markerStage (h : Host) (m : IssueMap) (pass : FilterPass) :
    (markerStage h m pass).pass.warned = (pass.warnAll m.unlocatedTools).1.warned :=
  warned_foldl_learn h _ _

theorem tells_markerStage (h : Host) (m : IssueMap) (pass : FilterPass) :
    Tells pass (markerStage h m pass).pass (markerStage h m pass).log := by
  obtain ⟨hkept, htold⟩ := tells_warnAll pass m.unlocatedTools
  exact ⟨by rw [warned_markerStage]; exact hkept, by rw [warned_markerStage]; exact htold⟩

theorem mem_warned_markerStage {h : Host} {m : IssueMap} :
    tool ∈ (markerStage h m pass).pass.warned.keys ↔
      m.HasUnlocated tool ∨ tool ∈ pass.warned.keys := by
  rw [warned_markerStage, ← IssueMap.mem_unlocatedTools]
  exact mem_warned_warnAll

end FilterPass

/-! ## A whole pass -/

namespace Exceptions

open FilterPass

variable {x : Exceptions} {h : Host} {package : String} {root : Path} {m : IssueMap}
  {pass : FilterPass} {tool : String}

theorem tells_fileStep (root : Path) (rules : List FileRule) (m : IssueMap) (pass : FilterPass) :
    Tells pass (fileStep root rules m pass).pass (fileStep root rules m pass).log := by
  unfold fileStep
  split
  · exact .of_silent rfl fun _ => List.not_mem_nil
  · exact tells_fileStage root rules m pass

theorem notMem_messageStep (rules : List RegexRule) (m : IssueMap) (tool : String) :
    warningFor tool ∉ (messageStep rules m).2 := by
  unfold messageStep
  split
  · exact List.not_mem_nil
  · exact notMem_messageStage rules m tool

/-- The three stages of a pass, one after the other. -/
theorem filterIssues_eq_steps (x : Exceptions) (h : Host) (package : String) (root : Path)
    (m : IssueMap) (pass : FilterPass) :
    x.filterIssues h package root m pass =
      let first := fileStep root (x.rulesFor package).file m pass
      let second := messageStep (x.rulesFor package).messageRegex first.issues
      let last := markerStage h second.1 first.pass
      { last with log := first.log ++ second.2 ++ last.log } := rfl

/-- A pass warns once about each tool that it has come to know, whatever it knew before. -/
theorem tells_filterIssues (x : Exceptions) (h : Host) (package : String) (root : Path)
    (m : IssueMap) (pass : FilterPass) :
    Tells pass (x.filterIssues h package root m pass).pass
      (x.filterIssues h package root m pass).log := by
  rw [filterIssues_eq_steps]
  refine Tells.append (Tells.append (tells_fileStep root _ m pass) ?_) (tells_markerStage h _ _)
  exact .of_silent rfl (notMem_messageStep _ _)

/-- With a file rule, the first stage comes to know every tool that the last one could. -/
theorem mem_warned_filterIssues_of_rule (hrule : ∃ r, x.HasFileRule package r) :
    tool ∈ (x.filterIssues h package root m pass).pass.warned.keys ↔
      m.HasUnlocated tool ∨ tool ∈ pass.warned.keys := by
  obtain ⟨r, hr⟩ := hrule
  have hrules : (x.rulesFor package).file.isEmpty = false := by
    rw [List.isEmpty_eq_false_iff]
    exact List.ne_nil_of_mem (mem_file_rulesFor.2 hr)
  have hfirst : fileStep root (x.rulesFor package).file m pass =
      fileStage root (x.rulesFor package).file m pass := by
    rw [fileStep, hrules]
    rfl
  rw [filterIssues_eq_steps]
  simp only [mem_warned_markerStage, hfirst, mem_warned_fileStage]
  constructor
  · rintro (hlast | hknown)
    · rw [issues_messageStep, issues_fileStage] at hlast
      exact .inl hlast.of_filterEach.of_filterEach
    · exact hknown
  · exact .inr

/-- Without a file rule, only the last stage comes to know tools. -/
theorem mem_warned_filterIssues_of_no_rule (hrule : ¬ ∃ r, x.HasFileRule package r) :
    tool ∈ (x.filterIssues h package root m pass).pass.warned.keys ↔
      (messageStage (x.rulesFor package).messageRegex m).1.HasUnlocated tool ∨
        tool ∈ pass.warned.keys := by
  have hrules : (x.rulesFor package).file = [] := by
    rw [List.eq_nil_iff_forall_not_mem]
    exact fun r hr => hrule ⟨r, mem_file_rulesFor.1 hr⟩
  rw [filterIssues_eq_steps]
  simp only [mem_warned_markerStage, hrules, fileStep, List.isEmpty_nil, if_true,
    issues_messageStep, issues_messageStage]

/-- **One warning for each tool.** In a new pass the log holds exactly one warning for each tool
that the pass has warned about, and none for any other. With a file rule for the package, these are
the tools with an issue that is not reported for an absolute path; without one, those that still
have such an issue behind the message rules. Any other pass keeps the same issues, as long as what
it remembers of the files is what is in them. -/
theorem filterIssues_warns_once (x : Exceptions) (h : Host) (package : String) (root : Path)
    (m : IssueMap) :
    (∀ tool, (x.filterIssues h package root m {}).log.count (warningFor tool) =
      if tool ∈ (x.filterIssues h package root m {}).pass.warned.keys then 1 else 0) ∧
    ((∃ r, x.HasFileRule package r) → ∀ tool,
      tool ∈ (x.filterIssues h package root m {}).pass.warned.keys ↔ m.HasUnlocated tool) ∧
    ((¬ ∃ r, x.HasFileRule package r) → ∀ tool,
      tool ∈ (x.filterIssues h package root m {}).pass.warned.keys ↔
        (messageStage (x.rulesFor package).messageRegex m).1.HasUnlocated tool) ∧
    ∀ pass : FilterPass, pass.Remembers h →
      (x.filterIssues h package root m pass).issues =
        (x.filterIssues h package root m {}).issues := by
  have hnew : ∀ tool, tool ∉ ({} : FilterPass).warned.keys := fun _ => List.not_mem_nil
  refine ⟨fun tool => ?_, fun hrule tool => ?_, fun hrule tool => ?_, fun pass hp => ?_⟩
  · rw [(tells_filterIssues x h package root m {}).told]
    simp only [hnew, not_false_eq_true, and_true]
  · rw [mem_warned_filterIssues_of_rule hrule, or_iff_left (hnew tool)]
  · rw [mem_warned_filterIssues_of_no_rule hrule, or_iff_left (hnew tool)]
  · rw [issues_filterIssues_eq hp, issues_filterIssues_eq (remembers_empty h)]

end Exceptions

end LintScan
