import LintScan.Proofs.Schedule.Closure
import LintScan.Proofs.Session
import LintScan.Scan.Run

/-!
# The tools of a scan

The stage of the tools goes through a list of names and keeps a tally.  This file says which tools
it runs and what the tally is in the end:

* `RunsTools` — tools run one after the other, each from the state that the one before has left,
  with what comes of each; told without the stage itself.
* `exists_runsTools` — the stage is such a run of the tools in its list, if they are registered, and
  cannot fail then; `get?_addAll`, `success_addAll` say what is tallied.
* `toolOrder_ordered` — all tools in the list are registered, and each stands behind what it needs.
* `runTools_runs_forced_with_needs` — which tools of a level run, and in which order.
-/

namespace LintScan

open Relation

/-! ## Lookups -/

theorem mapError_eq_ok_iff {ε δ α : Type} {x : Except ε α} {f : ε → δ} {a : α} :
    x.mapError f = .ok a ↔ x = .ok a := by
  cases x with
  | error e => simp [Except.mapError]
  | ok a => simp [Except.mapError]

namespace Registry

theorem get?_toolDependencies (g : Registry) (name : String) :
    g.toolDependencies.get? name = (g.tool.get? name).map (·.dependencies) :=
  SortedTable.get?_map _ g.tool name

theorem exists_tool_of_known {g : Registry} {name : String}
    (h : (g.toolDependencies.get? name).isSome = true) : ∃ t, g.tool.get? name = some t := by
  rw [get?_toolDependencies, Option.isSome_map] at h
  exact Option.isSome_iff_exists.1 h

end Registry

namespace Runner

variable {r : Runner} {p : Package} {level : String}

/-! ## The list of tools -/

/-- The tools that are kept of an order: all of them, or those that are forced with what they
need. -/
def keptTools (r : Runner) (order : List String) : List String :=
  match r.context.settings.forceToolList with
  | none => order
  | some forced =>
    order.filter fun name => (r.registry.toolDependencies.closure forced).contains name

theorem toolOrder_eq (r : Runner) (level : String) :
    r.toolOrder level =
      (r.context.config.enabledPlugins level .tool).mapError .config >>= fun enabled =>
        (r.registry.toolDependencies.order false enabled).mapError (.order .tool) >>= fun order =>
          .ok (r.keptTools order) := by
  unfold toolOrder keptTools
  cases r.context.settings.forceToolList <;> rfl

theorem toolOrder_eq_ok_iff {names : List String} :
    r.toolOrder level = .ok names ↔
      ∃ enabled order, r.context.config.enabledPlugins level .tool = .ok enabled ∧
        r.registry.toolDependencies.order false enabled = .ok order ∧
        names = r.keptTools order := by
  rw [toolOrder_eq]
  simp only [bind_eq_ok_iff, mapError_eq_ok_iff, Except.ok.injEq]
  constructor
  · rintro ⟨enabled, he, order, ho, rfl⟩
    exact ⟨enabled, order, he, ho, rfl⟩
  · rintro ⟨enabled, order, he, ho, rfl⟩
    exact ⟨enabled, he, order, ho, rfl⟩

theorem keptTools_sublist (order : List String) : (r.keptTools order).Sublist order := by
  unfold keptTools
  split
  · exact .refl order
  · exact List.filter_sublist

theorem mem_keptTools {order : List String} {tool : String} :
    tool ∈ r.keptTools order ↔ tool ∈ order ∧
      ∀ forced, r.context.settings.forceToolList = some forced →
        ∃ name ∈ forced, ReflTransGen r.registry.toolDependencies.DependsOn name tool := by
  unfold keptTools
  split
  · rename_i hf
    simp [hf]
  · rename_i forced hf
    simp [hf, Dependencies.mem_closure]

theorem keptTools_ordered {order : List String}
    (h : r.registry.toolDependencies.Ordered order) :
    r.registry.toolDependencies.Ordered (r.keptTools order) := by
  unfold keptTools
  split
  · exact h
  · exact h.filter_closure _

/-- The tools of a level are registered, and each stands once and behind all that it needs. -/
theorem toolOrder_ordered {names : List String} (h : r.toolOrder level = .ok names) :
    r.registry.toolDependencies.Ordered names := by
  obtain ⟨enabled, order, _, horder, rfl⟩ := toolOrder_eq_ok_iff.1 h
  exact keptTools_ordered (Dependencies.order_ordered horder)

theorem toolOrder_registered {names : List String} (h : r.toolOrder level = .ok names) :
    ∀ name ∈ names, ∃ t, r.registry.tool.get? name = some t :=
  fun name hn => Registry.exists_tool_of_known ((toolOrder_ordered h).known name hn)

end Runner

/-! ## Runs of tools -/

/-- A tool that has been run, and what came of it. -/
structure ToolRun where
  tool : String
  outcome : Except ToolError (List Issue)

/-- The run of a tool on a package is noted, and a failure is logged. -/
def ToolRun.settle (run : ToolRun) (p : Package) : Session Unit := do
  Session.note ⟨p.name, run.tool, .tool⟩
  match run.outcome with
  | .ok _ => return ()
  | .error e => Session.warn (run.tool ++ " tool plugin failed: " ++ e.message)

namespace Runner

/-- The tools run one after the other. The first starts in the state `s`, each of the others in the
state that the one before has left, and the last leaves the state `s'`. -/
inductive RunsTools (r : Runner) (p : Package) (level : String) :
    SessionState → List ToolRun → SessionState → Prop
  | done {s : SessionState} : RunsTools r p level s [] s
  | step {s s₁ s' : SessionState} {t : ToolPlugin} {run : ToolRun} {runs : List ToolRun} :
      r.registry.tool.get? run.tool = some t →
      (t.scan r.context p level).runFrom s = (run.outcome, s₁) →
      RunsTools r p level ((run.settle p).runFrom s₁).2 runs s' →
      RunsTools r p level s (run :: runs) s'

namespace ToolTally

/-- The tally with one more run. -/
def add (tally : ToolTally) (run : ToolRun) : ToolTally :=
  match run.outcome with
  | .ok found => { tally with issues := tally.issues.insert run.tool found }
  | .error _ => { tally with success := false }

/-- The tally with several more runs. -/
def addAll (tally : ToolTally) (runs : List ToolRun) : ToolTally := runs.foldl add tally

end ToolTally

variable {r : Runner} {p : Package} {level : String}

/-- One step of the stage scans with the tool, settles what came of it and tallies it. -/
theorem runTool_runFrom {t : ToolPlugin} {name : String}
    {outcome : Except ToolError (List Issue)} {s s₁ : SessionState} (tally : ToolTally)
    (ht : r.registry.tool.get? name = some t)
    (hscan : (t.scan r.context p level).runFrom s = (outcome, s₁)) :
    (r.runTool p level tally name).runFrom s =
      (.ok (tally.add ⟨name, outcome⟩), ((ToolRun.settle ⟨name, outcome⟩ p).runFrom s₁).2) := by
  unfold runTool
  rw [ht]
  rw [Attempt.runFrom_bind_of_ok _ (Attempt.runFrom_outcome (t.scan r.context p level) s), hscan]
  cases outcome <;> rfl

/-- **The stage runs the tools of its list.** Where they are all registered it does not fail,
whatever the tools do, and it tallies what comes of each. -/
theorem exists_runsTools {names : List String}
    (registered : ∀ name ∈ names, ∃ t, r.registry.tool.get? name = some t) (tally : ToolTally)
    (s : SessionState) :
    ∃ runs s', r.RunsTools p level s runs s' ∧ runs.map (·.tool) = names ∧
      (names.foldlM (r.runTool p level) tally).runFrom s = (.ok (tally.addAll runs), s') := by
  induction names generalizing tally s with
  | nil => exact ⟨[], s, .done, rfl, rfl⟩
  | cons name names ih =>
    obtain ⟨t, ht⟩ := registered name List.mem_cons_self
    obtain ⟨outcome, s₁, hscan⟩ : ∃ outcome s₁,
        (t.scan r.context p level).runFrom s = (outcome, s₁) := ⟨_, _, rfl⟩
    obtain ⟨runs, s', hruns, hnames, hfold⟩ :=
      ih (fun n hn => registered n (List.mem_cons_of_mem _ hn)) (tally.add ⟨name, outcome⟩)
        ((ToolRun.settle ⟨name, outcome⟩ p).runFrom s₁).2
    refine ⟨⟨name, outcome⟩ :: runs, s', .step ht hscan hruns, by rw [List.map_cons, hnames], ?_⟩
    rw [List.foldlM_cons, Attempt.runFrom_bind_of_ok _ (runTool_runFrom tally ht hscan)]
    exact hfold

/-! ## What is tallied -/

namespace ToolTally

theorem success_addAll (tally : ToolTally) (runs : List ToolRun) :
    (tally.addAll runs).success = true ↔
      tally.success = true ∧ ∀ run ∈ runs, ∃ found, run.outcome = .ok found := by
  induction runs generalizing tally with
  | nil => simp [addAll]
  | cons run runs ih =>
    have hstep : tally.addAll (run :: runs) = (tally.add run).addAll runs := rfl
    rw [hstep, ih, List.forall_mem_cons]
    cases h : run.outcome with
    | ok found => simp [add, h]
    | error e => simp [add, h]

theorem get?_add (tally : ToolTally) (run : ToolRun) (tool : String) :
    (tally.add run).issues.get? tool =
      match run.outcome with
      | .ok found => if tool = run.tool then some found else tally.issues.get? tool
      | .error _ => tally.issues.get? tool := by
  unfold add
  split
  · exact SortedTable.get?_insert _ _ _ _
  · rfl

/-- Where no tool runs twice, the tally gains exactly what the runs have found that worked. -/
theorem get?_addAll {runs : List ToolRun} (once : (runs.map (·.tool)).Nodup) {tally : ToolTally}
    (fresh : ∀ run ∈ runs, tally.issues.get? run.tool = none) {tool : String}
    {found : List Issue} :
    (tally.addAll runs).issues.get? tool = some found ↔
      tally.issues.get? tool = some found ∨ ⟨tool, .ok found⟩ ∈ runs := by
  induction runs generalizing tally with
  | nil => simp [addAll]
  | cons run runs ih =>
    rw [List.map_cons, List.nodup_cons] at once
    have hstep : tally.addAll (run :: runs) = (tally.add run).addAll runs := rfl
    have hother : ∀ other ∈ runs, other.tool ≠ run.tool :=
      fun other ho he => once.1 (he ▸ List.mem_map_of_mem ho)
    have hfresh : ∀ other ∈ runs, (tally.add run).issues.get? other.tool = none := by
      intro other ho
      rw [get?_add]
      have hnone := fresh other (List.mem_cons_of_mem _ ho)
      split
      · rw [if_neg (hother other ho), hnone]
      · exact hnone
    have hself : (tally.add run).issues.get? tool = some found ↔
        tally.issues.get? tool = some found ∨ run = ⟨tool, .ok found⟩ := by
      obtain ⟨name, outcome⟩ := run
      have hnone := fresh _ List.mem_cons_self
      rw [get?_add]
      cases outcome with
      | error e => simp
      | ok more =>
        by_cases ht : tool = name
        · subst ht
          simp [hnone]
        · have ht' : name ≠ tool := fun h => ht h.symm
          simp [ht, ht']
    rw [hstep, ih once.2 hfresh, hself, List.mem_cons, or_assoc]
    simp only [eq_comm]

end ToolTally

/-! ## Which tools run -/

/-- **Which tools of a level run.** Where the enabled tools can be put in order, the stage runs,
each once and in that order, the enabled ones, and where some tools are forced only those that a
forced one leads to along dependencies. So every tool runs behind all that it needs. -/
theorem runTools_runs_forced_with_needs (r : Runner) (p : Package) (level : String)
    (s : SessionState) {enabled order : List String}
    (resolved : r.context.config.enabledPlugins level .tool = .ok enabled)
    (ordered : r.registry.toolDependencies.order false enabled = .ok order) :
    (∀ names plugin, plugin ∈ r.registry.toolDependencies.closure names ↔
      ∃ name ∈ names, ReflTransGen r.registry.toolDependencies.DependsOn name plugin) ∧
    ∃ runs tally s', (r.runTools p level).runFrom s = (.ok tally, s') ∧
      r.RunsTools p level s runs s' ∧
      (∀ tool, tool ∈ runs.map (·.tool) ↔ tool ∈ enabled ∧
        ∀ forced, r.context.settings.forceToolList = some forced →
          ∃ name ∈ forced, ReflTransGen r.registry.toolDependencies.DependsOn name tool) ∧
      (runs.map (·.tool)).Nodup ∧
      (runs.map (·.tool)).Sublist order ∧
      ∀ before tool after, runs.map (·.tool) = before ++ tool :: after →
        ∀ dependency, r.registry.toolDependencies.DependsOn tool dependency →
          dependency ∈ before := by
  refine ⟨fun names plugin => Dependencies.mem_closure, ?_⟩
  have hnames : r.toolOrder level = .ok (r.keptTools order) :=
    toolOrder_eq_ok_iff.2 ⟨enabled, order, resolved, ordered, rfl⟩
  have hkept := toolOrder_ordered hnames
  obtain ⟨runs, s', hruns, hmap, hfold⟩ :
      ∃ runs s', r.RunsTools p level s runs s' ∧ runs.map (·.tool) = r.keptTools order ∧
        ((r.keptTools order).foldlM (r.runTool p level) {}).runFrom s =
          (.ok (ToolTally.addAll {} runs), s') :=
    exists_runsTools (toolOrder_registered hnames) {} s
  have hstage : (r.runTools p level).runFrom s = (.ok (ToolTally.addAll {} runs), s') := by
    unfold runTools
    rw [hnames]
    exact hfold
  have hmem : ∀ tool, tool ∈ order ↔ tool ∈ enabled := by
    intro tool
    rw [Dependencies.mem_order ordered, Dependencies.IsWanted, if_neg (by simp)]
  refine ⟨runs, _, s', hstage, hruns, fun tool => ?_, ?_, ?_, ?_⟩
  · rw [hmap, mem_keptTools, hmem]
  · rw [hmap]
    exact hkept.nodup
  · rw [hmap]
    exact keptTools_sublist order
  · intro before tool after he
    rw [hmap] at he
    exact hkept.behind he

/-- A tool that finds nothing. -/
def idleTool (name : String) (dependencies : List String) : ToolPlugin where
  name := name
  dependencies := dependencies
  fileTypes := []
  run _ _ _ _ _ := return []
  issuesOf _ _ _ := return []

/-- A runner with a ring among its tools, two of which are forced: one that needs another, and one
that does not exist. -/
def ringRunner : Runner where
  context := {
    settings := { forceToolList := some ["beta", "ghost"] }
    config := { levels := .ofList [("basic",
      { tool := some (.ofList [("beta", none), ("gamma", none), ("alpha", none)]) })] }
    resources := { defaultPath := ⟨"/"⟩ } }
  exceptions := {}
  profile := none
  registry := .ofLists []
    [idleTool "alpha" [], idleTool "beta" ["alpha"], idleTool "gamma" [],
      idleTool "left" ["right"], idleTool "right" ["left"]] []

/-- A session on a machine without files. -/
def bareSession : SessionState where
  host := {
    files := ⟨[]⟩, workingDirectory := [], searchPath := none, noColor := true, logFilter := none
    resourceRoot := ⟨"/"⟩, programs := fun _ => none }

theorem runTools_ringRunner :
    ∃ runs tally s', (ringRunner.runTools (.ofPath ⟨"/p"⟩) "basic").runFrom bareSession
        = (.ok tally, s') ∧
      ringRunner.RunsTools (.ofPath ⟨"/p"⟩) "basic" bareSession runs s' ∧
      ∀ tool, tool ∈ runs.map (·.tool) ↔ tool = "alpha" ∨ tool = "beta" := by
  have resolved : ringRunner.context.config.enabledPlugins "basic" .tool =
      .ok ["beta", "gamma", "alpha"] := by decide +kernel
  have ordered : ringRunner.registry.toolDependencies.order false ["beta", "gamma", "alpha"] =
      .ok ["alpha", "beta", "gamma"] := by decide +kernel
  have hneeds : ["beta", "ghost", "alpha"].map ringRunner.registry.toolDependencies.needs =
      [["alpha"], [], []] := by decide +kernel
  simp only [List.map_cons, List.map_nil, List.cons.injEq, and_true] at hneeds
  have hclosure : ringRunner.registry.toolDependencies.closure ["beta", "ghost"] =
      ["ghost", "alpha", "beta"] := by
    simp [Dependencies.closure, Dependencies.closeOver, hneeds]
  obtain ⟨hreach, runs, tally, s', hstage, hruns, hmem, _⟩ :=
    runTools_runs_forced_with_needs ringRunner (.ofPath ⟨"/p"⟩) "basic" bareSession resolved ordered
  refine ⟨runs, tally, s', hstage, hruns, fun tool => ?_⟩
  have hforced : ringRunner.context.settings.forceToolList = some ["beta", "ghost"] := rfl
  simp only [hmem, hforced, Option.some.injEq, forall_eq', ← hreach, hclosure]
  grind

end Runner

end LintScan
