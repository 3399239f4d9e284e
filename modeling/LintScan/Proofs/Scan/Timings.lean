import LintScan.Proofs.Scan.Discreet
import LintScan.Proofs.Scan.Result
import LintScan.Proofs.Shuffle

/-!
# The table of timings

Every scan notes the plugins that it runs, and scans of several packages put their notes into one
list.  This file says what the table that is printed from this list looks like:

* `RunsDiscovery`, `exists_runsDiscovery` — discovery plugins run one after the other, as
  `RunsTools` and `RunsReports` say of the tools and the reports.
* `RunsIn` — how far a scan comes, and the plugins that it runs on the way, in order, each under the
  name that the package then has.
* `run_timings` — a scan notes exactly the plugins that it runs, where the plugins are discreet.
* `Apart`, `exists_table_of_shuffle` — notes of several scans that are not about the same packages;
  however they are shuffled, one table comes out, by packages and then in the order of the runs.
* `ShowsColumns`, `showsColumns_timingRow` — what stands in a row of the table.
* `timingTable_undoes_interleaving` — these results together.
-/

namespace LintScan

/-! ## Runs of discovery plugins -/

namespace Registry

theorem get?_discoveryDependencies (g : Registry) (name : String) :
    g.discoveryDependencies.get? name = (g.discovery.get? name).map (·.dependencies) :=
  SortedTable.get?_map _ g.discovery name

theorem exists_discovery_of_known {g : Registry} {name : String}
    (h : (g.discoveryDependencies.get? name).isSome = true) :
    ∃ d, g.discovery.get? name = some d := by
  rw [get?_discoveryDependencies, Option.isSome_map] at h
  exact Option.isSome_iff_exists.1 h

end Registry

namespace Runner

variable {r : Runner} {p : Package} {level : String}

/-- The discovery plugins of a level with all that they need, in the order in which they run. -/
def discoveryOrder (r : Runner) (level : String) : Except RunError (List String) := do
  let names ← (r.discoveryNames level).mapError .config
  (r.registry.discoveryDependencies.order true names).mapError (.order .discovery)

/-- The stage fails where the plugins cannot be put in order, and goes through them otherwise. -/
theorem runDiscovery_runFrom (r : Runner) (p : Package) (level : String) (s : SessionState) :
    (r.runDiscovery p level).runFrom s =
      match r.discoveryOrder level with
      | .error e => (.error e, s)
      | .ok order => (order.foldlM (r.discover level) p).runFrom s := by
  unfold runDiscovery discoveryOrder
  rw [Attempt.runFrom_bind, Attempt.runFrom_ofExcept]
  cases r.discoveryNames level with
  | error e => rfl
  | ok names =>
    simp only [Except.mapError]
    rw [Attempt.runFrom_bind, Attempt.runFrom_ofExcept]
    cases h : r.registry.discoveryDependencies.order true names with
    | error e => simp [h, bind, Except.bind, Except.mapError]
    | ok order => simp [h, bind, Except.bind, Except.mapError]

/-- The discovery plugins of a level are registered, and each stands once and behind all that it
needs. -/
theorem discoveryOrder_ordered {order : List String} (h : r.discoveryOrder level = .ok order) :
    r.registry.discoveryDependencies.Ordered order := by
  unfold discoveryOrder at h
  obtain ⟨names, _, horder⟩ := bind_eq_ok_iff.1 h
  exact Dependencies.order_ordered (mapError_eq_ok_iff.1 horder)

/-- The plugin that a note is about. -/
def noted (t : Timing) : PluginKind × String := (t.kind, t.plugin)

/-- Plugins of one kind. -/
def ofKind (kind : PluginKind) (names : List String) : List (PluginKind × String) :=
  names.map fun name => (kind, name)

/-- The discovery plugins of a list run one after the other. The first starts with the package `p`
in the state `s`, each of the others with the package and in the state that the one before has left,
and the last leaves the package `p'` and the state `s'`. The runs are noted under the name that the
package has behind each of them. -/
inductive RunsDiscovery (r : Runner) (level : String) :
    Package → SessionState → List Timing → Package → SessionState → Prop
  | done {p : Package} {s : SessionState} : RunsDiscovery r level p s [] p s
  | step {p p₁ p' : Package} {s s₁ s' : SessionState} {d : DiscoveryPlugin} {name : String}
      {ran : List Timing} :
      r.registry.discovery.get? name = some d →
      (d.scan r.context p level (some r.exceptions)).runFrom s = (p₁, s₁) →
      RunsDiscovery r level p₁ ((Session.note ⟨p₁.name, name, .discovery⟩).runFrom s₁).2 ran p' s' →
      RunsDiscovery r level p s (⟨p₁.name, name, .discovery⟩ :: ran) p' s'

/-- **The stage runs the discovery plugins of its list.** Where they are all registered, it does not
fail. -/
theorem exists_runsDiscovery (level : String) {names : List String}
    (registered : ∀ name ∈ names, ∃ d, r.registry.discovery.get? name = some d) (p : Package)
    (s : SessionState) :
    ∃ ran p' s', r.RunsDiscovery level p s ran p' s' ∧
      ran.map noted = ofKind .discovery names ∧
      (names.foldlM (r.discover level) p).runFrom s = (.ok p', s') := by
  induction names generalizing p s with
  | nil => exact ⟨[], p, s, .done, rfl, rfl⟩
  | cons name names ih =>
    obtain ⟨d, hd⟩ := registered name List.mem_cons_self
    obtain ⟨p₁, s₁, hscan⟩ :
        ∃ p₁ s₁, (d.scan r.context p level (some r.exceptions)).runFrom s = (p₁, s₁) := ⟨_, _, rfl⟩
    obtain ⟨ran, p', s', hruns, hnames, hfold⟩ :=
      ih (fun n hn => registered n (List.mem_cons_of_mem _ hn)) p₁
        ((Session.note ⟨p₁.name, name, .discovery⟩).runFrom s₁).2
    refine ⟨_, p', s', .step hd hscan hruns,
      congrArg (List.cons (PluginKind.discovery, name)) hnames, ?_⟩
    have hstep : (r.discover level p name).runFrom s =
        (.ok p₁, ((Session.note ⟨p₁.name, name, .discovery⟩).runFrom s₁).2) := by
      unfold discover
      rw [hd]
      simp only
      rw [Attempt.runFrom_bind_of_ok _ (Attempt.runFrom_lift _ s), hscan]
      rfl
    rw [List.foldlM_cons, Attempt.runFrom_bind_of_ok _ hstep]
    exact hfold

/-! ## What a scan runs -/

/-- The scan of a package at a level comes to its discovery plugins: the level exists, the package
counts, and its output directory is there. -/
def Enters (r : Runner) (p : Package) (level : String) (s s₁ : SessionState) : Prop :=
  r.context.config.hasLevel level = true ∧ r.exceptions.ignores p.name = false ∧
    (r.prepareOutput p.name level).runFrom s = (.ok (), s₁)

/-- The reports among some names. -/
def registeredReports (r : Runner) (names : List String) : List String :=
  names.filter fun name => (r.registry.reporting.get? name).isSome

/-- The issues that tools have found, without those that do not count. -/
def counted (r : Runner) (scanned : Package) (h : Host) (runs : List ToolRun) : Filtered :=
  r.exceptions.filterIssues h scanned.name scanned.path (ToolTally.addAll {} runs).issues {}

/-- The notes on some plugins that were run for a package. -/
def notes (package : String) (ran : List (PluginKind × String)) : List Timing :=
  ran.map fun (kind, plugin) => ⟨package, plugin, kind⟩

theorem notes_append (package : String) (ran more : List (PluginKind × String)) :
    notes package (ran ++ more) = notes package ran ++ notes package more :=
  List.map_append

theorem package_of_mem_notes {package : String} {ran : List (PluginKind × String)} {t : Timing}
    (h : t ∈ notes package ran) : t.package = package := by
  obtain ⟨⟨kind, plugin⟩, _, rfl⟩ := List.mem_map.1 h
  rfl

theorem map_noted_notes (package : String) (ran : List (PluginKind × String)) :
    (notes package ran).map noted = ran :=
  List.map_map.trans (List.map_id _)

/-- How far the scan of a package at a level comes from the state `s`, and the plugins that it runs
on the way, in order, under the name that the package has at the time. Only discovery can give it
another one. -/
inductive RunsIn (r : Runner) (p : Package) (level : String) (s : SessionState) :
    List Timing → Prop
  /-- The scan does not come to a discovery plugin. -/
  | early : (∀ s₁ found, r.Enters p level s s₁ → r.discoveryOrder level ≠ .ok found) →
      RunsIn r p level s []
  /-- The discovery plugins have run, but the tools cannot be put in order. -/
  | undecided {found : List String} {first : List Timing} {scanned : Package}
      {s₁ s₂ : SessionState} {e : RunError} :
      r.Enters p level s s₁ → r.discoveryOrder level = .ok found →
      r.RunsDiscovery level p s₁ first scanned s₂ → first.map noted = ofKind .discovery found →
      r.toolOrder level = .error e → RunsIn r p level s first
  /-- The discovery plugins and the tools have run, and the reports have been made. -/
  | ended {found tools names : List String} {first : List Timing} {scanned : Package}
      {toolRuns : List ToolRun} {reportRuns : List ReportRun} {s₁ s₂ s₃ s₄ : SessionState} :
      r.Enters p level s s₁ → r.discoveryOrder level = .ok found →
      r.RunsDiscovery level p s₁ first scanned s₂ → first.map noted = ofKind .discovery found →
      r.toolOrder level = .ok tools → r.RunsTools scanned level s₂ toolRuns s₃ →
      toolRuns.map (·.tool) = tools →
      r.context.config.enabledPlugins level .reporting = .ok names →
      r.RunsReports scanned level (r.counted scanned s₃.host toolRuns).issues
        ((Session.logAll (r.counted scanned s₃.host toolRuns).log).runFrom s₃).2 reportRuns s₄ →
      reportRuns.map (·.name) = names →
      RunsIn r p level s (first ++ notes scanned.name
        (ofKind .tool tools ++ ofKind .reporting (r.registeredReports names)))

/-- Which plugins a scan runs depends on its level alone, once it comes to one of them: what else
goes on on the machine has no say in it. -/
theorem RunsIn.unique {p' : Package} {s s' : SessionState} {ran ran' : List Timing}
    (h : r.RunsIn p level s ran) (h' : r.RunsIn p' level s' ran') (some_ran : ran ≠ [])
    (some_ran' : ran' ≠ []) : ran.map noted = ran'.map noted := by
  cases h with
  | early => exact absurd rfl some_ran
  | undecided _ hfound _ hfirst htools =>
    cases h' with
    | early => exact absurd rfl some_ran'
    | undecided _ hfound' _ hfirst' =>
      rw [hfound, Except.ok.injEq] at hfound'
      rw [hfirst, hfirst', hfound']
    | ended _ _ _ _ htools' =>
      rw [htools] at htools'
      cases htools'
  | ended _ hfound _ hfirst htools _ _ hnames =>
    cases h' with
    | early => exact absurd rfl some_ran'
    | undecided _ _ _ _ htools' =>
      rw [htools] at htools'
      cases htools'
    | ended _ hfound' _ hfirst' htools' _ _ hnames' =>
      rw [hfound, Except.ok.injEq] at hfound'
      rw [htools, Except.ok.injEq] at htools'
      rw [hnames, Except.ok.injEq] at hnames'
      rw [List.map_append, List.map_append, hfirst, hfirst', map_noted_notes, map_noted_notes,
        hfound', htools', hnames']

/-- Discovery plugins of which none renames the package are noted under its name. -/
theorem RunsDiscovery.name_eq
    (keeps : ∀ name d, r.registry.discovery.get? name = some d → ∀ p s,
      ((d.scan r.context p level (some r.exceptions)).runFrom s).1.name = p.name)
    {p' : Package} {s s' : SessionState} {ran : List Timing}
    (h : r.RunsDiscovery level p s ran p' s') :
    p'.name = p.name ∧ ∀ t ∈ ran, t.package = p.name := by
  induction h with
  | done => exact ⟨rfl, fun t ht => by cases ht⟩
  | @step p p₁ p' s s₁ s' d name ran hd hscan _ ih =>
    have hname : p₁.name = p.name := by
      have := keeps name d hd p s
      rwa [hscan] at this
    rw [hname] at ih ⊢
    exact ⟨ih.1, List.forall_mem_cons.2 ⟨rfl, ih.2⟩⟩

/-- Where no discovery plugin renames the package, everything that a scan runs is noted under the
name of the package. -/
theorem RunsIn.package_eq {s : SessionState} {ran : List Timing} (h : r.RunsIn p level s ran)
    (keeps : ∀ name d, r.registry.discovery.get? name = some d → ∀ p s,
      ((d.scan r.context p level (some r.exceptions)).runFrom s).1.name = p.name) :
    ∀ t ∈ ran, t.package = p.name := by
  cases h with
  | early => exact fun t ht => by cases ht
  | undecided _ _ hruns => exact (hruns.name_eq keeps).2
  | ended _ _ hruns =>
    obtain ⟨hname, hfirst⟩ := hruns.name_eq keeps
    intro t ht
    rcases List.mem_append.1 ht with ht | ht
    · exact hfirst t ht
    · exact (package_of_mem_notes ht).trans hname

/-! ## What a scan notes -/

theorem RunsDiscovery.timings (discreet : r.registry.Discreet) {p' : Package}
    {s s' : SessionState} {ran : List Timing} (h : r.RunsDiscovery level p s ran p' s') :
    s'.timings = s.timings ++ ran := by
  induction h with
  | done => exact (List.append_nil _).symm
  | @step p p₁ p' s s₁ s' d name ran hd hscan _ ih =>
    have hkeeps : s₁.timings = s.timings := by
      have := discreet.discovery name d hd r.context p level (some r.exceptions) s
      rwa [hscan] at this
    have hnote : ((Session.note ⟨p₁.name, name, .discovery⟩).runFrom s₁).2.timings =
        s₁.timings ++ [⟨p₁.name, name, .discovery⟩] := rfl
    rw [ih, hnote, hkeeps, List.append_assoc]
    rfl

theorem timings_settle_tool (run : ToolRun) (s : SessionState) :
    ((run.settle p).runFrom s).2.timings = s.timings ++ [⟨p.name, run.tool, .tool⟩] := by
  unfold ToolRun.settle
  rw [Session.runFrom_bind]
  split <;> rfl

theorem RunsTools.timings (discreet : r.registry.Discreet) {s s' : SessionState}
    {runs : List ToolRun} (h : r.RunsTools p level s runs s') :
    s'.timings = s.timings ++ notes p.name (ofKind .tool (runs.map (·.tool))) := by
  induction h with
  | done => exact (List.append_nil _).symm
  | @step s s₁ s' t run runs ht hscan _ ih =>
    have hkeeps : s₁.timings = s.timings := by
      have := discreet.tool run.tool t ht r.context p level s
      rwa [hscan] at this
    rw [ih, timings_settle_tool, hkeeps, List.append_assoc]
    rfl

theorem timings_settle_report {name : String} (outcome : Except ReportError (Option Json))
    (s : SessionState) : ((ReportRun.settle ⟨name, some outcome⟩ p).runFrom s).2.timings =
      s.timings ++ [⟨p.name, name, .reporting⟩] := by
  unfold ReportRun.settle
  simp only [Session.runFrom_bind]
  split <;> rfl

theorem RunsReports.timings (discreet : r.registry.Discreet) {issues : IssueMap}
    {s s' : SessionState} {runs : List ReportRun} (h : r.RunsReports p level issues s runs s') :
    s'.timings = s.timings ++
      notes p.name (ofKind .reporting (r.registeredReports (runs.map (·.name)))) := by
  induction h with
  | done => exact (List.append_nil _).symm
  | @missing s s' name runs hnone _ ih =>
    have hskip : r.registeredReports (name :: runs.map (·.name)) =
        r.registeredReports (runs.map (·.name)) := by
      unfold registeredReports
      rw [List.filter_cons_of_neg (by simp [hnone])]
    rw [ih, List.map_cons, hskip]
    rfl
  | @made s s₁ s' plugin name outcome runs hplugin hreport _ ih =>
    have hkeeps : s₁.timings = s.timings := by
      have := discreet.reporting name plugin hplugin r.context p issues level s
      rwa [hreport] at this
    have htake : r.registeredReports (name :: runs.map (·.name)) =
        name :: r.registeredReports (runs.map (·.name)) := by
      unfold registeredReports
      rw [List.filter_cons_of_pos (by simp [hplugin])]
    rw [ih, timings_settle_report, hkeeps, List.map_cons, htake, List.append_assoc]
    rfl

/-- The stage of the reports notes what its reports note, for it adds a warning at most. -/
theorem timings_runReports {names : List String}
    (henabled : r.context.config.enabledPlugins level .reporting = .ok names)
    (result : ScanResult) (s : SessionState) :
    ∃ runs s₁, r.RunsReports p level result.issues s runs s₁ ∧ runs.map (·.name) = names ∧
      ((r.runReports p level result).runFrom s).2.timings = s₁.timings := by
  obtain ⟨runs, s₁, final, s', hruns, hnames, hend, hstage, _⟩ :=
    exists_runReports (p := p) henabled result s
  refine ⟨runs, s₁, hruns, hnames, ?_⟩
  cases names with
  | nil =>
    obtain rfl := List.map_eq_nil_iff.1 hnames
    cases hruns
    unfold runReports
    rw [henabled]
    rfl
  | cons name names => rw [hstage, hend (List.cons_ne_nil name names)]

/-- Once the tools are known, a scan runs them all and makes the reports, and notes both. -/
theorem timings_carryOut (discreet : r.registry.Discreet) (package : String) (scanned : Package)
    {tools : List String} (htools : r.toolOrder level = .ok tools) (s : SessionState) :
    ∃ toolRuns s₁ names reportRuns s₂,
      r.RunsTools scanned level s toolRuns s₁ ∧ toolRuns.map (·.tool) = tools ∧
      r.context.config.enabledPlugins level .reporting = .ok names ∧
      r.RunsReports scanned level (r.counted scanned s₁.host toolRuns).issues
        ((Session.logAll (r.counted scanned s₁.host toolRuns).log).runFrom s₁).2 reportRuns s₂ ∧
      reportRuns.map (·.name) = names ∧
      ((r.carryOut (.tools package scanned level tools)).runFrom s).2.timings =
        s.timings ++ notes scanned.name
          (ofKind .tool tools ++ ofKind .reporting (r.registeredReports names)) := by
  obtain ⟨names, hnames⟩ :
      ∃ names, r.context.config.enabledPlugins level .reporting = .ok names := by
    obtain ⟨enabled, _, henabled, _⟩ := toolOrder_eq_ok_iff.1 htools
    exact exists_enabledPlugins henabled .reporting
  obtain ⟨toolRuns, s₁, result, s', htoolRuns, hmap, hconclude, hcarry⟩ :=
    exists_carryOut package scanned htools s
  obtain ⟨reportRuns, s₂, hreportRuns, hreportNames, hreports⟩ :=
    timings_runReports (p := scanned) hnames
      ⟨package, level, (r.counted scanned s₁.host toolRuns).issues,
        (ToolTally.addAll {} toolRuns).success, .empty⟩
      ((Session.logAll (r.counted scanned s₁.host toolRuns).log).runFrom s₁).2
  refine ⟨toolRuns, s₁, names, reportRuns, s₂, htoolRuns, hmap, hnames, hreportRuns, hreportNames,
    ?_⟩
  have hconcluded : s'.timings = s₂.timings := by
    rw [← hreports]
    exact congrArg (fun q : ScanResult × SessionState => q.2.timings) hconclude.symm
  have hlogged : ∀ log, ((Session.logAll log).runFrom s₁).2.timings = s₁.timings :=
    fun _ => rfl
  rw [hcarry, hconcluded, hreportRuns.timings discreet, hlogged, htoolRuns.timings discreet, hmap,
    hreportNames, notes_append, List.append_assoc]

/-- A scan that comes to its discovery plugins notes what it runs. -/
theorem exists_runsIn_of_enters (discreet : r.registry.Discreet) {s s₁ : SessionState}
    (enters : r.Enters p level s s₁) :
    ∃ ran, r.RunsIn p level s ran ∧
      ((r.scanAt p level).runFrom s).2.timings = s.timings ++ ran := by
  have hprepared : s₁.timings = s.timings := by
    have hkeeps : SameNotes s ((r.prepareOutput p.name level).runFrom s).2 :=
      r.within_prepareOutput (fun _ _ => Session.sameNotes_changeFiles _) s
    rwa [enters.2.2] at hkeeps
  rw [scanAt_eq_planAt_carryOut]
  unfold planAt
  simp only [bind_assoc]
  rw [Attempt.runFrom_bind_of_ok _ enters.2.2, Attempt.runFrom_bind, runDiscovery_runFrom]
  cases hfound : r.discoveryOrder level with
  | error e =>
    refine ⟨[], .early fun _ _ _ h => ?_, ?_⟩
    · rw [hfound] at h
      cases h
    · simp [hprepared]
  | ok found =>
    have hregistered : ∀ name ∈ found, ∃ d, r.registry.discovery.get? name = some d :=
      fun name hn =>
        Registry.exists_discovery_of_known ((discoveryOrder_ordered hfound).known name hn)
    obtain ⟨first, scanned, s₂, hdiscovery, hfirst, hfold⟩ :=
      exists_runsDiscovery level hregistered p s₁
    have htimings := hdiscovery.timings discreet
    rw [hprepared] at htimings
    simp only [hfold]
    rw [Attempt.runFrom_bind, Attempt.runFrom_ofExcept]
    cases htools : r.toolOrder level with
    | error e => exact ⟨_, .undecided enters hfound hdiscovery hfirst htools, htimings⟩
    | ok tools =>
      obtain ⟨toolRuns, s₃, names, reportRuns, s₄, htoolRuns, hmap, hnames, hreportRuns,
        hreportNames, hcarry⟩ := timings_carryOut discreet p.name scanned htools s₂
      refine ⟨_, .ended enters hfound hdiscovery hfirst htools htoolRuns hmap hnames hreportRuns
        hreportNames, ?_⟩
      simp only [Except.mapError, pure_bind]
      rw [hcarry, htimings, List.append_assoc]

/-- **A scan notes exactly the plugins that it runs,** in the order in which it runs them, and a
scan of a path where nothing stands notes none. -/
theorem run_timings (discreet : r.registry.Discreet) (path : Path) (asked : Option String)
    (s : SessionState) :
    (s.host.canonical? path = none → ((r.run path asked).runFrom s).2.timings = s.timings) ∧
    ∀ root, s.host.canonical? path = some root →
      ∃ ran, r.RunsIn (.ofPath root) (r.levelOf (Package.ofPath root).name asked) s ran ∧
        ((r.run path asked).runFrom s).2.timings = s.timings ++ ran := by
  unfold run
  rw [Attempt.runFrom_bind_of_ok _ (Attempt.runFrom_lift Session.host s), Session.runFrom_host]
  refine ⟨fun hnone => by rw [hnone]; rfl, fun root hroot => ?_⟩
  rw [hroot]
  simp only
  generalize Package.ofPath root = p
  generalize r.levelOf p.name asked = level
  -- A scan that does not come to its discovery plugins leaves the notes as they are.
  have hearly : (∀ s₁, ¬ r.Enters p level s s₁) → ∀ {s' : SessionState}, s'.timings = s.timings →
      ∃ ran, r.RunsIn p level s ran ∧ s'.timings = s.timings ++ ran :=
    fun hstays _ hkeeps => ⟨[], .early fun s₁ _ henters => absurd henters (hstays s₁),
      by rwa [List.append_nil]⟩
  split
  · rename_i hlevel
    refine hearly (fun s₁ h => ?_) rfl
    rw [h.1] at hlevel
    cases hlevel
  · rename_i hlevel
    split
    · rename_i hignored
      refine hearly (fun s₁ h => ?_) rfl
      rw [h.2.1] at hignored
      cases hignored
    · rename_i hcounts
      have hkeeps : SameNotes s ((r.prepareOutput p.name level).runFrom s).2 :=
        r.within_prepareOutput (fun _ _ => Session.sameNotes_changeFiles _) s
      rcases hprepare : (r.prepareOutput p.name level).runFrom s with ⟨e | u, s₁⟩
      · refine hearly (fun s₁ h => ?_) ?_
        · rw [h.2.2] at hprepare
          cases hprepare
        · rw [hprepare] at hkeeps
          unfold scanAt
          rw [Attempt.runFrom_bind, hprepare]
          exact hkeeps
      · exact exists_runsIn_of_enters discreet
          ⟨by simpa using hlevel, by simpa using hcounts, hprepare⟩

/-! ## The table -/

/-- No two of some scans have noted anything about the same package. -/
def Apart (scans : List (List Timing)) : Prop :=
  scans.Pairwise fun scan scan' => ∀ t ∈ scan, ∀ t' ∈ scan', t.package ≠ t'.package

/-- Scans of packages with different names are apart. -/
theorem apart_of_nodup (scans : List (String × List Timing))
    (about : ∀ scan ∈ scans, ∀ t ∈ scan.2, t.package = scan.1)
    (distinct : (scans.map (·.1)).Nodup) : Apart (scans.map (·.2)) := by
  refine List.pairwise_map.2 (List.Pairwise.imp_of_mem ?_ (List.pairwise_map.1 distinct))
  intro scan scan' hscan hscan' hne t ht t' ht' hsame
  rw [about scan hscan t ht, about scan' hscan' t' ht'] at hsame
  exact hne hsame

/-- Of shuffled notes, those on a package that a scan has noted are the ones of this scan, in their
order. -/
theorem filter_shuffle {scans : List (List Timing)} {log scan : List Timing} {t : Timing}
    (apart : Apart scans) (h : Shuffle scans log) (hscan : scan ∈ scans) (ht : t ∈ scan) :
    log.filter (·.package = t.package) = scan.filter (·.package = t.package) := by
  obtain ⟨i, hi, rfl⟩ := List.mem_iff_getElem.1 hscan
  refine h.filter_eq _ (List.getElem?_eq_getElem hi) fun j other hj hne t' ht' => ?_
  obtain ⟨hlt, rfl⟩ := List.getElem?_eq_some_iff.1 hj
  rw [decide_eq_false_iff_not]
  rcases Nat.lt_or_gt_of_ne hne with hbefore | hbefore
  · exact List.pairwise_iff_getElem.1 apart j i hlt hi hbefore t' ht' t ht
  · exact (List.pairwise_iff_getElem.1 apart i j hi hlt hbefore t ht t' ht').symm

/-- **However the notes of scans are shuffled, one table comes out of them.** It is in the order of
the packages, and under each package it has the notes of the scan that has noted it, in their
order. -/
theorem exists_table_of_shuffle {scans : List (List Timing)} (apart : Apart scans) :
    ∃ table : List Timing, table.Perm scans.flatten ∧
      table.Pairwise (fun t t' => t.package ≤ t'.package) ∧
      (∀ scan ∈ scans, ∀ t ∈ scan,
        table.filter (·.package = t.package) = scan.filter (·.package = t.package)) ∧
      ∀ log, Shuffle scans log →
        timingTable log = timingRow "package" "type" "plugin" "seconds" ::
          table.map fun t => timingRow t.package t.kind.name t.plugin "0.000" := by
  refine ⟨scans.flatten.mergeSort fun t t' => t.package ≤ t'.package, List.mergeSort_perm _ _,
    pairwise_mergeSort_key Timing.package _, fun scan hscan t ht => ?_, fun log hlog => ?_⟩
  · rw [filter_mergeSort Timing.package]
    exact filter_shuffle apart (.flatten scans) hscan ht
  · have hsame : ∀ name, log.filter (·.package = name) =
        scans.flatten.filter (·.package = name) := by
      intro name
      by_cases hnoted : ∃ t ∈ scans.flatten, t.package = name
      · obtain ⟨t, ht, rfl⟩ := hnoted
        obtain ⟨scan, hscan, ht⟩ := List.mem_flatten.1 ht
        rw [filter_shuffle apart hlog hscan ht, filter_shuffle apart (.flatten scans) hscan ht]
      · have hnone : ∀ t ∈ scans.flatten, ¬ decide (t.package = name) = true :=
          fun t ht h => hnoted ⟨t, ht, of_decide_eq_true h⟩
        rw [List.filter_eq_nil_iff.2 hnone,
          List.filter_eq_nil_iff.2 fun t ht => hnone t (hlog.perm.mem_iff.1 ht)]
    unfold timingTable
    simp only
    rw [mergeSort_congr Timing.package hsame]

/-! ## The rows -/

/-- A text stands in a column: blanks fill the column up behind it, and a text that is wider than
the column goes beyond it. -/
def StandsIn (width : Nat) (text : String) (column : List Char) : Prop :=
  column.length = max width text.length ∧
    ∃ blanks, column = text.toList ++ List.replicate blanks ' '

theorem standsIn_padRight (width : Nat) (text : String) :
    StandsIn width text (padRight width text).toList := by
  refine ⟨?_, width - text.length, by simp [padRight]⟩
  simp only [padRight, String.toList_append, String.toList_ofList, List.length_append,
    String.length_toList, List.length_replicate]
  omega

/-- A line has three columns, each with a blank behind it, which show a package, a kind and a
plugin. -/
def ShowsColumns (line package kind plugin : String) : Prop :=
  ∃ first second third rest,
    line.toList = first ++ ' ' :: second ++ ' ' :: third ++ ' ' :: rest ∧
      StandsIn 24 package first ∧ StandsIn 10 kind second ∧ StandsIn 24 plugin third

/-- A row shows a package, a kind and a plugin in its columns. -/
theorem showsColumns_timingRow (package kind plugin seconds : String) :
    ShowsColumns (timingRow package kind plugin seconds) package kind plugin :=
  ⟨_, _, _, (padLeft 10 seconds).toList, by simp [timingRow], standsIn_padRight _ _,
    standsIn_padRight _ _, standsIn_padRight _ _⟩

/-- **The table of timings does not depend on how scans are mixed.** A scan notes exactly the
plugins that it runs, in the order in which it runs them: its discovery plugins, each behind all
that it needs, then its tools, then its reports that are registered; a scan that ends early notes
those that it has run until then. Once it comes to a plugin, its level alone says which they are,
and they are noted under the name of the package, which only a discovery plugin could change. And
for scans that note different packages, however their notes are mixed, the table has the packages in
the order of their names and under each of them what its scan has noted, in the order of its notes,
with none lost and none repeated. Each row shows the package, the kind and the plugin. -/
theorem timingTable_undoes_interleaving (discreet : r.registry.Discreet) :
    (∀ path asked s,
      (s.host.canonical? path = none → ((r.run path asked).runFrom s).2.timings = s.timings) ∧
      ∀ root, s.host.canonical? path = some root →
        ∃ ran, r.RunsIn (.ofPath root) (r.levelOf (Package.ofPath root).name asked) s ran ∧
          ((r.run path asked).runFrom s).2.timings = s.timings ++ ran) ∧
    (∀ level found, r.discoveryOrder level = .ok found →
      r.registry.discoveryDependencies.Ordered found) ∧
    (∀ level p p' s s' ran ran', r.RunsIn p level s ran → r.RunsIn p' level s' ran' →
      ran ≠ [] → ran' ≠ [] → ran.map noted = ran'.map noted) ∧
    (∀ level p s ran, r.RunsIn p level s ran →
      (∀ name d, r.registry.discovery.get? name = some d → ∀ p s,
        ((d.scan r.context p level (some r.exceptions)).runFrom s).1.name = p.name) →
      ∀ t ∈ ran, t.package = p.name) ∧
    (∀ scans : List (List Timing), Apart scans →
      ∃ table : List Timing, table.Perm scans.flatten ∧
        table.Pairwise (fun t t' => t.package ≤ t'.package) ∧
        (∀ scan ∈ scans, ∀ t ∈ scan,
          table.filter (·.package = t.package) = scan.filter (·.package = t.package)) ∧
        ∀ log, Shuffle scans log →
          timingTable log = timingRow "package" "type" "plugin" "seconds" ::
            table.map fun t => timingRow t.package t.kind.name t.plugin "0.000") ∧
    ∀ package kind plugin seconds,
      ShowsColumns (timingRow package kind plugin seconds) package kind plugin :=
  ⟨run_timings discreet, fun _ _ => discoveryOrder_ordered,
    fun _ _ _ _ _ _ _ h h' => h.unique h', fun _ _ _ _ h => h.package_eq,
    fun _ => exists_table_of_shuffle, showsColumns_timingRow⟩

/-- A runner with the built-in plugins. -/
def plainRunner : Runner where
  context := {
    settings := {}
    config := { levels := .ofList [("basic", { tool := some (.ofList [("pylint", none)]) })] }
    resources := { defaultPath := ⟨"/"⟩ } }
  exceptions := {}
  profile := none
  registry := .builtin

theorem timingTable_plainRunner : plainRunner.registry.Discreet ∧
    ∀ log, Shuffle [notes "b" [(.discovery, "python"), (.tool, "pylint")],
        notes "a" [(.discovery, "python")]] log →
      timingTable log =
        ["package                  type       plugin                      seconds",
          "a                        discovery  python                        0.000",
          "b                        discovery  python                        0.000",
          "b                        tool       pylint                        0.000"] := by
  refine ⟨Registry.discreet_builtin, fun log hlog => ?_⟩
  obtain ⟨_, _, _, _, htable, _⟩ :=
    timingTable_undoes_interleaving (r := plainRunner) Registry.discreet_builtin
  have apart : Apart [notes "b" [(.discovery, "python"), (.tool, "pylint")],
      notes "a" [(.discovery, "python")]] :=
    apart_of_nodup [("b", notes "b" [(.discovery, "python"), (.tool, "pylint")]),
      ("a", notes "a" [(.discovery, "python")])]
      (by simpa using ⟨fun t => package_of_mem_notes, fun t => package_of_mem_notes⟩) (by simp)
  obtain ⟨table, _, _, _, hrows⟩ := htable _ apart
  -- One table fits every shuffle, so the scans may as well have run one after the other.
  rw [hrows log hlog, ← hrows _ (.flatten _)]
  have hsort : [notes "b" [(.discovery, "python"), (.tool, "pylint")],
      notes "a" [(.discovery, "python")]].flatten.mergeSort (fun t t' => t.package ≤ t'.package) =
        [⟨"a", "python", .discovery⟩, ⟨"b", "python", .discovery⟩, ⟨"b", "pylint", .tool⟩] := by
    simp [notes, List.mergeSort, List.MergeSort.Internal.splitInTwo]
  unfold timingTable
  simp only
  rw [hsort]
  decide +kernel

end Runner

end LintScan
