import Mathlib.Data.List.TakeWhile
import LintScan.Proofs.Pool.Run
import LintScan.Proofs.Scan.Cutting
import LintScan.Proofs.Scan.Packages
import LintScan.Proofs.Scan.Tools

/-!
# Scans of a workspace

The scans of the packages of a workspace share a machine and a journal.  This file says when they do
not notice each other:

* `value_scan` — what a scan in steps comes to is what the scan comes to.
* `exists_runWorkspace` — scans one after the other, each of which keeps to its own places, come to
  what they come to alone.
* `outcomes_of_steps` — so do scans by several workers, in whatever order they take their steps.
* `runWorkspace_outcomes_alone` — both of this for a workspace, with any number of workers.
* `runWorkspace_readsOtherOutput` — a scan that looks at what another one has written may come to
  something else.
-/

namespace LintScan

open Relation

namespace Runner

variable {r : Runner} {cut : r.Cutting} {owner : Place → Option Nat}

/-! ## One scan after the other -/

/-- What a scan in steps comes to is what the scan comes to. -/
theorem value_scan (cut : r.Cutting) (path : Path) (s : SessionState) :
    (cut.scan path).value s.host = ((r.run path none).runFrom s).1 := by
  rw [← Steps.alone_fst, Cutting.scan_does cut path s]
  rfl

theorem leaves_scan (cut : r.Cutting) (path : Path) (s : SessionState) :
    (cut.scan path).leaves s.host = ((r.run path none).runFrom s).2.host := by
  rw [← Steps.alone_host, Cutting.scan_does cut path s]
  rfl

/-- The outcome of the scan of the package at a path. -/
def outcomeAt (r : Runner) (path : Path) : Attempt RunError PackageOutcome := do
  let result ← Attempt.outcome (r.run path none)
  return { path, result }

theorem runFrom_outcomeAt (r : Runner) (path : Path) (s : SessionState) :
    (r.outcomeAt path).runFrom s =
      (.ok ⟨path, ((r.run path none).runFrom s).1⟩, ((r.run path none).runFrom s).2) := rfl

/-- Scans one after the other, each of which keeps to its own places, come to what they come to
alone. The job of the first package is `k`, and to this job and the later ones the machine looks as
it did in the beginning. -/
theorem exists_mapM_outcomes {h : Host} (paths : List Path) (k : Nat)
    (apart : ∀ i path, paths[i]? = some path → (cut.scan path).Local owner (k + i) h)
    (s : SessionState) (alike : ∀ i, k ≤ i → Alike owner i h s.host) :
    ∃ s', (paths.mapM r.outcomeAt).runFrom s =
      (.ok (paths.map fun path => ⟨path, (cut.scan path).value h⟩), s') := by
  induction paths generalizing k s with
  | nil => exact ⟨s, rfl⟩
  | cons path paths ih =>
    obtain ⟨hvalue, _, hspares⟩ := (apart 0 path rfl).value_eq (alike k le_rfl)
    rw [leaves_scan] at hspares
    rw [value_scan] at hvalue
    obtain ⟨s', hrest⟩ := ih (k + 1)
      (fun i p hp => by
        have := apart (i + 1) p hp
        rwa [Nat.add_right_comm, Nat.add_assoc])
      ((r.run path none).runFrom s).2
      (fun i hi => (alike i (by omega)).trans (hspares.alike (by omega)))
    refine ⟨s', ?_⟩
    rw [List.mapM_cons, Attempt.runFrom_bind_of_ok _ (runFrom_outcomeAt r path s),
      Attempt.runFrom_bind_of_ok _ hrest, hvalue]
    rfl

/-- A workspace at a directory is scanned package by package. -/
theorem exists_runWorkspace {root : Path} {s : SessionState}
    (directory : s.host.hasDirectory root = true)
    (apart : ∀ i path, (r.workspacePackages s.host root)[i]? = some path →
      (cut.scan path).Local owner i s.host) :
    ∃ s', (r.runWorkspace root).runFrom s =
      (.ok ((r.workspacePackages s.host root).map fun path =>
        ⟨path, ((r.run path none).runFrom s).1⟩), s') := by
  obtain ⟨s', hscans⟩ := exists_mapM_outcomes (r.workspacePackages s.host root) 0
    (fun i path hp => by
      rw [Nat.zero_add]
      exact apart i path hp) s fun i _ => .refl s.host
  simp only [value_scan] at hscans
  refine ⟨s', ?_⟩
  unfold runWorkspace
  rw [Attempt.runFrom_bind_of_ok _ (Attempt.runFrom_lift Session.host s), Session.runFrom_host]
  simp only [directory, Bool.not_true, Bool.false_eq_true, if_false]
  exact hscans

/-! ## Scans by several workers -/

/-- However the steps of scans are mixed that keep to their own places, the scans come to what they
come to alone, and a run does not stop before all of them are done. -/
theorem outcomes_of_steps {paths : List Path} {s : SessionState}
    (apart : ∀ i path, paths[i]? = some path → (cut.scan path).Local owner i s.host)
    {workers : Nat} (hworkers : 0 < workers) {p : Pool (Except RunError ScanResult)}
    (hrun : ReflTransGen (Pool.Step workers) (Pool.waiting (paths.map cut.scan) s) p) :
    (∃ p', Pool.Step workers p p') ∨
      p.jobs.map (·.task) = paths.map fun path => .done ((r.run path none).runFrom s).1 := by
  have hsettled : (Pool.waiting (paths.map cut.scan) s).Settled owner
      ((paths.map cut.scan).map (·.value s.host)) := by
    refine .waiting fun i task htask => ?_
    rw [List.getElem?_map] at htask
    obtain ⟨path, hpath, rfl⟩ := Option.map_eq_some_iff.1 htask
    exact apart i path hpath
  by_cases hended : ∀ j ∈ p.jobs, ∃ v, j.task = .done v
  · right
    rw [(hsettled.run hrun).eq_done hended, List.map_map, List.map_map]
    exact List.map_congr_left fun path _ => congrArg Steps.done (value_scan cut path s)
  · left
    simp only [not_forall, not_exists] at hended
    obtain ⟨j, hj, hopen⟩ := hended
    exact Pool.exists_step hworkers hj hopen

/-- **The scans of a workspace do not notice each other.** The packages are those that are found and
not to be ignored, in the order in which they are found. Where each scan keeps to its own places,
that is, where along its way alone no step depends on what belongs to another scan or changes it,
there is one outcome for each package, in this order, and it is what the scan of the package comes
to alone, a failure included: one after the other, and with any number of workers, however the steps
of the scans are mixed. Then every run ends, and it does not stop before all scans are done. -/
theorem runWorkspace_outcomes_alone (r : Runner) (cut : r.Cutting) {root : Path}
    {s : SessionState} (directory : s.host.hasDirectory root = true)
    {owner : Place → Option Nat}
    (apart : ∀ i path, (r.workspacePackages s.host root)[i]? = some path →
      (cut.scan path).Local owner i s.host) :
    let packages := r.workspacePackages s.host root
    let start := Pool.waiting (packages.map cut.scan) s
    packages =
      (s.host.findPackages root).filter (fun path => !path.fileName?.any r.exceptions.ignores) ∧
    (∃ s', (r.runWorkspace root).runFrom s =
      (.ok (packages.map fun path => ⟨path, ((r.run path none).runFrom s).1⟩), s')) ∧
    ∀ workers, 0 < workers →
      Acc (fun p' p => Pool.Step workers p p') start ∧
      ∀ p, ReflTransGen (Pool.Step workers) start p →
        (∃ p', Pool.Step workers p p') ∨
          p.jobs.map (·.task) =
            packages.map fun path => .done ((r.run path none).runFrom s).1 :=
  ⟨workspacePackages_eq_filter r s.host root, exists_runWorkspace directory apart,
    fun workers hworkers => ⟨Pool.acc_step workers _, fun _ => outcomes_of_steps apart hworkers⟩⟩

/-- Where a scan notes that it has seen a package. -/
def seenAt (name : String) : Place := ["w", name, "seen"]

/-- A tool that finds nothing and notes that it has seen a package. -/
def stampTool : ToolPlugin where
  name := "stamp"
  fileTypes := []
  run _ _ _ _ _ := return []
  issuesOf _ _ _ := return []
  scan _ p _ := do
    let _ ← (Session.changeFiles fun t _ => .ok (t.set (seenAt p.name) (.file [] 0o644)) :
      Session _)
    return []

/-- A runner with this tool alone. -/
def stampRunner : Runner where
  context := {
    settings := { level := some "basic" }
    config := { levels := .ofList [("basic", { tool := some (.ofList [("stamp", none)]) })] }
    resources := { defaultPath := ⟨"/"⟩ } }
  exceptions := {}
  profile := none
  registry := .ofLists [] [stampTool] []

/-- The tool is carried out in a single step. -/
def stampCutting : stampRunner.Cutting where
  discovery _ p _ := pure p
  tool _ p _ := do
    let _ ← Steps.changeFiles fun t _ => .ok (t.set (seenAt p.name) (.file [] 0o644))
    return .ok []
  report _ _ _ _ := return .ok none
  discovery_does name d hd := by cases hd
  tool_does name t ht p level := by
    have hmem : (name, t) ∈ [("stamp", stampTool)] := SortedTable.get?_eq_some_iff.1 ht
    obtain ⟨rfl, rfl⟩ := Prod.mk.inj (List.mem_singleton.1 hmem)
    exact .bind (.changeFiles _) fun _ => .pure _
  report_does name plugin hp := by cases hp

section

variable {i : Nat} {h : Host} {p : Package}

theorem runTools_stamp :
    stampCutting.runTools p "basic" = stampCutting.runTool p "basic" {} "stamp" := by
  have horder : stampRunner.toolOrder "basic" = .ok ["stamp"] := by decide +kernel
  unfold Cutting.runTools
  rw [horder]
  rfl

theorem local_stampTool (hown : owner (seenAt p.name) = some i) :
    (stampCutting.runTool p "basic" {} "stamp").run.Local owner i h :=
  ⟨fun _ a => ⟨rfl, a.put _ _, .put hown _⟩, trivial⟩

theorem value_stampTool :
    (stampCutting.runTool p "basic" {} "stamp").run.value h =
      .ok { issues := SortedTable.empty.insert "stamp" [] } := rfl

/-- The scan of a package keeps to the place of its note. -/
theorem local_stampScan {path root : Path}
    (hroot : ∀ h', Alike owner i h h' → h'.canonical? path = some root)
    (hown : owner (seenAt (Package.ofPath root).name) = some i) :
    (stampCutting.scan path).Local owner i h := by
  refine Steps.Local.hostBind (fun h' a => by simp only [hroot h' a, hroot h (.refl h)]) ?_
  simp only [hroot h (.refl h)]
  generalize Package.ofPath root = p at hown ⊢
  have hlevel : stampRunner.levelOf p.name none = "basic" := rfl
  have hknown : stampRunner.context.config.hasLevel "basic" = true := by decide +kernel
  have hcounts : stampRunner.exceptions.ignores p.name = false := rfl
  simp only [hlevel, hknown, hcounts, Bool.not_true, Bool.false_eq_true, if_false]
  have hdiscovery : stampCutting.runDiscovery p "basic" = pure p := by
    have hnames : stampRunner.discoveryNames "basic" = .ok [] := by decide +kernel
    unfold Cutting.runDiscovery
    rw [hnames]
    rfl
  have hreports : stampRunner.context.config.enabledPlugins "basic" .reporting = .ok [] := by
    decide +kernel
  refine Steps.Local.bindAttempt (by exact trivial) fun _ _ => ?_
  rw [hdiscovery]
  refine Steps.Local.bindAttempt (by exact trivial) fun q hq => ?_
  cases hq
  rw [runTools_stamp]
  refine Steps.Local.bindAttempt (local_stampTool hown) fun tally htally => ?_
  -- The filter looks at the files of the issues, and there are none.
  rw [value_stampTool, Except.ok.injEq] at htally
  subst htally
  refine Steps.Local.hostBind (fun _ _ => rfl) ?_
  refine Steps.Local.bindAttempt (by exact trivial) fun _ _ => ?_
  unfold Cutting.runReports
  rw [hreports]
  exact trivial

end

/-- A session on a machine with two packages, one of which holds the output directory. -/
def pairSession : SessionState where
  host := { bareSession.host with
    files := ⟨[(["w"], .directory), (["w", "a"], .directory),
      (["w", "a", "setup.py"], .file [] 0o644), (["w", "b"], .directory),
      (["w", "b", "out"], .directory), (["w", "b", "setup.py"], .file [] 0o644)]⟩ }

/-- Two packages that hold markers are found, where all other directories lie in the second one. -/
theorem findPackages_pair {h : Host} {inside : List (List String)}
    (found : h.files.find h.workingDirectory ⟨"/w"⟩ = .ok (["w"], .directory))
    (sorted : (h.files.listedBelow ["w"]).Pairwise fun a b =>
      (!decide (b.names < a.names)) = true)
    (directories : ((h.files.listedBelow ["w"]).filter (·.entry.isDirectory)).map (·.names) =
      ["a"] :: ["b"] :: inside)
    (inSecond : ∀ names ∈ inside, (["b"].isPrefixOf names) = true)
    (markers : h.holdsMarker (Host.pathBelow ⟨"/w"⟩ ["a"]) = true ∧
      h.holdsMarker (Host.pathBelow ⟨"/w"⟩ ["b"]) = true) :
    h.findPackages ⟨"/w"⟩ = [⟨"/w/a"⟩, ⟨"/w/b"⟩] := by
  have hshown : isHidden ["a"] = false ∧ isHidden ["b"] = false := by decide +kernel
  have hinside : inside.dropWhile (["b"].isPrefixOf ·) = [] :=
    List.dropWhile_eq_nil_iff.2 inSecond
  have houtermost : outermost (fun names => h.holdsMarker (Host.pathBelow ⟨"/w"⟩ names))
      (["a"] :: ["b"] :: inside) = [["a"], ["b"]] := by
    simp [outermost, markers, hshown, hinside]
  rw [Host.findPackages_of_sorted found sorted, directories, houtermost]
  decide +kernel

theorem findPackages_pairSession :
    pairSession.host.findPackages ⟨"/w"⟩ = [⟨"/w/a"⟩, ⟨"/w/b"⟩] :=
  findPackages_pair rfl (by decide +kernel)
    (by decide +kernel : _ = ["a"] :: ["b"] :: [["b", "out"]]) (by decide) (by decide +kernel)

/-- A package is found on every machine that looks alike to its scan. -/
theorem canonical?_pairSession {i : Nat} {h : Host} (name : String)
    (hname : name = "a" ∨ name = "b") (hfree : owner ["w"] = none ∧ owner ["w", name] = none)
    (a : Alike owner i pairSession.host h) :
    h.canonical? ⟨"/w/" ++ name⟩ = some ⟨"/" ++ Text.join "/" ["w", name]⟩ := by
  have hw : h.files.entry? ["w"] = some .directory := a.entry? (by simp [mayLook, hfree])
  have hpackage : h.files.entry? ["w", name] = some .directory := by
    rw [a.entry? (by simp [mayLook, hfree])]
    rcases hname with rfl | rfl <;> rfl
  refine Host.canonical?_of_directories ?_ ?_ ?_ ?_
  · rcases hname with rfl | rfl <;> decide +kernel
  · rcases hname with rfl | rfl <;> decide +kernel
  · rcases hname with rfl | rfl <;> decide
  · intro above habove
    obtain rfl | ⟨rest, rfl, rfl | rfl⟩ :
        above = [] ∨ ∃ rest, above = "w" :: rest ∧ (rest = [] ∨ rest = [name]) := by
      simpa [List.prefix_cons_iff] using habove
    · rfl
    · exact hw
    · exact hpackage

theorem forall_getElem?_pair {α : Type} {P : Nat → α → Prop} {a b : α} (ha : P 0 a) (hb : P 1 b) :
    ∀ i x, [a, b][i]? = some x → P i x := by
  intro i x hx
  match i, hx with
  | 0, hx => exact Option.some.inj hx ▸ ha
  | 1, hx => exact Option.some.inj hx ▸ hb

/-- Who writes the notes of the two scans. -/
def noteOwner (place : Place) : Option Nat :=
  if place = seenAt "a" then some 0 else if place = seenAt "b" then some 1 else none

/-- Two scans by two workers. -/
theorem runWorkspace_stampRunner :
    let s := pairSession
    let start := Pool.waiting [stampCutting.scan ⟨"/w/a"⟩, stampCutting.scan ⟨"/w/b"⟩] s
    stampRunner.workspacePackages s.host ⟨"/w"⟩ = [⟨"/w/a"⟩, ⟨"/w/b"⟩] ∧
      Acc (fun p' p => Pool.Step 2 p p') start ∧
      ∀ p, ReflTransGen (Pool.Step 2) start p →
        (∃ p', Pool.Step 2 p p') ∨
          p.jobs.map (·.task) = [.done ((stampRunner.run ⟨"/w/a"⟩ none).runFrom s).1,
            .done ((stampRunner.run ⟨"/w/b"⟩ none).runFrom s).1] := by
  have hdirectory : pairSession.host.hasDirectory ⟨"/w"⟩ = true := by decide +kernel
  have hpackages : stampRunner.workspacePackages pairSession.host ⟨"/w"⟩ =
      [⟨"/w/a"⟩, ⟨"/w/b"⟩] := by
    unfold workspacePackages
    rw [findPackages_pairSession]
    decide +kernel
  have hapart : ∀ i path,
      (stampRunner.workspacePackages pairSession.host ⟨"/w"⟩)[i]? = some path →
        (stampCutting.scan path).Local noteOwner i pairSession.host := by
    rw [hpackages]
    exact forall_getElem?_pair
      (local_stampScan
        (fun h' a => canonical?_pairSession "a" (.inl rfl) ⟨rfl, rfl⟩ a) (by decide +kernel))
      (local_stampScan
        (fun h' a => canonical?_pairSession "b" (.inr rfl) ⟨rfl, rfl⟩ a) (by decide +kernel))
  have hscans := runWorkspace_outcomes_alone stampRunner stampCutting hdirectory hapart
  rw [hpackages] at hscans
  obtain ⟨_, _, hruns⟩ := hscans
  exact ⟨hpackages, hruns 2 (by decide)⟩

/-- A tool that keeps a log, and takes it for an issue if the log of another package lies in its
own. -/
def nosyTool : ToolPlugin where
  name := "nosy"
  fileTypes := []
  run _ _ _ _ _ := return []
  issuesOf _ _ _ := return []
  scan ctx p level := do
    let h ← Session.host
    ToolPlugin.keepLog "nosy" ctx p level ["done"]
    if h.hasFile (p.path.join ⟨"out/a-basic/nosy.log"⟩) then
      return [{ filename := "nosy.log", lineNumber := 1, tool := "nosy", issueType := "log",
                severity := 3, message := "done", certReference := none }]
    else return []

/-- A runner with this tool alone, whose output directory lies in a package. -/
def nosyRunner : Runner where
  context := {
    settings := { outputDirectory := some ⟨"/w/b/out"⟩, level := some "basic" }
    config := { levels := .ofList [("basic", { tool := some (.ofList [("nosy", none)]) })] }
    resources := { defaultPath := ⟨"/"⟩ } }
  exceptions := {}
  profile := none
  registry := .ofLists [] [nosyTool] []

/-- The scans of two packages write different files. Still the scan of the second one comes to
something else than alone: its package holds the output directory, and so the log of the first. -/
theorem runWorkspace_readsOtherOutput :
    let s := pairSession
    let first := (nosyRunner.run ⟨"/w/a"⟩ none).runFrom s
    let second := (nosyRunner.run ⟨"/w/b"⟩ none).runFrom s
    nosyRunner.workspacePackages s.host ⟨"/w"⟩ = [⟨"/w/a"⟩, ⟨"/w/b"⟩] ∧
      (first.2.host.files.changesSince s.host.files).map (·.1) =
        [["w", "b", "out", "a-basic"], ["w", "b", "out", "a-basic", "nosy.log"]] ∧
      (second.2.host.files.changesSince s.host.files).map (·.1) =
        [["w", "b", "out", "b-basic"], ["w", "b", "out", "b-basic", "nosy.log"]] ∧
      first.1.toOption.map (·.issueCount) = some 0 ∧
      second.1.toOption.map (·.issueCount) = some 0 ∧
      ((nosyRunner.runWorkspace ⟨"/w"⟩).runFrom s).1.toOption.map
        (·.map fun outcome => (outcome.path, outcome.result.toOption.map (·.issueCount))) =
        some [(⟨"/w/a"⟩, some 0), (⟨"/w/b"⟩, some 1)] := by
  have hpackages : nosyRunner.workspacePackages pairSession.host ⟨"/w"⟩ =
      [⟨"/w/a"⟩, ⟨"/w/b"⟩] := by
    unfold workspacePackages
    rw [findPackages_pairSession]
    decide +kernel
  simp only
  refine ⟨hpackages, by decide +kernel, by decide +kernel, by decide +kernel, by decide +kernel, ?_⟩
  have hdirectory : pairSession.host.hasDirectory ⟨"/w"⟩ = true := by decide +kernel
  unfold runWorkspace
  rw [Attempt.runFrom_bind_of_ok _ (Attempt.runFrom_lift Session.host pairSession),
    Session.runFrom_host]
  simp only [hdirectory, Bool.not_true, Bool.false_eq_true, if_false]
  rw [hpackages]
  decide +kernel

end Runner

end LintScan
