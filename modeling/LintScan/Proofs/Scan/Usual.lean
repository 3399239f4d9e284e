import LintScan.Proofs.Discovery.Walk
import LintScan.Proofs.Pool.Keeps
import LintScan.Proofs.Scan.Cutting
import LintScan.Proofs.Scan.Discreet

/-!
# Plugins in steps

The built-in plugins take few steps.  A walk looks at the names of the files, and then at each file;
a tool runs, keeps its log, and has its output read; a report makes its directory and writes its
file.  This file cuts such plugins into these steps:

* `Steps.collect`, `Steps.usualScan`, `Steps.report` — the plugins of each kind in steps.
* `Registry.Usual`, `Registry.usual_builtin` — the registries of such plugins, as that of the
  built-in ones.
* `Runner.usualCutting` — a runner with such a registry, cut into steps.
-/

namespace LintScan

open Session

theorem Steps.KeepsAttempt.ofExcept {ε α : Type} {owner : Place → Option Nat} {i : Nat}
    {C : Host → Prop} {h : Host} (wrap : ε → RunError) (x : Except ε α) (hC : C h) :
    KeepsAttempt owner i C h (Steps.ofExcept wrap x) fun _ => True := by
  cases x with
  | error e => exact .throw _ hC
  | ok a => exact .pure hC trivial

/-! ## Discovery -/

/-- What there is to walk: the files below the path of a package, and whether there is a program to
sniff at them. -/
def Package.listing (p : Package) : Session (List Path × Bool) := do
  let h ← Session.host
  return (h.regularFiles p.path, h.commandExists sniffer)

theorem Package.onlyLooks_listing (p : Package) : p.listing.OnlyLooks :=
  Looks.host.onlyLooks.bind fun _ => (OnlyNotes.pure _).onlyLooks

namespace Steps

/-- A walk in steps: a look at what files there are, and one at each of them. -/
def walk (p : Package) : Steps Package := do
  if p.walked then return p
  let (paths, sniffs) ← look p.listing
  let records ← paths.mapM fun path => look (Package.examine sniffs path)
  return { p with files := some (.ofList (records.map fun r => (r.path.names, r))) }

/-- A discovery plugin of the usual kind in steps. -/
def collect (tag : String) (claims : PackageFile → Bool) (x : Exceptions) (p : Package) :
    Steps Package := do
  let p ← walk p
  let (kept, log) := x.filterFilesEarly p.name ((p.pathsClaimed claims).map (·.text))
  logAll log
  return p.setPaths tag (kept.map Path.mk)

theorem Does.walk (p : Package) : (Steps.walk p).Does p.walk := by
  unfold Steps.walk Package.walk
  split
  · exact .pure p
  · exact (Does.look p.onlyLooks_listing).bind fun listing =>
      (Does.mapM (fun path => .look (Package.looks_examine _ path).onlyLooks) _).bind
        fun records => .pure _

theorem Does.collect (tag : String) (claims : PackageFile → Bool) (x : Exceptions) (p : Package) :
    (Steps.collect tag claims x p).Does (p.collect tag claims (some x)) :=
  (Does.walk p).bind fun _ => (Does.logAll _).bind fun _ => .pure _

end Steps

section

variable {owner : Place → Option Nat} {i : Nat} {h : Host}

/-- To sniff at files that are open to a job is not to notice what belongs to other ones. -/
def SniffsAlike (owner : Place → Option Nat) (i : Nat) (h : Host) : Prop :=
  (∀ h', Alike owner i h h' →
    h'.commandExists Package.sniffer = h.commandExists Package.sniffer) ∧
  ∀ path, OpenTo owner i h.files path → (Package.sniff path).SeesAlike owner i h

/-- A program is started alike where it is found alike and does the same. -/
theorem Session.seesAlike_start {name : String} {args : List String}
    (found : ∀ h', Alike owner i h h' → h'.findProgram name = h.findProgram name)
    (runs : ∀ h', Alike owner i h h' → ∀ place, h.findProgram name = .ok place →
      h'.runProgram place args = h.runProgram place args) :
    (Session.start name args).SeesAlike owner i h := by
  intro h' a j
  unfold Session.start
  rw [runFrom_bind, runFrom_bind, runFrom_host, runFrom_host]
  simp only [found h' a]
  cases hplace : h.findProgram name with
  | error e => exact ⟨rfl, rfl⟩
  | ok place =>
    simp only [runs h' a place hplace]
    cases h.runProgram place args with
    | error e => exact ⟨rfl, rfl⟩
    | ok run => exact ⟨rfl, rfl⟩

theorem Package.seesAlike_sniff {path : Path}
    (starts : (Session.start Package.sniffer [path.text]).SeesAlike owner i h) :
    (Package.sniff path).SeesAlike owner i h := by
  refine .bind (Session.looks_start _ _).onlyLooks starts fun outcome => .of_onlyNotes ?_
  cases outcome with
  | error e => exact .bind (.log _ _) fun _ => .pure _
  | ok run =>
    simp only
    split
    · exact .pure _
    · exact .bind (.log _ _) fun _ => .pure _
    · exact .bind (.log _ _) fun _ => .pure _

/-- It is enough that the search path is open, and that the sniffing program reads no other file. -/
theorem sniffsAlike_of_open
    (searched : ∀ d ∈ Host.directoriesOf (h.searchPath.getD Host.standardPath),
      OpenTo owner i h.files (d.join ⟨Package.sniffer⟩))
    (runs : ∀ path, OpenTo owner i h.files path → ∀ h', Alike owner i h h' → ∀ place,
      h'.runProgram place [path.text] = h.runProgram place [path.text]) :
    SniffsAlike owner i h := by
  refine ⟨fun h' a => a.commandExists_eq (by decide +kernel) searched, fun path o => ?_⟩
  exact Package.seesAlike_sniff (Session.seesAlike_start
    (fun h' a => a.findProgram_eq (by decide) searched) fun h' a place _ => runs path o h' a place)

theorem Package.seesAlike_examine {path : Path} (sniffs : SniffsAlike owner i h)
    (o : OpenTo owner i h.files (h.absolute path)) (doSniff : Bool) :
    (Package.examine doSniff path).SeesAlike owner i h := by
  refine .hostBind (fun h' a => ?_) ?_
  · have hsame : h'.absolute path = h.absolute path := by
      rw [a.eq_files]
      rfl
    simp only [hsame]
  · cases doSniff with
    | false => exact .of_onlyNotes (Session.OnlyNotes.pure _)
    | true =>
      exact .bind (Package.looks_sniff _).onlyLooks (sniffs.2 _ o) fun _ =>
        .of_onlyNotes (Session.OnlyNotes.pure _)

end

/-! ## Tools -/

/-- A tool that finds its issues in the usual way, and does nothing but look when it runs and when
its output is read. -/
structure ToolPlugin.Usual (t : ToolPlugin) : Prop where
  scan : t.scan = usualScan t.name t.fileTypes t.run t.issuesOf
  run : ∀ ctx p level files flags, (t.run ctx p level files flags).OnlyLooks
  issuesOf : ∀ ctx output p, (t.issuesOf ctx output p).OnlyLooks

theorem ToolError.onlyNotes_ofConfig {α : Type} (x : Except ConfigError α) :
    (ToolError.ofConfig x).OnlyNotes := by
  cases x with
  | ok a => exact .pure a
  | error e => exact .throw _

namespace Steps

/-- Keeps the log of a tool in one step. -/
def keepLog (tool : String) (ctx : PluginContext) (p : Package) (level : String)
    (output : List String) : Steps Unit := do
  match ctx.settings.packageOutput? p.name level with
  | none => return ()
  | some dir =>
    let path := ToolPlugin.logFile dir tool
    let bytes := Text.Utf8.encode (String.join output)
    match ← changeFiles fun t cwd => t.write cwd path bytes with
    | .ok () => return ()
    | .error e => warn ("unable to write " ++ path.text ++ ": " ++ e.message)

/-- A tool of the usual kind in steps: its run, its log, and the reading of its output. -/
def usualScan (t : ToolPlugin) (ctx : PluginContext) (p : Package) (level : String) :
    ExceptT ToolError Steps (List Issue) := do
  let files := t.fileTypes.flatMap p.paths
  if files.isEmpty then return []
  let flags ← lookAttempt (ToolError.ofConfig (ctx.config.userFlags t.name level))
  let output ← lookAttempt (t.run ctx p level files flags)
  keepLog t.name ctx p level output
  lookAttempt (t.issuesOf ctx output p)

theorem Does.keepLog (tool : String) (ctx : PluginContext) (p : Package) (level : String)
    (output : List String) :
    (Steps.keepLog tool ctx p level output).Does (ToolPlugin.keepLog tool ctx p level output) := by
  unfold Steps.keepLog ToolPlugin.keepLog
  cases ctx.settings.packageOutput? p.name level with
  | none => exact .pure ()
  | some dir =>
    refine (Does.changeFiles _).bind fun outcome => ?_
    cases outcome with
    | ok _ => exact .pure ()
    | error e => exact .warn _

theorem DoesAttempt.usualScan {t : ToolPlugin} (usual : t.Usual) (ctx : PluginContext)
    (p : Package) (level : String) :
    DoesAttempt (Steps.usualScan t ctx p level) (t.scan ctx p level) := by
  rw [usual.scan]
  unfold Steps.usualScan ToolPlugin.usualScan
  simp only
  split
  · exact .pure _
  · exact .bind (.lookAttempt (ToolError.onlyNotes_ofConfig _).onlyLooks) fun flags =>
      .bind (.lookAttempt (usual.run _ _ _ _ _)) fun output =>
        .bind (.lift (.keepLog _ _ _ _ _)) fun _ => .lookAttempt (usual.issuesOf _ _ _)

end Steps

theorem Session.onlyLooks_start (name : String) (args : List String) :
    (start name args).OnlyLooks := (looks_start name args).onlyLooks

theorem onlyLooks_runTool (tool binary : String) (args : List String) (expected : Int → Bool) :
    (runTool tool binary args expected).OnlyLooks := by
  refine .bind (.lift (onlyLooks_start binary args)) fun outcome => ?_
  cases outcome with
  | error e =>
    exact Attempt.OnlyNotes.onlyLooks (.bind (.lift (OnlyNotes.log _ _)) fun _ => .throw _)
  | ok run =>
    simp only
    split
    · exact Attempt.OnlyNotes.onlyLooks (.bind (.lift (OnlyNotes.log _ _)) fun _ => .throw _)
    · split
      · exact .pure _
      · exact Attempt.OnlyNotes.onlyLooks (.bind (.lift (OnlyNotes.log _ _)) fun _ =>
          .bind (.lift (OnlyNotes.log _ _)) fun _ => .throw _)

namespace ToolPlugin

variable {ctx : PluginContext} {p : Package} {level : String}

theorem onlyLooks_runForText (tool : String) (flags userFlags : List String) (files : List Path)
    (expected : Int → Bool) : (runForText tool ctx flags userFlags files expected).OnlyLooks :=
  onlyLooks_runTool _ _ _ _

theorem onlyLooks_run_markdownlint (files : List Path) (flags : List String) :
    (markdownlint.run ctx p level files flags).OnlyLooks := by
  unfold markdownlint
  refine .bind (ToolError.onlyNotes_ofConfig _).onlyLooks fun name =>
    .bind (.lift Looks.host.onlyLooks) fun h => .bind (onlyLooks_runForText _ _ _ _ _) fun o => ?_
  split
  · exact Attempt.OnlyNotes.onlyLooks (.bind (.lift (OnlyNotes.log _ _)) fun _ => .throw _)
  · exact .pure _

theorem onlyLooks_issuesOf_pylint (output : List String) :
    (pylint.issuesOf ctx output p).OnlyLooks :=
  .bind (.lift Looks.host.onlyLooks) fun _ =>
    Attempt.OnlyNotes.onlyLooks (.bind (.lift (OnlyNotes.logAll _)) fun _ => .pure _)

theorem onlyLooks_issuesOf_shellcheck (output : List String) :
    (shellcheck.issuesOf ctx output p).OnlyLooks := by
  unfold shellcheck
  simp only
  split
  · exact .pure _
  · exact .throw _

/-- The built-in tools are usual ones. -/
theorem usual_builtin {t : ToolPlugin} (ht : t ∈ builtin) : t.Usual := by
  simp only [builtin, List.mem_cons, List.not_mem_nil, or_false] at ht
  rcases ht with rfl | rfl | rfl | rfl | rfl
  · exact ⟨rfl, fun _ _ _ _ _ => .bind (onlyLooks_runForText _ _ _ _ _) fun _ => .pure _,
      fun _ output _ => onlyLooks_issuesOf_pylint output⟩
  · exact ⟨rfl, fun _ _ _ _ _ => .bind (onlyLooks_runForText _ _ _ _ _) fun _ => .pure _,
      fun _ _ _ => .pure _⟩
  · exact ⟨rfl, fun _ _ _ _ _ => .bind (onlyLooks_runForText _ _ _ _ _) fun _ => .pure _,
      fun _ output _ => onlyLooks_issuesOf_shellcheck output⟩
  · exact ⟨rfl, fun _ _ _ _ _ => .bind (onlyLooks_runForText _ _ _ _ _) fun _ => .pure _,
      fun _ _ _ => .pure _⟩
  · exact ⟨rfl, fun _ _ _ files flags => onlyLooks_run_markdownlint files flags,
      fun _ _ _ => .pure _⟩

end ToolPlugin

/-! ## Reports -/

namespace Steps

/-- The outcome of a change of files inside a report. -/
def ofChange (path : Path) (change : FileTree → Place → Except FileError FileTree) :
    ExceptT ReportError Steps Unit := do
  match ← (changeFiles change : Steps _) with
  | .ok () => return ()
  | .error e => throw (.unwritable path e)

/-- Writes a report in two steps: the directory is made, and the file is written. -/
def writeReport (dir : Path) (package level suffix contents : String) :
    ExceptT ReportError Steps Path := do
  let path := reportFile dir package level suffix
  ofChange dir fun t cwd => t.makeDirectories cwd dir
  ofChange path fun t cwd => t.write cwd path (Text.Utf8.encode contents)
  return path

/-- The report of a plugin in steps. Reports that write no file are made in one step. -/
def report (plugin : ReportingPlugin) (ctx : PluginContext) (p : Package) (issues : IssueMap)
    (level : String) : ExceptT ReportError Steps (Option Json) :=
  if plugin.name = ReportingPlugin.json.name then do
    let toFile ← lookAttempt (ReportingPlugin.isSwitchedOn ctx "json" level "files")
    let toTerminal ← lookAttempt (ReportingPlugin.isSwitchedOn ctx "json" level "terminal")
    let line := issues.document.write
    if toFile then
      let _ ← writeReport (ctx.reportDirectory p.name level) p.name level documentSuffix line
    if toTerminal then
      (look (Session.printLine line) : Steps _)
    return none
  else if plugin.name = ReportingPlugin.records.name then
    match ctx.settings.packageOutput? p.name level with
    | none => return none
    | some dir => do
      let _ ← writeReport dir p.name level recordsSuffix issues.recordLines
      return none
  else lookAttempt (plugin.report ctx p issues level)

theorem DoesAttempt.ofChange (path : Path)
    (change : FileTree → Place → Except FileError FileTree) :
    DoesAttempt (Steps.ofChange path change)
      (ReportError.ofChange path (Session.changeFiles change)) := by
  refine .bind (.lift (.changeFiles change)) fun outcome => ?_
  cases outcome with
  | ok _ => exact .pure ()
  | error e => exact .throw _

theorem KeepsAttempt.ofChange {owner : Place → Option Nat} {i : Nat} {C : Host → Prop} {h : Host}
    {path : Path} {change : FileTree → Place → Except FileError FileTree}
    (hchange : Keeps owner i C h (Steps.changeFiles change) fun _ => True) :
    KeepsAttempt owner i C h (Steps.ofChange path change) fun _ => True := by
  refine .bind (.lift hchange) fun outcome _ h₁ hC₁ => ?_
  cases outcome with
  | ok _ => exact .pure hC₁ trivial
  | error e => exact .throw _ hC₁

theorem DoesAttempt.writeReport (dir : Path) (package level suffix contents : String) :
    DoesAttempt (Steps.writeReport dir package level suffix contents)
      (LintScan.writeReport dir package level suffix contents) :=
  .bind (.ofChange _ _) fun _ => .bind (.ofChange _ _) fun _ => .pure _

end Steps

namespace ReportingPlugin

variable {ctx : PluginContext} {p : Package} {issues : IssueMap} {level : String}

theorem onlyNotes_isSwitchedOn (plugin key : String) :
    (isSwitchedOn ctx plugin level key).OnlyNotes := by
  unfold isSwitchedOn
  split
  · exact .pure _
  · exact .throw _

/-- The console report prints its lines, once it knows whether colours are wanted. -/
theorem onlyNotes_console (colours : Bool) : Attempt.OnlyNotes (do
    for line in issues.consoleLines colours do
      Session.printLine line
    return some (Summary.ofIssues issues).json : Attempt ReportError (Option Json)) :=
  .bind (.forIn (fun _ _ => .bind (.lift (OnlyNotes.printLine _)) fun _ => .pure _) _)
    fun _ => .pure _

theorem onlyLooks_console : (console.report ctx p issues level).OnlyLooks :=
  .bind (.lift Looks.host.onlyLooks) fun h => (onlyNotes_console (!h.noColor)).onlyLooks

theorem seesAlike_console {owner : Place → Option Nat} {i : Nat} {h : Host} :
    Session.SeesAlike owner i h (ReportingPlugin.console.report ctx p issues level).run := by
  refine .hostBindAttempt (fun h' a => ?_)
    (.of_onlyNotes (ReportingPlugin.onlyNotes_console (!h.noColor)))
  have hsame : h'.noColor = h.noColor := by rw [a.eq_files]
  simp only [hsame]

end ReportingPlugin

namespace Steps

variable {ctx : PluginContext} {p : Package} {issues : IssueMap} {level : String}

theorem DoesAttempt.jsonReport :
    DoesAttempt (Steps.report .json ctx p issues level)
      (ReportingPlugin.json.report ctx p issues level) := by
  unfold Steps.report ReportingPlugin.json
  rw [if_pos rfl]
  refine .bind (.lookAttempt (ReportingPlugin.onlyNotes_isSwitchedOn _ _).onlyLooks) fun toFile =>
    .bind (.lookAttempt (ReportingPlugin.onlyNotes_isSwitchedOn _ _).onlyLooks)
      fun toTerminal => ?_
  have hprint : DoesAttempt
      (liftM (look (printLine issues.document.write)) : ExceptT ReportError _ _)
      (liftM (printLine issues.document.write)) := .lift (.look (OnlyNotes.printLine _).onlyLooks)
  cases toFile with
  | false =>
    cases toTerminal with
    | false => exact .pure none
    | true => exact hprint.bind fun _ => .pure none
  | true =>
    refine .bind (.writeReport _ _ _ _ _) fun _ => ?_
    cases toTerminal with
    | false => exact .pure none
    | true => exact hprint.bind fun _ => .pure none

theorem DoesAttempt.recordsReport :
    DoesAttempt (Steps.report .records ctx p issues level)
      (ReportingPlugin.records.report ctx p issues level) := by
  unfold Steps.report ReportingPlugin.records
  rw [if_neg (by decide), if_pos rfl]
  simp only
  cases ctx.settings.packageOutput? p.name level with
  | none => exact .pure none
  | some dir => exact .bind (.writeReport _ _ _ _ _) fun _ => .pure none

theorem DoesAttempt.report {plugin : ReportingPlugin} (h : plugin ∈ ReportingPlugin.builtin) :
    DoesAttempt (Steps.report plugin ctx p issues level) (plugin.report ctx p issues level) := by
  simp only [ReportingPlugin.builtin, List.mem_cons, List.not_mem_nil, or_false] at h
  rcases h with rfl | rfl | rfl | rfl
  · exact .lookAttempt ReportingPlugin.onlyLooks_console
  · exact .jsonReport
  · exact .recordsReport
  · exact .lookAttempt (.pure none)

end Steps

/-! ## Registries -/

/-- A registry of plugins that take the usual steps: those that run before the tools collect files,
the tools are usual ones, and the reports are built-in ones. -/
structure Registry.Usual (g : Registry) : Prop where
  discovery : ∀ name d, g.discovery.get? name = some d →
    d.scan = fun _ p _ x => Package.collect d.tag d.claims x p
  tool : ∀ name t, g.tool.get? name = some t → t.Usual
  reporting : ∀ name plugin, g.reporting.get? name = some plugin →
    plugin ∈ ReportingPlugin.builtin

/-- The built-in plugins take the usual steps. -/
theorem Registry.usual_builtin : builtin.Usual where
  discovery name d h := DiscoveryPlugin.scan_builtin (forall_ofLists.1 name d h)
  tool name t h := ToolPlugin.usual_builtin (forall_ofLists.2.1 name t h)
  reporting name plugin h := forall_ofLists.2.2 name plugin h

/-- A runner whose plugins take the usual steps, cut into these steps. -/
def Runner.usualCutting (r : Runner) (usual : r.registry.Usual) : r.Cutting where
  discovery name p _ :=
    match r.registry.discovery.get? name with
    | some d => Steps.collect d.tag d.claims r.exceptions p
    | none => return p
  tool name p level :=
    match r.registry.tool.get? name with
    | some t => (Steps.usualScan t r.context p level).run
    | none => return .ok []
  report name p issues level :=
    match r.registry.reporting.get? name with
    | some plugin => (Steps.report plugin r.context p issues level).run
    | none => return .ok none
  discovery_does name d hd p level := by
    rw [hd, usual.discovery name d hd]
    exact .collect _ _ _ _
  tool_does name t ht p level := by
    rw [ht]
    exact Steps.DoesAttempt.usualScan (usual.tool name t ht) _ _ _
  report_does name plugin hp p issues level := by
    rw [hp]
    exact Steps.DoesAttempt.report (usual.reporting name plugin hp)

end LintScan
