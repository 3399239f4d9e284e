import LintScan.Proofs.Files.Unlinked
import LintScan.Proofs.Scan.Discreet

/-!
# What a scan writes

A scan makes the output directory of its package; its tools keep their logs there, and its reports
are written there.  This file says that it changes nothing else on the machine:

* `Footprint`, `Changes` — where a computation may change files, and that it has changed none
  elsewhere.
* `Changes.entry?_eq_or` — what stands outside of a footprint stays as it is.
* `Registry.Tidy`, `Registry.tidy_builtin` — plugins that write nothing but logs and reports, as the
  built-in ones.
* `Runner.Output`, `Runner.changes_run` — the files that the scan of a package at a level writes.
-/

namespace LintScan

open Relation (ReflTransGen)

/-! ## Footprints -/

/-- Where files may change: at the directories that may be made, with those missing above them, and
at the files that may be written. -/
structure Footprint where
  makes : Path → Prop
  writes : Path → Prop

/-- No file may change. -/
def Footprint.nowhere : Footprint := ⟨fun _ => False, fun _ => False⟩

/-- One change within a footprint. -/
inductive FileTree.Change (F : Footprint) (cwd : Place) : FileTree → FileTree → Prop
  | make {t t' : FileTree} {dir : Path} :
      F.makes dir → t.makeDirectories cwd dir = .ok t' → Change F cwd t t'
  | write {t t' : FileTree} {file : Path} {bytes : List UInt8} :
      F.writes file → t.write cwd file bytes = .ok t' → Change F cwd t t'

namespace FileTree

variable {F : Footprint} {cwd : Place} {t t' : FileTree}

theorem extends_of_changes (h : ReflTransGen (Change F cwd) t t') : t.Extends t' := by
  induction h with
  | refl => exact .refl t
  | tail _ hchange ih =>
    cases hchange with
    | make _ hmade => exact ih.trans (.of_makeDirectories hmade)
    | write _ hwritten => exact ih.trans (.of_write hwritten)

theorem link_of_changes {place : Place} {target : Path} (h : ReflTransGen (Change F cwd) t t')
    (hlink : t'.entry? place = some (.link target)) : t.entry? place = some (.link target) := by
  induction h with
  | refl => exact hlink
  | tail _ hchange ih =>
    cases hchange with
    | make _ hmade => exact ih (link_of_makeDirectories hmade hlink)
    | write _ hwritten => exact ih (link_of_write hwritten hlink)

theorem unlinked_of_changes {place : Place} (h : ReflTransGen (Change F cwd) t t')
    (hplace : t.Unlinked place) : t'.Unlinked place :=
  fun names target hlink => hplace names target (link_of_changes h hlink)

end FileTree

/-- Between two states, files have changed within a footprint alone, and nothing else on the
machine has changed. -/
def Changes (F : Footprint) (s s' : SessionState) : Prop :=
  ∃ files, s'.host = { s.host with files } ∧
    ReflTransGen (FileTree.Change F s.host.workingDirectory) s.host.files files

namespace Changes

variable {F G : Footprint} {s s' s₁ : SessionState}

theorem of_host_eq (h : s'.host = s.host) : Changes F s s' := ⟨_, h, .refl⟩

theorem trans (h : Changes F s s₁) (h' : Changes F s₁ s') : Changes F s s' := by
  obtain ⟨files, hhost, hsteps⟩ := h
  obtain ⟨files', hhost', hsteps'⟩ := h'
  rw [hhost] at hhost' hsteps'
  exact ⟨files', hhost', hsteps.trans hsteps'⟩

instance : AllowsEntries (Changes F) where
  refl _ := of_host_eq rfl
  trans _ _ _ := trans
  entries _ _ _ := of_host_eq rfl

theorem mono (makes : ∀ p, F.makes p → G.makes p) (writes : ∀ p, F.writes p → G.writes p)
    (h : Changes F s s') : Changes G s s' := by
  obtain ⟨files, hhost, hsteps⟩ := h
  refine ⟨files, hhost, Relation.ReflTransGen.mono (fun t t' hchange => ?_) _ _ hsteps⟩
  cases hchange with
  | make hdir hmade => exact .make (makes _ hdir) hmade
  | write hfile hwritten => exact .write (writes _ hfile) hwritten

theorem of_nowhere (h : Changes .nowhere s s') : Changes F s s' :=
  h.mono (fun _ => False.elim) fun _ => False.elim

/-- **What stands outside of a footprint stays as it is.** An entry changes only if the path of a
file that may be written led to it in the meantime. -/
theorem entry?_eq_or (h : Changes F s s') {place : Place} {e : Entry}
    (he : s.host.files.entry? place = some e) :
    s'.host.files.entry? place = some e ∨
      ∃ file files, F.writes file ∧
        ReflTransGen (FileTree.Change F s.host.workingDirectory) s.host.files files ∧
        files.locate s.host.workingDirectory true file = .ok place := by
  obtain ⟨files, hhost, hsteps⟩ := h
  rw [hhost]
  clear hhost
  induction hsteps with
  | refl => exact .inl he
  | @tail t t' hsteps hchange ih =>
    refine ih.elim (fun hstays => ?_) .inr
    cases hchange with
    | make _ hmade => exact .inl (FileTree.entry?_makeDirectories hmade hstays)
    | @write file bytes hfile hwritten =>
      by_cases hthere : t.locate s.host.workingDirectory true file = .ok place
      · exact .inr ⟨file, t, hfile, hsteps, hthere⟩
      · exact .inl ((FileTree.entry?_write hwritten hthere).trans hstays)

end Changes

namespace Session

variable {F : Footprint}

theorem within_makeDirectories {dir : Path} (h : F.makes dir) :
    (makeDirectories dir).Within (Changes F) :=
  within_changeFiles fun _ files hmade => ⟨files, rfl, .single (.make h hmade)⟩

theorem within_writeFile {file : Path} (h : F.writes file) (bytes : List UInt8) :
    (writeFile file bytes).Within (Changes F) :=
  within_changeFiles fun _ files hwritten => ⟨files, rfl, .single (.write h hwritten)⟩

theorem within_note (t : Timing) : (note t).Within (Changes F) := fun _ => Changes.of_host_eq rfl

end Session

open Session

/-! ## Plugins -/

/-- A tool writes its log, if output is wanted. -/
def ToolPlugin.footprint (t : ToolPlugin) (ctx : PluginContext) (package level : String) :
    Footprint where
  makes _ := False
  writes file := ∃ dir, ctx.settings.packageOutput? package level = some dir ∧
    file = logFile dir t.name

/-- A report is written to a file in its directory, which is made if it is missing. -/
def PluginContext.reportFootprint (ctx : PluginContext) (package level : String) : Footprint where
  makes dir := dir = ctx.reportDirectory package level
  writes file := ∃ suffix ∈ reportSuffixes,
    file = reportFile (ctx.reportDirectory package level) package level suffix

/-- Plugins that write nothing but the logs of tools and reports, each where it belongs. Those that
run before the tools write nothing at all, and do not rename the package. -/
structure Registry.Tidy (g : Registry) : Prop where
  discovery : ∀ name d, g.discovery.get? name = some d → ∀ ctx p level x,
    (d.scan ctx p level x).Within (Changes .nowhere)
  name : ∀ name d, g.discovery.get? name = some d → ∀ ctx p level x s,
    ((d.scan ctx p level x).runFrom s).1.name = p.name
  tool : ∀ name t, g.tool.get? name = some t → ∀ ctx p level,
    (t.scan ctx p level).Within (Changes (t.footprint ctx p.name level))
  reporting : ∀ name plugin, g.reporting.get? name = some plugin → ∀ ctx p issues level,
    (plugin.report ctx p issues level).Within (Changes (ctx.reportFootprint p.name level))

/-- The built-in plugins are tidy. -/
theorem Registry.tidy_builtin : builtin.Tidy where
  discovery name d h _ _ _ _ := DiscoveryPlugin.within_builtin (forall_ofLists.1 name d h)
  name name d h _ _ _ _ s := DiscoveryPlugin.name_scan_builtin (forall_ofLists.1 name d h) s
  tool name t h _ _ _ := ToolPlugin.within_builtin (forall_ofLists.2.1 name t h)
    fun dir hdir => within_writeFile ⟨dir, hdir, rfl⟩
  reporting name plugin h _ _ _ _ := ReportingPlugin.within_builtin
    (forall_ofLists.2.2 name plugin h) (within_makeDirectories rfl)
    fun suffix hsuffix => within_writeFile ⟨suffix, hsuffix, rfl⟩

/-! ## Scans -/

namespace Runner

variable {r : Runner} {p : Package} {package level : String}

/-- The files that the scan of a package at a level writes: the logs of the tools and the reports.
-/
inductive Output (r : Runner) (package level : String) : Path → Prop
  | log {name : String} {t : ToolPlugin} {dir : Path} :
      r.registry.tool.get? name = some t →
      r.context.settings.packageOutput? package level = some dir →
      Output r package level (ToolPlugin.logFile dir t.name)
  | report {suffix : String} : suffix ∈ reportSuffixes →
      Output r package level
        (reportFile (r.context.reportDirectory package level) package level suffix)

/-- What the scan of a package at a level may change: it makes the directory of the reports, and
writes its output. -/
def footprint (r : Runner) (package level : String) : Footprint where
  makes dir := dir = r.context.reportDirectory package level
  writes := r.Output package level

theorem changes_prepareOutput (r : Runner) (package level : String) :
    (r.prepareOutput package level).Within (Changes (r.footprint package level)) := by
  refine r.within_prepareOutput fun dir hdir => within_makeDirectories ?_
  unfold footprint PluginContext.reportDirectory
  rw [hdir]
  rfl

theorem changes_runDiscovery (tidy : r.registry.Tidy) (p : Package) (level : String) :
    (r.runDiscovery p level).Within (Changes .nowhere) := by
  refine .bind (.ofExcept _ _) fun names => .bind (.ofExcept _ _) fun order =>
    .foldlM (fun p name => ?_) p order
  unfold discover
  split
  · exact .throw _
  · rename_i d hd
    exact .bind (.lift (tidy.discovery name d hd _ _ _ _)) fun p =>
      .bind (.lift (within_note _)) fun _ => .pure _

theorem name_discover (tidy : r.registry.Tidy) {scanned : Package} {name : String}
    {s s' : SessionState} (h : (r.discover level p name).runFrom s = (.ok scanned, s')) :
    scanned.name = p.name := by
  unfold discover at h
  split at h
  · cases h
  · rename_i d hd
    obtain ⟨found, s₁, hscan, h⟩ := Attempt.runFrom_bind_ok_iff.1 h
    cases h
    have hname := tidy.name name d hd r.context p level (some r.exceptions) s
    rw [Attempt.runFrom_lift] at hscan
    cases hscan
    exact hname

theorem name_foldlM_discover (tidy : r.registry.Tidy) {scanned : Package} {order : List String}
    {s s' : SessionState}
    (h : (order.foldlM (r.discover level) p).runFrom s = (.ok scanned, s')) :
    scanned.name = p.name := by
  induction order generalizing p s with
  | nil =>
    cases h
    rfl
  | cons name order ih =>
    rw [List.foldlM_cons] at h
    obtain ⟨found, s₁, hfound, h⟩ := Attempt.runFrom_bind_ok_iff.1 h
    exact (ih h).trans (name_discover tidy hfound)

/-- The plugins that run before the tools do not rename the package. -/
theorem name_runDiscovery (tidy : r.registry.Tidy) {scanned : Package} {s s' : SessionState}
    (h : (r.runDiscovery p level).runFrom s = (.ok scanned, s')) : scanned.name = p.name := by
  obtain ⟨names, _, _, h⟩ := Attempt.runFrom_bind_ok_iff.1 h
  obtain ⟨order, _, _, h⟩ := Attempt.runFrom_bind_ok_iff.1 h
  exact name_foldlM_discover tidy h

theorem changes_runTools (tidy : r.registry.Tidy) (p : Package) (level : String) :
    (r.runTools p level).Within (Changes (r.footprint p.name level)) := by
  refine .bind (.ofExcept _ _) fun order => .foldlM (fun tally name => ?_) _ order
  unfold runTool
  split
  · exact .throw _
  · rename_i t ht
    have hscan : (t.scan r.context p level).Within (Changes (r.footprint p.name level)) := by
      refine (tidy.tool name t ht r.context p level).mono fun s s' h =>
        h.mono (fun _ => False.elim) ?_
      rintro _ ⟨dir, hdir, rfl⟩
      exact .log ht hdir
    refine .bind hscan.outcome fun outcome => .bind (.lift (within_note _)) fun _ => ?_
    cases outcome with
    | ok found => exact .pure _
    | error e => exact .bind (.lift (within_log _ _)) fun _ => .pure _

theorem changes_runReports (tidy : r.registry.Tidy) (p : Package) (level : String)
    (result : ScanResult) :
    (r.runReports p level result).Within (Changes (r.footprint p.name level)) := by
  unfold runReports
  split
  · exact (within_log _ _).bind fun _ => .pure _
  · exact (within_log _ _).bind fun _ => .pure _
  · refine .foldlM (fun result name => ?_) _ _
    unfold report
    split
    · exact (within_log _ _).bind fun _ => .pure _
    · rename_i plugin hplugin
      have hreport : (plugin.report r.context p result.issues level).Within
          (Changes (r.footprint p.name level)) := by
        refine (tidy.reporting name plugin hplugin r.context p result.issues level).mono
          fun s s' h => h.mono (fun dir (hdir : _ = _) => hdir) ?_
        rintro _ ⟨suffix, hsuffix, rfl⟩
        exact .report hsuffix
      refine Within.bind hreport fun outcome => (within_note _).bind fun _ => ?_
      split
      · exact .pure _
      · exact .pure _
      · exact (within_log _ _).bind fun _ => .pure _

/-- **A scan changes nothing but its output.** -/
theorem changes_scanAt (tidy : r.registry.Tidy) (p : Package) (level : String) :
    (r.scanAt p level).Within (Changes (r.footprint p.name level)) := by
  refine .bind (r.changes_prepareOutput p.name level) fun _ => .bind_of_ok
    ((changes_runDiscovery tidy p level).mono fun _ _ => Changes.of_nowhere)
    fun s scanned s₁ hscanned => ?_
  rw [← name_runDiscovery tidy hscanned]
  exact Attempt.Within.bind (changes_runTools tidy scanned level) (fun tally =>
    .bind (.lift .host) fun h => .bind (.lift (within_logAll _)) fun _ =>
      .lift (changes_runReports tidy scanned level _)) s₁

/-- **The scan of a package changes nothing but its output,** whatever it comes to. -/
theorem changes_run (tidy : r.registry.Tidy) {path root : Path} {s : SessionState}
    (hroot : s.host.canonical? path = some root) (asked : Option String) :
    Changes (r.footprint (Package.ofPath root).name
        (r.levelOf (Package.ofPath root).name asked)) s ((r.run path asked).runFrom s).2 := by
  unfold run
  rw [Attempt.runFrom_bind_of_ok _ (Attempt.runFrom_lift Session.host s), Session.runFrom_host,
    hroot]
  simp only
  split
  · exact Changes.of_host_eq rfl
  · split
    · exact Changes.of_host_eq rfl
    · exact changes_scanAt tidy _ _ s

end Runner

end LintScan
