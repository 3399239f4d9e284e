import LintScan.Proofs.Exceptions.Filter
import LintScan.Proofs.Scan.Open
import LintScan.Proofs.Scan.Usual
import LintScan.Proofs.Scan.Workspace

/-!
# Scans that keep to their packages

A scan walks its package, writes into its output directory, and reads the files of the issues that
it has found.  Where these places are its own, it does not notice the scans of other packages:

* `Runner.Confined` — what a scan relies on to keep to its own places.
* `keeps_collect`, `keeps_usualScan`, `keeps_report` — so each of its plugins keeps to them; what
  discovery finds is open to the job, and so are the files of the issues.
* `Runner.local_scan` — so does the whole scan with the usual plugins, cut into steps.
* `runWorkspace_todoRunner` — the scans of two packages that are walked and sniffed at, in which
  markers are looked for, and for which output is written.
-/

namespace LintScan

open Relation (ReflTransGen)
open Steps (Keeps KeepsAttempt)

variable {owner : Place → Option Nat} {i : Nat} {h h' : Host} {r : Runner}
  {package level : String} {root out : Path}

/-! ## What a scan relies on -/

namespace ToolPlugin

variable (t : ToolPlugin) (ctx : PluginContext) (owner : Place → Option Nat) (i : Nat)
  (C : Host → Prop) (q : Package) (level : String)

/-- What a tool may print on one of some machines, over files that are open to a job. -/
def MayPrint (output : List String) : Prop :=
  ∃ h files flags, C h ∧ (∀ f ∈ files, OpenTo owner i h.files f) ∧
    ((t.run ctx q level files flags).runFrom { host := h }).1 = .ok output

/-- On some machines a tool keeps to what is open to a job: over such files it does not notice what
belongs to other jobs, and it finds issues in such files alone. -/
structure KeepsTo : Prop where
  run : ∀ h, C h → ∀ files flags, (∀ f ∈ files, OpenTo owner i h.files f) →
    Session.SeesAlike owner i h (t.run ctx q level files flags).run
  reads : ∀ h, C h → ∀ output, t.MayPrint ctx owner i C q level output →
    Session.SeesAlike owner i h (t.issuesOf ctx output q).run
  finds : ∀ h, C h → ∀ output, t.MayPrint ctx owner i C q level output →
    ∀ issues, ((t.issuesOf ctx output q).runFrom { host := h }).1 = .ok issues →
      ∀ issue ∈ issues, issue.isLocated = true → OpenTo owner i h.files ⟨issue.filename⟩

end ToolPlugin

/-- What a scan of a package relies on to keep to its own places: nothing in the package belongs to
another job, its output directory belongs to its own one, and neither the sniffing program nor the
tools look any further. -/
structure Runner.Confined (r : Runner) (owner : Place → Option Nat) (i : Nat) (h : Host)
    (package level : String) (root out : Path) : Prop where
  tree : h.files.IsTree
  standing : h.files.entry? h.workingDirectory = some .directory
  files : OpenBelow owner i h.files root
  output : r.OwnOutput owner i h package level out
  sniffs : ∀ h', r.Leads package level h h' → SniffsAlike owner i h'
  tools : ∀ name t, r.registry.tool.get? name = some t → ∀ q : Package, q.name = package →
    q.path = root → t.KeepsTo r.context owner i (r.Leads package level h) q level

/-! ## Discovery -/

namespace Runner.Confined

variable (c : r.Confined owner i h package level root out)

include c

theorem keeps_walk {q : Package} (hC : r.Leads package level h h') (hpath : q.path = root)
    (hopen : q.Open owner i h.files) :
    Keeps owner i (r.Leads package level h) h' (Steps.walk q) fun q' =>
      q'.name = q.name ∧ q'.path = q.path ∧ q'.Open owner i h.files := by
  unfold Steps.walk
  split
  · exact .pure hC ⟨rfl, rfl, hopen⟩
  · have hlisted : ∀ path ∈ h'.regularFiles q.path,
        OpenTo owner i h.files (h.absolute path) := by
      intro path hmem
      rw [hpath] at hmem
      rw [← hC.absolute_eq, ← hC.openTo_iff]
      exact (hC.openBelow c.files).openTo (hC.isTree c.tree c.standing) hmem
    have hlisting : q.listing.SeesAlike owner i h' := by
      refine .hostBind (fun h'' a => ?_) (.of_onlyNotes (Session.OnlyNotes.pure _))
      rw [hpath, (hC.openTo c.files.toOpenTo).regularFiles_eq a c.files.below,
        (c.sniffs h' hC).1 h'' a]
    refine Keeps.bind (Q := fun listing => ∀ path ∈ listing.1, OpenTo owner i h.files
      (h.absolute path)) (.look hlisting hC hlisted) fun listing hlisting h₁ hC₁ => ?_
    obtain ⟨paths, doSniff⟩ := listing
    refine Keeps.bind (Keeps.mapM (R := fun record => OpenTo owner i h.files record.path) hC₁
      fun path hmem h₂ hC₂ => .look (Package.seesAlike_examine (c.sniffs h₂ hC₂) ?_ doSniff) hC₂ ?_)
      fun records hrecords h₃ hC₃ => .pure hC₃ ⟨rfl, rfl, fun f hf => ?_, hopen.paths⟩
    · rw [hC₂.absolute_eq]
      exact hC₂.openTo (hlisting path hmem)
    · rw [(Package.looks_examine doSniff path).value_eq]
      have hrecord : (Host.recordWith doSniff h₂ path).path = h.absolute path :=
        hC₂.absolute_eq path
      rw [hrecord]
      exact hlisting path hmem
    · obtain ⟨_, hrecord⟩ := SortedTable.mem_of_mem_values_ofList hf
      obtain ⟨record, hmem, heq⟩ := List.mem_map.1 hrecord
      exact (Prod.mk.inj heq).2 ▸ hrecords record hmem

/-- What a discovery plugin finds is open to the job. -/
theorem keeps_collect {q : Package} (tag : String) (claims : PackageFile → Bool) (x : Exceptions)
    (hC : r.Leads package level h h') (hpath : q.path = root) (hopen : q.Open owner i h.files) :
    Keeps owner i (r.Leads package level h) h' (Steps.collect tag claims x q) fun q' =>
      q'.name = q.name ∧ q'.path = q.path ∧ q'.Open owner i h.files := by
  refine (c.keeps_walk hC hpath hopen).bind fun q' ⟨hname, hpath', hopen'⟩ h₁ hC₁ => ?_
  refine Keeps.bind (Q := fun _ => True) (.note _ hC₁ trivial) fun _ _ h₂ hC₂ =>
    .pure hC₂ ⟨hname, hpath', hopen'.files, fun other path hmem => ?_⟩
  rcases Package.mem_paths_setPaths hmem with hkept | hold
  · obtain ⟨text, htext, rfl⟩ := List.mem_map.1 hkept
    obtain ⟨found, hfound, rfl⟩ := List.mem_map.1 (List.mem_filter.1 htext).1
    obtain ⟨f, hf, rfl⟩ := List.mem_map.1 hfound
    exact hopen'.files f (List.mem_filter.1 hf).1
  · exact hopen'.paths other path hold

theorem keeps_discover (usual : r.registry.Usual) {q : Package} (name : String)
    (hC : r.Leads package level h h') (hpath : q.path = root) (hopen : q.Open owner i h.files) :
    KeepsAttempt owner i (r.Leads package level h) h' ((r.usualCutting usual).discover level q name)
      fun q' => q'.name = q.name ∧ q'.path = q.path ∧ q'.Open owner i h.files := by
  unfold Runner.Cutting.discover
  cases hd : r.registry.discovery.get? name with
  | none => exact .throw _ hC
  | some d =>
    have hcut : (r.usualCutting usual).discovery name q level =
        Steps.collect d.tag d.claims r.exceptions q := by
      simp only [Runner.usualCutting, hd]
    simp only [hcut]
    exact .bind (.lift (c.keeps_collect _ _ _ hC hpath hopen)) fun q' hq' h₁ hC₁ =>
      .bind (Q := fun _ => True) (.lift (.note _ hC₁ trivial)) fun _ _ h₂ hC₂ => .pure hC₂ hq'

theorem keeps_runDiscovery (usual : r.registry.Usual) {q : Package}
    (hC : r.Leads package level h h') (hpath : q.path = root) (hopen : q.Open owner i h.files) :
    KeepsAttempt owner i (r.Leads package level h) h' ((r.usualCutting usual).runDiscovery q level)
      fun q' => q'.name = q.name ∧ q'.path = q.path ∧ q'.Open owner i h.files := by
  refine .bind (.ofExcept _ _ hC) fun names _ h₁ hC₁ => .bind (.ofExcept _ _ hC₁)
    fun order _ h₂ hC₂ => .foldlM hC₂ ⟨rfl, rfl, hopen⟩ ?_
  rintro q' name _ ⟨hname', hpath', hopen'⟩ h₃ hC₃
  exact Keeps.mono (c.keeps_discover usual name hC₃ (hpath'.trans hpath) hopen')
    fun outcome houtcome q'' heq => by
      obtain ⟨hname'', hpath'', hopen''⟩ := houtcome q'' heq
      exact ⟨hname''.trans hname', hpath''.trans hpath', hopen''⟩

/-! ## Tools -/

theorem keeps_keepLog {name : String} {t : ToolPlugin} {q : Package} (output : List String)
    (ht : r.registry.tool.get? name = some t) (hC : r.Leads package level h h')
    (hname : q.name = package) :
    Keeps owner i (r.Leads package level h) h' (Steps.keepLog t.name r.context q level output)
      fun _ => True := by
  have hdir := c.output.packageOutput?_eq
  have hlog : r.Output package level (ToolPlugin.logFile (out.join (stamp package level)) t.name) :=
    .log ht hdir
  obtain ⟨ho, hown⟩ := (c.output.later hC).file hlog
  unfold Steps.keepLog
  rw [hname, hdir]
  refine Keeps.bind (.changeFiles (.write ho hown _) hC fun files hwritten =>
    hC.write hlog hwritten) fun outcome _ h₁ hC₁ => ?_
  cases outcome with
  | ok _ => exact .pure hC₁ trivial
  | error e => exact .note _ hC₁ trivial

/-- The files of the issues that a tool finds are open to the job. -/
theorem keeps_usualScan {name : String} {t : ToolPlugin} {q : Package}
    (ht : r.registry.tool.get? name = some t) (hC : r.Leads package level h h')
    (hname : q.name = package) (hpath : q.path = root) (hopen : q.Open owner i h.files) :
    KeepsAttempt owner i (r.Leads package level h) h' (Steps.usualScan t r.context q level)
      fun issues => ∀ issue ∈ issues, issue.isLocated = true →
        OpenTo owner i h.files ⟨issue.filename⟩ := by
  have hkeeps := c.tools name t ht q hname hpath
  have hfiles : ∀ f ∈ t.fileTypes.flatMap q.paths, OpenTo owner i h.files f := by
    intro f hf
    obtain ⟨tag, _, hmem⟩ := List.mem_flatMap.1 hf
    exact hopen.paths tag f hmem
  unfold Steps.usualScan
  simp only
  split
  · exact .pure hC nofun
  · refine .bind (Q := fun _ => True) (.lookAttempt (.of_onlyNotes
      (ToolError.onlyNotes_ofConfig _)) hC fun _ _ => trivial) fun flags _ h₁ hC₁ => ?_
    have hfiles₁ := fun f hf => hC₁.openTo (hfiles f hf)
    refine .bind (.lookAttempt (hkeeps.run h₁ hC₁ _ flags hfiles₁) hC₁ fun output houtput =>
      (⟨h₁, _, flags, hC₁, hfiles₁, houtput⟩ : t.MayPrint r.context owner i _ q level output))
      fun output hprints h₂ hC₂ => ?_
    refine .bind (.lift (c.keeps_keepLog output ht hC₂ hname)) fun _ _ h₃ hC₃ => ?_
    exact .lookAttempt (hkeeps.reads h₃ hC₃ output hprints) hC₃ fun issues hissues issue hissue
      hlocated => hC₃.openTo_iff.1 (hkeeps.finds h₃ hC₃ output hprints issues hissues issue hissue
        hlocated)

theorem keeps_runTool (usual : r.registry.Usual) {q : Package} (tally : ToolTally) (name : String)
    (hC : r.Leads package level h h') (hname : q.name = package) (hpath : q.path = root)
    (hopen : q.Open owner i h.files)
    (hfound : ∀ issue ∈ tally.issues.all, issue.isLocated = true →
      OpenTo owner i h.files ⟨issue.filename⟩) :
    KeepsAttempt owner i (r.Leads package level h) h'
      ((r.usualCutting usual).runTool q level tally name)
      fun tally => ∀ issue ∈ tally.issues.all, issue.isLocated = true →
        OpenTo owner i h.files ⟨issue.filename⟩ := by
  unfold Runner.Cutting.runTool
  cases ht : r.registry.tool.get? name with
  | none => exact .throw _ hC
  | some t =>
    have hcut : (r.usualCutting usual).tool name q level =
        (Steps.usualScan t r.context q level).run := by
      simp only [Runner.usualCutting, ht]
    simp only [hcut]
    refine .bind (.lift (c.keeps_usualScan ht hC hname hpath hopen)) fun outcome houtcome h₁ hC₁ =>
      .bind (Q := fun _ => True) (.lift (.note _ hC₁ trivial)) fun _ _ h₂ hC₂ => ?_
    cases outcome with
    | ok found =>
      refine .pure hC₂ fun issue hissue => ?_
      obtain ⟨tool, issues, hget, hmem⟩ := IssueMap.mem_all_iff.1 hissue
      rw [SortedTable.get?_insert] at hget
      split at hget
      · cases hget
        exact houtcome found rfl issue hmem
      · exact hfound issue (IssueMap.mem_all_iff.2 ⟨tool, issues, hget, hmem⟩)
    | error e =>
      exact .bind (Q := fun _ => True) (.lift (.note _ hC₂ trivial)) fun _ _ h₃ hC₃ =>
        .pure hC₃ hfound

theorem keeps_runTools (usual : r.registry.Usual) {q : Package} (hC : r.Leads package level h h')
    (hname : q.name = package) (hpath : q.path = root) (hopen : q.Open owner i h.files) :
    KeepsAttempt owner i (r.Leads package level h) h' ((r.usualCutting usual).runTools q level)
      fun tally => ∀ issue ∈ tally.issues.all, issue.isLocated = true →
        OpenTo owner i h.files ⟨issue.filename⟩ :=
  .bind (.ofExcept _ _ hC) fun _ _ _ hC₁ => .foldlM hC₁ nofun fun tally name _ hfound _ hC₂ =>
    c.keeps_runTool usual tally name hC₂ hname hpath hopen hfound

/-! ## The output directory -/

theorem keeps_makeDirectories (hC : r.Leads package level h h') :
    Keeps owner i (r.Leads package level h) h'
      (Steps.changeFiles fun t cwd => t.makeDirectories cwd (out.join (stamp package level)))
      fun _ => True := by
  have o := c.output.later hC
  refine .changeFiles (.makeDirectories o.dir o.missing) hC fun files hmade => hC.make ?_
  rwa [o.reportDirectory_eq]

theorem keeps_prepareOutput (hC : r.Leads package level h h') :
    KeepsAttempt owner i (r.Leads package level h) h' (Cutting.prepareOutput r package level)
      fun _ => True := by
  unfold Cutting.prepareOutput
  rw [c.output.configured, c.output.packageOutput?_eq]
  refine .hostBind (fun h'' a => ?_) ?_
  · rw [(c.output.later hC).openTo_out.hasDirectory_eq a]
  · simp only
    split
    · exact .throw _ hC
    · refine .bind (.lift (c.keeps_makeDirectories hC)) fun outcome _ h₁ hC₁ => ?_
      cases outcome with
      | ok _ => exact .pure hC₁ trivial
      | error e => exact .throw _ hC₁

/-! ## Reports -/

theorem keeps_writeReport {suffix : String} (hsuffix : suffix ∈ reportSuffixes) (contents : String)
    (hC : r.Leads package level h h') :
    KeepsAttempt owner i (r.Leads package level h) h'
      (Steps.writeReport (out.join (stamp package level)) package level suffix contents)
      fun _ => True := by
  have hreport : r.Output package level
      (reportFile (out.join (stamp package level)) package level suffix) := by
    rw [← c.output.reportDirectory_eq]
    exact .report hsuffix
  refine .bind (Steps.KeepsAttempt.ofChange (c.keeps_makeDirectories hC)) fun _ _ h₁ hC₁ => ?_
  obtain ⟨ho, hown⟩ := (c.output.later hC₁).file hreport
  have hwrites : Keeps owner i (r.Leads package level h) h₁ (Steps.changeFiles fun t cwd =>
      t.write cwd (reportFile (out.join (stamp package level)) package level suffix)
        (Text.Utf8.encode contents)) fun _ => True :=
    .changeFiles (.write ho hown _) hC₁ fun files hwritten => hC₁.write hreport hwritten
  exact .bind (Steps.KeepsAttempt.ofChange hwrites) fun _ _ h₂ hC₂ => .pure hC₂ trivial

theorem keeps_report {plugin : ReportingPlugin} {q : Package} (issues : IssueMap)
    (hplugin : plugin ∈ ReportingPlugin.builtin) (hC : r.Leads package level h h')
    (hname : q.name = package) :
    KeepsAttempt owner i (r.Leads package level h) h' (Steps.report plugin r.context q issues level)
      fun _ => True := by
  have hswitch : ∀ key h', r.Leads package level h h' →
      KeepsAttempt owner i (r.Leads package level h) h' (Steps.lookAttempt
        (ReportingPlugin.isSwitchedOn r.context "json" level key)) fun _ => True :=
    fun key h' hC => .lookAttempt (.of_onlyNotes (ReportingPlugin.onlyNotes_isSwitchedOn _ _)) hC
      fun _ _ => trivial
  simp only [ReportingPlugin.builtin, List.mem_cons, List.not_mem_nil, or_false] at hplugin
  rcases hplugin with rfl | rfl | rfl | rfl
  · exact .lookAttempt ReportingPlugin.seesAlike_console hC fun _ _ => trivial
  · unfold Steps.report
    rw [if_pos rfl, hname, c.output.reportDirectory_eq]
    refine .bind (hswitch "files" h' hC) fun toFile _ h₁ hC₁ =>
      .bind (hswitch "terminal" h₁ hC₁) fun toTerminal _ h₂ hC₂ => ?_
    have hprint : ∀ h', r.Leads package level h h' →
        KeepsAttempt owner i (r.Leads package level h) h' (if toTerminal = true then do
            (Steps.look (Session.printLine issues.document.write) : Steps _)
            return none
          else return none : ExceptT ReportError Steps (Option Json)) fun _ => True := by
      intro h' hC
      split
      · exact .bind (Q := fun _ => True) (.lift (.look (.of_onlyNotes
          (Session.OnlyNotes.printLine _)) hC trivial)) fun _ _ h₁ hC₁ => .pure hC₁ trivial
      · exact .pure hC trivial
    cases toFile with
    | false => exact hprint h₂ hC₂
    | true =>
      exact .bind (c.keeps_writeReport List.mem_cons_self _ hC₂) fun _ _ h₃ hC₃ => hprint h₃ hC₃
  · unfold Steps.report
    rw [if_neg (by decide), if_pos rfl, hname, c.output.packageOutput?_eq]
    exact .bind (c.keeps_writeReport (List.mem_cons_of_mem _ List.mem_cons_self) _ hC)
      fun _ _ h₁ hC₁ => .pure hC₁ trivial
  · exact .lookAttempt (.of_onlyNotes (Session.OnlyNotes.pure _)) hC fun _ _ => trivial

theorem keeps_makeReport (usual : r.registry.Usual) {q : Package} (result : ScanResult)
    (name : String) (hC : r.Leads package level h h') (hname : q.name = package) :
    Keeps owner i (r.Leads package level h) h'
      ((r.usualCutting usual).makeReport q level result name) fun _ => True := by
  unfold Cutting.makeReport
  cases hp : r.registry.reporting.get? name with
  | none =>
    exact .bind (Q := fun _ => True) (.note _ hC trivial) fun _ _ h₁ hC₁ => .pure hC₁ trivial
  | some plugin =>
    have hcut : (r.usualCutting usual).report name q result.issues level =
        (Steps.report plugin r.context q result.issues level).run := by
      simp only [usualCutting, hp]
    simp only [hcut]
    refine .bind (c.keeps_report result.issues (usual.reporting name plugin hp) hC hname)
      fun outcome _ h₁ hC₁ => .bind (Q := fun _ => True) (.note _ hC₁ trivial)
        fun _ _ h₂ hC₂ => ?_
    rcases outcome with e | _ | summary
    · exact .bind (Q := fun _ => True) (.note _ hC₂ trivial) fun _ _ h₃ hC₃ => .pure hC₃ trivial
    · exact .pure hC₂ trivial
    · exact .pure hC₂ trivial

theorem keeps_runReports (usual : r.registry.Usual) {q : Package} (result : ScanResult)
    (hC : r.Leads package level h h') (hname : q.name = package) :
    Keeps owner i (r.Leads package level h) h'
      ((r.usualCutting usual).runReports q level result) fun _ => True := by
  unfold Cutting.runReports
  have hwarns : ∀ text, Keeps owner i (r.Leads package level h) h' (do
      Steps.warn text
      return unsuccessful result) fun _ => True := fun text =>
    .bind (Q := fun _ => True) (.note _ hC trivial) fun _ _ h₁ hC₁ => .pure hC₁ trivial
  rcases r.context.config.enabledPlugins level .reporting with e | _ | ⟨name, names⟩
  · exact hwarns _
  · exact hwarns _
  · exact .foldlM hC trivial fun result name _ _ h₁ hC₁ =>
      c.keeps_makeReport usual result name hC₁ hname

/-! ## The whole scan -/

theorem keeps_scanAt (usual : r.registry.Usual) {q : Package} (hname : q.name = package)
    (hpath : q.path = root) (hopen : q.Open owner i h.files) :
    KeepsAttempt owner i (r.Leads package level h) h ((r.usualCutting usual).scanAt q level)
      fun _ => True := by
  unfold Cutting.scanAt
  rw [hname]
  refine .bind (c.keeps_prepareOutput (.refl r package level h)) fun _ _ h₁ hC₁ => ?_
  refine .bind (c.keeps_runDiscovery usual hC₁ hpath hopen)
    fun scanned ⟨hname', hpath', hopen'⟩ h₂ hC₂ => ?_
  refine .bind (c.keeps_runTools usual hC₂ (hname'.trans hname) (hpath'.trans hpath) hopen')
    fun tally hfound h₃ hC₃ => ?_
  -- The filter looks at the files of the issues, and these are open to the job.
  refine .hostBind (fun h' a => ?_) ?_
  · rw [Exceptions.filterIssues_congr fun issue hissue hlocated =>
      (hC₃.openTo (hfound issue hissue hlocated)).read_eq a]
  · refine .bind (Q := fun _ => True) (.lift (.note _ hC₃ trivial)) fun _ _ h₄ hC₄ => ?_
    exact .lift (c.keeps_runReports usual _ hC₄ (hname'.trans hname))

end Runner.Confined

/-- **A scan keeps to its own places** where nothing in its package belongs to another job, its
output directory belongs to its own one, and neither the sniffing program nor the tools look any
further: at each step it depends only on what looks alike to its job, and changes nothing that
belongs to another one. -/
theorem Runner.local_scan (usual : r.registry.Usual) {path : Path}
    (hpath : OpenTo owner i h.files path) (hroot : h.canonical? path = some root)
    (c : r.Confined owner i h (Package.ofPath root).name
      (r.levelOf (Package.ofPath root).name none) root out) :
    ((r.usualCutting usual).scan path).Local owner i h := by
  have hcanonical : ∀ h', Alike owner i h h' → h'.canonical? path = h.canonical? path := by
    intro h' a
    unfold Host.canonical?
    rw [hpath.find_eq a]
  refine Steps.Local.hostBind (fun h' a => by rw [hcanonical h' a]) ?_
  rw [hroot]
  simp only
  split
  · exact trivial
  · split
    · exact trivial
    · exact (c.keeps_scanAt usual rfl rfl ⟨nofun, nofun⟩).apart

/-! ## An example: two packages with an output directory -/

/-- A tool that looks itself for files in which something is left to do. -/
def todoTool : ToolPlugin where
  name := "todo"
  fileTypes := ["python"]
  run _ _ _ files _ := do
    let h ← Session.host
    return (files.filter fun f => (h.readText f).toOption.any (Text.occursIn "TODO")).map (·.text)
  issuesOf _ output _ := return output.map fun file =>
    { filename := file, lineNumber := 1, tool := "todo", issueType := "todo", severity := 1,
      message := "something is left to do", certReference := none }

theorem usual_todoTool : todoTool.Usual where
  scan := rfl
  run _ _ _ _ _ := .bind (.lift Session.Looks.host.onlyLooks) fun _ => .pure _
  issuesOf _ _ _ := .pure _

/-- The tool looks at the files that it is given, and finds issues in these alone. -/
theorem keepsTo_todoTool (ctx : PluginContext) (q : Package) (asked : String) :
    todoTool.KeepsTo ctx owner i (r.Leads package level h) q asked where
  run h' _ files _ hfiles := by
    refine .hostBindAttempt (fun h'' a => ?_) (.of_onlyNotes (Session.OnlyNotes.pure _))
    have hsame : ∀ f ∈ files, h''.readText f = h'.readText f :=
      fun f hf => (hfiles f hf).readText_eq a
    rw [List.filter_congr fun f hf => by rw [hsame f hf]]
  reads _ _ _ _ := .of_onlyNotes (Session.OnlyNotes.pure _)
  finds h' hC output hprints issues hissues issue hissue _ := by
    obtain ⟨h'', files, flags, hC', hfiles, hprinted⟩ := hprints
    cases hprinted
    cases hissues
    obtain ⟨file, hfile, rfl⟩ := List.mem_map.1 hissue
    obtain ⟨f, hf, rfl⟩ := List.mem_map.1 hfile
    exact hC.openTo (hC'.openTo_iff.1 (hfiles f (List.mem_filter.1 hf).1))

/-- A runner with this tool and the built-in plugins of the other kinds, whose output directory lies
beside the packages. -/
def todoRunner : Runner where
  context := {
    settings := { outputDirectory := some ⟨"/out"⟩, level := some "basic" }
    config := { levels := .ofList [("basic", {
      tool := some (.ofList [("todo", none)])
      reporting := some (.ofList [("write_jenkins_warnings_ng", none)]) })] }
    resources := { defaultPath := ⟨"/"⟩ } }
  exceptions := {}
  profile := none
  registry := .ofLists DiscoveryPlugin.builtin [todoTool] ReportingPlugin.builtin

theorem usual_todoRunner : todoRunner.registry.Usual where
  discovery name d h := DiscoveryPlugin.scan_builtin (Registry.forall_ofLists.1 name d h)
  tool name t h :=
    List.mem_singleton.1 (Registry.forall_ofLists.2.1 name t h) ▸ usual_todoTool
  reporting name plugin h := Registry.forall_ofLists.2.2 name plugin h

/-- A sniffing program that tells scripts from other files. -/
def scriptSniffer : Program := fun files args =>
  match args with
  | [file] =>
    let isScript := (files.readText [] ⟨file⟩).toOption.any (Text.occursIn "#!")
    .ok ⟨Text.Utf8.encode (file ++ if isScript then ": shell script" else ": data"), [], .code 0⟩
  | _ => .ok ⟨[], [], .code 1⟩

/-- A session on a machine with two packages; one line that holds an issue has a marker. -/
def todoSession : SessionState where
  host := { Runner.bareSession.host with
    files := ⟨[(["bin"], .directory), (["bin", "file"], .file [] 0o755), (["out"], .directory),
      (["w"], .directory), (["w", "a"], .directory),
      (["w", "a", "main.py"], .file (Text.Utf8.encode "# TODO NOLINT") 0o644),
      (["w", "a", "run"], .file (Text.Utf8.encode "#!/bin/sh") 0o755),
      (["w", "a", "setup.py"], .file [] 0o644), (["w", "b"], .directory),
      (["w", "b", "setup.py"], .file (Text.Utf8.encode "# TODO") 0o644)]⟩
    searchPath := some "/bin"
    programs := fun _ => some scriptSniffer }

/-- Each of the two packages has a job, to which its output directory belongs, too. -/
def todoOwner : Place → Option Nat
  | "w" :: "a" :: _ => some 0
  | "w" :: "b" :: _ => some 1
  | "out" :: "a-basic" :: _ => some 0
  | "out" :: "b-basic" :: _ => some 1
  | _ => none

theorem noLinks_todoSession : ∀ entry ∈ todoSession.host.files.entries,
    (entry.2.isFile || entry.2.isDirectory) = true := by decide +kernel

/-- The sniffing program reads the file that it is asked about, and no other one. -/
theorem sniffsAlike_todoSession (l : todoRunner.Leads package level todoSession.host h)
    (o : OpenTo todoOwner i todoSession.host.files ⟨"/bin/file"⟩) :
    SniffsAlike todoOwner i h := by
  have hfile : OpenTo todoOwner i h.files ⟨"/bin/file"⟩ := l.openTo o
  obtain ⟨files, rfl, _⟩ := l
  refine sniffsAlike_of_open (fun d hd => ?_) fun path hpath h' a place => ?_
  · have hdirs : Host.directoriesOf "/bin" = [⟨"/bin"⟩] := by decide +kernel
    have hjoin : (Path.mk "/bin").join ⟨Package.sniffer⟩ = ⟨"/bin/file"⟩ := by decide +kernel
    have hd' : d ∈ Host.directoriesOf "/bin" := hd
    rw [hdirs, List.mem_singleton] at hd'
    rwa [hd', hjoin]
  · have hread : h'.files.readText [] path = files.readText [] path := by
      unfold FileTree.readText
      rw [hpath.read_of_alike (hpath.alikeOn a) [] []]
    have hruns : ∀ h : Host, h.programs = (fun _ => some scriptSniffer) →
        h.runProgram place [path.text] = scriptSniffer h.files [path.text] := by
      intro h hprograms
      unfold Host.runProgram
      rw [hprograms]
    rw [hruns h' (by rw [a.eq_files]; rfl), hruns _ rfl]
    unfold scriptSniffer
    simp only [hread]

section

variable {name : String} (job : name = "a" ∧ i = 0 ∨ name = "b" ∧ i = 1)

include job

theorem openTo_todoSession :
    ∀ p ∈ [⟨"/w/" ++ name⟩, (Path.mk "/out").join (stamp name "basic"), ⟨"/bin/file"⟩],
      OpenTo todoOwner i todoSession.host.files p := by
  intro p hp
  have hlooks : p.isAbsolute = true ∧ .up ∉ p.parts ∧
      ∀ above ∈ p.namesOn.inits, mayLook todoOwner i above = true := by
    revert p
    rcases job with ⟨rfl, rfl⟩ | ⟨rfl, rfl⟩ <;> decide +kernel
  exact .of_forall hlooks.1 hlooks.2.1 noLinks_todoSession hlooks.2.2

theorem openBelow_todoSession :
    OpenBelow todoOwner i todoSession.host.files ⟨"/w/" ++ name⟩ := by
  refine ⟨openTo_todoSession job _ List.mem_cons_self, fun names => ?_⟩
  rcases job with ⟨rfl, rfl⟩ | ⟨rfl, rfl⟩
  · have hroot : (Path.mk ("/w/" ++ "a")).namesOn = ["w", "a"] := by decide +kernel
    rw [hroot]
    rfl
  · have hroot : (Path.mk ("/w/" ++ "b")).namesOn = ["w", "b"] := by decide +kernel
    rw [hroot]
    rfl

theorem ownOutput_todoSession :
    todoRunner.OwnOutput todoOwner i todoSession.host name "basic" ⟨"/out"⟩ := by
  have hplace : ((Path.mk "/out").join (stamp name "basic")).namesOn =
      ["out", name ++ "-basic"] ∧ '/' ∉ name.toList ∧
      (∀ names, todoOwner (["out", name ++ "-basic"] ++ names) = some i) ∧
      ∀ place ∈ List.inits ["out", name ++ "-basic"],
        todoSession.host.files.entry? place = none → todoOwner place = some i := by
    rcases job with ⟨rfl, rfl⟩ | ⟨rfl, rfl⟩
    · exact ⟨by decide +kernel, by decide, fun _ => rfl, by decide +kernel⟩
    · exact ⟨by decide +kernel, by decide, fun _ => rfl, by decide +kernel⟩
  obtain ⟨hdir, hnamed, hown, hmissing⟩ := hplace
  refine ⟨rfl, hnamed, fun tool t ht => ?_, ?_, .of_forall noLinks_todoSession _, ?_, ?_⟩
  · obtain rfl := List.mem_singleton.1 (Registry.forall_ofLists.2.1 tool t ht)
    decide
  · exact openTo_todoSession job _ (List.mem_cons_of_mem _ List.mem_cons_self)
  · rwa [hdir]
  · rw [hdir]
    exact fun place hprefix => hmissing place ((List.mem_inits _ _).2 hprefix)

theorem confined_todoSession :
    todoRunner.Confined todoOwner i todoSession.host name "basic" ⟨"/w/" ++ name⟩ ⟨"/out"⟩ where
  tree := by decide +kernel
  standing := rfl
  files := openBelow_todoSession job
  output := ownOutput_todoSession job
  sniffs _ l := sniffsAlike_todoSession l (openTo_todoSession job _ (by simp))
  tools tool t ht q _ _ := by
    obtain rfl := List.mem_singleton.1 (Registry.forall_ofLists.2.1 tool t ht)
    exact keepsTo_todoTool _ _ _

/-- The scan of each of the two packages keeps to its own places. -/
theorem local_scan_todoSession :
    ((todoRunner.usualCutting usual_todoRunner).scan ⟨"/w/" ++ name⟩).Local todoOwner i
      todoSession.host := by
  have hroot : todoSession.host.canonical? ⟨"/w/" ++ name⟩ = some ⟨"/w/" ++ name⟩ ∧
      (Package.ofPath ⟨"/w/" ++ name⟩).name = name := by
    rcases job with ⟨rfl, rfl⟩ | ⟨rfl, rfl⟩ <;> decide +kernel
  have hconfined : todoRunner.Confined todoOwner i todoSession.host
      (Package.ofPath ⟨"/w/" ++ name⟩).name "basic" ⟨"/w/" ++ name⟩ ⟨"/out"⟩ := by
    rw [hroot.2]
    exact confined_todoSession job
  exact Runner.local_scan usual_todoRunner hconfined.files.toOpenTo hroot.1 hconfined

end

theorem findPackages_todoSession :
    todoSession.host.findPackages ⟨"/w"⟩ = [⟨"/w/a"⟩, ⟨"/w/b"⟩] :=
  Runner.findPackages_pair rfl (by decide +kernel)
    (by decide +kernel : _ = ["a"] :: ["b"] :: []) (by decide) (by decide +kernel)

/-- Two packages are walked, sniffed at, and looked at for issues and markers, each with an output
directory, by workers that do not notice each other. -/
theorem runWorkspace_todoRunner {workers : Nat} (hworkers : 0 < workers) :
    let s := todoSession
    let cut := todoRunner.usualCutting usual_todoRunner
    let packages := todoRunner.workspacePackages s.host ⟨"/w"⟩
    packages = [⟨"/w/a"⟩, ⟨"/w/b"⟩] ∧
      (∃ s', (todoRunner.runWorkspace ⟨"/w"⟩).runFrom s =
        (.ok (packages.map fun path => ⟨path, ((todoRunner.run path none).runFrom s).1⟩), s')) ∧
      ∀ p, ReflTransGen (Pool.Step workers) (Pool.waiting (packages.map cut.scan) s) p →
        (∃ p', Pool.Step workers p p') ∨ p.jobs.map (·.task) =
          packages.map fun path => .done ((todoRunner.run path none).runFrom s).1 := by
  intro s cut packages
  have hpackages : packages = [⟨"/w/a"⟩, ⟨"/w/b"⟩] := by
    have hfiltered : packages = (s.host.findPackages ⟨"/w"⟩).filter
        (fun path => !path.fileName?.any todoRunner.exceptions.ignores) :=
      Runner.workspacePackages_eq_filter todoRunner s.host ⟨"/w"⟩
    rw [hfiltered, findPackages_todoSession]
    decide +kernel
  have hapart : ∀ i path, packages[i]? = some path →
      (cut.scan path).Local todoOwner i s.host := by
    have hnamed : packages = [⟨"/w/" ++ "a"⟩, ⟨"/w/" ++ "b"⟩] := by
      rw [hpackages]
      decide +kernel
    rw [hnamed]
    exact Runner.forall_getElem?_pair (local_scan_todoSession (.inl ⟨rfl, rfl⟩))
      (local_scan_todoSession (.inr ⟨rfl, rfl⟩))
  exact ⟨hpackages, Runner.exists_runWorkspace (by decide +kernel) hapart,
    fun _ => Runner.outcomes_of_steps hapart hworkers⟩

end LintScan
