import LintScan.Proofs.Session
import LintScan.Scan.Run

/-!
# What plugins do to a session

The built-in plugins are made of few steps.  They look at the machine, start programs, log and
print; a tool may keep a log file, and a report may be written to a file.  So they keep within every
relation between states that allows these steps:

* `AllowsEntries` — a relation that allows what goes into the journal, but for the notes of a scan.
* `Package.within_collect`, `ToolPlugin.within_builtin`, `ReportingPlugin.within_builtin` — the
  built-in plugins of each kind.
* `Registry.forall_ofLists` — what holds of the plugins in some lists holds of those of their
  registry.
* `Registry.Discreet`, `Registry.discreet_builtin` — plugins that make no notes themselves, as the
  built-in ones; what a scan notes can be relied on with them.
-/

namespace LintScan

variable {α : Type}

/-- The plugins that were noted in a session. -/
def SessionState.timings (s : SessionState) : List Timing := s.journal.timings

/-- A relation between states that allows everything that goes into the journal, but for the notes
of the plugins that ran. -/
class AllowsEntries (r : SessionState → SessionState → Prop) : Prop
    extends IsPreorder SessionState r where
  entries : ∀ (s : SessionState) (journal : Journal), journal.timings = s.timings →
    r s { s with journal }

variable {r : SessionState → SessionState → Prop} [AllowsEntries r]

/-! ## Steps -/

namespace Session

theorem within_log (level : LogLevel) (text : String) : (log level text).Within r :=
  fun s => AllowsEntries.entries s _ rfl

theorem within_logAll (es : List LogEntry) : (logAll es).Within r :=
  fun s => AllowsEntries.entries s _ rfl

theorem within_printLine (line : String) : (printLine line).Within r :=
  fun s => AllowsEntries.entries s _ rfl

theorem within_start (name : String) (args : List String) : (start name args).Within r := by
  refine Within.host.bind fun h => ?_
  cases h.findProgram name with
  | error e => exact .pure _
  | ok place =>
    simp only
    cases h.runProgram place args with
    | error e => exact .pure _
    | ok run => exact fun s => AllowsEntries.entries s _ rfl

/-- A change of files leads only where a change that works does. -/
theorem within_changeFiles {change : FileTree → Place → Except FileError FileTree}
    (h : ∀ s files, change s.host.files s.host.workingDirectory = .ok files →
      r s { s with host.files := files }) : (changeFiles change).Within r := by
  intro s
  unfold changeFiles
  rw [runFrom_bind, runFrom_host]
  cases hchange : change s.host.files s.host.workingDirectory with
  | error e => exact refl_of r s
  | ok files => exact h s files hchange

end Session

open Session

/-! ## Discovery -/

namespace Package

theorem within_sniff (path : Path) : (sniff path).Within r := by
  refine (within_start _ _).bind fun outcome => ?_
  cases outcome with
  | error e => exact (within_log _ _).bind fun _ => .pure _
  | ok run =>
    simp only
    split
    · exact .pure _
    · exact (within_log _ _).bind fun _ => .pure _
    · exact (within_log _ _).bind fun _ => .pure _

theorem within_examine (sniffs : Bool) (path : Path) : (examine sniffs path).Within r := by
  refine Within.host.bind fun h => ?_
  cases sniffs
  · exact .pure _
  · exact (within_sniff _).bind fun _ => .pure _

theorem within_walk (p : Package) : p.walk.Within r := by
  unfold walk
  split
  · exact .pure p
  · exact Within.host.bind fun h => (Within.mapM (within_examine _) _).bind fun _ => .pure _

theorem within_collect (tag : String) (claims : PackageFile → Bool) (x : Option Exceptions)
    (p : Package) : (collect tag claims x p).Within r := by
  refine (within_walk p).bind fun p => ?_
  cases x with
  | none => exact .pure _
  | some x => exact (within_logAll _).bind fun _ => .pure _

theorem name_walk (p : Package) (s : SessionState) : (p.walk.runFrom s).1.name = p.name := by
  unfold walk
  split <;> rfl

theorem name_collect (tag : String) (claims : PackageFile → Bool) (x : Option Exceptions)
    (p : Package) (s : SessionState) : ((collect tag claims x p).runFrom s).1.name = p.name := by
  unfold collect
  rw [runFrom_bind]
  cases x <;> exact name_walk p s

end Package

namespace DiscoveryPlugin

variable {d : DiscoveryPlugin} {ctx : PluginContext} {p : Package} {level : String}
  {x : Option Exceptions}

/-- The built-in plugins collect the files that they claim. -/
theorem scan_builtin (hd : d ∈ builtin) :
    d.scan = fun _ p _ x => Package.collect d.tag d.claims x p := by
  simp only [builtin, List.mem_cons, List.not_mem_nil, or_false] at hd
  rcases hd with rfl | rfl | rfl | rfl | rfl <;> rfl

theorem within_builtin (hd : d ∈ builtin) : (d.scan ctx p level x).Within r := by
  rw [scan_builtin hd]
  exact Package.within_collect _ _ x p

/-- The built-in plugins do not rename a package. -/
theorem name_scan_builtin (hd : d ∈ builtin) (s : SessionState) :
    ((d.scan ctx p level x).runFrom s).1.name = p.name := by
  rw [scan_builtin hd]
  exact Package.name_collect _ _ x p s

end DiscoveryPlugin

/-! ## Tools -/

theorem ToolError.within_ofConfig (x : Except ConfigError α) :
    (ToolError.ofConfig x).Within r := by
  cases x with
  | ok a => exact .pure a
  | error e => exact .throw _

theorem within_runTool (tool binary : String) (args : List String) (expected : Int → Bool) :
    (runTool tool binary args expected).Within r := by
  refine .bind (.lift (within_start binary args)) fun outcome => ?_
  cases outcome with
  | error e => exact .bind (.lift (within_log _ _)) fun _ => .throw _
  | ok run =>
    simp only
    split
    · exact .bind (.lift (within_log _ _)) fun _ => .throw _
    · split
      · exact .pure _
      · exact .bind (.lift (within_log _ _)) fun _ =>
          .bind (.lift (within_log _ _)) fun _ => .throw _

namespace ToolPlugin

variable {ctx : PluginContext} {p : Package} {level : String}

/-- To keep a log keeps within what to write its file keeps within. -/
theorem within_keepLog {tool : String} {output : List String}
    (hwrite : ∀ dir, ctx.settings.packageOutput? p.name level = some dir → ∀ bytes,
      (writeFile (logFile dir tool) bytes).Within r) :
    (keepLog tool ctx p level output).Within r := by
  unfold keepLog
  cases hdir : ctx.settings.packageOutput? p.name level with
  | none => exact .pure _
  | some dir =>
    refine (hwrite dir hdir _).bind fun outcome => ?_
    cases outcome with
    | ok _ => exact .pure _
    | error e => exact within_log _ _

/-- A tool that finds its issues in the usual way keeps within what its run, its reading and the
writing of its log keep within. -/
theorem within_usualScan {t : ToolPlugin}
    (usual : t.scan = usualScan t.name t.fileTypes t.run t.issuesOf)
    (hrun : ∀ files flags, (t.run ctx p level files flags).Within r)
    (hread : ∀ output, (t.issuesOf ctx output p).Within r)
    (hwrite : ∀ dir, ctx.settings.packageOutput? p.name level = some dir → ∀ bytes,
      (writeFile (logFile dir t.name) bytes).Within r) :
    (t.scan ctx p level).Within r := by
  rw [usual]
  unfold usualScan
  simp only
  split
  · exact .pure _
  · exact .bind (ToolError.within_ofConfig _) fun flags => .bind (hrun _ flags) fun output =>
      .bind (.lift (within_keepLog hwrite)) fun _ => hread output

theorem within_runForText (tool : String) (flags userFlags : List String) (files : List Path)
    (expected : Int → Bool) : (runForText tool ctx flags userFlags files expected).Within r :=
  within_runTool _ _ _ _

theorem within_run_markdownlint (files : List Path) (flags : List String) :
    (markdownlint.run ctx p level files flags).Within r := by
  unfold markdownlint
  refine .bind (ToolError.within_ofConfig _) fun name => .bind (.lift .host) fun h => ?_
  refine .bind (within_runForText _ _ _ _ _) fun o => ?_
  split
  · exact .bind (.lift (within_log _ _)) fun _ => .throw _
  · exact .pure _

theorem within_issuesOf_pylint (output : List String) : (pylint.issuesOf ctx output p).Within r :=
  .bind (.lift .host) fun _ => .bind (.lift (within_logAll _)) fun _ => .pure _

theorem within_issuesOf_shellcheck (output : List String) :
    (shellcheck.issuesOf ctx output p).Within r := by
  unfold shellcheck
  simp only
  split
  · exact .pure _
  · exact .throw _

/-- A built-in tool keeps within what the writing of its log keeps within. -/
theorem within_builtin {t : ToolPlugin} (ht : t ∈ builtin)
    (hwrite : ∀ dir, ctx.settings.packageOutput? p.name level = some dir → ∀ bytes,
      (writeFile (logFile dir t.name) bytes).Within r) : (t.scan ctx p level).Within r := by
  simp only [builtin, List.mem_cons, List.not_mem_nil, or_false] at ht
  rcases ht with rfl | rfl | rfl | rfl | rfl
  · refine within_usualScan rfl (fun files flags => ?_) within_issuesOf_pylint hwrite
    exact .bind (within_runForText _ _ _ _ _) fun _ => .pure _
  · refine within_usualScan rfl (fun files flags => ?_) (fun output => .pure _) hwrite
    exact .bind (within_runForText _ _ _ _ _) fun _ => .pure _
  · refine within_usualScan rfl (fun files flags => ?_) within_issuesOf_shellcheck hwrite
    exact .bind (within_runForText _ _ _ _ _) fun _ => .pure _
  · refine within_usualScan rfl (fun files flags => ?_) (fun output => .pure _) hwrite
    exact .bind (within_runForText _ _ _ _ _) fun _ => .pure _
  · exact within_usualScan rfl within_run_markdownlint (fun output => .pure _) hwrite

end ToolPlugin

/-! ## Reports -/

theorem ReportError.within_ofChange (path : Path) {change : Session (Except FileError Unit)}
    (h : change.Within r) : (ReportError.ofChange path change).Within r := by
  refine .bind (.lift h) fun outcome => ?_
  cases outcome with
  | ok _ => exact .pure _
  | error e => exact .throw _

theorem within_writeReport {dir : Path} {package level suffix : String}
    (hmake : (makeDirectories dir).Within r)
    (hwrite : ∀ bytes, (writeFile (reportFile dir package level suffix) bytes).Within r)
    (contents : String) : (writeReport dir package level suffix contents).Within r :=
  .bind (ReportError.within_ofChange _ hmake) fun _ =>
    .bind (ReportError.within_ofChange _ (hwrite _)) fun _ => .pure _

namespace ReportingPlugin

variable {ctx : PluginContext} {p : Package} {issues : IssueMap} {level : String}

theorem within_isSwitchedOn (plugin key : String) :
    (isSwitchedOn ctx plugin level key).Within r := by
  unfold isSwitchedOn
  split
  · exact .pure _
  · exact .throw _

theorem within_console : (console.report ctx p issues level).Within r := by
  unfold console
  refine .bind (.lift .host) fun h => .bind ?_ fun _ => .pure _
  exact .forIn (fun line _ => .bind (.lift (within_printLine _)) fun _ => .pure _) _

theorem within_json
    (hwrite : ∀ contents, (writeReport (ctx.reportDirectory p.name level) p.name level
      documentSuffix contents).Within r) : (json.report ctx p issues level).Within r := by
  unfold json
  refine .bind (within_isSwitchedOn _ _) fun toFile =>
    .bind (within_isSwitchedOn _ _) fun toTerminal => ?_
  simp only
  have hprint : (do
      if toTerminal then
        Session.printLine issues.document.write
      return none : Attempt ReportError (Option Json)).Within r := by
    split
    · exact .bind (.lift (within_printLine _)) fun _ => .pure _
    · exact .pure _
  split
  · exact .bind (hwrite _) fun _ => hprint
  · exact hprint

theorem within_records
    (hwrite : ∀ contents, (writeReport (ctx.reportDirectory p.name level) p.name level
      recordsSuffix contents).Within r) : (records.report ctx p issues level).Within r := by
  unfold PluginContext.reportDirectory at hwrite
  simp only [records]
  split
  · exact .pure _
  · rename_i hdir
    rw [hdir] at hwrite
    exact .bind (hwrite _) fun _ => .pure _

/-- A built-in report keeps within what the making of its directory and the writing of its file keep
within. -/
theorem within_builtin {plugin : ReportingPlugin} (h : plugin ∈ builtin)
    (hmake : (makeDirectories (ctx.reportDirectory p.name level)).Within r)
    (hwrite : ∀ suffix ∈ reportSuffixes, ∀ bytes,
      (writeFile (reportFile (ctx.reportDirectory p.name level) p.name level suffix) bytes).Within
        r) : (plugin.report ctx p issues level).Within r := by
  have hreport : ∀ suffix ∈ reportSuffixes, ∀ contents,
      (writeReport (ctx.reportDirectory p.name level) p.name level suffix contents).Within r :=
    fun suffix hsuffix => within_writeReport hmake (hwrite suffix hsuffix)
  simp only [builtin, List.mem_cons, List.not_mem_nil, or_false] at h
  rcases h with rfl | rfl | rfl | rfl
  · exact within_console
  · exact within_json (hreport _ List.mem_cons_self)
  · exact within_records (hreport _ (List.mem_cons_of_mem _ List.mem_cons_self))
  · exact .pure _

end ReportingPlugin

/-! ## The output directory -/

/-- To make the output directory of a package keeps within what the making of directories keeps
within. -/
theorem Runner.within_prepareOutput (r' : Runner) {package level : String}
    (hmake : ∀ dir, r'.context.settings.packageOutput? package level = some dir →
      (makeDirectories dir).Within r) : (r'.prepareOutput package level).Within r := by
  unfold prepareOutput
  cases r'.context.settings.outputDirectory with
  | none => exact .pure _
  | some root =>
    refine .bind (.lift .host) fun h => ?_
    simp only
    split
    · exact .throw _
    · cases hdir : r'.context.settings.packageOutput? package level with
      | none => exact .pure _
      | some dir =>
        refine .bind (.lift (hmake dir hdir)) fun outcome => ?_
        cases outcome with
        | ok _ => exact .pure _
        | error e => exact .throw _

/-! ## Registries -/

namespace Registry

/-- A plugin of a table that plugins were inserted into is one of them, or was there before. -/
theorem mem_of_get?_foldl_insert {β : Type} {nameOf : β → String} {name : String} {b : β}
    (bs : List β) {t : SortedTable String β}
    (h : (bs.foldl (fun t b => t.insert (nameOf b) b) t).get? name = some b) :
    b ∈ bs ∨ t.get? name = some b := by
  induction bs generalizing t with
  | nil => exact .inr h
  | cons c bs ih =>
    rcases ih h with h | h
    · exact .inl (List.mem_cons_of_mem c h)
    · rw [SortedTable.get?_insert] at h
      split at h
      · cases h
        exact .inl List.mem_cons_self
      · exact .inr h

variable {ds : List DiscoveryPlugin} {ts : List ToolPlugin} {ps : List ReportingPlugin}

theorem ofLists_eq (ds : List DiscoveryPlugin) (ts : List ToolPlugin) (ps : List ReportingPlugin) :
    ofLists ds ts ps =
      { discovery := ds.foldl (fun t d => t.insert d.name d) .empty
        tool := ts.foldl (fun t tool => t.insert tool.name tool) .empty
        reporting := ps.foldl (fun t p => t.insert p.name p) .empty } := by
  have hd : ds.foldl addDiscovery {} = { discovery := _ } :=
    List.foldl_hom (fun t => ({ discovery := t } : Registry)) fun _ _ => rfl
  have ht : ∀ d, ts.foldl addTool { discovery := d } = { discovery := d, tool := _ } :=
    fun d => List.foldl_hom (fun t => ({ discovery := d, tool := t } : Registry)) fun _ _ => rfl
  have hp : ∀ d t, ps.foldl addReporting { discovery := d, tool := t } =
      { discovery := d, tool := t, reporting := _ } := fun d t =>
    List.foldl_hom (fun p => ({ discovery := d, tool := t, reporting := p } : Registry))
      fun _ _ => rfl
  unfold ofLists
  rw [hd, ht, hp]

/-- What is registered for some lists of plugins stands in them. -/
theorem forall_ofLists :
    (∀ name d, (ofLists ds ts ps).discovery.get? name = some d → d ∈ ds) ∧
      (∀ name t, (ofLists ds ts ps).tool.get? name = some t → t ∈ ts) ∧
      ∀ name plugin, (ofLists ds ts ps).reporting.get? name = some plugin → plugin ∈ ps := by
  have hnone : ∀ {β : Type} (name : String) (b : β), SortedTable.empty.get? name ≠ some b :=
    fun _ _ h => by cases h
  rw [ofLists_eq]
  exact ⟨fun name d h => (mem_of_get?_foldl_insert ds h).resolve_right (hnone name d),
    fun name t h => (mem_of_get?_foldl_insert ts h).resolve_right (hnone name t),
    fun name p h => (mem_of_get?_foldl_insert ps h).resolve_right (hnone name p)⟩

end Registry

/-! ## Plugins that make no notes -/

/-- The notes on the plugins that ran are the same in two states. -/
def SameNotes (s s' : SessionState) : Prop := s'.timings = s.timings

instance : AllowsEntries SameNotes where
  refl _ := rfl
  trans _ _ _ h h' := Eq.trans h' h
  entries _ _ h := h

theorem Session.sameNotes_changeFiles (change : FileTree → Place → Except FileError FileTree) :
    (changeFiles change).Within SameNotes :=
  within_changeFiles fun _ _ _ => rfl

/-- Plugins that make no notes: none of them touches the list of the plugins that ran. -/
structure Registry.Discreet (g : Registry) : Prop where
  discovery : ∀ name d, g.discovery.get? name = some d →
    ∀ ctx p level x, (d.scan ctx p level x).Within SameNotes
  tool : ∀ name t, g.tool.get? name = some t →
    ∀ ctx p level, (t.scan ctx p level).Within SameNotes
  reporting : ∀ name plugin, g.reporting.get? name = some plugin →
    ∀ ctx p issues level, (plugin.report ctx p issues level).Within SameNotes

/-- The built-in plugins are discreet. -/
theorem Registry.discreet_builtin : builtin.Discreet where
  discovery name d h _ _ _ _ := DiscoveryPlugin.within_builtin (forall_ofLists.1 name d h)
  tool name t h _ _ _ := ToolPlugin.within_builtin (forall_ofLists.2.1 name t h)
    fun _ _ _ => sameNotes_changeFiles _
  reporting name plugin h _ _ _ _ := ReportingPlugin.within_builtin
    (forall_ofLists.2.2 name plugin h) (sameNotes_changeFiles _)
    fun _ _ _ => sameNotes_changeFiles _

end LintScan
