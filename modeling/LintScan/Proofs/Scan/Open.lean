import LintScan.Proofs.Pool.Alike
import LintScan.Proofs.Scan.FindPackages
import LintScan.Proofs.Settings.Output

/-!
# What is open to the scan of a package

A scan walks its package and writes into its output directory.  This file says when the paths that
it goes by are open to its job:

* `Runner.Leads`, `Leads.openTo_iff` — the machines that a scan leads to; on all of them the same
  paths are open.
* `Runner.OwnOutput`, `OwnOutput.file` — where the output directory of a package belongs to its job,
  the files that the scan writes are open to it and belong to it.
* `OpenBelow`, `OpenBelow.openTo` — where nothing in a package belongs to another job, the files of
  the package are open to its own one.
-/

namespace LintScan

open Relation (ReflTransGen)

variable {owner : Place → Option Nat} {i : Nat} {h h' : Host} {r : Runner}
  {package level : String} {root out : Path}

/-! ## The machines that a scan leads to -/

/-- A scan of a package at a level leads from one machine to another: files have changed where the
scan writes. -/
def Runner.Leads (r : Runner) (package level : String) (h h' : Host) : Prop :=
  Changes (r.footprint package level) { host := h } { host := h' }

namespace Runner.Leads

theorem refl (r : Runner) (package level : String) (h : Host) : r.Leads package level h h :=
  Changes.of_host_eq rfl

theorem make {files : FileTree} (l : r.Leads package level h h')
    (hmade : h'.files.makeDirectories h'.workingDirectory
      (r.context.reportDirectory package level) = .ok files) :
    r.Leads package level h { h' with files } :=
  l.trans ⟨files, rfl, .single (.make rfl hmade)⟩

theorem write {files : FileTree} {file : Path} {bytes : List UInt8}
    (l : r.Leads package level h h') (hfile : r.Output package level file)
    (hwritten : h'.files.write h'.workingDirectory file bytes = .ok files) :
    r.Leads package level h { h' with files } :=
  l.trans ⟨files, rfl, .single (.write hfile hwritten)⟩

variable (l : r.Leads package level h h')

include l

theorem workingDirectory_eq : h'.workingDirectory = h.workingDirectory := by
  obtain ⟨files, hhost, _⟩ := l
  simp only at hhost
  rw [hhost]

theorem absolute_eq (p : Path) : h'.absolute p = h.absolute p := by
  unfold Host.absolute Host.workingPath
  rw [l.workingDirectory_eq]

theorem steps : ReflTransGen (FileTree.Change (r.footprint package level) h.workingDirectory)
    h.files h'.files := by
  obtain ⟨files, hhost, hsteps⟩ := l
  simp only at hhost
  rw [hhost]
  exact hsteps

/-- A path that is open to a job stays so. -/
theorem openTo {p : Path} (o : OpenTo owner i h.files p) : OpenTo owner i h'.files p where
  absolute := o.absolute
  noUp := o.noUp
  unlinked above habove target hlink :=
    o.unlinked above habove target (FileTree.link_of_changes l.steps hlink)
  look := o.look

theorem openTo_iff {p : Path} :
    OpenTo owner i h'.files p ↔ OpenTo owner i h.files p := by
  refine ⟨fun o => ⟨⟨o.absolute, o.noUp, fun above habove target hlink => ?_⟩, o.look⟩, l.openTo⟩
  exact o.unlinked above habove target ((FileTree.extends_of_changes l.steps).link hlink)

theorem isTree (tree : h.files.IsTree)
    (standing : h.files.entry? h.workingDirectory = some .directory) : h'.files.IsTree := by
  have hkept : ∀ {files : FileTree},
      ReflTransGen (FileTree.Change (r.footprint package level) h.workingDirectory) h.files files →
      files.IsTree ∧ files.entry? h.workingDirectory = some .directory := by
    intro files hsteps
    induction hsteps with
    | refl => exact ⟨tree, standing⟩
    | tail _ hchange ih =>
      cases hchange with
      | make _ hmade => exact FileTree.IsTree.makeDirectories hmade ih.1 ih.2
      | write _ hwritten => exact FileTree.IsTree.write hwritten ih.1 ih.2
  exact (hkept l.steps).1

end Runner.Leads

/-! ## The output directory of a package -/

/-- The output directory of a package at a level belongs to a job, with all that lies in it; its
path is open to the job, and what is missing on the way there belongs to the job. -/
structure Runner.OwnOutput (r : Runner) (owner : Place → Option Nat) (i : Nat) (h : Host)
    (package level : String) (out : Path) : Prop where
  configured : r.context.settings.outputDirectory = some out
  named : '/' ∉ package.toList
  flat : ∀ name t, r.registry.tool.get? name = some t → '/' ∉ t.name.toList
  dir : OpenTo owner i h.files (out.join (stamp package level))
  unlinked : h.files.Unlinked (out.join (stamp package level)).namesOn
  own : ∀ names, owner ((out.join (stamp package level)).namesOn ++ names) = some i
  missing : ∀ place, place <+: (out.join (stamp package level)).namesOn →
    h.files.entry? place = none → owner place = some i

namespace Runner.OwnOutput

variable (o : r.OwnOutput owner i h package level out)

include o

theorem packageOutput?_eq : r.context.settings.packageOutput? package level =
    some (out.join (stamp package level)) :=
  Settings.packageOutput?_eq o.configured package level

theorem reportDirectory_eq : r.context.reportDirectory package level =
    out.join (stamp package level) := by
  rw [PluginContext.reportDirectory, o.packageOutput?_eq, Option.getD_some]

theorem later (l : r.Leads package level h h') : r.OwnOutput owner i h' package level out where
  configured := o.configured
  named := o.named
  flat := o.flat
  dir := l.openTo o.dir
  unlinked := FileTree.unlinked_of_changes l.steps o.unlinked
  own := o.own
  missing place hplace hnone := o.missing place hplace (by
    cases he : h.files.entry? place with
    | none => rfl
    | some e =>
      rcases FileTree.extends_of_changes l.steps place e he with hsame | ⟨_, _, _, hother⟩
      · rw [hsame] at hnone
        cases hnone
      · rw [hother] at hnone
        cases hnone)

theorem noUp_stamp : .up ∉ (stamp package level).parts := by
  have hup := o.dir.noUp
  rw [Path.parts_join (isNamed_stamp o.named level), List.mem_append, not_or] at hup
  exact hup.2

/-- The directory of all output is open, too. -/
theorem openTo_out : OpenTo owner i h.files out := by
  have hstamp := isNamed_stamp o.named level
  have hparts := Path.parts_join (p := out) hstamp
  have hnames : out.namesOn <+: (out.join (stamp package level)).namesOn := by
    unfold Path.namesOn
    rw [hparts, List.filterMap_append]
    exact List.prefix_append _ _
  refine ⟨⟨?_, fun hup => o.dir.noUp ?_, fun q hq => o.dir.unlinked q (hq.trans hnames)⟩,
    fun q hq => o.dir.look q (hq.trans hnames)⟩
  · have hroot := Path.root_mem_parts_iff.2 o.dir.absolute
    rw [hparts, List.mem_append] at hroot
    exact Path.root_mem_parts_iff.1 (hroot.resolve_right (Path.isNamed_iff.1 hstamp).1)
  · rw [hparts]
    exact List.mem_append_left _ hup

/-- **The files that a scan writes are open to its job, and belong to it.** -/
theorem file {file : Path} (hfile : r.Output package level file) :
    OpenTo owner i h.files file ∧ owner file.namesOn = some i := by
  obtain ⟨x, rfl, hx, hbehind⟩ := hfile.exists_behind o.configured o.named o.flat
  have hup : .up ∉ x.parts := hbehind.up_notMem o.noUp_stamp
  have hparts := Path.parts_join (p := out.join (stamp package level)) hx
  have hnames : ((out.join (stamp package level)).join x).namesOn =
      (out.join (stamp package level)).namesOn ++ x.namesOn := by
    unfold Path.namesOn
    rw [hparts, List.filterMap_append]
  refine ⟨o.dir.behind ?_ ?_ hnames (fun more _ => o.unlinked more) fun more => ?_, ?_⟩
  · rw [← Path.root_mem_parts_iff, hparts]
    exact List.mem_append_left _ (Path.root_mem_parts_iff.2 o.dir.absolute)
  · rw [hparts, List.mem_append]
    exact not_or.2 ⟨o.dir.noUp, hup⟩
  · simp [mayLook, o.own more]
  · rw [hnames]
    exact o.own _

end Runner.OwnOutput

/-! ## The files of a package -/

/-- A path is open to a job with all that lies below it. -/
structure OpenBelow (owner : Place → Option Nat) (i : Nat) (t : FileTree) (root : Path) : Prop
    extends OpenTo owner i t root where
  below : ∀ names, mayLook owner i (root.namesOn ++ names) = true

theorem Runner.Leads.openBelow (l : r.Leads package level h h')
    (o : OpenBelow owner i h.files root) : OpenBelow owner i h'.files root :=
  ⟨l.openTo o.toOpenTo, o.below⟩

/-- The files below a plain path stand where the names behind it lead. -/
theorem FileTree.Plain.exists_names (plain : h.files.Plain root) (tree : h.files.IsTree)
    {path : Path} (hpath : path ∈ h.regularFiles root) :
    ∃ names, path = Host.pathBelow root names ∧ (∀ n ∈ names, IsName n) ∧
      ∃ bytes mode, h.files.entry? (root.namesOn ++ names) = some (.file bytes mode) := by
  unfold Host.regularFiles at hpath
  split at hpath
  · cases hpath
  · rename_i place hlocate
    obtain rfl := plain.place_of_locate hlocate
    split at hpath
    · rename_i bytes mode hfile
      obtain rfl := List.mem_singleton.1 hpath
      exact ⟨[], rfl, nofun, bytes, mode, by rwa [List.append_nil]⟩
    · obtain ⟨b, hb, rfl⟩ := List.mem_map.1 hpath
      obtain ⟨hb, hfile⟩ := List.mem_filter.1 hb
      obtain ⟨_, hentry⟩ := tree.mem_below_iff.1 hb
      refine ⟨b.names, rfl, fun n hn => tree.isName hentry (List.mem_append_right _ hn), ?_⟩
      unfold Entry.isFile at hfile
      split at hfile
      · rename_i bytes mode heq
        exact ⟨bytes, mode, by rw [hentry, heq]⟩
      · cases hfile
    · rename_i target hlink
      exact absurd hlink (plain.unlinked _ List.prefix_rfl target)
    · cases hpath

theorem Path.filterMap_name?_filter (parts : List Part) :
    (parts.filter (· != .here)).filterMap Part.name? = parts.filterMap Part.name? := by
  rw [List.filterMap_filter]
  congr 1
  funext part
  cases part <;> rfl

/-- **The files of a package are open to its job,** where nothing in the package belongs to another
one. -/
theorem OpenBelow.openTo (o : OpenBelow owner i h.files root) (tree : h.files.IsTree)
    {path : Path} (hpath : path ∈ h.regularFiles root) :
    OpenTo owner i h.files (h.absolute path) := by
  obtain ⟨names, rfl, hnames, bytes, mode, hfile⟩ := o.exists_names tree hpath
  have habsolute : (Host.pathBelow root names).isAbsolute = true := by
    rw [← Path.root_mem_parts_iff, Host.parts_pathBelow hnames]
    exact List.mem_append_left _ (Path.root_mem_parts_iff.2 o.absolute)
  have hparts : (h.absolute (Host.pathBelow root names)).parts =
      (root.parts ++ names.map Part.name).filter (· != Part.here) := by
    rw [Host.parts_absolute, if_pos habsolute, Host.parts_pathBelow hnames, List.nil_append]
  have hplace : (h.absolute (Host.pathBelow root names)).namesOn = root.namesOn ++ names := by
    unfold Path.namesOn
    rw [hparts, Path.filterMap_name?_filter, List.filterMap_append, List.filterMap_map]
    congr 1
    exact List.filterMap_some
  refine o.toOpenTo.behind ?_ (fun hup => ?_) hplace (fun more hmore target => ?_) o.below
  · rw [← Path.root_mem_parts_iff, hparts]
    exact List.mem_filter.2
      ⟨List.mem_append_left _ (Path.root_mem_parts_iff.2 o.absolute), by decide⟩
  · rw [hparts] at hup
    rcases List.mem_append.1 (List.mem_filter.1 hup).1 with hup | hup
    · exact o.noUp hup
    · obtain ⟨_, _, hname⟩ := List.mem_map.1 hup
      cases hname
  · -- On the way to a file there are directories alone.
    obtain ⟨rest, rfl⟩ := hmore
    rw [← List.append_assoc] at hfile
    by_cases hrest : rest = []
    · rw [hrest, List.append_nil] at hfile
      rw [hfile]
      nofun
    · rw [tree.directory_above hrest hfile]
      nofun

theorem Package.mem_paths_setPaths {q : Package} {tag other : String} {paths : List Path}
    {path : Path} (h : path ∈ (q.setPaths tag paths).paths other) :
    path ∈ paths ∨ path ∈ q.paths other := by
  unfold Package.paths Package.get? Package.setPaths Package.insert at h
  rw [SortedTable.get?_insert] at h
  split at h
  · rename_i found heq
    split at heq
    · cases heq
      exact .inl h
    · right
      unfold Package.paths Package.get?
      rwa [heq]
  · cases h

/-- What discovery knows of a package is open to a job. -/
structure Package.Open (owner : Place → Option Nat) (i : Nat) (t : FileTree) (q : Package) :
    Prop where
  files : ∀ f ∈ q.fileList, OpenTo owner i t f.path
  paths : ∀ tag, ∀ path ∈ q.paths tag, OpenTo owner i t path

end LintScan
