import LintScan.Proofs.Files.Absolute
import LintScan.Proofs.Scan.Packages
import LintScan.Proofs.Scan.Plan
import LintScan.Proofs.Scan.Writes

/-!
# Output directories

The output directory of a package is named by the name and the level of the package, with a dash
between them.  This file says which packages have different directories:

* `exists_parts_stamp` — the parts of such a name.
* `stamp_ne` — where no other dash can be taken for the one in between, packages with different
  names have different names for their directories.
* `LiesBehind`, `Runner.Output.exists_behind` — how the files that a scan writes lie behind it.
* `Runner.Output.parts_ne`, `read_eq_of_changes` — so the files that their scans write are
  different, too, and outlast the scans of each other.
* `packageOutput_separates` — these results together.
* `packageOutput_twins` — packages of one name share a directory.
-/

namespace LintScan

open Text

/-! ## Dashes -/

theorem takeWhile_append_cons {a b : List Char} {c : Char} (h : c ∉ a) :
    (a ++ c :: b).takeWhile (· != c) = a := by
  rw [List.takeWhile_append_of_pos fun d hd => by simpa using fun he : d = c => h (he ▸ hd)]
  simp

/-- A text is cut at its first dash in one way only. -/
theorem first_dash {a a' b b' : List Char} {c : Char} (ha : c ∉ a) (ha' : c ∉ a')
    (h : a ++ c :: b = a' ++ c :: b') : a = a' := by
  rw [← takeWhile_append_cons (b := b) ha, h, takeWhile_append_cons ha']

/-- A text is cut at its last dash in one way only. -/
theorem last_dash {a a' b b' : List Char} {c : Char} (hb : c ∉ b) (hb' : c ∉ b')
    (h : a ++ c :: b = a' ++ c :: b') : a = a' := by
  have hreverse : b.reverse ++ c :: a.reverse = b'.reverse ++ c :: a'.reverse := by
    simpa using congrArg List.reverse h
  have hback : b.reverse = b'.reverse := first_dash (by simpa) (by simpa) hreverse
  rw [List.reverse_inj.1 hback] at h
  exact List.append_cancel_right h

/-! ## The name of an output directory -/

theorem Settings.packageOutput?_eq {s : Settings} {root : Path}
    (h : s.outputDirectory = some root) (package level : String) :
    s.packageOutput? package level = some (root.join (stamp package level)) := by
  unfold packageOutput?
  rw [h]
  rfl

variable {package level package' level' : String}

/-- The pieces of the name: up to the first slash of the level, and on. -/
theorem exists_pieces_stamp (h : '/' ∉ package.toList) (level : String) :
    ∃ first after, splitAtEach '/' level.toList = first :: after ∧
      splitAtEach '/' (stamp package level).text.toList =
        (package.toList ++ '-' :: first) :: after := by
  have hfront : '/' ∉ package.toList ++ ['-'] := by simpa using h
  obtain ⟨before, last, first, after, ha, hb, hab⟩ :=
    exists_splitAtEach_glue '/' (package.toList ++ ['-']) level.toList
  rw [splitAtEach_of_not_mem hfront] at ha
  obtain ⟨rfl, rfl⟩ : before = [] ∧ last = package.toList ++ ['-'] := by
    cases before with
    | nil => exact ⟨rfl, (List.singleton_inj.1 ha).symm⟩
    | cons piece before => simp at ha
  refine ⟨first, after, hb, ?_⟩
  have htext : (stamp package level).text.toList = package.toList ++ ['-'] ++ level.toList := by
    simp [stamp]
  rw [htext, hab]
  simp

/-- A piece is a name if it holds anything else than dots. -/
theorem partOf?_of_mem {piece : List Char} {c : Char} (hc : c ∈ piece) (hdot : c ≠ '.') :
    Path.partOf? piece = some (.name (String.ofList piece)) := by
  unfold Path.partOf?
  rw [if_neg, if_neg]
  · rintro rfl
    simp [hdot] at hc
  · rintro (rfl | rfl) <;> simp [hdot] at hc

theorem isNamed_of_mem {p : Path} {piece : List Char} {rest : List (List Char)} {c : Char}
    (h : splitAtEach '/' p.text.toList = piece :: rest) (hc : c ∈ piece) (hdot : c ≠ '.') :
    p.IsNamed :=
  Path.isNamed_of_first h (by rintro rfl; simp at hc) (by rintro rfl; simp [hdot] at hc)

theorem isNamed_stamp (h : '/' ∉ package.toList) (level : String) :
    (stamp package level).IsNamed := by
  obtain ⟨first, after, _, hpieces⟩ := exists_pieces_stamp h level
  exact isNamed_of_mem (c := '-') hpieces (by simp) (by decide)

/-- The parts of the name: one up to the first slash of the level, and those behind it. -/
theorem exists_parts_stamp (h : '/' ∉ package.toList) (level : String) :
    ∃ first after, splitAtEach '/' level.toList = first :: after ∧
      (stamp package level).parts =
        .name (String.ofList (package.toList ++ '-' :: first)) :: after.filterMap Path.partOf? := by
  obtain ⟨first, after, hlevel, hpieces⟩ := exists_pieces_stamp h level
  refine ⟨first, after, hlevel, ?_⟩
  rw [(isNamed_stamp h level).parts_eq, Path.steps, hpieces,
    List.filterMap_cons_some (partOf?_of_mem (c := '-') (by simp) (by decide))]

/-- Packages with different names have different names for their directories, where the dash in
between can be told from the others: at one level, or if there is none in the levels or none in the
names. -/
theorem stamp_ne (h : '/' ∉ package.toList) (h' : '/' ∉ package'.toList)
    (differ : package ≠ package')
    (clear : level = level' ∨ '-' ∉ level.toList ∧ '-' ∉ level'.toList ∨
      '-' ∉ package.toList ∧ '-' ∉ package'.toList) :
    (stamp package level).parts ≠ (stamp package' level').parts := by
  obtain ⟨first, after, hlevel, hparts⟩ := exists_parts_stamp h level
  obtain ⟨first', after', hlevel', hparts'⟩ := exists_parts_stamp h' level'
  rw [hparts, hparts']
  intro heq
  have hhead : package.toList ++ '-' :: first = package'.toList ++ '-' :: first' :=
    String.ofList_injective (Part.name.inj (List.head_eq_of_cons_eq heq))
  refine differ (String.toList_inj.1 ?_)
  rcases clear with rfl | ⟨hl, hl'⟩ | ⟨hp, hp'⟩
  · rw [hlevel, List.cons.injEq] at hlevel'
    rw [hlevel'.1] at hhead
    exact List.append_cancel_right hhead
  · refine last_dash (fun hc => hl ?_) (fun hc => hl' ?_) hhead
    · exact (mem_of_mem_piece (hlevel ▸ List.mem_cons_self) hc).1
    · exact (mem_of_mem_piece (hlevel' ▸ List.mem_cons_self) hc).1
  · exact first_dash hp hp' hhead

/-! ## The files in an output directory -/

/-- How a written file lies behind the output directory: a log is a single part, and a report has as
many parts as the name of the directory, or one more, of which the last one tells that it is no
log. -/
inductive LiesBehind (package level : String) (x : Path) : Prop
  | log (tool : String) : x.parts = [.name (tool ++ ".log")] → LiesBehind package level x
  | report (before : List Part) (last : List Char) :
      x.parts = before ++ [.name (String.ofList last)] → last.getLast? = some 'n' →
      before <+: (stamp package level).parts →
      (stamp package level).parts.length ≤ before.length + 1 → LiesBehind package level x

theorem suffix_facts {suffix : String} (h : suffix ∈ reportSuffixes) :
    '/' ∉ suffix.toList ∧ suffix.toList.getLast? = some 'n' := by
  simp only [reportSuffixes, List.mem_cons, List.not_mem_nil, or_false] at h
  rcases h with rfl | rfl <;> decide

/-- The name of a report is the name of the directory with a suffix at its last piece. -/
theorem liesBehind_report (h : '/' ∉ package.toList) (level : String) {suffix : String}
    (hsuffix : suffix ∈ reportSuffixes) :
    (⟨(stamp package level).text ++ suffix⟩ : Path).IsNamed ∧
      LiesBehind package level ⟨(stamp package level).text ++ suffix⟩ := by
  obtain ⟨hslash, hend⟩ := suffix_facts hsuffix
  have hmem : 'n' ∈ suffix.toList := List.mem_of_getLast? hend
  have hnamed := isNamed_stamp h level
  obtain ⟨before, last, first, after, ha, hb, hab⟩ :=
    exists_splitAtEach_glue '/' (stamp package level).text.toList suffix.toList
  rw [splitAtEach_of_not_mem hslash, List.cons.injEq] at hb
  obtain ⟨rfl, rfl⟩ := hb
  have htext : (⟨(stamp package level).text ++ suffix⟩ : Path).text.toList =
      (stamp package level).text.toList ++ suffix.toList := by simp
  have hreport : (⟨(stamp package level).text ++ suffix⟩ : Path).IsNamed := by
    obtain ⟨piece, rest, _, hpieces⟩ := exists_pieces_stamp h level
    rw [← htext] at hab
    cases before with
    | nil => exact isNamed_of_mem hab (List.mem_append_right _ hmem) (by decide)
    | cons b before =>
      rw [ha, List.cons_append, List.cons.injEq] at hpieces
      rw [List.cons_append] at hab
      exact isNamed_of_mem (c := '-') hab (by simp [hpieces.1]) (by decide)
  refine ⟨hreport, .report (before.filterMap Path.partOf?) (last ++ suffix.toList) ?_ ?_ ?_ ?_⟩
  · rw [hreport.parts_eq, Path.steps, htext, hab]
    simp [partOf?_of_mem (List.mem_append_right last hmem)]
  · rw [List.getLast?_append, hend]
    rfl
  · rw [hnamed.parts_eq, Path.steps, ha, List.filterMap_append]
    exact List.prefix_append _ _
  · rw [hnamed.parts_eq, Path.steps, ha, List.filterMap_append, List.length_append]
    have := List.length_filterMap_le Path.partOf? [last]
    simpa using this

/-- The name of a log is a single part. -/
theorem liesBehind_log {tool : String} (h : '/' ∉ tool.toList) :
    (⟨tool ++ ".log"⟩ : Path).IsNamed ∧ LiesBehind package level ⟨tool ++ ".log"⟩ := by
  have hpieces : splitAtEach '/' (tool ++ ".log").toList = [(tool ++ ".log").toList] :=
    splitAtEach_of_not_mem (by simp [h])
  have hmem : 'g' ∈ (tool ++ ".log").toList := by simp
  have hnamed : (⟨tool ++ ".log"⟩ : Path).IsNamed := isNamed_of_mem hpieces hmem (by decide)
  refine ⟨hnamed, .log tool ?_⟩
  rw [hnamed.parts_eq, Path.steps, hpieces,
    List.filterMap_cons_some (partOf?_of_mem hmem (by decide))]
  simp

/-- Without a step up in the name of the output directory there is none in what is written there. -/
theorem LiesBehind.up_notMem {x : Path} (b : LiesBehind package level x)
    (noUp : .up ∉ (stamp package level).parts) : .up ∉ x.parts := by
  cases b with
  | log tool hparts => simp [hparts]
  | report before last hparts _ hbefore _ =>
    rw [hparts, List.mem_append, not_or]
    exact ⟨fun hup => noUp (hbefore.subset hup), by simp⟩

/-- The name of a log is not that of a report. -/
theorem log_ne_report {tool : String} {last : List Char} (h : last.getLast? = some 'n') :
    tool ++ ".log" ≠ String.ofList last := by
  intro heq
  have hchars : tool.toList ++ ['.', 'l', 'o', 'g'] = last := by
    rw [← String.toList_ofList (l := last), ← heq]
    simp
  rw [← hchars] at h
  simp at h

namespace Runner.Output

variable {r : Runner} {root file file' : Path}

/-- A written file lies behind the output directory. -/
theorem exists_behind (configured : r.context.settings.outputDirectory = some root)
    (h : '/' ∉ package.toList)
    (flat : ∀ name t, r.registry.tool.get? name = some t → '/' ∉ t.name.toList)
    (hfile : r.Output package level file) :
    ∃ x : Path, file = (root.join (stamp package level)).join x ∧ x.IsNamed ∧
      LiesBehind package level x := by
  have hdir := Settings.packageOutput?_eq configured package level
  cases hfile with
  | @log name t _ ht hd =>
    obtain ⟨hnamed, hbehind⟩ := liesBehind_log (flat name t ht)
    rw [hdir, Option.some.injEq] at hd
    exact ⟨_, by rw [ToolPlugin.logFile, hd], hnamed, hbehind⟩
  | report hsuffix =>
    obtain ⟨hnamed, hbehind⟩ := liesBehind_report h level hsuffix
    exact ⟨_, by rw [PluginContext.reportDirectory, hdir, Option.getD_some, reportFile], hnamed,
      hbehind⟩

theorem parts_eq {x : Path} (h : '/' ∉ package.toList) (hx : x.IsNamed) :
    ((root.join (stamp package level)).join x).parts =
      root.parts ++ ((stamp package level).parts ++ x.parts) := by
  rw [Path.parts_join hx, Path.parts_join (isNamed_stamp h level), List.append_assoc]

/-- The files in different output directories are different: none is written by the scans of both
packages. -/
theorem parts_ne (configured : r.context.settings.outputDirectory = some root)
    (h : '/' ∉ package.toList) (h' : '/' ∉ package'.toList)
    (flat : ∀ name t, r.registry.tool.get? name = some t → '/' ∉ t.name.toList)
    (differ : (stamp package level).parts ≠ (stamp package' level').parts)
    (hfile : r.Output package level file) (hfile' : r.Output package' level' file') :
    file.parts ≠ file'.parts := by
  obtain ⟨x, rfl, hx, hbehind⟩ := hfile.exists_behind configured h flat
  obtain ⟨x', rfl, hx', hbehind'⟩ := hfile'.exists_behind configured h' flat
  rw [parts_eq h hx, parts_eq h' hx', Ne, List.append_cancel_left_eq]
  intro heq
  rcases hbehind with ⟨tool, hparts⟩ | ⟨before, last, hparts, hend, hle, hge⟩ <;>
    rcases hbehind' with ⟨tool', hparts'⟩ | ⟨before', last', hparts', hend', hle', hge'⟩ <;>
    rw [hparts, hparts'] at heq
  · exact differ (List.append_inj_left' heq rfl)
  · rw [← List.append_assoc] at heq
    have hlast := List.append_inj_right' heq rfl
    exact log_ne_report hend' (Part.name.inj (List.singleton_inj.1 hlast))
  · rw [← List.append_assoc] at heq
    have hlast := List.append_inj_right' heq rfl
    exact log_ne_report hend (Part.name.inj (List.singleton_inj.1 hlast)).symm
  · -- A report has as many parts as its directory, or one more, so the directories are as long.
    have hlengths := congrArg List.length heq
    simp only [List.length_append, List.length_singleton] at hlengths
    refine differ (List.append_inj_left heq ?_)
    have := hle.length_le
    have := hle'.length_le
    omega

/-- Where a file lies that is written into an output directory without links. -/
theorem exists_place (configured : r.context.settings.outputDirectory = some root)
    (h : '/' ∉ package.toList)
    (flat : ∀ name t, r.registry.tool.get? name = some t → '/' ∉ t.name.toList)
    (noUp : .up ∉ (stamp package level).parts) (hfile : r.Output package level file) :
    ∃ names : List String, file.parts = root.parts ++ names.map .name ∧
      ∀ {t : FileTree} {cwd place target : Place},
        t.find cwd root = .ok (place, .directory) → t.Unlinked place →
        t.locate cwd true file = .ok target → target = place ++ names := by
  obtain ⟨x, rfl, hx, hlies⟩ := hfile.exists_behind configured h flat
  have hstamp := isNamed_stamp h level
  have hbehind : ((stamp package level).join x).IsNamed := hstamp.join hx
  have hnoUp : .up ∉ ((stamp package level).join x).parts := by
    rw [Path.parts_join hx, List.mem_append]
    exact not_or.2 ⟨noUp, hlies.up_notMem noUp⟩
  have htext : (stamp package level).text ≠ "" := by
    simp [stamp, String.append_eq_empty_iff]
  refine ⟨((stamp package level).join x).namesOn, ?_, fun found unlinked hlocate => ?_⟩
  · rw [← hbehind.parts_eq_map hnoUp, parts_eq h hx, Path.parts_join hx]
  · rw [Path.join_join root hstamp.isAbsolute_eq htext hx.isAbsolute_eq hbehind.isAbsolute_eq]
      at hlocate
    refine FileTree.place_of_locate unlinked found hbehind ?_ hnoUp hlocate
    rw [Path.text_join hx.isAbsolute_eq]
    exact fun hempty => Path.front_ne htext (String.append_eq_empty_iff.1 hempty).1

/-- **What one package has in its output directory outlasts what another one writes into its own.**
This needs an output directory in which a path leads where its names say: one without links and
steps up. -/
theorem read_eq_of_changes (configured : r.context.settings.outputDirectory = some root)
    (h : '/' ∉ package.toList) (h' : '/' ∉ package'.toList)
    (flat : ∀ name t, r.registry.tool.get? name = some t → '/' ∉ t.name.toList)
    (noUp : .up ∉ (stamp package level).parts) (noUp' : .up ∉ (stamp package' level').parts)
    (differ : (stamp package level).parts ≠ (stamp package' level').parts)
    (hfile : r.Output package level file) {s s' : SessionState}
    (changes : Changes (r.footprint package' level') s s') {place : Place}
    (found : s.host.files.find s.host.workingDirectory root = .ok (place, .directory))
    (unlinked : s.host.files.Unlinked place) {bytes : List UInt8}
    (hread : s.host.read file = .ok bytes) : s'.host.read file = .ok bytes := by
  obtain ⟨target, mode, hfind⟩ := FileTree.exists_find_of_read hread
  obtain ⟨hlocate, he⟩ := FileTree.find_eq_ok_iff.1 hfind
  have hstays : s'.host.files.entry? target = some (.file bytes mode) := by
    refine (changes.entry?_eq_or he).resolve_right ?_
    rintro ⟨file', files, hfile', hsteps, hlocate'⟩
    -- A file of the other package at this place would have the path of this one.
    obtain ⟨names, hparts, hplace⟩ := hfile.exists_place configured h flat noUp
    obtain ⟨names', hparts', hplace'⟩ := exists_place configured h' flat noUp' hfile'
    have hsame : place ++ names = place ++ names' := (hplace found unlinked hlocate).symm.trans
      (hplace' ((FileTree.extends_of_changes hsteps).find_directory found)
        (FileTree.unlinked_of_changes hsteps unlinked) hlocate')
    refine hfile.parts_ne configured h h' flat differ hfile' ?_
    rw [hparts, hparts', List.append_cancel_left hsame]
  obtain ⟨files, hhost, hsteps⟩ := changes
  rw [hhost] at hstays ⊢
  exact FileTree.read_of_find (FileTree.find_eq_ok_iff.2
    ⟨(FileTree.extends_of_changes hsteps).locate hlocate he, hstays⟩)

end Runner.Output

/-! ## Which packages share a directory -/

/-- **Which packages share an output directory.** Two packages have the same output directory
exactly if their names and levels, with a dash in between, are the same path. So packages with
different names have different ones wherever they have one level, or their levels or their names
hold no other dash. And where the directories are different, no log and no report that the scan of
one package writes has the path of one of the other, unless a tool has a slash in its name. With
plugins that write only their logs and reports, a scan changes no other file; so what one package
has in its output directory outlasts the scan of the other, if a path in there leads where its names
say. -/
theorem packageOutput_separates (r : Runner) {root a b : Path}
    (configured : r.context.settings.outputDirectory = some root) {n m : String}
    (ha : a.fileName? = some n) (hb : b.fileName? = some m) :
    ∃ dir dir',
      r.context.settings.packageOutput? (Package.ofPath a).name
        (r.levelOf (Package.ofPath a).name none) = some dir ∧
      r.context.settings.packageOutput? (Package.ofPath b).name
        (r.levelOf (Package.ofPath b).name none) = some dir' ∧
      (dir.parts = dir'.parts ↔
        (⟨n ++ "-" ++ r.levelOf n none⟩ : Path).parts =
          (⟨m ++ "-" ++ r.levelOf m none⟩ : Path).parts) ∧
      (n ≠ m →
        (r.levelOf n none = r.levelOf m none ∨
          '-' ∉ (r.levelOf n none).toList ∧ '-' ∉ (r.levelOf m none).toList ∨
          '-' ∉ n.toList ∧ '-' ∉ m.toList) →
        dir.parts ≠ dir'.parts) ∧
      (dir.parts ≠ dir'.parts →
        (∀ name t, r.registry.tool.get? name = some t → '/' ∉ t.name.toList) →
        ∀ file file', r.Output n (r.levelOf n none) file → r.Output m (r.levelOf m none) file' →
          file.parts ≠ file'.parts) ∧
      (r.registry.Tidy → ∀ path s, s.host.canonical? path = some b →
        Changes (r.footprint m (r.levelOf m none)) s ((r.run path none).runFrom s).2) ∧
      (dir.parts ≠ dir'.parts →
        (∀ name t, r.registry.tool.get? name = some t → '/' ∉ t.name.toList) →
        .up ∉ (⟨n ++ "-" ++ r.levelOf n none⟩ : Path).parts →
        .up ∉ (⟨m ++ "-" ++ r.levelOf m none⟩ : Path).parts →
        r.registry.Tidy → ∀ path s, s.host.canonical? path = some b →
        ∀ place, s.host.files.find s.host.workingDirectory root = .ok (place, .directory) →
        s.host.files.Unlinked place →
        ∀ file bytes, r.Output n (r.levelOf n none) file → s.host.read file = .ok bytes →
          ((r.run path none).runFrom s).2.host.read file = .ok bytes) := by
  have hn : (Package.ofPath a).name = n := by
    unfold Package.ofPath
    rw [ha]
    rfl
  have hm : (Package.ofPath b).name = m := by
    unfold Package.ofPath
    rw [hb]
    rfl
  have hslash := Path.fileName?_no_slash ha
  have hslash' := Path.fileName?_no_slash hb
  have hdir := Settings.packageOutput?_eq configured n (r.levelOf n none)
  have hdir' := Settings.packageOutput?_eq configured m (r.levelOf m none)
  rw [hn, hm]
  have hiff : (root.join (stamp n (r.levelOf n none))).parts =
        (root.join (stamp m (r.levelOf m none))).parts ↔
      (stamp n (r.levelOf n none)).parts = (stamp m (r.levelOf m none)).parts := by
    rw [Path.parts_join (isNamed_stamp hslash _), Path.parts_join (isNamed_stamp hslash' _),
      List.append_cancel_left_eq]
  have hchanges : r.registry.Tidy → ∀ path s, s.host.canonical? path = some b →
      Changes (r.footprint m (r.levelOf m none)) s ((r.run path none).runFrom s).2 := by
    intro tidy path s hpath
    have := Runner.changes_run tidy hpath none
    rwa [hm] at this
  refine ⟨_, _, hdir, hdir', hiff, fun differ clear h => ?_,
    fun differ flat file file' hfile hfile' => ?_, hchanges,
    fun differ flat noUp noUp' tidy path s hpath place found unlinked file bytes hfile hread => ?_⟩
  · exact stamp_ne hslash hslash' differ clear (hiff.1 h)
  · exact hfile.parts_ne configured hslash hslash' flat (fun h => differ (hiff.2 h)) hfile'
  · exact hfile.read_eq_of_changes configured hslash hslash' flat noUp noUp'
      (fun h => differ (hiff.2 h)) (hchanges tidy path s hpath) found unlinked hread

/-- A tool that finds nothing and keeps a log of the package that it has seen. -/
def witnessTool : ToolPlugin where
  name := "witness"
  fileTypes := []
  run _ _ _ _ _ := return []
  issuesOf _ _ _ := return []
  scan ctx p level := do
    ToolPlugin.keepLog "witness" ctx p level [p.path.text]
    return []

/-- A runner with an output directory and a single tool. -/
def witnessRunner : Runner where
  context := {
    settings := { outputDirectory := some ⟨"/out"⟩, level := some "basic" }
    config := { levels := .ofList [("basic", { tool := some (.ofList [("witness", none)]) })] }
    resources := { defaultPath := ⟨"/"⟩ } }
  exceptions := {}
  profile := none
  registry := .ofLists [] [witnessTool] []

/-- The tool writes its log alone. -/
theorem tidy_witnessRunner : witnessRunner.registry.Tidy where
  discovery name d h := by cases (Registry.forall_ofLists.1 name d h)
  name name d h := by cases (Registry.forall_ofLists.1 name d h)
  tool name t h ctx p level := by
    obtain rfl := List.mem_singleton.1 (Registry.forall_ofLists.2.1 name t h)
    exact .bind (.lift (ToolPlugin.within_keepLog fun dir hdir =>
      Session.within_writeFile ⟨dir, hdir, rfl⟩)) fun _ => .pure _
  reporting name plugin h := by cases (Registry.forall_ofLists.2.2 name plugin h)

/-- A session on a machine with two packages, the name of one of which is the head of that of the
other. -/
def dashSession : SessionState where
  host := { Runner.bareSession.host with
    files := ⟨[(["out"], .directory), (["w"], .directory), (["w", "a"], .directory),
      (["w", "a-b"], .directory)]⟩ }

/-- Packages with different names have different directories, and the log of the first is still
there behind the scan of the second. -/
theorem packageOutput_witnessRunner :
    let first := (witnessRunner.run ⟨"/w/a"⟩ none).runFrom dashSession
    let second := (witnessRunner.run ⟨"/w/a-b"⟩ none).runFrom first.2
    witnessRunner.registry.Tidy ∧
      (∃ dir dir',
        witnessRunner.context.settings.packageOutput? "a" "basic" = some dir ∧
        witnessRunner.context.settings.packageOutput? "a-b" "basic" = some dir' ∧
        dir.parts ≠ dir'.parts) ∧
      second.1.toOption.isSome = true ∧
      second.2.host.readText ⟨"/out/a-basic/witness.log"⟩ = .ok "/w/a" ∧
      second.2.host.readText ⟨"/out/a-b-basic/witness.log"⟩ = .ok "/w/a-b" := by
  have hroot : witnessRunner.context.settings.outputDirectory = some ⟨"/out"⟩ := rfl
  have ha : (⟨"/w/a"⟩ : Path).fileName? = some "a" := by decide +kernel
  have hb : (⟨"/w/a-b"⟩ : Path).fileName? = some "a-b" := by decide +kernel
  obtain ⟨dir, dir', hdir, hdir', _, hne, _, _, houtlasts⟩ :=
    packageOutput_separates witnessRunner hroot ha hb
  have hdiffer := hne (by decide) (.inl rfl)
  refine ⟨tidy_witnessRunner, ⟨dir, dir', hdir, hdir', hdiffer⟩, by decide +kernel, ?_,
    by decide +kernel⟩
  have hflat : ∀ name t, witnessRunner.registry.tool.get? name = some t → '/' ∉ t.name.toList := by
    intro name t ht
    obtain rfl := List.mem_singleton.1 (Registry.forall_ofLists.2.1 name t ht)
    decide
  have hlog : witnessRunner.Output "a" (witnessRunner.levelOf "a" none)
      ⟨"/out/a-basic/witness.log"⟩ := by
    have hfile : ToolPlugin.logFile ⟨"/out/a-basic"⟩ witnessTool.name =
        ⟨"/out/a-basic/witness.log"⟩ := by decide +kernel
    have htool : witnessRunner.registry.tool.get? "witness" = some witnessTool := rfl
    rw [← hfile]
    exact .log htool (by decide +kernel)
  have hread := houtlasts hdiffer hflat (by decide +kernel) (by decide +kernel)
    tidy_witnessRunner ⟨"/w/a-b"⟩ ((witnessRunner.run ⟨"/w/a"⟩ none).runFrom dashSession).2
    (by decide +kernel) ["out"] (by decide +kernel) (.of_forall (by decide +kernel) _)
    ⟨"/out/a-basic/witness.log"⟩ (Text.Utf8.encode "/w/a") hlog (by decide +kernel)
  unfold Host.readText FileTree.readText
  unfold Host.read at hread
  rw [hread]
  decide +kernel

/-- A runner with two tools, of which one has a slash in its name. -/
def slashRunner : Runner :=
  { witnessRunner with
    registry := .ofLists [] [{ witnessTool with name := "t" }, { witnessTool with name := "q/t" }]
      [] }

/-- With a slash in the name of a tool, logs in different directories may have one path. -/
theorem Runner.Output.log_slashRunner :
    (stamp "p-x" "l").parts ≠ (stamp "p" "x-l/q").parts ∧
      slashRunner.Output "p-x" "l" ⟨"/out/p-x-l/q/t.log"⟩ ∧
      slashRunner.Output "p" "x-l/q" ⟨"/out/p-x-l/q/t.log"⟩ := by
  refine ⟨by decide +kernel, ?_, ?_⟩
  · have htool : slashRunner.registry.tool.get? "q/t" =
        some { witnessTool with name := "q/t" } := rfl
    have hfile : ToolPlugin.logFile ⟨"/out/p-x-l"⟩ "q/t" = ⟨"/out/p-x-l/q/t.log"⟩ := by
      decide +kernel
    rw [← hfile]
    exact .log htool (by decide +kernel)
  · have htool : slashRunner.registry.tool.get? "t" =
        some { witnessTool with name := "t" } := rfl
    have hfile : ToolPlugin.logFile ⟨"/out/p-x-l/q"⟩ "t" = ⟨"/out/p-x-l/q/t.log"⟩ := by
      decide +kernel
    rw [← hfile]
    exact .log htool (by decide +kernel)

/-- A session on a machine with two packages of one name. -/
def twinSession : SessionState where
  host := { Runner.bareSession.host with
    files := ⟨[(["out"], .directory), (["w"], .directory), (["w", "x"], .directory),
      (["w", "x", "pkg"], .directory), (["w", "x", "pkg", "setup.py"], .file [] 0o644),
      (["w", "y"], .directory), (["w", "y", "pkg"], .directory),
      (["w", "y", "pkg", "setup.py"], .file [] 0o644)]⟩ }

theorem findPackages_twinSession :
    twinSession.host.findPackages ⟨"/w"⟩ = [⟨"/w/x/pkg"⟩, ⟨"/w/y/pkg"⟩] := by
  have hdirectories : ((twinSession.host.files.listedBelow ["w"]).filter
      (·.entry.isDirectory)).map (·.names) = [["x"], ["x", "pkg"], ["y"], ["y", "pkg"]] := by
    decide +kernel
  have hmarkers : ([["x"], ["x", "pkg"], ["y"], ["y", "pkg"]].map fun names =>
      (twinSession.host.holdsMarker (Host.pathBelow ⟨"/w"⟩ names), isHidden names)) =
      [(false, false), (true, false), (false, false), (true, false)] := by decide +kernel
  simp only [List.map_cons, List.map_nil, List.cons.injEq, Prod.mk.injEq, and_true] at hmarkers
  have houtermost : outermost
      (fun names => twinSession.host.holdsMarker (Host.pathBelow ⟨"/w"⟩ names))
      [["x"], ["x", "pkg"], ["y"], ["y", "pkg"]] = [["x", "pkg"], ["y", "pkg"]] := by
    simp [outermost, hmarkers]
  have hfound : twinSession.host.files.find [] ⟨"/w"⟩ = .ok (["w"], .directory) := rfl
  rw [Host.findPackages_of_sorted hfound (by decide +kernel), hdirectories, houtermost]
  decide +kernel

/-- Packages of one name share a directory, and the log of the second takes the place of the log of
the first. -/
theorem packageOutput_twins :
    let first := (witnessRunner.run ⟨"/w/x/pkg"⟩ none).runFrom twinSession
    let second := (witnessRunner.run ⟨"/w/y/pkg"⟩ none).runFrom first.2
    witnessRunner.workspacePackages twinSession.host ⟨"/w"⟩ = [⟨"/w/x/pkg"⟩, ⟨"/w/y/pkg"⟩] ∧
      witnessRunner.context.settings.packageOutput? "pkg" "basic" = some ⟨"/out/pkg-basic"⟩ ∧
      first.1.toOption.map (fun result => (result.package, result.level)) = some ("pkg", "basic") ∧
      second.1.toOption.map (fun result => (result.package, result.level)) = some ("pkg", "basic") ∧
      (first.2.host.readText ⟨"/out/pkg-basic/witness.log"⟩).toOption = some "/w/x/pkg" ∧
      (second.2.host.readText ⟨"/out/pkg-basic/witness.log"⟩).toOption = some "/w/y/pkg" := by
  simp only
  unfold Runner.workspacePackages
  rw [findPackages_twinSession]
  decide +kernel

end LintScan
