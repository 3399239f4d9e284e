import LintScan.Package.Walk
import LintScan.Proofs.Files.Absolute
import LintScan.Proofs.Scan.FindPackages
import LintScan.Proofs.Session
import LintScan.Proofs.Table.Sorted

/-!
# What a walk records

The first walk of a package looks at the machine once; what it records is a function of the machine
at that time.

* `Host.recordOf`, `Host.packageFiles` — the record of a file, and the records of all files below a
  path.
* `Package.walk_runFrom` — a walk keeps the records that are there, or else makes these.
* `Host.ascending_records`, `Host.values_packageFiles` — there is one record for each regular file,
  in the order of the paths.
-/

namespace LintScan

namespace Host

/-! ## The record of a file -/

/-- What the sniffing program says of a file, in lower case; nothing if it fails. -/
def sniffed (h : Host) (path : Path) : String :=
  match h.findProgram Package.sniffer >>= (h.runProgram · [path.text]) with
  | .ok run =>
    if run.ending = .code 0 then Unicode.lowercase (Text.Utf8.decodeLossy run.output) else ""
  | .error _ => ""

/-- The record of a file, with a description if files are sniffed. -/
def recordWith (sniffs : Bool) (h : Host) (path : Path) : PackageFile where
  name := Unicode.lowercase (path.fileName?.getD path.text)
  path := h.absolute path
  description := if sniffs then h.sniffed (h.absolute path) else ""

/-- The record of a file. -/
def recordOf (h : Host) (path : Path) : PackageFile :=
  recordWith (h.commandExists Package.sniffer) h path

/-- The records of the files below a path. -/
def packageFiles (h : Host) (root : Path) : PackageFiles :=
  .ofList (((h.regularFiles root).map h.recordOf).map fun r => (r.path.names, r))

end Host

open Session

theorem Session.looks_start (name : String) (args : List String) :
    Looks (fun h => h.findProgram name >>= (h.runProgram · args)) (start name args) := by
  intro s
  unfold start
  rw [runFrom_bind, runFrom_host]
  simp only [bind, Except.bind]
  cases s.host.findProgram name with
  | error e => exact ⟨s.journal, rfl⟩
  | ok place =>
    simp only
    cases s.host.runProgram place args with
    | error e => exact ⟨s.journal, rfl⟩
    | ok run => exact ⟨_, rfl⟩

namespace Package

theorem looks_sniff (path : Path) : Looks (fun h => h.sniffed path) (sniff path) := by
  intro s
  obtain ⟨j, hj⟩ := looks_start sniffer [path.text] s
  unfold sniff Host.sniffed
  rw [runFrom_bind, hj]
  simp only
  generalize (s.host.findProgram sniffer >>= (s.host.runProgram · [path.text])) = outcome
  cases outcome with
  | error e => exact ⟨_, rfl⟩
  | ok run =>
    obtain ⟨output, errors, ending⟩ := run
    cases ending with
    | signal => exact ⟨_, rfl⟩
    | code n =>
      by_cases hn : n = 0
      · subst hn
        exact ⟨_, rfl⟩
      · have hcode : ProgramEnd.code n ≠ .code 0 := fun heq => hn (ProgramEnd.code.inj heq)
        simp only [hcode, if_false]
        exact ⟨_, rfl⟩

theorem looks_examine (sniffs : Bool) (path : Path) :
    Looks (Host.recordWith sniffs · path) (examine sniffs path) := by
  intro s
  cases sniffs with
  | false => exact ⟨s.journal, rfl⟩
  | true =>
    obtain ⟨j, hj⟩ := looks_sniff (s.host.absolute path) s
    refine ⟨j, ?_⟩
    have hexamine : (examine true path).runFrom s =
        ((⟨Unicode.lowercase (path.fileName?.getD path.text), s.host.absolute path,
          ((sniff (s.host.absolute path)).runFrom s).1⟩ : PackageFile),
          ((sniff (s.host.absolute path)).runFrom s).2) := rfl
    rw [hexamine, hj]
    rfl

/-- The first walk records the files that the machine has then, and no later one changes them. -/
theorem walk_runFrom (p : Package) (s : SessionState) : ∃ journal,
    p.walk.runFrom s =
      ({ p with files := some (p.files.getD (s.host.packageFiles p.path)) },
        { s with journal }) := by
  unfold walk
  cases hfiles : p.files with
  | some files =>
    have hwalked : p.walked = true := by rw [walked, hfiles]; rfl
    refine ⟨s.journal, ?_⟩
    rw [if_pos hwalked, runFrom_pure, Option.getD_some, ← hfiles]
  | none =>
    have hwalked : ¬ p.walked = true := by rw [walked, hfiles]; exact Bool.false_ne_true
    rw [if_neg hwalked, runFrom_bind, runFrom_host]
    obtain ⟨j, hj⟩ := Looks.mapM (looks_examine (s.host.commandExists sniffer))
      (s.host.regularFiles p.path) s
    exact ⟨j, by rw [runFrom_bind, hj]; rfl⟩

end Package

namespace Host

variable {h : Host} {root : Path}

/-! ## The order of the files -/

/-- The regular files below a path lie at names below it, which come in order. -/
theorem exists_regularFiles (tree : h.files.IsTree) (root : Path) : ∃ below : List (List String),
    h.regularFiles root = below.map (pathBelow root) ∧ below.Pairwise (· < ·) ∧
      ∀ names ∈ below, ∀ name ∈ names, IsName name := by
  have hinside : ∀ place, ∃ below : List (List String),
      regularFiles.inside h root place = below.map (pathBelow root) ∧ below.Pairwise (· < ·) ∧
        ∀ names ∈ below, ∀ name ∈ names, IsName name := by
    intro place
    refine ⟨((h.files.below place).filter (·.entry.isFile)).map (·.names), ?_,
      List.pairwise_map.2 ((tree.ascending_below place).filter _), ?_⟩
    · rw [List.map_map]
      rfl
    · intro names hnames name hname
      obtain ⟨b, hb, rfl⟩ := List.mem_map.1 hnames
      have hentry := ((tree.mem_below_iff).1 (List.mem_filter.1 hb).1).2
      exact tree.isName hentry (List.mem_append_right _ hname)
  have hnone : ∃ below : List (List String),
      [] = below.map (pathBelow root) ∧ below.Pairwise (· < ·) ∧
        ∀ names ∈ below, ∀ name ∈ names, IsName name := ⟨[], rfl, .nil, nofun⟩
  unfold regularFiles
  split
  · exact hnone
  · rename_i place _
    split
    · exact ⟨[[]], rfl, List.pairwise_singleton _ _, by simp⟩
    · exact hinside place
    · split
      · exact hinside _
      · exact hnone
    · exact hnone

/-- The path from the root to a place below another one goes on with the names behind it. -/
theorem names_absolute_pathBelow {names : List String} (hnames : ∀ name ∈ names, IsName name) :
    (h.absolute (pathBelow root names)).names = (h.absolute root).names ++ names := by
  have habsolute : (pathBelow root names).isAbsolute = root.isAbsolute := by
    rw [Bool.eq_iff_iff, ← Path.root_mem_parts_iff, ← Path.root_mem_parts_iff,
      parts_pathBelow hnames]
    simp
  have hfilter : (names.map Part.name).filter (· != .here) = names.map .name := by
    refine List.filter_eq_self.2 fun part hpart => ?_
    obtain ⟨name, _, rfl⟩ := List.mem_map.1 hpart
    rfl
  unfold Path.names
  rw [parts_absolute, parts_absolute, habsolute, parts_pathBelow hnames, List.filter_append,
    hfilter, ← List.append_assoc, List.map_append, List.map_map]
  exact congrArg _ (List.map_id' _)

theorem ascending_records (tree : h.files.IsTree) (root : Path) :
    ((h.regularFiles root).map fun p => (h.recordOf p).path.names).Pairwise (· < ·) := by
  obtain ⟨below, hbelow, hsorted, hisName⟩ := exists_regularFiles tree root
  rw [hbelow, List.map_map, List.pairwise_map]
  refine hsorted.imp_of_mem fun {names names'} hmem hmem' hlt => ?_
  have hpath : ∀ names ∈ below, (h.recordOf (pathBelow root names)).path.names =
      (h.absolute root).names ++ names := fun names hnames =>
    names_absolute_pathBelow (hisName names hnames)
  rw [Function.comp_apply, Function.comp_apply, hpath names hmem, hpath names' hmem']
  exact append_lt_append _ hlt

/-- A walk records each regular file once, in the order of the paths. -/
theorem values_packageFiles (tree : h.files.IsTree) (root : Path) :
    (h.packageFiles root).values = (h.regularFiles root).map h.recordOf := by
  have hsorted : ((((h.regularFiles root).map h.recordOf).map fun r => (r.path.names, r)).map
      (·.1)).Pairwise (· < ·) := by
    rw [List.map_map, List.map_map]
    exact ascending_records tree root
  rw [SortedTable.values, packageFiles, SortedTable.entries_ofList hsorted, List.map_map]
  exact List.map_id' _

end Host

end LintScan
