import LintScan.Proofs.Files.Follow
import LintScan.Scan.Workspace

/-!
# The packages of a workspace

* `workspacePackages_eq_filter` — the packages of a workspace are those that are found, but for
  those whose names are to be ignored.
* `Host.findPackages_of_sorted` — where the entries of a machine are listed in order, the packages
  are read off the list.
* `Host.canonical?_of_directories` — a path from the root through directories alone leads to itself.
-/

namespace LintScan

theorem Runner.workspacePackages_eq_filter (r : Runner) (h : Host) (root : Path) :
    r.workspacePackages h root =
      (h.findPackages root).filter fun path => !path.fileName?.any r.exceptions.ignores := by
  unfold workspacePackages
  refine List.filter_congr fun path _ => ?_
  cases path.fileName? <;> rfl

/-- The entries below a place as they are listed. -/
def FileTree.listedBelow (t : FileTree) (place : Place) : List Below :=
  t.entries.filterMap fun (p, e) =>
    if place.isPrefixOf p && place.length < p.length then some ⟨p.drop place.length, e⟩ else none

/-- Entries that are listed in order need not be sorted. -/
theorem Host.findPackages_of_sorted {h : Host} {root : Path} {place : Place}
    (found : h.files.find h.workingDirectory root = .ok (place, .directory))
    (sorted : (h.files.listedBelow place).Pairwise fun a b =>
      (!decide (b.names < a.names)) = true) :
    h.findPackages root =
      (outermost (fun names => h.holdsMarker (pathBelow root names))
        (((h.files.listedBelow place).filter (·.entry.isDirectory)).map (·.names))).map
          (pathBelow root) := by
  have hbelow : h.files.below place = h.files.listedBelow place :=
    List.mergeSort_of_pairwise sorted
  unfold findPackages directoriesBelow
  rw [found]
  simp only
  rw [hbelow]

/-- A path from the root through directories alone leads to itself. -/
theorem Host.canonical?_of_directories {h : Host} {p : Path} {names : List String}
    (habsolute : p.isAbsolute = true) (hsteps : FileTree.stepsOf p = names)
    (hnames : ∀ name ∈ names, name ≠ "." ∧ name ≠ "..")
    (hdirectories : ∀ above, above <+: names → h.files.entry? above = some .directory) :
    h.canonical? p = some ⟨"/" ++ Text.join "/" names⟩ := by
  have htext : p.text.isEmpty = false := by
    cases hempty : p.text.isEmpty with
    | false => rfl
    | true =>
      rw [String.isEmpty_iff] at hempty
      simp [Path.isAbsolute, hempty] at habsolute
  have hfollow : h.files.follow true FileTree.linkLimit [] names = .ok names :=
    FileTree.follow_directories
      (List.filter_eq_self.2 fun name hname => by simpa using (hnames name hname).1)
      (fun hup => (hnames _ hup).2 rfl) hdirectories
  have hfind : h.files.find h.workingDirectory p = .ok (names, .directory) := by
    refine FileTree.find_eq_ok_iff.2 ⟨FileTree.locate_eq_ok_iff.2 ⟨htext, ?_⟩,
      hdirectories names List.prefix_rfl⟩
    rw [habsolute, hsteps]
    exact hfollow
  unfold canonical?
  rw [hfind]

end LintScan
