import LintScan.Proofs.Files.Below
import LintScan.Proofs.Scan.Outermost

/-!
# The packages below a directory

* `Host.mem_directoriesBelow_iff`, `Host.ascending_directoriesBelow` — the directories that the
  search goes through.
* `Host.find_pathBelow`, `Host.names_pathBelow` — where the path to one of them leads, and what its
  order is.
* `Host.findPackages_lists_outermost` — which packages are found, and in which order.
-/

namespace LintScan.Host

variable {h : Host} {root : Path}

/-! ## The directories below -/

theorem mem_directoriesBelow_iff (tree : h.files.IsTree) {names : List String} :
    names ∈ h.directoriesBelow root ↔
      ∃ place, h.files.find h.workingDirectory root = .ok (place, .directory) ∧ names ≠ [] ∧
        h.files.entry? (place ++ names) = some .directory := by
  unfold directoriesBelow
  split
  · rename_i place found
    simp only [found, List.mem_map, List.mem_filter, tree.mem_below_iff, Except.ok.injEq,
      Prod.mk.injEq, and_true, exists_eq_left']
    constructor
    · rintro ⟨⟨names, e⟩, ⟨⟨hnames, hentry⟩, hdirectory⟩, rfl⟩
      cases e with
      | directory => exact ⟨hnames, hentry⟩
      | _ => cases hdirectory
    · rintro ⟨hnames, hentry⟩
      exact ⟨⟨names, .directory⟩, ⟨⟨hnames, hentry⟩, rfl⟩, rfl⟩
  · rename_i hnone
    constructor
    · nofun
    · rintro ⟨place, found, _⟩
      exact absurd found (hnone place)

theorem ascending_directoriesBelow (tree : h.files.IsTree) (root : Path) :
    (h.directoriesBelow root).Pairwise (· < ·) := by
  unfold directoriesBelow
  split
  · rename_i place _
    exact List.pairwise_map.2 ((tree.ascending_below place).filter _)
  · exact List.Pairwise.nil

theorem isName_of_mem_directoriesBelow (tree : h.files.IsTree) {names : List String}
    (hnames : names ∈ h.directoriesBelow root) : ∀ name ∈ names, IsName name := by
  obtain ⟨place, _, _, hentry⟩ := (mem_directoriesBelow_iff tree).1 hnames
  exact fun name hname => tree.isName hentry (List.mem_append_right _ hname)

/-- On the way to a directory below, there are others below. -/
theorem above_mem_directoriesBelow (tree : h.files.IsTree) {names above : List String}
    (hnames : names ∈ h.directoriesBelow root) (hne : above ≠ []) (habove : above <+: names) :
    above ∈ h.directoriesBelow root := by
  obtain ⟨place, found, _, hentry⟩ := (mem_directoriesBelow_iff tree).1 hnames
  refine (mem_directoriesBelow_iff tree).2 ⟨place, found, hne, ?_⟩
  obtain ⟨more, rfl⟩ := habove
  rw [← List.append_assoc] at hentry
  by_cases hmore : more = []
  · rwa [hmore, List.append_nil] at hentry
  · exact tree.directory_above hmore hentry

/-! ## The paths to them -/

theorem pathBelow_concat (root : Path) (names : List String) (name : String) :
    pathBelow root (names ++ [name]) = (pathBelow root names).join ⟨name⟩ := by
  simp [pathBelow]

theorem parts_pathBelow {names : List String} (hnames : ∀ name ∈ names, IsName name) :
    (pathBelow root names).parts = root.parts ++ names.map .name := by
  induction names using List.reverseRecOn with
  | nil => exact (List.append_nil _).symm
  | append_singleton names name ih =>
    have hname : IsName name := hnames name (by simp)
    rw [pathBelow_concat, Path.parts_join (FileTree.isNamed_name hname), FileTree.parts_name hname,
      ih fun n hn => hnames n (List.mem_append_left _ hn)]
    simp

theorem names_pathBelow {names : List String} (hnames : ∀ name ∈ names, IsName name) :
    (pathBelow root names).names = root.names ++ names := by
  unfold Path.names
  rw [parts_pathBelow hnames, List.map_append, List.map_map]
  exact congrArg _ (List.map_id' _)

/-- The path to a directory below another one leads there. -/
theorem find_pathBelow (tree : h.files.IsTree) {place : Place} {names : List String}
    (found : h.files.find h.workingDirectory root = .ok (place, .directory))
    (hdirectory : h.files.entry? (place ++ names) = some .directory) :
    h.files.find h.workingDirectory (pathBelow root names) = .ok (place ++ names, .directory) := by
  induction names using List.reverseRecOn with
  | nil => simpa [pathBelow] using found
  | append_singleton names name ih =>
    rw [← List.append_assoc] at hdirectory ⊢
    have hname : IsName name := tree.isName hdirectory (by simp)
    have habove := tree.directory_above (by simp) hdirectory
    rw [pathBelow_concat]
    exact FileTree.find_join hname (ih habove) hdirectory nofun

/-! ## The packages -/

/-- The packages below a directory, as names from there. -/
def packagesBelow (h : Host) (root : Path) : List (List String) :=
  outermost (fun names => h.holdsMarker (pathBelow root names)) (h.directoriesBelow root)

theorem findPackages_eq (h : Host) (root : Path) :
    h.findPackages root = (h.packagesBelow root).map (pathBelow root) := rfl

theorem mem_directoriesBelow_of_package {names : List String}
    (hnames : names ∈ h.packagesBelow root) : names ∈ h.directoriesBelow root :=
  (outermost_sublist _ _).subset hnames

theorem pathBelow_mem_findPackages_iff (tree : h.files.IsTree) {names : List String}
    (hnames : ∀ name ∈ names, IsName name) :
    pathBelow root names ∈ h.findPackages root ↔ names ∈ h.packagesBelow root := by
  rw [findPackages_eq, List.mem_map]
  constructor
  · rintro ⟨names', hmem, hpath⟩
    have hnames' := isName_of_mem_directoriesBelow tree (mem_directoriesBelow_of_package hmem)
    have horder := congrArg Path.names hpath
    rw [names_pathBelow hnames', names_pathBelow hnames] at horder
    rwa [← List.append_cancel_left horder]
  · exact fun hmem => ⟨names, hmem, rfl⟩

/-- Paths to directories below are in the order of the directories. -/
theorem names_pathBelow_lt (tree : h.files.IsTree) {names names' : List String}
    (hnames : names ∈ h.directoriesBelow root) (hnames' : names' ∈ h.directoriesBelow root)
    (hlt : names < names') : (pathBelow root names).names < (pathBelow root names').names := by
  rw [names_pathBelow (isName_of_mem_directoriesBelow tree hnames),
    names_pathBelow (isName_of_mem_directoriesBelow tree hnames')]
  exact append_lt_append root.names hlt

theorem ascending_findPackages (tree : h.files.IsTree) (root : Path) :
    (h.findPackages root).Pairwise fun p q => p.names < q.names := by
  rw [findPackages_eq, List.pairwise_map]
  refine ((ascending_directoriesBelow tree root).sublist (outermost_sublist _ _)).imp_of_mem ?_
  exact fun hp hq => names_pathBelow_lt tree (mem_directoriesBelow_of_package hp)
    (mem_directoriesBelow_of_package hq)

theorem nodup_findPackages (tree : h.files.IsTree) (root : Path) :
    (h.findPackages root).Nodup := by
  refine (ascending_findPackages tree root).imp fun hlt heq => ?_
  rw [heq] at hlt
  exact Std.lt_irrefl hlt

/-- A directory below that holds a marker is listed if nothing on the way is hidden or listed. -/
theorem mem_packagesBelow_iff (tree : h.files.IsTree) {names : List String} :
    names ∈ h.packagesBelow root ↔ names ∈ h.directoriesBelow root ∧
      h.holdsMarker (pathBelow root names) = true ∧
      (∀ above, above ≠ [] → above <+: names → isHidden above = false) ∧
      ∀ above ∈ h.packagesBelow root, above <+: names → above = names := by
  refine (mem_outermost_iff_top (ascending_directoriesBelow tree root)).trans ?_
  refine and_congr_right fun hnames => and_congr_right fun _ => and_congr_left fun _ => ?_
  constructor
  · exact fun shown above hne habove =>
      shown above (above_mem_directoriesBelow tree hnames hne habove) habove
  · intro shown above habove
    obtain ⟨_, _, hne, _⟩ := (mem_directoriesBelow_iff tree).1 habove
    exact shown above hne

/-- The path to a package leads to a place below. -/
theorem exists_place_of_package (tree : h.files.IsTree) {names : List String}
    (hnames : names ∈ h.packagesBelow root) :
    ∃ place, h.files.find h.workingDirectory root = .ok (place, .directory) ∧ names ≠ [] ∧
      h.files.find h.workingDirectory (pathBelow root names) =
        .ok (place ++ names, .directory) := by
  obtain ⟨place, found, hne, hentry⟩ :=
    (mem_directoriesBelow_iff tree).1 (mem_directoriesBelow_of_package hnames)
  exact ⟨place, found, hne, find_pathBelow tree found hentry⟩

/-- Two packages that have something in common are one. -/
theorem eq_of_common (tree : h.files.IsTree) {p q : Path} (hp : p ∈ h.findPackages root)
    (hq : q ∈ h.findPackages root) {inP inQ file : Place}
    (foundP : h.files.find h.workingDirectory p = .ok (inP, .directory))
    (foundQ : h.files.find h.workingDirectory q = .ok (inQ, .directory))
    (fileP : inP <+: file) (fileQ : inQ <+: file) : p = q := by
  rw [findPackages_eq, List.mem_map] at hp hq
  obtain ⟨names, hnames, rfl⟩ := hp
  obtain ⟨names', hnames', rfl⟩ := hq
  obtain ⟨place, found, _, hplace⟩ := exists_place_of_package tree hnames
  obtain ⟨place', found', _, hplace'⟩ := exists_place_of_package tree hnames'
  obtain ⟨rfl, _⟩ := Prod.mk.inj (Except.ok.inj (found.symm.trans found'))
  obtain ⟨rfl, _⟩ := Prod.mk.inj (Except.ok.inj (hplace.symm.trans foundP))
  obtain ⟨rfl, _⟩ := Prod.mk.inj (Except.ok.inj (hplace'.symm.trans foundQ))
  have htop := ((mem_packagesBelow_iff tree).1 hnames).2.2.2 names' hnames'
  have htop' := ((mem_packagesBelow_iff tree).1 hnames').2.2.2 names hnames
  rcases List.prefix_or_prefix_of_prefix fileP fileQ with hon | hon
  · rw [htop' ((List.prefix_append_right_inj place).1 hon)]
  · rw [htop ((List.prefix_append_right_inj place).1 hon)]

/-- **The search finds the packages in sight that lie in no other one, in order.** -/
theorem findPackages_lists_outermost (tree : h.files.IsTree) (root : Path) :
    (∀ dir, dir ∈ h.findPackages root ↔ ∃ place names,
      h.files.find h.workingDirectory root = .ok (place, .directory) ∧ names ≠ [] ∧
      dir = pathBelow root names ∧
      h.files.find h.workingDirectory dir = .ok (place ++ names, .directory) ∧
      (∃ marker ∈ packageMarkers, h.hasFile (dir.join ⟨marker⟩) = true) ∧
      (∀ above, above ≠ [] → above <+: names → isHidden above = false) ∧
      ∀ above, above ≠ [] → above <+: names → above ≠ names →
        pathBelow root above ∉ h.findPackages root) ∧
    (h.findPackages root).Pairwise (fun p q => p.names < q.names) ∧
    (h.findPackages root).Nodup ∧
    ∀ p ∈ h.findPackages root, ∀ q ∈ h.findPackages root, ∀ inP inQ file,
      h.files.find h.workingDirectory p = .ok (inP, .directory) →
      h.files.find h.workingDirectory q = .ok (inQ, .directory) →
      inP <+: file → inQ <+: file → p = q := by
  refine ⟨fun dir => ?_, ascending_findPackages tree root, nodup_findPackages tree root,
    fun p hp q hq inP inQ file => eq_of_common tree hp hq⟩
  constructor
  · intro hdir
    rw [findPackages_eq, List.mem_map] at hdir
    obtain ⟨names, hnames, rfl⟩ := hdir
    obtain ⟨place, found, hne, hplace⟩ := exists_place_of_package tree hnames
    obtain ⟨hbelow, hmarker, shown, htop⟩ := (mem_packagesBelow_iff tree).1 hnames
    refine ⟨place, names, found, hne, rfl, hplace, List.any_eq_true.1 hmarker, shown, ?_⟩
    intro above habove hon hother hlisted
    have hsub := above_mem_directoriesBelow tree hbelow habove hon
    rw [pathBelow_mem_findPackages_iff tree (isName_of_mem_directoriesBelow tree hsub)] at hlisted
    exact hother (htop above hlisted hon)
  · rintro ⟨place, names, found, hne, rfl, hplace, hmarker, shown, htop⟩
    have hbelow : names ∈ h.directoriesBelow root := (mem_directoriesBelow_iff tree).2
      ⟨place, found, hne, (FileTree.find_eq_ok_iff.1 hplace).2⟩
    rw [pathBelow_mem_findPackages_iff tree (isName_of_mem_directoriesBelow tree hbelow)]
    refine (mem_packagesBelow_iff tree).2 ⟨hbelow, List.any_eq_true.2 hmarker, shown, ?_⟩
    intro above hlisted hon
    have hsub := mem_directoriesBelow_of_package hlisted
    obtain ⟨_, _, habove, _⟩ := (mem_directoriesBelow_iff tree).1 hsub
    by_contra hother
    refine htop above habove hon hother ?_
    exact (pathBelow_mem_findPackages_iff tree (isName_of_mem_directoriesBelow tree hsub)).2 hlisted

/-- A machine with a package in a directory, another one inside that package, and one that is
hidden. -/
def nestedHost : Host where
  files := ⟨[(["w"], .directory), (["w", "a"], .directory),
    (["w", "a", "setup.py"], .file [] 0o644), (["w", "a", "sub"], .directory),
    (["w", "a", "sub", "setup.py"], .file [] 0o644), (["w", ".h"], .directory),
    (["w", ".h", "setup.py"], .file [] 0o644)]⟩
  workingDirectory := []
  searchPath := none
  noColor := true
  logFilter := none
  resourceRoot := ⟨"/"⟩
  programs := fun _ => none

theorem findPackages_nestedHost :
    nestedHost.files.IsTree ∧ ⟨"/w/a"⟩ ∈ nestedHost.findPackages ⟨"/w"⟩ ∧
      ⟨"/w/a/sub"⟩ ∉ nestedHost.findPackages ⟨"/w"⟩ := by
  have tree : nestedHost.files.IsTree := by decide +kernel
  obtain ⟨hpackages, _, _, hcommon⟩ := findPackages_lists_outermost tree ⟨"/w"⟩
  have habove : ∀ above : List String, above ≠ [] → above <+: ["a"] → above = ["a"] := by
    intro above hne hon
    simpa [List.prefix_cons_iff, hne] using hon
  have hlisted : ⟨"/w/a"⟩ ∈ nestedHost.findPackages ⟨"/w"⟩ := by
    refine (hpackages _).2 ⟨["w"], ["a"], rfl, List.cons_ne_nil _ _, by decide +kernel, rfl,
      ⟨"setup.py", by decide, by decide +kernel⟩, fun above hne hon => ?_,
      fun above hne hon hother => absurd (habove above hne hon) hother⟩
    rw [habove above hne hon]
    rfl
  refine ⟨tree, hlisted, fun hsub => ?_⟩
  have hsame := hcommon _ hlisted _ hsub ["w", "a"] ["w", "a", "sub"] ["w", "a", "sub"] rfl rfl
    (by decide) (by decide)
  exact absurd (congrArg Path.text hsame) (by decide)

end LintScan.Host
