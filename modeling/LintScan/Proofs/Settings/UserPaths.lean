import LintScan.Proofs.Settings.Root
import Mathlib.Data.List.Find

/-!
# Where the user paths of a settings file lead

A settings file lists directories of resources. Its relative entries are meant to be seen from the
root, but an entry that names something in the working directory is left as it is.

* `Settings.pathsFromRoot` — the entries as they are meant.
* `Host.ListsPaths` — the search from a start ends at a root whose settings file lists the entries;
  `Host.listsPaths_seenFrom` — from an absolute start this holds in every working directory.
* `Settings.userPath_eq_iff`, `Settings.userPath_congr_iff` — for one entry, when it is seen from
  the root, and when two machines take it for the same path.
* `Settings.userPaths_seen_from_root_iff` — the same for all entries of a settings file;
  `Settings.userPaths_seen_from_elsewhere` has a working directory that takes an entry over.
-/

namespace LintScan

/-! ## Absolute paths -/

namespace Path

variable {p q : Path}

theorem exists_toList_of_isAbsolute (h : p.isAbsolute = true) :
    ∃ cs, p.text.toList = '/' :: cs := by
  unfold isAbsolute at h
  split at h
  · exact ⟨_, ‹_›⟩
  · cases h

theorem isAbsolute_join_of_isAbsolute (h : p.isAbsolute = true) (q : Path) :
    (p.join q).isAbsolute = true := by
  obtain ⟨cs, hcs⟩ := exists_toList_of_isAbsolute h
  have hhead (text : String) : isAbsolute ⟨p.text ++ text⟩ = true := by
    simp [isAbsolute, String.toList_append, hcs]
  have hempty : p.text.isEmpty = false := by
    rw [Bool.eq_false_iff]
    intro hp
    rw [String.isEmpty_iff] at hp
    rw [hp] at hcs
    cases hcs
  unfold join
  rw [hempty, Bool.or_false]
  split
  · assumption
  · split
    · exact hhead q.text
    · rw [String.append_assoc]
      exact hhead _

theorem isAbsolute_of_mem_ancestors (h : q ∈ p.ancestors) : q.isAbsolute = p.isAbsolute := by
  induction p using ancestors.induct with
  | case1 p hparent =>
    rw [ancestors_of_top hparent, List.mem_singleton] at h
    rw [h]
  | case2 p above hparent ih =>
    rw [ancestors_of_parent? hparent, List.mem_cons] at h
    rcases h with rfl | h
    · rfl
    · rw [ih h, isAbsolute_parent? hparent]

end Path

theorem FileTree.locate_of_isAbsolute (t : FileTree) {p : Path} (h : p.isAbsolute = true)
    (cwd cwd' : Place) (followLast : Bool) :
    t.locate cwd followLast p = t.locate cwd' followLast p := by
  unfold locate
  rw [h]
  rfl

/-! ## A machine seen from another directory -/

namespace Host

/-- The machine with another working directory. -/
def seenFrom (h : Host) (cwd : Place) : Host := { h with workingDirectory := cwd }

/-- The search from `start` ends at `root`, which has a settings file that lists the entries. -/
def ListsPaths (h : Host) (start root : Path) (entries : List String) : Prop :=
  h.detectRoot start = root ∧
    (SettingsDocument.load h root).1.map (·.userPaths.getD []) = some entries

variable {h : Host} {cwd : Place} {start root p : Path}

theorem find_seenFrom (hp : p.isAbsolute = true) :
    (h.seenFrom cwd).files.find (h.seenFrom cwd).workingDirectory p =
      h.files.find h.workingDirectory p := by
  unfold FileTree.find
  rw [h.files.locate_of_isAbsolute hp h.workingDirectory cwd true]
  rfl

theorem hasPath_seenFrom (hp : p.isAbsolute = true) :
    (h.seenFrom cwd).hasPath p = h.hasPath p := by
  unfold hasPath FileTree.exists?
  rw [find_seenFrom hp]

theorem readText_seenFrom (hp : p.isAbsolute = true) :
    (h.seenFrom cwd).readText p = h.readText p := by
  unfold readText FileTree.readText FileTree.read
  rw [find_seenFrom hp]

theorem isAbsolute_detectRoot (hstart : start.isAbsolute = true) :
    (h.detectRoot start).isAbsolute = true := by
  rw [detectRoot_eq]
  cases hfind : start.ancestors.find? h.isRoot with
  | none => exact hstart
  | some root =>
    exact (Path.isAbsolute_of_mem_ancestors (List.mem_of_find?_eq_some hfind)).trans hstart

theorem detectRoot_seenFrom (hstart : start.isAbsolute = true) :
    (h.seenFrom cwd).detectRoot start = h.detectRoot start := by
  have hroot : ∀ d ∈ start.ancestors, (h.seenFrom cwd).isRoot d = h.isRoot d := by
    intro d hd
    have habsolute : d.isAbsolute = true := (Path.isAbsolute_of_mem_ancestors hd).trans hstart
    unfold isRoot
    congr 1
    funext n
    exact hasPath_seenFrom (Path.isAbsolute_join_of_isAbsolute habsolute ⟨n⟩)
  rw [detectRoot_eq, detectRoot_eq, List.find?_congr hroot]

theorem load_seenFrom (hroot : root.isAbsolute = true) :
    SettingsDocument.load (h.seenFrom cwd) root = SettingsDocument.load h root := by
  have habsolute (n : String) : (root.join ⟨n⟩).isAbsolute = true :=
    Path.isAbsolute_join_of_isAbsolute hroot ⟨n⟩
  have hread (n : String) (read : String → Except Yaml.Problem SettingsDocument) :
      SettingsDocument.loadAt (h.seenFrom cwd) (root.join ⟨n⟩) read =
        SettingsDocument.loadAt h (root.join ⟨n⟩) read := by
    unfold SettingsDocument.loadAt
    rw [readText_seenFrom (habsolute n)]
  have hfind : (Settings.yamlNames.map fun n => root.join ⟨n⟩).find? (h.seenFrom cwd).hasPath =
      (Settings.yamlNames.map fun n => root.join ⟨n⟩).find? h.hasPath := by
    refine List.find?_congr fun q hq => ?_
    obtain ⟨n, _, rfl⟩ := List.mem_map.1 hq
    exact hasPath_seenFrom (habsolute n)
  unfold SettingsDocument.load
  simp only [hasPath_seenFrom (habsolute _), hread, hfind]
  cases hyaml : (Settings.yamlNames.map fun n => root.join ⟨n⟩).find? h.hasPath with
  | none => rfl
  | some path =>
    obtain ⟨n, _, rfl⟩ := List.mem_map.1 (List.mem_of_find?_eq_some hyaml)
    simp only [hread]

/-- An absolute start leads to the same settings file from every working directory. -/
theorem listsPaths_seenFrom {entries : List String} (hstart : start.isAbsolute = true)
    (found : h.ListsPaths start root entries) (cwd : Place) :
    (h.seenFrom cwd).ListsPaths start root entries := by
  obtain ⟨hroot, hload⟩ := found
  have habsolute : root.isAbsolute = true := hroot ▸ isAbsolute_detectRoot hstart
  exact ⟨(detectRoot_seenFrom hstart).trans hroot, by rw [load_seenFrom habsolute, hload]⟩

end Host

/-! ## One entry -/

namespace Settings

open Host

variable {h h' : Host} {root : Path} {entry : String}

/-- The entries of a settings file in a root, of which the relative ones are seen from there. -/
def pathsFromRoot (root : Path) (entries : List String) : List Path :=
  entries.map fun entry => root.join ⟨entry⟩

theorem userPath_of_isAbsolute (hentry : Path.isAbsolute ⟨entry⟩ = true) :
    userPath h root entry = ⟨entry⟩ := by
  simp [userPath, hentry]

theorem userPath_of_relative (hentry : Path.isAbsolute ⟨entry⟩ = false) :
    userPath h root entry = if h.hasPath ⟨entry⟩ then ⟨entry⟩ else root.join ⟨entry⟩ := by
  cases hpath : h.hasPath ⟨entry⟩ <;> simp [userPath, hentry, hpath]

theorem join_of_isAbsolute (hentry : Path.isAbsolute ⟨entry⟩ = true) :
    root.join ⟨entry⟩ = ⟨entry⟩ := by
  simp [Path.join, hentry]

theorem join_ne_of_relative (hroot : root.isAbsolute = true)
    (hentry : Path.isAbsolute ⟨entry⟩ = false) : root.join ⟨entry⟩ ≠ ⟨entry⟩ := by
  intro hjoin
  have habsolute := Path.isAbsolute_join_of_isAbsolute hroot ⟨entry⟩
  rw [hjoin, hentry] at habsolute
  cases habsolute

/-- An entry is seen from the root unless it is relative and names something in the working
directory. -/
theorem userPath_eq_iff (hroot : root.isAbsolute = true) :
    userPath h root entry = root.join ⟨entry⟩ ↔
      (Path.isAbsolute ⟨entry⟩ = false → h.hasPath ⟨entry⟩ = false) := by
  cases hentry : Path.isAbsolute ⟨entry⟩ with
  | true => simp [userPath_of_isAbsolute hentry, join_of_isAbsolute hentry]
  | false =>
    rw [userPath_of_relative hentry]
    cases hpath : h.hasPath ⟨entry⟩ with
    | true => simpa using (join_ne_of_relative hroot hentry).symm
    | false => simp

/-- Two machines take an entry for the same path unless it is relative and names something in only
one of the two working directories. -/
theorem userPath_congr_iff (hroot : root.isAbsolute = true) :
    userPath h root entry = userPath h' root entry ↔
      (Path.isAbsolute ⟨entry⟩ = false → h.hasPath ⟨entry⟩ = h'.hasPath ⟨entry⟩) := by
  cases hentry : Path.isAbsolute ⟨entry⟩ with
  | true => simp [userPath_of_isAbsolute hentry]
  | false =>
    have hne := join_ne_of_relative hroot hentry
    rw [userPath_of_relative hentry, userPath_of_relative hentry]
    cases h.hasPath ⟨entry⟩ <;> cases h'.hasPath ⟨entry⟩ <;> simp [hne, hne.symm]

/-! ## All entries -/

theorem userPaths_resolve {o : Overrides} {start : String} {entries : List String}
    (hstart : o.root = some start) (hnone : o.userPaths = none)
    (found : h.ListsPaths ⟨start⟩ root entries) :
    (resolve h o).1.userPaths = entries.map (userPath h root) := by
  obtain ⟨hroot, hload⟩ := found
  obtain ⟨d, hd, hentries⟩ := Option.map_eq_some_iff.1 hload
  have hresolve : (resolve h o).1 = combine h (h.detectRoot ⟨o.root.getD "."⟩) o
      (SettingsDocument.load h (h.detectRoot ⟨o.root.getD "."⟩)).1.isSome
      ((SettingsDocument.load h (h.detectRoot ⟨o.root.getD "."⟩)).1.getD {}) := rfl
  rw [hresolve, hstart, Option.getD_some, hroot, hd]
  simp only [combine, hnone, Option.none_or, Option.getD_some, hentries]

/-- **When the user paths do not depend on the working directory.** An absolute start leads to the
same settings file from everywhere. If the command line gives no user paths, those of the settings
file are seen from its root exactly if no relative one names something in the working directory; and
two machines with this settings file have the same user paths exactly if each relative one names
something in both working directories or in neither. -/
theorem userPaths_seen_from_root_iff {o : Overrides} {start : String} {entries : List String}
    (hstart : o.root = some start) (absolute : Path.isAbsolute ⟨start⟩ = true)
    (hnone : o.userPaths = none) (found : h.ListsPaths ⟨start⟩ root entries)
    (found' : h'.ListsPaths ⟨start⟩ root entries) :
    (∀ cwd, (h.seenFrom cwd).ListsPaths ⟨start⟩ root entries) ∧
    ((resolve h o).1.userPaths = pathsFromRoot root entries ↔
      ∀ entry ∈ entries, Path.isAbsolute ⟨entry⟩ = false → h.hasPath ⟨entry⟩ = false) ∧
    ((resolve h o).1.userPaths = (resolve h' o).1.userPaths ↔
      ∀ entry ∈ entries, Path.isAbsolute ⟨entry⟩ = false →
        h.hasPath ⟨entry⟩ = h'.hasPath ⟨entry⟩) := by
  have hroot : root.isAbsolute = true := found.1 ▸ isAbsolute_detectRoot absolute
  refine ⟨listsPaths_seenFrom absolute found, ?_, ?_⟩
  · rw [userPaths_resolve hstart hnone found, pathsFromRoot, List.map_inj_left]
    exact forall₂_congr fun entry _ => userPath_eq_iff hroot
  · rw [userPaths_resolve hstart hnone found, userPaths_resolve hstart hnone found',
      List.map_inj_left]
    exact forall₂_congr fun entry _ => userPath_congr_iff hroot

/-- A machine with a settings file that lists `extras`, where the root of the settings file and one
other directory hold something of that name. -/
def extrasHost : Host where
  files := ⟨[(["repo"], .directory),
    (["repo", "lintherd.yaml"], .file (Text.Utf8.encode "user_paths: [extras]") 0o644),
    (["repo", "extras"], .directory), (["w"], .directory), (["w", "extras"], .directory)]⟩
  workingDirectory := []
  searchPath := none
  noColor := true
  logFilter := none
  resourceRoot := ⟨"/"⟩
  programs := fun _ => none

theorem listsPaths_extrasHost : extrasHost.ListsPaths ⟨"/repo"⟩ ⟨"/repo"⟩ ["extras"] := by
  constructor <;> decide +kernel

/-- From the root of the file tree, `extras` is seen from the root of the settings file, and so not
taken for the same path as from the other directory. -/
theorem userPaths_seen_from_root_extras :
    extrasHost.ListsPaths ⟨"/repo"⟩ ⟨"/repo"⟩ ["extras"] ∧
    (extrasHost.seenFrom ["w"]).ListsPaths ⟨"/repo"⟩ ⟨"/repo"⟩ ["extras"] ∧
    (resolve extrasHost { root := some "/repo" }).1.userPaths =
      pathsFromRoot ⟨"/repo"⟩ ["extras"] ∧
    (resolve extrasHost { root := some "/repo" }).1.userPaths ≠
      (resolve (extrasHost.seenFrom ["w"]) { root := some "/repo" }).1.userPaths := by
  have absolute : Path.isAbsolute ⟨"/repo"⟩ = true := by decide +kernel
  have found := listsPaths_extrasHost
  have found' := listsPaths_seenFrom absolute found ["w"]
  obtain ⟨_, hroot, hsame⟩ := userPaths_seen_from_root_iff
    (o := { root := some "/repo" }) rfl absolute rfl found found'
  refine ⟨found, found', hroot.2 (by decide +kernel), fun heq => ?_⟩
  exact absurd (hsame.1 heq) (by decide +kernel)

/-- From a directory that holds something of that name, `extras` is left as it is, although the same
settings file is in force. -/
theorem userPaths_seen_from_elsewhere :
    (∀ cwd ∈ [[], ["w"]],
      (extrasHost.seenFrom cwd).ListsPaths ⟨"/repo"⟩ ⟨"/repo"⟩ ["extras"]) ∧
    (resolve (extrasHost.seenFrom []) { root := some "/repo" }).1.userPaths =
      [⟨"/repo/extras"⟩] ∧
    (resolve (extrasHost.seenFrom ["w"]) { root := some "/repo" }).1.userPaths = [⟨"extras"⟩] := by
  have absolute : Path.isAbsolute ⟨"/repo"⟩ = true := by decide +kernel
  refine ⟨fun cwd _ => listsPaths_seenFrom absolute listsPaths_extrasHost cwd, ?_, ?_⟩
  · decide +kernel
  · decide +kernel

end Settings

end LintScan
