import LintScan.Proofs.Files.Follow
import LintScan.Settings.Basic
import Mathlib.Data.List.Infix

/-!
# Where the settings are looked for

The root of a scan is the nearest directory, upwards from the start, that holds one of the marks.
It is found by the text of the start: a part is taken off at a time.

* `Host.nearestMarked?` — the nearest marked directory, upwards in the file tree.
* `Host.GoesStraight` — a path that goes through directories alone, with no step up.
* `Host.root_of_climb`, `Host.nothing_of_climb` — for such a path, what the search along its text
  says about the directories above.
* `Host.detectRoot_finds_nearest_iff` — the search along such a path finds the nearest marked
  directory, unless the path is relative and that directory is above the working directory;
  `Host.detectRoot_stopsEarly` has such a path, and one with a step up.
-/

namespace LintScan.Host

variable (h : Host)

/-! ## Marked directories -/

/-- Whether one of the marks stands in a directory. -/
def isMarked (d : Place) : Bool := Settings.rootMarks.any fun n => h.files.exists? d ⟨n⟩

/-- The nearest marked directory: a directory itself, the one above it, and so on. -/
def nearestMarked? (d : Place) : Option Place := d.inits.reverse.find? h.isMarked

/-- The path leads to the directory. The empty path stands for the working directory. -/
def Denotes (p : Path) (d : Place) : Prop :=
  p.text = "" ∧ d = h.workingDirectory ∨
    h.files.find h.workingDirectory p = .ok (d, .directory)

/-- The search upwards from a path finds the nearest marked directory, or ends where it started if
there is none. -/
def FindsNearest (start : Path) : Prop :=
  ∀ place, h.Denotes start place →
    match h.nearestMarked? place with
    | some d => h.Denotes (h.detectRoot start) d
    | none => h.detectRoot start = start

variable {h}

theorem Denotes.unique {p : Path} {d d' : Place} (hd : h.Denotes p d) (hd' : h.Denotes p d') :
    d = d' := by
  have hempty : p.text = "" → ∀ d, h.files.find h.workingDirectory p ≠ .ok (d, .directory) := by
    intro hempty d found
    have := (FileTree.locate_eq_ok_iff.1 (FileTree.find_eq_ok_iff.1 found).1).1
    simp [hempty] at this
  rcases hd with ⟨htext, rfl⟩ | hd
  · rcases hd' with ⟨_, rfl⟩ | hd'
    · rfl
    · exact absurd hd' (hempty htext d')
  · rcases hd' with ⟨htext, _⟩ | hd'
    · exact absurd hd (hempty htext d)
    · rw [hd, Except.ok.injEq, Prod.mk.injEq] at hd'
      exact hd'.1

/-- Either a directory is marked itself, or the directory above it leads to the nearest one. -/
theorem nearestMarked?_concat (d : Place) (s : String) :
    h.nearestMarked? (d ++ [s]) =
      if h.isMarked (d ++ [s]) then some (d ++ [s]) else h.nearestMarked? d := by
  have hinits : (d ++ [s]).inits.reverse = (d ++ [s]) :: d.inits.reverse := by
    simp [List.inits_append]
  unfold nearestMarked?
  rw [hinits, List.find?_cons]
  cases h.isMarked (d ++ [s]) <;> rfl

theorem nearestMarked?_of_isMarked {d : Place} (hd : h.isMarked d = true) :
    h.nearestMarked? d = some d := by
  rcases List.eq_nil_or_concat' d with rfl | ⟨above, s, rfl⟩
  · simp [nearestMarked?, hd]
  · rw [nearestMarked?_concat, if_pos hd]

/-- The nearest marked directory is marked and lies on the way to the place. -/
theorem isMarked_of_nearestMarked? {place d : Place} (hd : h.nearestMarked? place = some d) :
    h.isMarked d = true ∧ d <+: place := by
  refine ⟨List.find?_some hd, ?_⟩
  have := List.mem_of_find?_eq_some hd
  rwa [List.mem_reverse, List.mem_inits] at this

/-! ## Straight paths -/

variable (h)

/-- The directory from which a path is followed. -/
def base (p : Path) : Place := if p.isAbsolute then [] else h.workingDirectory

/-- Where the names of a path lead to. -/
def placeOf (p : Path) : Place := h.base p ++ p.namesOn

/-- The path has no step up, and its names lead through directories alone. -/
structure GoesStraight (p : Path) : Prop where
  noUp : .up ∉ p.parts
  directories : ∀ above, above <+: p.namesOn → h.files.entry? (h.base p ++ above) = some .directory

variable {h}

/-- A straight path leads where its names lead. -/
theorem GoesStraight.denotes {p : Path} (straight : h.GoesStraight p) :
    h.Denotes p (h.placeOf p) := by
  by_cases hempty : p.text = ""
  · left
    obtain rfl : p = ⟨""⟩ := congrArg Path.mk hempty
    exact ⟨rfl, List.append_nil _⟩
  · right
    refine FileTree.find_eq_ok_iff.2 ⟨FileTree.locate_eq_ok_iff.2 ⟨?_, ?_⟩,
      straight.directories _ List.prefix_rfl⟩
    · simpa using hempty
    · exact FileTree.follow_directories (FileTree.filter_stepsOf straight.noUp)
        (FileTree.dots_notMem_namesOn p) straight.directories

theorem isName_of_mem_rootMarks {n : String} (hn : n ∈ Settings.rootMarks) : IsName n := by
  revert n
  decide

/-- What stands in a directory is seen along a straight path to it. -/
theorem GoesStraight.hasPath_join {p : Path} (straight : h.GoesStraight p) {n : String}
    (hn : IsName n) : h.hasPath (p.join ⟨n⟩) = h.files.exists? (h.placeOf p) ⟨n⟩ := by
  have hthrough : h.files.follow true FileTree.linkLimit (h.base p)
      (FileTree.textSteps p.text.toList ++ [n]) =
        h.files.follow true FileTree.linkLimit (h.placeOf p) [n] :=
    FileTree.follow_through (FileTree.filter_textSteps straight.noUp)
      (FileTree.dots_notMem_namesOn p) straight.directories [n]
  have hlocate : h.files.locate h.workingDirectory true (p.join ⟨n⟩) =
      h.files.locate (h.placeOf p) true ⟨n⟩ := by
    rw [FileTree.locate_join p (FileTree.isNamed_name hn) hn.1, FileTree.stepsOf_name hn,
      FileTree.locate_name h.files (h.placeOf p) hn]
    exact hthrough
  unfold hasPath FileTree.exists? FileTree.find
  rw [hlocate]

/-- The path above a straight one is straight, and leads to the same directory or to the one right
above. -/
theorem GoesStraight.parent {p q : Path} (straight : h.GoesStraight p)
    (hparent : p.parent? = some q) :
    h.GoesStraight q ∧ h.base q = h.base p ∧
      (h.placeOf p = h.placeOf q ∨ ∃ s, h.placeOf p = h.placeOf q ++ [s]) := by
  obtain ⟨last, hroot, hparts⟩ := Path.parts_parent? hparent
  have hbase : h.base q = h.base p := by
    unfold base
    rw [Path.isAbsolute_parent? hparent]
  have hnames : p.namesOn = q.namesOn ++ last.name?.toList := by
    rw [Path.namesOn, hparts, List.filterMap_append, Path.namesOn]
    cases last <;> rfl
  refine ⟨⟨fun hup => straight.noUp ?_, fun above habove => ?_⟩, hbase, ?_⟩
  · rw [hparts]
    exact List.mem_append_left _ hup
  · rw [hbase]
    exact straight.directories above (hnames ▸ habove.trans (List.prefix_append _ _))
  · unfold placeOf
    rw [hnames, hbase]
    cases last.name? with
    | none => exact .inl (by simp)
    | some s => exact .inr ⟨s, by simp⟩

/-! ## The search along a path -/

/-- Whether the search ends at a path. -/
def isRoot (h : Host) (p : Path) : Bool :=
  Settings.rootMarks.any fun n => h.hasPath (p.join ⟨n⟩)

theorem detectRoot_eq (h : Host) (start : Path) :
    h.detectRoot start = (start.ancestors.find? h.isRoot).getD start := rfl

theorem GoesStraight.isRoot_eq {p : Path} (straight : h.GoesStraight p) :
    h.isRoot p = h.isMarked (h.placeOf p) := by
  rw [Bool.eq_iff_iff, isRoot, isMarked, List.any_eq_true, List.any_eq_true]
  refine exists_congr fun n => and_congr_right fun hn => ?_
  rw [straight.hasPath_join (isName_of_mem_rootMarks hn)]

/-- From the directory of a path that is not marked, the nearest one is that of the path above. -/
theorem GoesStraight.nearestMarked?_parent {p q : Path} (straight : h.GoesStraight p)
    (hparent : p.parent? = some q) (hroot : ¬ h.isRoot p = true) :
    h.nearestMarked? (h.placeOf p) = h.nearestMarked? (h.placeOf q) := by
  rw [straight.isRoot_eq] at hroot
  obtain ⟨_, _, hplace | ⟨s, hplace⟩⟩ := straight.parent hparent
  · rw [hplace]
  · rw [hplace] at hroot ⊢
    rw [nearestMarked?_concat, if_neg hroot]

/-- Where the search ends along a straight path, the nearest marked directory is. -/
theorem root_of_climb {p q : Path} (straight : h.GoesStraight p)
    (hfind : p.ancestors.find? h.isRoot = some q) :
    h.GoesStraight q ∧ h.base q = h.base p ∧
      h.nearestMarked? (h.placeOf p) = some (h.placeOf q) := by
  have hhere {p : Path} (straight : h.GoesStraight p) (hroot : h.isRoot p = true) :
      h.nearestMarked? (h.placeOf p) = some (h.placeOf p) :=
    nearestMarked?_of_isMarked (straight.isRoot_eq.symm.trans hroot)
  induction p using Path.ancestors.induct with
  | case1 p hparent =>
    rw [Path.ancestors_of_top hparent, List.find?_cons] at hfind
    split at hfind
    · obtain rfl := Option.some.inj hfind
      exact ⟨straight, rfl, hhere straight ‹_›⟩
    · cases hfind
  | case2 p above hparent ih =>
    rw [Path.ancestors_of_parent? hparent, List.find?_cons] at hfind
    split at hfind
    · obtain rfl := Option.some.inj hfind
      exact ⟨straight, rfl, hhere straight ‹_›⟩
    · rename_i hroot
      obtain ⟨hstraight, hbase, _⟩ := straight.parent hparent
      obtain ⟨hq, hqbase, hnearest⟩ := ih hstraight hfind
      rw [← straight.nearestMarked?_parent hparent (by simp [hroot])] at hnearest
      exact ⟨hq, hqbase.trans hbase, hnearest⟩

/-- Where the search comes to nothing, a marked directory is only above the one from which the path
is followed. -/
theorem nothing_of_climb {p : Path} (straight : h.GoesStraight p)
    (hfind : p.ancestors.find? h.isRoot = none) {d : Place}
    (hd : h.nearestMarked? (h.placeOf p) = some d) : ¬ h.base p <+: d := by
  induction p using Path.ancestors.induct with
  | case1 p hparent =>
    have hbase : h.placeOf p = h.base p := by
      rcases Path.parts_of_parent?_eq_none hparent with hparts | hparts <;>
        simp [placeOf, Path.namesOn, hparts, Part.name?]
    rw [Path.ancestors_of_top hparent, List.find?_singleton] at hfind
    -- The directory from which the path is followed is the last one to be looked at.
    intro hon
    obtain ⟨hmarked, hd⟩ := isMarked_of_nearestMarked? hd
    rw [hbase] at hd
    obtain rfl := hon.eq_of_length (Nat.le_antisymm hon.length_le hd.length_le)
    rw [← hbase, ← straight.isRoot_eq] at hmarked
    simp [hmarked] at hfind
  | case2 p above hparent ih =>
    rw [Path.ancestors_of_parent? hparent, List.find?_cons] at hfind
    split at hfind
    · cases hfind
    · rename_i hroot
      obtain ⟨hstraight, hbase, _⟩ := straight.parent hparent
      rw [straight.nearestMarked?_parent hparent (by simp [hroot])] at hd
      exact hbase ▸ ih hstraight hfind hd

/-- **The search along a straight path finds the nearest marked directory,** exactly if the path is
absolute or that directory is not above the working directory. -/
theorem detectRoot_finds_nearest_iff {start : Path} (straight : h.GoesStraight start) :
    h.FindsNearest start ↔
      (start.isAbsolute = false → ∀ place d, h.Denotes start place →
        h.nearestMarked? place = some d → h.workingDirectory <+: d) := by
  constructor
  · intro hfinds hrelative place d hplace hd
    obtain rfl := hplace.unique straight.denotes
    have hbase : h.base start = h.workingDirectory := by simp [base, hrelative]
    have hroot := hfinds _ hplace
    rw [hd, detectRoot_eq] at hroot
    rw [← hbase]
    cases hfind : start.ancestors.find? h.isRoot with
    | none =>
      rw [hfind] at hroot
      obtain rfl := hroot.unique hplace
      exact List.prefix_append _ _
    | some q =>
      obtain ⟨_, hqbase, hnearest⟩ := root_of_climb straight hfind
      obtain rfl := Option.some.inj (hd.symm.trans hnearest)
      exact hqbase ▸ List.prefix_append _ _
  · intro hbelow place hplace
    obtain rfl := hplace.unique straight.denotes
    rw [detectRoot_eq]
    cases hfind : start.ancestors.find? h.isRoot with
    | some q =>
      obtain ⟨hq, _, hnearest⟩ := root_of_climb straight hfind
      rw [hnearest]
      exact hq.denotes
    | none =>
      cases hd : h.nearestMarked? (h.placeOf start) with
      | none => rfl
      | some d =>
        refine absurd ?_ (nothing_of_climb straight hfind hd)
        unfold base
        split
        · exact List.nil_prefix
        · rename_i hrelative
          exact hbelow (by simpa using hrelative) _ d hplace hd

/-- A machine with marks in the root and in one of two directories, seen from the other one. -/
def markedHost : Host where
  files := ⟨[([".git"], .directory), (["w"], .directory), (["w", "a"], .directory),
    (["w", "b"], .directory), (["w", "b", ".git"], .directory)]⟩
  workingDirectory := ["w", "a"]
  searchPath := none
  noColor := true
  logFilter := none
  resourceRoot := ⟨"/"⟩
  programs := fun _ => none

/-- An absolute path below a mark in the root. -/
theorem detectRoot_absoluteStart :
    markedHost.GoesStraight ⟨"/w/a"⟩ ∧ markedHost.nearestMarked? ["w", "a"] = some [] ∧
      markedHost.FindsNearest ⟨"/w/a"⟩ := by
  have hdirectories : ∀ above ∈ (Path.namesOn ⟨"/w/a"⟩).inits,
      markedHost.files.entry? (markedHost.base ⟨"/w/a"⟩ ++ above) = some .directory := by
    decide +kernel
  have straight : markedHost.GoesStraight ⟨"/w/a"⟩ :=
    ⟨by decide +kernel, fun above habove => hdirectories above ((List.mem_inits _ _).2 habove)⟩
  exact ⟨straight, by decide +kernel,
    (detectRoot_finds_nearest_iff straight).2 fun hrelative => absurd hrelative (by decide +kernel)⟩

/-- The search from the working directory does not see the mark above it, and from behind a step up
it climbs into a directory that is not above the start. -/
theorem detectRoot_stopsEarly :
    (markedHost.detectRoot ⟨"."⟩ = ⟨"."⟩ ∧ ¬ markedHost.FindsNearest ⟨"."⟩) ∧
    (markedHost.detectRoot ⟨"/w/b/../a"⟩ = ⟨"/w/b"⟩ ∧
      ¬ markedHost.FindsNearest ⟨"/w/b/../a"⟩) := by
  have hnearest : markedHost.nearestMarked? ["w", "a"] = some [] := by decide +kernel
  have hdot : markedHost.detectRoot ⟨"."⟩ = ⟨"."⟩ := by decide +kernel
  have hup : markedHost.detectRoot ⟨"/w/b/../a"⟩ = ⟨"/w/b"⟩ := by decide +kernel
  have hstart : markedHost.Denotes ⟨"."⟩ ["w", "a"] := .inr rfl
  have hstart' : markedHost.Denotes ⟨"/w/b/../a"⟩ ["w", "a"] := .inr rfl
  have hfound : markedHost.Denotes ⟨"/w/b"⟩ ["w", "b"] := .inr rfl
  refine ⟨⟨hdot, fun hfinds => ?_⟩, hup, fun hfinds => ?_⟩
  · have hroot := hfinds _ hstart
    rw [hnearest, hdot] at hroot
    cases hroot.unique hstart
  · have hroot := hfinds _ hstart'
    rw [hnearest, hup] at hroot
    cases hroot.unique hfound

end LintScan.Host
