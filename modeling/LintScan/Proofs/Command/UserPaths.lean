import LintScan.Command.Run

/-!
# User paths on the command line

Two commands take user paths, as one text with commas between them. This file compares what they
hand on to the settings.

* `splitList_eq` — the scan drops the blanks around the pieces, and then the pieces that are empty.
* `GivesUserPaths` — the ways to write the option with a value; `refused_of_dash` says that a text
  which looks like an option is refused as the value behind it.
* `ofArguments_levels`, `ofArguments_scan` — the commands that such arguments are.
* `levels_agrees_with_scan_iff` — levels are listed for the user paths of a scan exactly if no piece
  is empty or has blanks around it; `levels_keeps_blanks` is a text for which they are not.
-/

namespace LintScan.Command

open Text

/-! ## Pieces -/

/-- Nothing is changed and nothing dropped exactly if this is so for each element. -/
theorem filter_map_eq_self_iff {α : Type} {f : α → α} {p : α → Bool} {l : List α} :
    (l.map f).filter p = l ↔ ∀ a ∈ l, f a = a ∧ p a = true := by
  constructor
  · intro h
    have hall : (l.map f).filter p = l.map f :=
      List.filter_sublist.eq_of_length (by rw [h, List.length_map])
    have hsame : l.map f = l.map id := (hall.symm.trans h).trans (List.map_id l).symm
    exact fun a ha => ⟨List.map_inj_left.1 hsame a ha, (List.mem_filter.1 (h.symm ▸ ha)).2⟩
  · intro h
    have hsame : l.map f = l.map id := List.map_inj_left.2 fun a ha => (h a ha).1
    rw [hsame, List.map_id, List.filter_eq_self]
    exact fun a ha => (h a ha).2

/-- A scan takes the pieces without the blanks around them, those that are then not empty. -/
theorem splitList_eq (s : String) :
    splitList s = ((rawPieces s).map trim).filter (· ≠ "") := by
  unfold splitList rawPieces
  generalize splitAtEach ',' s.toList = pieces
  induction pieces with
  | nil => rfl
  | cons piece pieces ih =>
    simp only [List.map_cons, List.filter_cons, trim, String.toList_ofList]
    by_cases hempty : trimChars piece = []
    · simpa [hempty] using ih
    · have hne : String.ofList (trimChars piece) ≠ "" := fun h =>
        hempty (by rw [← String.toList_ofList (l := trimChars piece), h]; rfl)
      simpa [hempty, hne] using ih

/-- The pieces are those of a scan if each is one as it stands. -/
theorem rawPieces_eq_splitList_iff {s : String} :
    rawPieces s = splitList s ↔ ∀ piece ∈ rawPieces s, trim piece = piece ∧ piece ≠ "" := by
  rw [splitList_eq, eq_comm, filter_map_eq_self_iff]
  simp only [ne_eq, decide_not, Bool.not_eq_true', decide_eq_false_iff_not]

/-! ## The option -/

/-- The arguments by which user paths are given: the option with the text behind an equals sign, or
the text as the next argument, if that does not look like an option. -/
inductive GivesUserPaths (paths : String) : List String → Prop where
  | attached : GivesUserPaths paths ["--user-paths=" ++ paths]
  | apart (plain : ArgumentShape.of paths = .plain) : GivesUserPaths paths ["--user-paths", paths]

theorem shape_attached (paths : String) :
    ArgumentShape.of ("--user-paths=" ++ paths) = .long "user-paths" (some paths) := by
  have hchars : ("--user-paths=" ++ paths).toList =
      "--user-paths=".toList ++ paths.toList := String.toList_append
  unfold ArgumentShape.of
  rw [hchars]
  simp [cutAt?]

theorem shape_userPaths : ArgumentShape.of "--user-paths" = .long "user-paths" none := by
  decide

/-- Where the option takes a text, it is the only one that such arguments give. -/
theorem takeAll_given (form : CommandForm) {paths : String} {words : List String}
    (hform : form.options.lookup "user-paths" = some .text ∨
      form.options.lookup "user-paths" = some .texts)
    (given : GivesUserPaths paths words) (path? : Option String) :
    Given.takeAll form { path := path? } false words =
      .ok { path := path?, options := [("user-paths", paths)] } := by
  have htake : ({ path := path? } : Given).take form "user-paths" paths =
      .ok { path := path?, options := [("user-paths", paths)] } := by
    unfold Given.take
    rcases hform with hkind | hkind <;> rw [hkind] <;> rfl
  cases given with
  | attached =>
    have hlong : ({ path := path? } : Given).long form ("--user-paths=" ++ paths) "user-paths"
        (some paths) = .ok { path := path?, options := [("user-paths", paths)] } := by
      unfold Given.long
      rcases hform with hkind | hkind <;> rw [hkind] <;> exact htake
    simp only [Given.takeAll, shape_attached, hlong]
    rfl
  | apart plain =>
    have hlong : ({ path := path? } : Given).long form "--user-paths" "user-paths" none =
        .ok { path := path?, waiting := some ("user-paths", none) } := by
      unfold Given.long
      rcases hform with hkind | hkind <;> rw [hkind] <;> rfl
    simp only [Given.takeAll, shape_userPaths, hlong, plain]
    exact htake

theorem ofArguments_name {name : String} (hname : name ∈ names) (arguments : List String) :
    ofArguments (name :: arguments) = ofName name arguments := by
  have hknown : names.contains name = true := List.contains_iff_mem.2 hname
  simp only [ofArguments, hknown, if_true]

theorem ofArguments_levels {paths : String} {words : List String}
    (given : GivesUserPaths paths words) :
    ofArguments ("levels" :: words) = .ok (.levels none none (some (rawPieces paths))) := by
  rw [ofArguments_name (by decide)]
  simp only [ofName, takeAll_given levelsForm (.inr rfl) given none]
  simp [levelsOf, Given.value?, Given.values, bind, Except.bind]

theorem ofArguments_scan {paths path : String} {words : List String}
    (hpath : ArgumentShape.of path = .plain) (given : GivesUserPaths paths words) :
    ofArguments ("scan" :: path :: words) =
      .ok (.scan false { root := some path, userPaths := some (splitList paths) }) := by
  have htake : Given.takeAll scanForm {} false (path :: words) =
      .ok { path := some path, options := [("user-paths", paths)] } := by
    rw [← takeAll_given scanForm (.inl rfl) given (some path), Given.takeAll, hpath]
    rfl
  rw [ofArguments_name (by decide)]
  simp only [ofName, htake]
  simp [scanOf, switch?, Given.value?, bind, Except.bind]

/-! ## A text that looks like an option -/

section Waiting

variable (form : CommandForm) {g : Given} {option argument : String}

theorem settle_of_waiting (hwaiting : g.waiting = some (option, none)) :
    g.settle form = .error (.missingValue option) := by
  rw [Given.settle, hwaiting]

theorem exists_error_long (hwaiting : g.waiting = some (option, none)) (argument name : String)
    (attached : Option String) : ∃ e, g.long form argument name attached = .error e := by
  unfold Given.long
  rw [settle_of_waiting form hwaiting]
  split
  case h_6 => split <;> exact ⟨_, rfl⟩
  all_goals exact ⟨_, rfl⟩

theorem exists_error_short (hwaiting : g.waiting = some (option, none)) (argument : String)
    (letter : Char) : ∃ e, g.short form argument letter = .error e := by
  unfold Given.short
  rw [settle_of_waiting form hwaiting]
  split <;> exact ⟨_, rfl⟩

/-- While an option waits for its text, another option is an error. -/
theorem exists_error_of_waiting (hwaiting : g.waiting = some (option, none))
    (hdash : ArgumentShape.of argument ≠ .plain) :
    ∃ e, Given.takeAll form g false [argument] = .error e := by
  simp only [Given.takeAll, Bool.false_eq_true, if_false]
  cases hshape : ArgumentShape.of argument with
  | plain => exact absurd hshape hdash
  | stop => exact ⟨_, settle_of_waiting form hwaiting⟩
  | short letter =>
    obtain ⟨e, he⟩ := exists_error_short form hwaiting argument letter
    exact ⟨e, by simp only [he, bind, Except.bind]⟩
  | long name attached =>
    obtain ⟨e, he⟩ := exists_error_long form hwaiting argument name attached
    exact ⟨e, by simp only [he, bind, Except.bind]⟩

end Waiting

/-- A text that looks like an option is no value behind the option, for neither command. -/
theorem refused_of_dash {paths : String} (hdash : ArgumentShape.of paths ≠ .plain)
    (c : Command) :
    ofArguments ["levels", "--user-paths", paths] ≠ .ok c ∧
      ∀ path, ArgumentShape.of path = .plain →
        ofArguments ["scan", path, "--user-paths", paths] ≠ .ok c := by
  constructor
  · obtain ⟨e, he⟩ := exists_error_of_waiting levelsForm
      (g := { waiting := some ("user-paths", none) }) rfl hdash
    have htake : Given.takeAll levelsForm {} false ["--user-paths", paths] = .error e := he
    rw [ofArguments_name (by decide)]
    simp only [ofName, htake]
    intro heq
    cases heq
  · intro path hpath
    obtain ⟨e, he⟩ := exists_error_of_waiting scanForm
      (g := { path := some path, waiting := some ("user-paths", none) }) rfl hdash
    have htake : Given.takeAll scanForm {} false [path, "--user-paths", paths] = .error e := by
      rw [← he, Given.takeAll, hpath]
      rfl
    rw [ofArguments_name (by decide)]
    simp only [ofName, htake]
    intro heq
    cases heq

/-! ## Both commands -/

/-- **When levels are listed for the user paths of a scan.** Whatever text is given, a scan goes on
with its pieces without the blanks around them, those that are not empty, and the list of levels
with the pieces as they are. The two are the same exactly if no piece is empty or has blanks around
it. Behind the option, neither command takes a text that looks like an option. -/
theorem levels_agrees_with_scan_iff (paths : String) {path : String}
    (hpath : ArgumentShape.of path = .plain) :
    (∀ words, GivesUserPaths paths words → ∃ levels scan : Command,
      ofArguments ("levels" :: words) = .ok levels ∧
      ofArguments ("scan" :: path :: words) = .ok scan ∧
      levels.run = runLevels levels.overrides ∧ scan.run = runScan false scan.overrides ∧
      levels.overrides.userPaths = some (rawPieces paths) ∧
      scan.overrides.userPaths = some (((rawPieces paths).map trim).filter (· ≠ "")) ∧
      (levels.overrides.userPaths = scan.overrides.userPaths ↔
        ∀ piece ∈ rawPieces paths, trim piece = piece ∧ piece ≠ "")) ∧
    (ArgumentShape.of paths ≠ .plain → ∀ c : Command,
      ofArguments ["levels", "--user-paths", paths] ≠ .ok c ∧
      ofArguments ["scan", path, "--user-paths", paths] ≠ .ok c) := by
  constructor
  · intro words given
    refine ⟨_, _, ofArguments_levels given, ofArguments_scan hpath given, rfl, rfl, rfl, ?_, ?_⟩
    · exact congrArg some (splitList_eq paths)
    · exact (Option.some_inj).trans rawPieces_eq_splitList_iff
  · exact fun hdash c => ⟨(refused_of_dash hdash c).1, (refused_of_dash hdash c).2 path hpath⟩

/-- A text whose pieces are all paths as they stand. -/
theorem levels_agrees_with_scan_plain :
    ArgumentShape.of "pkg" = .plain ∧ ∃ levels scan : Command,
      ofArguments ["levels", "--user-paths", "conf,/etc/lint"] = .ok levels ∧
      ofArguments ["scan", "pkg", "--user-paths", "conf,/etc/lint"] = .ok scan ∧
      levels.overrides.userPaths = scan.overrides.userPaths := by
  have hpath : ArgumentShape.of "pkg" = .plain := by decide
  have hgiven : GivesUserPaths "conf,/etc/lint" ["--user-paths", "conf,/etc/lint"] :=
    .apart (by decide)
  obtain ⟨levels, scan, hlevels, hscan, _, _, _, _, hsame⟩ :=
    (levels_agrees_with_scan_iff "conf,/etc/lint" hpath).1 _ hgiven
  exact ⟨hpath, levels, scan, hlevels, hscan, hsame.2 (by decide)⟩

/-- A blank behind a comma is part of a path for the list of levels, and so is the empty piece
behind the last comma. -/
theorem levels_keeps_blanks :
    ∃ levels scan : Command,
      ofArguments ["levels", "--user-paths", "a, b,"] = .ok levels ∧
      ofArguments ["scan", "pkg", "--user-paths", "a, b,"] = .ok scan ∧
      levels.overrides.userPaths = some ["a", " b", ""] ∧
      scan.overrides.userPaths = some ["a", "b"] :=
  ⟨_, _, ofArguments_levels (.apart (by decide)),
    ofArguments_scan (by decide) (.apart (by decide)), by decide, by decide⟩

end LintScan.Command
