import LintScan.Scan.Workspace
import Mathlib.Tactic.ByContra
import Mathlib.Tactic.Tauto

/-!
# The outermost packages

The search for packages goes through the directories in order. It leaves out what lies inside a
hidden directory or a package, which in order stands right behind it.

* `mem_outside_iff` — what is left when the search does not enter a directory.
* `IsOpen`, `mem_outermost_iff` — the search lists the packages above which nothing is hidden or a
  package.
* `mem_outermost_iff_top` — so a package in sight is listed unless it lies inside a listed one.
-/

namespace LintScan

/-! ## Directories in order -/

/-- What stands in order behind a directory and does not lie inside it stands behind all that
does. -/
theorem lt_of_prefix {dir inside other : List String} (hinside : dir <+: inside)
    (hlt : dir < other) (houtside : ¬ dir <+: other) : inside < other := by
  induction dir generalizing inside other with
  | nil => exact absurd List.nil_prefix houtside
  | cons a dir ih =>
    obtain ⟨more, rfl⟩ := hinside
    cases other with
    | nil => cases hlt
    | cons b other =>
      rw [List.cons_append, List.cons_lt_cons_iff]
      rcases List.cons_lt_cons_iff.1 hlt with hhead | ⟨rfl, htail⟩
      · exact .inl hhead
      · refine .inr ⟨rfl, ih (List.prefix_append _ _) htail fun hon => houtside ?_⟩
        exact List.cons_prefix_cons.2 ⟨rfl, hon⟩

theorem not_append_lt (dir names : List String) : ¬ dir ++ names < dir := by
  induction dir with
  | nil => exact List.not_lt_nil names
  | cons a dir ih =>
    rw [List.cons_append, List.cons_lt_cons_iff]
    rintro (hhead | ⟨_, htail⟩)
    · exact Std.lt_irrefl hhead
    · exact ih htail

theorem append_lt_append (dir : List String) {names names' : List String} (h : names < names') :
    dir ++ names < dir ++ names' := by
  induction dir with
  | nil => exact h
  | cons a dir ih => exact List.cons_lt_cons_iff.2 (.inr ⟨rfl, ih⟩)

/-- In order, a directory stands right before what it holds. -/
theorem dropWhile_eq_filter {dir : List String} {rest : List (List String)}
    (sorted : (dir :: rest).Pairwise (· < ·)) :
    rest.dropWhile dir.isPrefixOf = rest.filter fun other => !dir.isPrefixOf other := by
  induction rest with
  | nil => rfl
  | cons other rest ih =>
    obtain ⟨hdir, hrest⟩ := List.pairwise_cons.1 sorted
    by_cases hinside : dir.isPrefixOf other = true
    · rw [List.dropWhile_cons_of_pos hinside, List.filter_cons_of_neg (by simp [hinside])]
      exact ih (sorted.sublist ((List.sublist_cons_self other rest).cons_cons dir))
    · -- The first directory outside ends those inside, so nothing is left to filter out.
      rw [List.dropWhile_cons_of_neg hinside, List.filter_eq_self.2]
      intro later hlater
      rw [Bool.not_eq_true', ← Bool.not_eq_true, List.isPrefixOf_iff_prefix]
      intro hon
      rw [List.isPrefixOf_iff_prefix] at hinside
      have hbefore := lt_of_prefix hon (hdir other List.mem_cons_self) hinside
      rcases List.mem_cons.1 hlater with rfl | hlater
      · exact hinside hon
      · exact Std.lt_irrefl (Std.lt_trans hbefore ((List.pairwise_cons.1 hrest).1 later hlater))

theorem mem_outside_iff {dir other : List String} {rest : List (List String)}
    (sorted : (dir :: rest).Pairwise (· < ·)) :
    other ∈ rest.dropWhile dir.isPrefixOf ↔ other ∈ rest ∧ ¬ dir <+: other := by
  rw [dropWhile_eq_filter sorted, List.mem_filter, Bool.not_eq_true', ← Bool.not_eq_true,
    List.isPrefixOf_iff_prefix]

/-! ## The outermost packages -/

/-- No directory on the way is hidden, the last one included, and none before the last is a
package. -/
def IsOpen (holds : List String → Bool) (dirs : List (List String)) (dir : List String) : Prop :=
  isHidden dir = false ∧
    ∀ above ∈ dirs, above <+: dir → above ≠ dir → isHidden above = false ∧ holds above = false

variable {holds : List String → Bool}

theorem outermost_sublist (holds : List String → Bool) (dirs : List (List String)) :
    (outermost holds dirs).Sublist dirs := by
  fun_induction outermost holds dirs with
  | case1 => exact List.Sublist.refl _
  | case2 dir rest outside _ ih => exact (ih.trans (List.dropWhile_sublist _)).cons dir
  | case3 dir rest outside _ _ ih => exact (ih.trans (List.dropWhile_sublist _)).cons_cons dir
  | case4 dir rest _ _ ih => exact ih.cons dir

theorem isOpen_congr {dirs dirs' : List (List String)} {dir : List String}
    (h : ∀ above, above <+: dir → (above ∈ dirs ↔ above ∈ dirs')) :
    IsOpen holds dirs dir ↔ IsOpen holds dirs' dir := by
  refine and_congr_right fun _ => forall_congr' fun above => ?_
  constructor
  · exact fun hopen hmem hon => hopen ((h above hon).2 hmem) hon
  · exact fun hopen hmem hon => hopen ((h above hon).1 hmem) hon

section Step

variable {first dir : List String} {rest : List (List String)}
  (sorted : (first :: rest).Pairwise (· < ·))

include sorted

/-- A directory stands behind those that it lies inside. -/
theorem not_prefix_of_mem {above : List String} (habove : above ∈ rest) : ¬ above <+: first := by
  rintro ⟨names, rfl⟩
  exact not_append_lt above names ((List.pairwise_cons.1 sorted).1 above habove)

/-- Outside the first directory, it makes no difference. -/
theorem isOpen_outside_iff (houtside : ¬ first <+: dir) :
    IsOpen holds (first :: rest) dir ↔ IsOpen holds (rest.dropWhile first.isPrefixOf) dir := by
  refine isOpen_congr fun above habove => ?_
  rw [mem_outside_iff sorted, List.mem_cons]
  constructor
  · rintro (rfl | hmem)
    · exact absurd habove houtside
    · exact ⟨hmem, fun hfirst => houtside (hfirst.trans habove)⟩
  · exact fun hmem => .inr hmem.1

/-- The first directory is open if it is not hidden. -/
theorem isOpen_first_iff : IsOpen holds (first :: rest) first ↔ isHidden first = false := by
  refine and_iff_left fun above habove hon hne => ?_
  rcases List.mem_cons.1 habove with rfl | habove
  · exact absurd rfl hne
  · exact absurd hon (not_prefix_of_mem sorted habove)

/-- Behind the first directory, those are open that are so without it, but for those inside it if
it is hidden or a package. -/
theorem isOpen_rest_iff (hdir : dir ∈ rest) : IsOpen holds (first :: rest) dir ↔
    IsOpen holds rest dir ∧ (first <+: dir → isHidden first = false ∧ holds first = false) := by
  have hne : first ≠ dir := by
    rintro rfl
    exact not_prefix_of_mem sorted hdir List.prefix_rfl
  simp only [IsOpen, List.forall_mem_cons, ne_eq, hne, not_false_eq_true, true_implies]
  tauto

/-- Where the search does not enter the first directory, it goes on outside. -/
theorem isOpen_skipped_iff (dir : List String)
    (hends : ¬ (isHidden first = false ∧ holds first = false)) :
    dir ∈ rest ∧ IsOpen holds (first :: rest) dir ↔
      dir ∈ rest.dropWhile first.isPrefixOf ∧
        IsOpen holds (rest.dropWhile first.isPrefixOf) dir := by
  rw [mem_outside_iff sorted]
  constructor
  · rintro ⟨hdir, hopen⟩
    have houtside : ¬ first <+: dir := fun hinside =>
      hends (((isOpen_rest_iff sorted hdir).1 hopen).2 hinside)
    exact ⟨⟨hdir, houtside⟩, (isOpen_outside_iff sorted houtside).1 hopen⟩
  · rintro ⟨⟨hdir, houtside⟩, hopen⟩
    exact ⟨hdir, (isOpen_outside_iff sorted houtside).2 hopen⟩

end Step

/-- **The search lists the packages that lie neither inside another one nor in a hidden
directory.** -/
theorem mem_outermost_iff {dirs : List (List String)} (sorted : dirs.Pairwise (· < ·))
    {dir : List String} :
    dir ∈ outermost holds dirs ↔ dir ∈ dirs ∧ holds dir = true ∧ IsOpen holds dirs dir := by
  fun_induction outermost holds dirs with
  | case1 => simp
  | case2 first rest outside hhidden ih =>
    have hends : ¬ (isHidden first = false ∧ holds first = false) := by simp [hhidden]
    have hskipped := isOpen_skipped_iff sorted dir hends
    rw [ih ((List.pairwise_cons.1 sorted).2.sublist (List.dropWhile_sublist _)), List.mem_cons]
    constructor
    · rintro ⟨hdir, hholds, hopen⟩
      obtain ⟨hrest, hopen⟩ := hskipped.2 ⟨hdir, hopen⟩
      exact ⟨.inr hrest, hholds, hopen⟩
    · rintro ⟨rfl | hrest, hholds, hopen⟩
      · rw [isOpen_first_iff sorted, hhidden] at hopen
        cases hopen
      · obtain ⟨hdir, hopen⟩ := hskipped.1 ⟨hrest, hopen⟩
        exact ⟨hdir, hholds, hopen⟩
  | case3 first rest outside hhidden hholds ih =>
    have hends : ¬ (isHidden first = false ∧ holds first = false) := by simp [hholds]
    have hskipped := isOpen_skipped_iff sorted dir hends
    rw [List.mem_cons, ih ((List.pairwise_cons.1 sorted).2.sublist (List.dropWhile_sublist _)),
      List.mem_cons]
    constructor
    · rintro (rfl | ⟨hdir, hholds, hopen⟩)
      · exact ⟨.inl rfl, hholds, (isOpen_first_iff sorted).2 (by simpa using hhidden)⟩
      · obtain ⟨hrest, hopen⟩ := hskipped.2 ⟨hdir, hopen⟩
        exact ⟨.inr hrest, hholds, hopen⟩
    · rintro ⟨rfl | hrest, hholds, hopen⟩
      · exact .inl rfl
      · obtain ⟨hdir, hopen⟩ := hskipped.1 ⟨hrest, hopen⟩
        exact .inr ⟨hdir, hholds, hopen⟩
  | case4 first rest hhidden hholds ih =>
    rw [Bool.not_eq_true] at hhidden hholds
    rw [ih (List.pairwise_cons.1 sorted).2, List.mem_cons]
    constructor
    · rintro ⟨hrest, hdir, hopen⟩
      exact ⟨.inr hrest, hdir, (isOpen_rest_iff sorted hrest).2
        ⟨hopen, fun _ => ⟨hhidden, hholds⟩⟩⟩
    · rintro ⟨rfl | hrest, hdir, hopen⟩
      · rw [hholds] at hdir
        cases hdir
      · exact ⟨hrest, hdir, ((isOpen_rest_iff sorted hrest).1 hopen).1⟩

/-- Above a package where no directory is hidden, or at it, there is one that is listed. -/
theorem exists_outermost {dirs : List (List String)} (sorted : dirs.Pairwise (· < ·))
    {dir : List String} (hdir : dir ∈ dirs) (hholds : holds dir = true)
    (shown : ∀ above ∈ dirs, above <+: dir → isHidden above = false) :
    ∃ top ∈ outermost holds dirs, top <+: dir := by
  -- A package that is not open has another one above it, which is nearer to the top.
  induction hlength : dir.length using Nat.strongRecOn generalizing dir with
  | ind n ih =>
    by_cases hopen : IsOpen holds dirs dir
    · exact ⟨dir, (mem_outermost_iff sorted).2 ⟨hdir, hholds, hopen⟩, List.prefix_rfl⟩
    · obtain ⟨above, habove, hon, hne, hclosed⟩ : ∃ above ∈ dirs, above <+: dir ∧
          above ≠ dir ∧ holds above = true := by
        by_contra hnone
        refine hopen ⟨shown dir hdir List.prefix_rfl, fun above habove hon hne =>
          ⟨shown above habove hon, ?_⟩⟩
        rw [← Bool.not_eq_true]
        exact fun hclosed => hnone ⟨above, habove, hon, hne, hclosed⟩
      have hshorter : above.length < n := by
        rw [← hlength]
        exact Nat.lt_of_le_of_ne hon.length_le fun heq => hne (hon.eq_of_length heq)
      obtain ⟨top, htop, hup⟩ := ih _ hshorter habove hclosed
        (fun above' habove' hon' => shown above' habove' (hon'.trans hon)) rfl
      exact ⟨top, htop, hup.trans hon⟩

/-- The listed packages are those in sight that are not inside another listed one. -/
theorem mem_outermost_iff_top {dirs : List (List String)} (sorted : dirs.Pairwise (· < ·))
    {dir : List String} :
    dir ∈ outermost holds dirs ↔ dir ∈ dirs ∧ holds dir = true ∧
      (∀ above ∈ dirs, above <+: dir → isHidden above = false) ∧
      ∀ above ∈ outermost holds dirs, above <+: dir → above = dir := by
  constructor
  · intro hlisted
    obtain ⟨hdir, hholds, hshown, hopen⟩ := (mem_outermost_iff sorted).1 hlisted
    refine ⟨hdir, hholds, fun above habove hon => ?_, fun above habove hon => ?_⟩
    · by_cases hne : above = dir
      · rwa [hne]
      · exact (hopen above habove hon hne).1
    · by_contra hne
      obtain ⟨habove, hclosed, _⟩ := (mem_outermost_iff sorted).1 habove
      rw [(hopen above habove hon hne).2] at hclosed
      cases hclosed
  · rintro ⟨hdir, hholds, shown, htop⟩
    obtain ⟨top, hlisted, hon⟩ := exists_outermost sorted hdir hholds shown
    rwa [← htop top hlisted hon]

end LintScan
