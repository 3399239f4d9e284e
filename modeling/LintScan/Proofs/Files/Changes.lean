import LintScan.Proofs.Files.Below
import Mathlib.Logic.Relation

/-!
# What changes keep a tree

* `FileTree.isName_of_follow` — a way by proper steps leads to a place with proper names.
* `eq_set_of_write`, `eq_set_of_makeDirectory`, `reflTransGen_makeDirectories` — what the
  operations do to a tree.
* `entry?_write`, `entry?_makeDirectories` — what they leave as it is.
* `IsTree.set` — an entry may be put into a directory, unless another directory goes for it.
* `IsTree.write`, `IsTree.makeDirectory`, `IsTree.makeDirectories` — the operations keep a tree.
-/

namespace LintScan.FileTree

variable {t t' : FileTree} {cwd place : Place} {e : Entry}

/-! ## Proper names -/

/-- A step that a path may take. -/
def IsStep (s : String) : Prop := s ≠ "" ∧ '/' ∉ s.toList

theorem isStep_of_mem_stepsOf {p : Path} {s : String} (hs : s ∈ stepsOf p) : IsStep s := by
  rw [stepsOf_eq, List.mem_append] at hs
  rcases hs with hs | hs
  · obtain ⟨piece, hpiece, rfl⟩ := List.mem_map.1 hs
    obtain ⟨hpiece, hne⟩ := List.mem_filter.1 hpiece
    refine ⟨fun h => ?_, fun hslash => ?_⟩
    · rw [← String.toList_ofList (l := piece), h] at hne
      cases hne
    · rw [String.toList_ofList] at hslash
      exact (Text.mem_of_mem_piece hpiece hslash).2 rfl
  · split at hs
    · obtain rfl := List.mem_singleton.1 hs
      exact ⟨by decide, by decide⟩
    · cases hs

/-- Proper steps lead to proper names, if they do so behind the first link. -/
theorem isName_of_followSteps {followLast : Bool}
    {jump : Place → List String → Except FileError Place} {from_ : Place} {steps : List String}
    (hjump : ∀ there onward, (∀ s ∈ onward, IsStep s) → (∀ n ∈ there, IsName n) →
      jump there onward = .ok place → ∀ n ∈ place, IsName n)
    (hsteps : ∀ s ∈ steps, IsStep s) (hfrom : ∀ n ∈ from_, IsName n)
    (h : t.followSteps followLast jump from_ steps = .ok place) : ∀ n ∈ place, IsName n := by
  have hnext {from_ : Place} {s : String} (hs : IsStep s) (hdot : ¬ (s == ".") = true)
      (hdots : ¬ (s == "..") = true) (hfrom : ∀ n ∈ from_, IsName n) :
      ∀ n ∈ from_ ++ [s], IsName n := by
    rw [beq_iff_eq] at hdot hdots
    intro n hn
    rcases List.mem_append.1 hn with hn | hn
    · exact hfrom n hn
    · rw [List.mem_singleton.1 hn]
      exact ⟨hs.1, hdot, hdots, hs.2⟩
  fun_induction followSteps t followLast jump from_ steps with
  | case1 =>
    obtain rfl := Except.ok.inj h
    exact hfrom
  | case2 _ _ _ _ _ ih => exact ih (List.forall_mem_cons.1 hsteps).2 hfrom h
  | case3 _ _ _ _ _ _ ih =>
    exact ih (List.forall_mem_cons.1 hsteps).2 (fun n hn => hfrom n (List.dropLast_subset _ hn)) h
  | case4 _ _ _ _ hdot hdots =>
    obtain rfl := Except.ok.inj h
    exact hnext (List.forall_mem_cons.1 hsteps).1 hdot hdots hfrom
  | case5 =>
    refine hjump _ _ (fun s hs => ?_) (fun n hn => ?_) h
    · rcases List.mem_append.1 hs with hs | hs
      · exact isStep_of_mem_stepsOf hs
      · exact (List.forall_mem_cons.1 hsteps).2 s hs
    · split at hn
      · cases hn
      · exact hfrom n hn
  | case6 _ _ _ _ hdot hdots _ _ _ _ ih =>
    obtain ⟨hs, hsteps⟩ := List.forall_mem_cons.1 hsteps
    exact ih hsteps (hnext hs hdot hdots hfrom) h
  | case7 _ _ _ _ hdot hdots =>
    obtain rfl := Except.ok.inj h
    exact hnext (List.forall_mem_cons.1 hsteps).1 hdot hdots hfrom
  | _ => cases h

theorem isName_of_follow {followLast : Bool} {links : Nat} {from_ : Place} {steps : List String}
    (hsteps : ∀ s ∈ steps, IsStep s) (hfrom : ∀ n ∈ from_, IsName n)
    (h : t.follow followLast links from_ steps = .ok place) : ∀ n ∈ place, IsName n := by
  induction links generalizing from_ steps with
  | zero => exact isName_of_followSteps (fun _ _ _ _ hjump => by cases hjump) hsteps hfrom h
  | succ links ih => exact isName_of_followSteps (fun _ _ => ih) hsteps hfrom h

theorem isName_of_locate {followLast : Bool} {p : Path} (hcwd : ∀ n ∈ cwd, IsName n)
    (h : t.locate cwd followLast p = .ok place) : ∀ n ∈ place, IsName n := by
  unfold locate at h
  split at h
  · cases h
  · refine isName_of_follow (fun s => isStep_of_mem_stepsOf) ?_ h
    split
    · nofun
    · exact hcwd

/-! ## One entry -/

theorem entry?_set_self (t : FileTree) (hplace : place ≠ []) (e : Entry) :
    entry? (t.set place e) place = some e := by
  have hnone : (t.entries.filter (·.1 != place)).lookup place = none := by
    refine List.lookup_eq_none_iff.2 fun entry hentry => ?_
    rw [bne_comm]
    exact (List.mem_filter.1 hentry).2
  unfold entry? set
  rw [if_neg hplace, List.lookup_append, hnone, Option.none_or, List.lookup_cons_self]

theorem entry?_set_of_ne {other : Place} (h : other ≠ place) (e : Entry) :
    entry? (t.set place e) other = t.entry? other := by
  have hkept : ∀ entries : List (Place × Entry),
      (entries.filter (·.1 != place) ++ [(place, e)]).lookup other = entries.lookup other := by
    intro entries
    induction entries with
    | nil =>
      rw [List.filter_nil, List.nil_append, List.lookup_cons, beq_false_of_ne h]
    | cons entry entries ih =>
      by_cases hentry : entry.1 = place
      · rw [List.filter_cons_of_neg (by simp [hentry]), ih, List.lookup_cons, hentry,
          beq_false_of_ne h]
      · rw [List.filter_cons_of_pos (by simpa using hentry), List.cons_append, List.lookup_cons,
          List.lookup_cons, ih]
  unfold entry? set
  rw [hkept]

/-- Directories stay where they are, unless something else goes for one. -/
theorem entry?_set_directory {p : Place} (hplace : place ≠ [])
    (hgoes : e = .directory ∨ t.entry? place ≠ some .directory)
    (hp : t.entry? p = some .directory) : entry? (t.set place e) p = some .directory := by
  by_cases hsame : p = place
  · subst hsame
    rw [entry?_set_self t hplace, hgoes.resolve_right fun h => h hp]
  · rw [entry?_set_of_ne hsame, hp]

/-! ## The operations -/

/-- A file is written where its path leads: over a file, or into a directory. -/
theorem eq_set_of_write {p : Path} {bytes : List UInt8} (h : t.write cwd p bytes = .ok t') :
    ∃ place mode, t.locate cwd true p = .ok place ∧ t' = t.set place (.file bytes mode) ∧
      place ≠ [] ∧ ((∃ old, t.entry? place = some (.file old mode)) ∨
        t.entry? place = none ∧ t.entry? place.dropLast = some .directory) := by
  unfold FileTree.write at h
  cases hlocate : t.locate cwd true p with
  | error _ =>
    rw [hlocate] at h
    cases h
  | ok place =>
    rw [hlocate] at h
    simp only [bind, Except.bind] at h
    have hroot : t.entry? place ≠ some .directory → place ≠ [] := by
      rintro hgoes rfl
      exact hgoes rfl
    split at h
    · rename_i hfile
      obtain rfl := Except.ok.inj h
      exact ⟨_, _, rfl, rfl, hroot (by rw [hfile]; nofun), .inl ⟨_, hfile⟩⟩
    · cases h
    · cases h
    · rename_i hnone
      split at h
      · rename_i habove
        obtain rfl := Except.ok.inj h
        exact ⟨_, _, rfl, rfl, hroot (by rw [hnone]; nofun), .inr ⟨hnone, habove⟩⟩
      · cases h
      · cases h

/-- A directory is made inside another one, where nothing stands. -/
theorem eq_set_of_makeDirectory {p : Path} (h : t.makeDirectory cwd p = .ok t') :
    ∃ place, t.locate cwd false (withoutLastSlashes p) = .ok place ∧
      t' = t.set place .directory ∧ t.entry? place = none ∧
      t.entry? place.dropLast = some .directory := by
  unfold FileTree.makeDirectory at h
  cases hlocate : t.locate cwd false (withoutLastSlashes p) with
  | error _ =>
    rw [hlocate] at h
    cases h
  | ok place =>
    rw [hlocate] at h
    simp only [bind, Except.bind] at h
    split at h
    · cases h
    · rename_i hnone habove
      obtain rfl := Except.ok.inj h
      exact ⟨_, rfl, rfl, hnone, habove⟩
    · cases h
    · cases h

/-- A directory that could not be made leaves the tree as it is, if there is one already. -/
theorem eq_of_directory {p : Path} {e : FileError}
    (h : (if t.isDirectory cwd p then .ok t else .error e) = Except.ok t') : t' = t := by
  split at h
  · exact (Except.ok.inj h).symm
  · cases h

/-- A directory is made. -/
def Makes (cwd : Place) (t t' : FileTree) : Prop := ∃ p, t.makeDirectory cwd p = .ok t'

/-- Directories are made one by one, from the one that is missing highest up. -/
theorem reflTransGen_makeDirectoriesWithin {fuel : Nat} {p : Path}
    (h : makeDirectoriesWithin cwd fuel t p = .ok t') : Relation.ReflTransGen (Makes cwd) t t' := by
  induction fuel generalizing t t' p with
  | zero => cases h
  | succ fuel ih =>
    unfold makeDirectoriesWithin at h
    split at h
    · obtain rfl := Except.ok.inj h
      exact .refl
    · split at h
      · rename_i hmade
        obtain rfl := Except.ok.inj h
        exact .single ⟨p, hmade⟩
      · split at h
        · cases h
        · rename_i above _
          cases habove : makeDirectoriesWithin cwd fuel t above with
          | error _ =>
            rw [habove] at h
            cases h
          | ok between =>
            rw [habove] at h
            simp only [bind, Except.bind] at h
            split at h
            · rename_i hmade
              obtain rfl := Except.ok.inj h
              exact (ih habove).tail ⟨p, hmade⟩
            · rw [eq_of_directory h]
              exact ih habove
      · rw [eq_of_directory h]

theorem reflTransGen_makeDirectories {p : Path} (h : t.makeDirectories cwd p = .ok t') :
    Relation.ReflTransGen (Makes cwd) t t' :=
  reflTransGen_makeDirectoriesWithin h

/-- What stands somewhere stays there when directories are made. -/
theorem entry?_makeDirectories {p : Path} (h : t.makeDirectories cwd p = .ok t') {q : Place}
    (hq : t.entry? q = some e) : t'.entry? q = some e := by
  have hchain := reflTransGen_makeDirectories h
  clear h
  induction hchain with
  | refl => exact hq
  | tail _ hmade ih =>
    obtain ⟨_, hmade⟩ := hmade
    obtain ⟨place, _, rfl, hnone, _⟩ := eq_set_of_makeDirectory hmade
    rw [entry?_set_of_ne, ih]
    rintro rfl
    rw [ih] at hnone
    cases hnone

/-- To write a file changes nothing but the entry to which its path leads. -/
theorem entry?_write {p : Path} {bytes : List UInt8} (h : t.write cwd p bytes = .ok t') {q : Place}
    (hq : t.locate cwd true p ≠ .ok q) : t'.entry? q = t.entry? q := by
  obtain ⟨place, mode, hlocate, rfl, _⟩ := eq_set_of_write h
  refine entry?_set_of_ne (fun hsame => hq ?_) _
  rw [hsame, hlocate]

namespace IsTree

/-- An entry may be put into a directory, unless another directory goes for it. -/
theorem set (tree : t.IsTree) (hplace : place ≠ []) (hnames : ∀ n ∈ place, IsName n)
    (habove : t.entry? place.dropLast = some .directory)
    (hgoes : e = .directory ∨ t.entry? place ≠ some .directory) : (t.set place e).IsTree := by
  -- The new entry stands behind the old ones but for those at its place.
  have hcases : ∀ entry ∈ (t.set place e).entries, entry ∈ t.entries ∨ entry = (place, e) := by
    intro entry hentry
    unfold FileTree.set at hentry
    rcases List.mem_append.1 hentry with hentry | hentry
    · exact .inl (List.mem_filter.1 hentry).1
    · exact .inr (List.mem_singleton.1 hentry)
  constructor
  · unfold FileTree.set
    rw [List.map_append, List.nodup_append]
    refine ⟨tree.distinct.sublist (List.filter_sublist.map _), List.pairwise_singleton _ _, ?_⟩
    intro p hp p' hp' hsame
    obtain ⟨entry, hentry, rfl⟩ := List.mem_map.1 hp
    obtain rfl := List.mem_singleton.1 hp'
    have := (List.mem_filter.1 hentry).2
    simp [hsame] at this
  · intro entry hentry
    rcases hcases entry hentry with hold | rfl
    · exact tree.named entry hold
    · exact hnames
  · intro entry hentry
    rcases hcases entry hentry with hold | rfl
    · exact ⟨(tree.held entry hold).1, entry?_set_directory hplace hgoes (tree.held entry hold).2⟩
    · exact ⟨hplace, entry?_set_directory hplace hgoes habove⟩

/-- Above a place where something stands is a directory. -/
theorem directory_dropLast (tree : t.IsTree) (hplace : place ≠ [])
    (he : t.entry? place = some e) : t.entry? place.dropLast = some .directory := by
  rw [← List.dropLast_concat_getLast hplace] at he
  exact tree.directory_above (List.cons_ne_nil _ _) he

/-- The tree stays one, and the working directory stays where it is. -/
def Keeps (t t' : FileTree) (cwd : Place) : Prop :=
  t.IsTree → t.entry? cwd = some .directory → t'.IsTree ∧ t'.entry? cwd = some .directory

/-- **A written file keeps a tree.** -/
theorem write {p : Path} {bytes : List UInt8} (h : t.write cwd p bytes = .ok t') :
    Keeps t t' cwd := by
  intro tree hcwd
  obtain ⟨place, mode, hlocate, rfl, hplace, hplaced⟩ := eq_set_of_write h
  have hnames := isName_of_locate (fun n hn => tree.isName hcwd hn) hlocate
  have hput : t.entry? place ≠ some .directory ∧ t.entry? place.dropLast = some .directory := by
    rcases hplaced with ⟨old, hold⟩ | ⟨hnone, habove⟩
    · exact ⟨by rw [hold]; nofun, tree.directory_dropLast hplace hold⟩
    · exact ⟨by rw [hnone]; nofun, habove⟩
  exact ⟨tree.set hplace hnames hput.2 (.inr hput.1),
    entry?_set_directory hplace (.inr hput.1) hcwd⟩

/-- **A new directory keeps a tree.** -/
theorem makeDirectory {p : Path} (h : t.makeDirectory cwd p = .ok t') : Keeps t t' cwd := by
  intro tree hcwd
  obtain ⟨place, hlocate, rfl, hnone, habove⟩ := eq_set_of_makeDirectory h
  have hnames := isName_of_locate (fun n hn => tree.isName hcwd hn) hlocate
  have hplace : place ≠ [] := by
    rintro rfl
    cases hnone
  exact ⟨tree.set hplace hnames habove (.inl rfl), entry?_set_directory hplace (.inl rfl) hcwd⟩

/-- **New directories, with those missing above them, keep a tree.** -/
theorem makeDirectories {p : Path} (h : t.makeDirectories cwd p = .ok t') : Keeps t t' cwd := by
  intro tree hcwd
  have hchain := reflTransGen_makeDirectories h
  clear h
  induction hchain with
  | refl => exact ⟨tree, hcwd⟩
  | tail _ hmade ih =>
    obtain ⟨p, hmade⟩ := hmade
    exact makeDirectory hmade ih.1 ih.2

end IsTree

end LintScan.FileTree
