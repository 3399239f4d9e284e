import LintScan.Files.Tree
import LintScan.Proofs.Files.Parent

/-!
# Following paths

A path is followed step by step.  Where the first steps lead to an entry, the others are followed
from there, through the links that are left.

* `FileTree.follow_through`, `FileTree.follow_directories` — steps through directories lead on from
  name to name.
* `FileTree.exists_follow_append`, `FileTree.follow_skip_dot` — a way is followed part by part, and
  a dot before another step makes no difference.
* `IsName`, `FileTree.stepsOf_join` — the names of entries, and the steps of a path with another
  one behind it.
* `FileTree.exists_locate_join` — a path inside a directory is followed from there.
* `FileTree.find_join` — what is found at a name inside a directory.
-/

namespace LintScan

/-- A name that an entry may have. -/
def IsName (s : String) : Prop := s ≠ "" ∧ s ≠ "." ∧ s ≠ ".." ∧ '/' ∉ s.toList

instance (s : String) : Decidable (IsName s) := inferInstanceAs (Decidable (_ ∧ _))

/-- The name that a part stands for, if any. -/
def Part.name? : Part → Option String
  | name s => some s
  | _ => none

/-- The names among the parts of a path, without the root. -/
def Path.namesOn (p : Path) : List String := p.parts.filterMap Part.name?

namespace FileTree

variable {t : FileTree} {jump : Place → List String → Except FileError Place}

/-! ## One step -/

section Step

variable {followLast : Bool} {place : Place} (here : t.entry? place = some .directory)
  (rest : List String)

include here

theorem followSteps_dot :
    t.followSteps followLast jump place ("." :: rest) =
      t.followSteps followLast jump place rest := by
  rw [followSteps, here]
  rfl

theorem followSteps_up :
    t.followSteps followLast jump place (".." :: rest) =
      t.followSteps followLast jump place.dropLast rest := by
  rw [followSteps, here]
  rfl

/-- A name that is not that of a link leads on to its entry. -/
theorem followSteps_entry {s : String} (hdot : s ≠ ".") (hdots : s ≠ "..") {e : Entry}
    (he : t.entry? (place ++ [s]) = some e) (hlink : ∀ target, e ≠ .link target) :
    t.followSteps followLast jump place (s :: rest) =
      t.followSteps followLast jump (place ++ [s]) rest := by
  rw [followSteps, here]
  simp only [beq_iff_eq, hdot, hdots, if_false, he]

/-- A link that is followed is left to the jump. -/
theorem followSteps_link {s : String} (hdot : s ≠ ".") (hdots : s ≠ "..") {target : Path}
    (he : t.entry? (place ++ [s]) = some (.link target)) :
    t.followSteps true jump place (s :: rest) =
      jump (if target.isAbsolute then [] else place) (stepsOf target ++ rest) := by
  rw [followSteps, here]
  simp [hdot, hdots, he]

/-- Nothing is found behind a name that stands for nothing. -/
theorem followSteps_none {rest : List String} {s : String} (hdot : s ≠ ".") (hdots : s ≠ "..")
    (he : t.entry? (place ++ [s]) = none) (hrest : rest ≠ []) :
    t.followSteps followLast jump place (s :: rest) = .error .notFound := by
  rw [followSteps, here]
  simp [hdot, hdots, he, hrest]

end Step

/-! ## Step by step -/

section Through

variable {followLast : Bool}

/-- Steps through directories lead on from name to name; dots among them make no difference. -/
theorem followSteps_through {steps names : List String} {place : Place}
    (hnames : steps.filter (· ≠ ".") = names) (noUp : ".." ∉ names)
    (hdirectories : ∀ above, above <+: names → t.entry? (place ++ above) = some .directory)
    (rest : List String) :
    t.followSteps followLast jump place (steps ++ rest) =
      t.followSteps followLast jump (place ++ names) rest := by
  induction steps generalizing place names with
  | nil =>
    obtain rfl : [] = names := hnames
    rw [List.nil_append, List.append_nil]
  | cons s steps ih =>
    have hhere : t.entry? place = some .directory := by
      simpa using hdirectories [] List.nil_prefix
    by_cases hdot : s = "."
    · subst hdot
      rw [List.filter_cons_of_neg (by simp)] at hnames
      rw [List.cons_append, followSteps_dot hhere, ih hnames noUp hdirectories]
    · rw [List.filter_cons_of_pos (by simpa using hdot)] at hnames
      subst hnames
      rw [List.mem_cons, not_or] at noUp
      have hnext : t.entry? (place ++ [s]) = some .directory :=
        hdirectories [s] (List.cons_prefix_cons.2 ⟨rfl, List.nil_prefix⟩)
      rw [List.cons_append, followSteps_entry hhere _ hdot (Ne.symm noUp.1) hnext nofun,
        ih rfl noUp.2, List.append_assoc]
      · rfl
      · intro above habove
        rw [List.append_assoc]
        exact hdirectories (s :: above) (List.cons_prefix_cons.2 ⟨rfl, habove⟩)

theorem follow_through {links : Nat} {steps names : List String} {place : Place}
    (hnames : steps.filter (· ≠ ".") = names) (noUp : ".." ∉ names)
    (hdirectories : ∀ above, above <+: names → t.entry? (place ++ above) = some .directory)
    (rest : List String) :
    t.follow followLast links place (steps ++ rest) =
      t.follow followLast links (place ++ names) rest := by
  cases links <;> exact followSteps_through hnames noUp hdirectories rest

theorem follow_nil (t : FileTree) (followLast : Bool) (links : Nat) (place : Place) :
    t.follow followLast links place [] = .ok place := by
  cases links <;> rfl

/-- A way through directories alone leads to the last of them. -/
theorem follow_directories {links : Nat} {steps names : List String} {place : Place}
    (hnames : steps.filter (· ≠ ".") = names) (noUp : ".." ∉ names)
    (hdirectories : ∀ above, above <+: names → t.entry? (place ++ above) = some .directory) :
    t.follow followLast links place steps = .ok (place ++ names) := by
  rw [← follow_nil t followLast links, ← follow_through hnames noUp hdirectories, List.append_nil]

end Through

/-! ## Part by part -/

/-- Steps lead to a place, from which others are followed: either on this side of the first link, or
on the other. -/
def LeadsOn (t : FileTree) (jump : Place → List String → Except FileError Place) (from_ : Place)
    (steps : List String) (place : Place) : Prop :=
  (∀ rest, t.followSteps true jump from_ (steps ++ rest) = t.followSteps true jump place rest) ∨
    ∃ there onward, jump there onward = .ok place ∧
      ∀ rest, t.followSteps true jump from_ (steps ++ rest) = jump there (onward ++ rest)

theorem LeadsOn.step {s : String} {steps : List String} {from_ next place : Place}
    (h : LeadsOn t jump next steps place)
    (hstep : ∀ rest,
      t.followSteps true jump from_ (s :: rest) = t.followSteps true jump next rest) :
    LeadsOn t jump from_ (s :: steps) place := by
  rcases h with hsame | ⟨there, onward, hjump, hsame⟩
  · exact .inl fun rest => (hstep _).trans (hsame rest)
  · exact .inr ⟨there, onward, hjump, fun rest => (hstep _).trans (hsame rest)⟩

/-- Behind an entry, the other steps are followed from there. -/
theorem leadsOn_of_followSteps {from_ place : Place} {steps : List String} {e : Entry}
    (h : t.followSteps true jump from_ steps = .ok place) (he : t.entry? place = some e) :
    LeadsOn t jump from_ steps place := by
  fun_induction followSteps t true jump from_ steps with
  | case1 =>
    obtain rfl := Except.ok.inj h
    exact .inl fun rest => rfl
  | case2 _ s _ here hdot ih =>
    obtain rfl : s = "." := eq_of_beq hdot
    exact (ih h).step (followSteps_dot here)
  | case3 _ s _ here _ hdots ih =>
    obtain rfl : s = ".." := eq_of_beq hdots
    exact (ih h).step (followSteps_up here)
  | case4 _ _ rest _ _ _ _ _ _ hlast => simp at hlast
  | case5 at_ s steps here hdot hdots _ target hlink =>
    rw [beq_iff_eq] at hdot hdots
    refine .inr ⟨_, _, h, fun rest => ?_⟩
    rw [List.cons_append, followSteps_link here _ hdot hdots hlink, List.append_assoc]
  | case6 _ _ _ here hdot hdots _ _ hlink hnext ih =>
    rw [beq_iff_eq] at hdot hdots
    exact (ih h).step fun rest => followSteps_entry here rest hdot hdots hnext hlink
  | case7 _ _ _ _ _ _ _ hnone =>
    obtain rfl := Except.ok.inj h
    rw [hnone] at he
    cases he
  | _ => cases h

/-- **A way is followed part by part:** behind an entry, the other steps are followed from there,
through the links that are left. -/
theorem exists_follow_append {links : Nat} {from_ place : Place} {steps : List String} {e : Entry}
    (h : t.follow true links from_ steps = .ok place) (he : t.entry? place = some e) :
    ∃ left ≤ links, ∀ rest,
      t.follow true links from_ (steps ++ rest) = t.follow true left place rest := by
  -- Each jump uses up a link; before the first one nothing is used up.
  induction links generalizing from_ steps with
  | zero =>
    rcases leadsOn_of_followSteps h he with hsame | ⟨_, _, hjump, _⟩
    · exact ⟨0, Nat.le_refl 0, hsame⟩
    · cases hjump
  | succ links ih =>
    rcases leadsOn_of_followSteps h he with hsame | ⟨there, onward, hjump, hsame⟩
    · exact ⟨links + 1, Nat.le_refl _, hsame⟩
    · obtain ⟨left, hle, hleft⟩ := ih hjump
      exact ⟨left, Nat.le_succ_of_le hle, fun rest => (hsame rest).trans (hleft rest)⟩

/-- Where no directory is, all steps fail alike. -/
theorem followSteps_congr {from_ : Place} {s s' : String} {rest rest' : List String}
    (h : t.entry? from_ = some .directory →
      t.followSteps true jump from_ (s :: rest) = t.followSteps true jump from_ (s' :: rest')) :
    t.followSteps true jump from_ (s :: rest) = t.followSteps true jump from_ (s' :: rest') := by
  cases here : t.entry? from_ with
  | none => simp only [followSteps, here]
  | some e =>
    cases e with
    | directory => exact h here
    | file _ _ => simp only [followSteps, here]
    | link _ => simp only [followSteps, here]

/-- A dot before another step makes no difference. -/
theorem followSteps_skip_dot {from_ : Place} {steps rest : List String} {s : String}
    (hjump : ∀ there onward,
      jump there (onward ++ "." :: s :: rest) = jump there (onward ++ s :: rest)) :
    t.followSteps true jump from_ (steps ++ "." :: s :: rest) =
      t.followSteps true jump from_ (steps ++ s :: rest) := by
  induction steps generalizing from_ with
  | nil => exact followSteps_congr fun here => followSteps_dot here _
  | cons c steps ih =>
    rw [List.cons_append, List.cons_append]
    refine followSteps_congr fun here => ?_
    by_cases hdot : c = "."
    · rw [hdot, followSteps_dot here, followSteps_dot here, ih]
    by_cases hdots : c = ".."
    · rw [hdots, followSteps_up here, followSteps_up here, ih]
    cases hnext : t.entry? (from_ ++ [c]) with
    | none =>
      rw [followSteps_none here hdot hdots hnext (by simp),
        followSteps_none here hdot hdots hnext (by simp)]
    | some e =>
      cases e with
      | link target =>
        rw [followSteps_link here _ hdot hdots hnext, followSteps_link here _ hdot hdots hnext,
          ← List.append_assoc, hjump, List.append_assoc]
      | directory =>
        rw [followSteps_entry here _ hdot hdots hnext nofun,
          followSteps_entry here _ hdot hdots hnext nofun, ih]
      | file _ _ =>
        rw [followSteps_entry here _ hdot hdots hnext nofun,
          followSteps_entry here _ hdot hdots hnext nofun, ih]

theorem follow_skip_dot {links : Nat} {from_ : Place} {steps rest : List String} {s : String} :
    t.follow true links from_ (steps ++ "." :: s :: rest) =
      t.follow true links from_ (steps ++ s :: rest) := by
  induction links generalizing from_ steps with
  | zero => exact followSteps_skip_dot fun _ _ => rfl
  | succ links ih => exact followSteps_skip_dot fun _ _ => ih

theorem locate_eq_ok_iff {cwd place : Place} {p : Path} : t.locate cwd true p = .ok place ↔
    p.text.isEmpty = false ∧
      t.follow true linkLimit (if p.isAbsolute then [] else cwd) (stepsOf p) = .ok place := by
  unfold locate
  cases p.text.isEmpty <;> simp

theorem find_eq_ok_iff {cwd place : Place} {p : Path} {e : Entry} :
    t.find cwd p = .ok (place, e) ↔
      t.locate cwd true p = .ok place ∧ t.entry? place = some e := by
  unfold find
  cases t.locate cwd true p with
  | error _ => simp [bind, Except.bind]
  | ok found =>
    cases hfound : t.entry? found with
    | none =>
      simp [bind, Except.bind, hfound]
      rintro rfl
      rw [hfound]
      nofun
    | some e' =>
      simp [bind, Except.bind, hfound]
      rintro rfl
      simp [hfound]

/-- What is read is the contents of a file that is found. -/
theorem exists_find_of_read {cwd : Place} {p : Path} {bytes : List UInt8}
    (h : t.read cwd p = .ok bytes) :
    ∃ place mode, t.find cwd p = .ok (place, .file bytes mode) := by
  unfold read at h
  cases hfind : t.find cwd p with
  | error _ =>
    rw [hfind] at h
    cases h
  | ok found =>
    obtain ⟨place, e⟩ := found
    rw [hfind] at h
    cases e with
    | file bytes' mode =>
      cases h
      exact ⟨place, mode, rfl⟩
    | directory => cases h
    | link _ => cases h

theorem read_of_find {cwd place : Place} {p : Path} {bytes : List UInt8} {mode : Nat}
    (h : t.find cwd p = .ok (place, .file bytes mode)) : t.read cwd p = .ok bytes := by
  unfold read
  rw [h]
  rfl

/-! ## The steps of a path -/

/-- The steps of a text: its pieces that are not empty. -/
def textSteps (cs : List Char) : List String :=
  ((Text.splitAtEach '/' cs).filter (!·.isEmpty)).map String.ofList

theorem textSteps_append (a b : List Char) :
    textSteps (a ++ '/' :: b) = textSteps a ++ textSteps b := by
  simp [textSteps, Text.splitAtEach_append]

theorem stepsOf_eq (p : Path) :
    stepsOf p =
      textSteps p.text.toList ++ if p.text.toList.getLast? == some '/' then ["."] else [] := by
  unfold stepsOf textSteps
  split <;> simp

theorem name?_lead (cs : List Char) : (Path.lead cs).filterMap Part.name? = [] := by
  unfold Path.lead
  split
  · rfl
  · split <;> rfl

/-- Where no piece is a step up, the pieces but for dots are names. -/
theorem filter_pieces {pieces : List (List Char)} (noUp : .up ∉ pieces.filterMap Path.partOf?) :
    ((pieces.filter (!·.isEmpty)).map String.ofList).filter (· ≠ ".") =
      (pieces.filterMap Path.partOf?).filterMap Part.name? := by
  induction pieces with
  | nil => rfl
  | cons piece pieces ih =>
    by_cases hnone : piece = [] ∨ piece = ['.']
    · have hpart : Path.partOf? piece = none := by simp [Path.partOf?, hnone]
      rw [List.filterMap_cons_none hpart] at noUp ⊢
      rw [← ih noUp]
      rcases hnone with rfl | rfl
      · rfl
      · simp
    · have hup : piece ≠ ['.', '.'] := by
        rintro rfl
        exact noUp List.mem_cons_self
      have hpart : Path.partOf? piece = some (.name (String.ofList piece)) := by
        simp [Path.partOf?, hnone, hup]
      rw [List.filterMap_cons_some hpart, List.mem_cons, not_or] at noUp
      rw [List.filterMap_cons_some hpart, List.filterMap_cons_some (by rfl), ← ih noUp.2]
      obtain ⟨hempty, hdot⟩ := not_or.1 hnone
      have hname : String.ofList piece ≠ "." := fun h => hdot (by
        rw [← String.toList_ofList (l := piece), h]
        rfl)
      simp [hempty, hname]

/-- Without a step up, the steps of a path but for dots are its names. -/
theorem filter_textSteps {p : Path} (noUp : .up ∉ p.parts) :
    (textSteps p.text.toList).filter (· ≠ ".") = p.namesOn := by
  rw [Path.parts_eq, List.mem_append, not_or] at noUp
  rw [Path.namesOn, Path.parts_eq, List.filterMap_append, name?_lead, List.nil_append]
  exact filter_pieces noUp.2

theorem filter_stepsOf {p : Path} (noUp : .up ∉ p.parts) :
    (stepsOf p).filter (· ≠ ".") = p.namesOn := by
  rw [stepsOf_eq, List.filter_append, filter_textSteps noUp]
  split <;> simp

theorem dots_notMem_namesOn (p : Path) : ".." ∉ p.namesOn := by
  intro hmem
  rw [Path.namesOn, Path.parts_eq, List.filterMap_append, name?_lead, List.nil_append] at hmem
  obtain ⟨part, hpart, hname⟩ := List.mem_filterMap.1 hmem
  obtain ⟨piece, _, hpiece⟩ := List.mem_filterMap.1 hpart
  cases part with
  | name s =>
    obtain rfl := Option.some.inj hname
    unfold Path.partOf? at hpiece
    split at hpiece
    · cases hpiece
    · split at hpiece
      · cases hpiece
      · rename_i hdots
        refine hdots ?_
        rw [← String.toList_ofList (l := piece), Part.name.inj (Option.some.inj hpiece)]
        rfl
  | _ => cases hname

section Names

variable {p : Path} {name : String}

theorem textSteps_name (h : IsName name) : textSteps name.toList = [name] := by
  obtain ⟨hempty, _, _, hslash⟩ := h
  have hchars : name.toList ≠ [] := fun h => hempty (String.toList_eq_nil_iff.1 h)
  simp [textSteps, Text.splitAtEach_of_not_mem hslash, hchars]

theorem isNamed_name (h : IsName name) : (Path.mk name).IsNamed := by
  obtain ⟨hempty, hdot, _, hslash⟩ := h
  refine Path.isNamed_of_first (Text.splitAtEach_of_not_mem hslash) ?_ fun h => hdot ?_
  · exact fun h => hempty (String.toList_eq_nil_iff.1 h)
  · exact String.toList_inj.1 h

theorem parts_name (h : IsName name) : (Path.mk name).parts = [.name name] := by
  rw [(isNamed_name h).parts_eq]
  obtain ⟨hempty, hdot, hdots, hslash⟩ := h
  have hpart : Path.partOf? name.toList = some (.name name) := by
    have hdot' : name.toList ≠ ['.'] := fun h => hdot (String.toList_inj.1 h)
    have hdots' : name.toList ≠ ['.', '.'] := fun h => hdots (String.toList_inj.1 h)
    simp [Path.partOf?, String.toList_eq_nil_iff, hempty, hdot', hdots']
  simp [Path.steps, Text.splitAtEach_of_not_mem hslash, hpart]

theorem stepsOf_name (h : IsName name) : stepsOf ⟨name⟩ = [name] := by
  obtain ⟨_, _, _, hslash⟩ := id h
  have hlast : ¬ (name.toList.getLast? == some '/') = true := by
    rw [beq_iff_eq]
    exact fun hlast => hslash (List.mem_of_getLast? hlast)
  rw [stepsOf_eq, if_neg hlast, List.append_nil, textSteps_name h]

end Names

section Join

variable {q : Path} (p : Path) (hq : q.IsNamed)

include hq

/-- A path behind another one does not change where that one starts. -/
theorem isAbsolute_join : (p.join q).isAbsolute = p.isAbsolute := by
  have hnone : Part.root ∉ q.parts := by
    rw [Path.root_mem_parts_iff, hq.isAbsolute_eq]
    decide
  rw [Bool.eq_iff_iff, ← Path.root_mem_parts_iff, ← Path.root_mem_parts_iff, Path.parts_join hq,
    List.mem_append, or_iff_left hnone]

/-- The text of a path with another one behind it. -/
theorem toList_join :
    (p.text = "" ∧ (p.join q).text = q.text) ∨
      ∃ front, textSteps front = textSteps p.text.toList ∧
        (p.join q).text.toList = front ++ '/' :: q.text.toList := by
  unfold Path.join
  by_cases hempty : p.text = ""
  · exact .inl ⟨hempty, by simp [hempty]⟩
  · right
    simp only [hq.isAbsolute_eq, Bool.false_or, String.isEmpty_iff, hempty, if_false]
    split
    · rename_i hlast
      obtain ⟨front, hfront⟩ := List.getLast?_eq_some_iff.1 (eq_of_beq hlast)
      refine ⟨front, ?_, by simp [hfront]⟩
      rw [hfront, textSteps_append]
      simp [textSteps, Text.splitAtEach]
    · exact ⟨p.text.toList, rfl, by simp⟩

variable (hne : q.text ≠ "")

include hne

omit p in
theorem stepsOf_ne_nil : stepsOf q ≠ [] := by
  obtain ⟨c, cs, hchars⟩ :=
    List.exists_cons_of_ne_nil fun h => hne (String.toList_eq_nil_iff.1 h)
  have hslash : c ≠ '/' := by
    rintro rfl
    exact hq.1 (by rw [hchars]; rfl)
  obtain ⟨piece, pieces, hpieces⟩ := List.exists_cons_of_ne_nil (Text.splitAtEach_ne_nil '/' cs)
  rw [stepsOf_eq, textSteps, hchars, Text.splitAtEach, if_neg hslash, hpieces]
  simp

theorem stepsOf_join : stepsOf (p.join q) = textSteps p.text.toList ++ stepsOf q := by
  rcases toList_join p hq with ⟨hempty, hjoin⟩ | ⟨front, hfront, hjoin⟩
  · rw [show p.join q = q from congrArg Path.mk hjoin, hempty]
    rfl
  · have hchars : q.text.toList ≠ [] := fun h => hne (String.toList_eq_nil_iff.1 h)
    have hlast : (p.join q).text.toList.getLast? = q.text.toList.getLast? := by
      rw [hjoin, List.append_cons, List.getLast?_append_of_ne_nil _ hchars]
    rw [stepsOf_eq, hlast, hjoin, textSteps_append, hfront, stepsOf_eq q, List.append_assoc]

theorem text_join_ne : (p.join q).text.isEmpty = false := by
  rw [← Bool.not_eq_true, String.isEmpty_iff]
  rcases toList_join p hq with ⟨_, hjoin⟩ | ⟨front, _, hjoin⟩
  · rwa [hjoin]
  · intro hempty
    rw [hempty] at hjoin
    simp at hjoin

/-- The way to a path inside the directory that another one leads to. -/
theorem locate_join (t : FileTree) (cwd : Place) :
    t.locate cwd true (p.join q) =
      t.follow true linkLimit (if p.isAbsolute then [] else cwd)
        (textSteps p.text.toList ++ stepsOf q) := by
  unfold locate
  rw [text_join_ne p hq hne, isAbsolute_join p hq, stepsOf_join p hq hne]
  rfl

/-- A path inside a directory is followed from there, through the links that are left. -/
theorem exists_locate_join {t : FileTree} {cwd place : Place}
    (found : t.find cwd p = .ok (place, .directory)) :
    ∃ left, t.locate cwd true (p.join q) = t.follow true left place (stepsOf q) := by
  obtain ⟨hlocate, hplace⟩ := find_eq_ok_iff.1 found
  obtain ⟨_, hfollow⟩ := locate_eq_ok_iff.1 hlocate
  obtain ⟨left, _, hleft⟩ := exists_follow_append hfollow hplace
  refine ⟨left, ?_⟩
  rw [locate_join p hq hne, ← hleft, stepsOf_eq p]
  by_cases hlast : (p.text.toList.getLast? == some '/') = true
  · obtain ⟨s, rest, hsteps⟩ := List.exists_cons_of_ne_nil (stepsOf_ne_nil hq hne)
    rw [if_pos hlast, List.append_assoc, hsteps]
    exact follow_skip_dot.symm
  · rw [if_neg hlast, List.append_nil]

end Join

section Inside

variable {p : Path} {name : String}

/-- The way to a name inside the directory from which it is followed. -/
theorem locate_name (t : FileTree) (cwd : Place) (h : IsName name) :
    t.locate cwd true ⟨name⟩ = t.follow true linkLimit cwd [name] := by
  unfold locate
  rw [(isNamed_name h).isAbsolute_eq, stepsOf_name h]
  exact if_neg (by simpa using h.1)

/-- What is found at a name inside the directory that a path leads to. -/
theorem find_join {cwd place : Place} (h : IsName name)
    (found : t.find cwd p = .ok (place, .directory)) {e : Entry}
    (he : t.entry? (place ++ [name]) = some e) (hlink : ∀ target, e ≠ .link target) :
    t.find cwd (p.join ⟨name⟩) = .ok (place ++ [name], e) := by
  obtain ⟨left, hleft⟩ := exists_locate_join p (isNamed_name h) h.1 found
  refine find_eq_ok_iff.2 ⟨?_, he⟩
  rw [hleft, stepsOf_name h]
  obtain ⟨_, hdot, hdots, _⟩ := h
  have hplace := (find_eq_ok_iff.1 found).2
  cases left <;> exact followSteps_entry hplace [] hdot hdots he hlink

end Inside

end FileTree

end LintScan
