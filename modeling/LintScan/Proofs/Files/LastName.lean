import LintScan.Package.Walk
import LintScan.Proofs.Files.Absolute
import LintScan.Proofs.Files.Changes
import LintScan.Proofs.Scan.FindPackages

/-!
# The last name of a path

A file has a name: the way to it cannot end in a slash, a dot or a step up, since each of these
leads to a directory.

* `FileTree.directory_of_dots` — a way that ends in a dot or a step up leads to a directory.
* `Path.exists_lastPiece` — the last piece of a path is its last step and stands for its last part.
* `Host.exists_fileName` — the paths of a walk have a last name and no slash behind it.
* `Host.exists_text_absolute` — the path from the root ends in this name, behind a slash.
-/

namespace LintScan

/-! ## Ways to directories -/

namespace FileTree

variable {t : FileTree} {place : Place}

theorem directory_of_followSteps {followLast : Bool}
    {jump : Place → List String → Except FileError Place} {last : String} (tree : t.IsTree)
    (hlast : last = "." ∨ last = "..")
    (hjump : ∀ there onward, jump there (onward ++ [last]) = .ok place →
      t.entry? place = some .directory)
    {from_ : Place} {steps : List String}
    (h : t.followSteps followLast jump from_ (steps ++ [last]) = .ok place) :
    t.entry? place = some .directory := by
  induction steps generalizing from_ with
  | nil =>
    rw [List.nil_append, followSteps] at h
    split at h
    · rename_i here
      rcases hlast with rfl | rfl
      · obtain rfl := Except.ok.inj h
        exact here
      · obtain rfl := Except.ok.inj h
        by_cases hroot : from_ = []
        · rw [hroot]
          rfl
        · exact tree.directory_dropLast hroot here
    · cases h
    · cases h
  | cons s steps ih =>
    rw [List.cons_append, followSteps] at h
    split at h
    · split at h
      · exact ih h
      · split at h
        · exact ih h
        · have hmore : (steps ++ [last]).isEmpty = false := by simp
          simp only [hmore, Bool.false_and] at h
          split at h
          · rw [← List.append_assoc] at h
            exact hjump _ _ h
          · exact ih h
          · cases h
    · cases h
    · cases h

/-- A way that ends in a dot or a step up leads to a directory. -/
theorem directory_of_dots {followLast : Bool} {links : Nat} {last : String} (tree : t.IsTree)
    (hlast : last = "." ∨ last = "..") {from_ : Place} {steps : List String}
    (h : t.follow followLast links from_ (steps ++ [last]) = .ok place) :
    t.entry? place = some .directory := by
  induction links generalizing from_ steps with
  | zero => exact directory_of_followSteps tree hlast (fun _ _ hjump => by cases hjump) h
  | succ links ih => exact directory_of_followSteps tree hlast (fun _ _ => ih) h

end FileTree

/-! ## The last piece -/

namespace Path

open FileTree

/-- The last piece of a path is its last step, and stands for its last part. -/
theorem exists_lastPiece {cs : List Char} (hne : cs ≠ []) (hlast : cs.getLast? ≠ some '/') :
    ∃ piece pieces parts, piece ≠ [] ∧ textSteps cs = pieces ++ [String.ofList piece] ∧
      steps cs = parts ++ (partOf? piece).toList := by
  have hpiece : ∀ piece : List Char, piece ≠ [] → '/' ∉ piece →
      textSteps piece = [String.ofList piece] ∧ steps piece = (partOf? piece).toList := by
    intro piece hpiece hslash
    rw [textSteps, steps, Text.splitAtEach_of_not_mem hslash]
    refine ⟨by simp [hpiece], ?_⟩
    cases hpart : partOf? piece <;> simp [hpart]
  by_cases hslash : '/' ∈ cs
  · obtain ⟨back, front, hback, hfree⟩ := List.eq_append_cons_of_mem (List.mem_reverse.2 hslash)
    have hcs : cs = front.reverse ++ '/' :: back.reverse := by
      rw [← List.reverse_reverse cs, hback]
      simp
    have hnil : back.reverse ≠ [] := by
      intro hnil
      rw [hcs, hnil] at hlast
      simp at hlast
    obtain ⟨hsteps, hparts⟩ := hpiece _ hnil (by simpa using hfree)
    refine ⟨back.reverse, textSteps front.reverse, steps front.reverse, hnil, ?_, ?_⟩
    · rw [hcs, textSteps_append, hsteps]
    · rw [hcs, steps_append, hparts]
  · obtain ⟨hsteps, hparts⟩ := hpiece cs hne hslash
    exact ⟨cs, [], [], hne, hsteps, hparts⟩

theorem fileName?_of_parts {p : Path} {parts : List Part} {name : String}
    (h : p.parts = parts ++ [.name name]) : p.fileName? = some name := by
  rw [fileName?, h, List.getLast?_concat]

/-- The last name of a path is its last step. -/
theorem exists_steps_of_fileName? {p : Path} {name : String} (h : p.fileName? = some name) :
    ∃ front, steps p.text.toList = front ++ [.name name] := by
  have hlast : p.parts.getLast? = some (.name name) := by
    unfold fileName? at h
    split at h
    · rename_i hlast
      rw [hlast, Option.some.inj h]
    · cases h
  rw [parts_eq, List.getLast?_append] at hlast
  cases hsteps : (steps p.text.toList).getLast? with
  | some part =>
    rw [hsteps] at hlast
    obtain rfl := Option.some.inj hlast
    exact List.getLast?_eq_some_iff.1 hsteps
  | none =>
    rw [hsteps] at hlast
    unfold lead at hlast
    split at hlast
    · cases hlast
    · split at hlast <;> cases hlast

theorem getLast?_join (p : Path) {name : String} (hname : IsName name) :
    (p.join ⟨name⟩).text.toList.getLast? ≠ some '/' := by
  have hends : ∃ front, (p.join ⟨name⟩).text.toList = front ++ name.toList := by
    rcases toList_join p (isNamed_name hname) with ⟨_, hjoin⟩ | ⟨front, _, hjoin⟩
    · exact ⟨[], by rw [hjoin, List.nil_append]⟩
    · exact ⟨front ++ ['/'], by rw [hjoin, List.append_assoc, List.singleton_append]⟩
  obtain ⟨hempty, _, _, hslash⟩ := hname
  obtain ⟨front, hfront⟩ := hends
  have hne : name.toList ≠ [] := fun hnil => hempty (String.toList_eq_nil_iff.1 hnil)
  rw [hfront, List.getLast?_append_of_ne_nil _ hne]
  exact fun hlast => hslash (List.mem_of_getLast? hlast)

end Path

namespace Host

open FileTree

variable {h : Host} {root p : Path}

/-- The path of a file has a last name, and no slash behind it. -/
theorem fileName?_of_file (tree : h.files.IsTree) {place : Place}
    (hlocate : h.files.locate h.workingDirectory false p = .ok place)
    (hfile : h.files.entry? place ≠ some .directory) :
    p.text.toList.getLast? ≠ some '/' ∧ ∃ name, p.fileName? = some name := by
  unfold locate at hlocate
  split at hlocate
  · cases hlocate
  · rename_i hempty
    have hne : p.text.toList ≠ [] := fun hnil => hempty (by simpa using hnil)
    have hdots : ∀ steps last, stepsOf p = steps ++ [last] → ¬ (last = "." ∨ last = "..") := by
      intro steps last hsteps hlast
      rw [hsteps] at hlocate
      exact hfile (directory_of_dots tree hlast hlocate)
    have hslash : p.text.toList.getLast? ≠ some '/' := by
      intro hslash
      refine hdots (textSteps p.text.toList) "." ?_ (.inl rfl)
      rw [stepsOf_eq, hslash]
      rfl
    obtain ⟨piece, pieces, parts, hpiece, hsteps, hparts⟩ := Path.exists_lastPiece hne hslash
    have hlast := hdots pieces (String.ofList piece) (by
      rw [stepsOf_eq, hsteps, if_neg (by simpa using hslash), List.append_nil])
    have hname : Path.partOf? piece = some (.name (String.ofList piece)) := by
      have hdot : piece ≠ ['.'] := fun heq => hlast (.inl (heq ▸ rfl))
      have hdots : piece ≠ ['.', '.'] := fun heq => hlast (.inr (heq ▸ rfl))
      simp [Path.partOf?, hpiece, hdot, hdots]
    have hall : p.parts = (Path.lead p.text.toList ++ parts) ++ [.name (String.ofList piece)] := by
      rw [Path.parts_eq, hparts, hname, ← List.append_assoc]
      rfl
    exact ⟨hslash, _, Path.fileName?_of_parts hall⟩

theorem fileName?_pathBelow (root : Path) {names : List String} {name : String}
    (hproper : ∀ n ∈ names ++ [name], IsName n) :
    (pathBelow root (names ++ [name])).text.toList.getLast? ≠ some '/' ∧
      (pathBelow root (names ++ [name])).fileName? = some name := by
  have hname := hproper name (List.mem_append_right names List.mem_cons_self)
  have hparts : (pathBelow root (names ++ [name])).parts =
      (root.parts ++ names.map .name) ++ [.name name] := by
    rw [parts_pathBelow hproper, List.map_append, ← List.append_assoc]
    rfl
  refine ⟨?_, Path.fileName?_of_parts hparts⟩
  rw [pathBelow_concat]
  exact Path.getLast?_join _ hname

/-- The paths of a walk have a last name, and no slash behind it. -/
theorem exists_fileName (tree : h.files.IsTree) (hp : p ∈ h.regularFiles root) :
    p.text.toList.getLast? ≠ some '/' ∧ ∃ name, p.fileName? = some name := by
  have hbelow : ∀ place, p ∈ regularFiles.inside h root place →
      p.text.toList.getLast? ≠ some '/' ∧ ∃ name, p.fileName? = some name := by
    intro place hmem
    obtain ⟨b, hb, rfl⟩ := List.mem_map.1 hmem
    obtain ⟨hne, hentry⟩ := tree.mem_below_iff.1 (List.mem_filter.1 hb).1
    obtain ⟨names, name, hnames⟩ := (List.eq_nil_or_concat' b.names).resolve_left hne
    have hproper : ∀ n ∈ names ++ [name], IsName n := fun n hn =>
      tree.isName hentry (hnames ▸ List.mem_append_right place hn)
    obtain ⟨hslash, hname⟩ := fileName?_pathBelow root hproper
    rw [hnames]
    exact ⟨hslash, name, hname⟩
  unfold regularFiles at hp
  split at hp
  · cases hp
  · rename_i place hlocate
    split at hp
    · rename_i hentry
      obtain rfl := List.mem_singleton.1 hp
      exact fileName?_of_file tree hlocate (by rw [hentry]; nofun)
    · exact hbelow place hp
    · split at hp
      · exact hbelow _ hp
      · cases hp
    · cases hp

/-! ## The path from the root -/

theorem text_join_name {p : Path} {name : String} (habsolute : p.isAbsolute = true)
    (hname : IsName name) : ∃ dir, (p.join ⟨name⟩).text = dir ++ "/" ++ name := by
  rcases toList_join p (isNamed_name hname) with ⟨hempty, _⟩ | ⟨front, _, htext⟩
  · obtain ⟨text⟩ := p
    obtain rfl : text = "" := hempty
    exact absurd habsolute (by decide)
  · refine ⟨String.ofList front, String.toList_inj.1 ?_⟩
    rw [htext, String.toList_append, String.toList_append, String.toList_ofList,
      List.append_assoc]
    rfl

theorem isAbsolute_workingPath (h : Host) : h.workingPath.isAbsolute = true := by
  have htext : h.workingPath.text.toList = '/' :: (Text.join "/" h.workingDirectory).toList :=
    String.toList_append
  simp [Path.isAbsolute, htext]

theorem isAbsolute_foldl_join {p : Path} (habsolute : p.isAbsolute = true) {ps : List Part}
    {cs : List Char} (h : ∀ part ∈ ps, part ∈ Path.steps cs) :
    (ps.foldl (fun q part => q.join ⟨part.text⟩) p).isAbsolute = true := by
  rw [← Path.root_mem_parts_iff, Path.parts_foldl_join h]
  exact List.mem_append_left _ (Path.root_mem_parts_iff.2 habsolute)

theorem text_fromRoot {name : String} (hname : p.fileName? = some name) :
    ∃ dir, (h.fromRoot p).text = dir ++ "/" ++ name := by
  obtain ⟨front, hfront⟩ := Path.exists_steps_of_fileName? hname
  have hmem : ∀ part ∈ front, part ∈ Path.steps p.text.toList := fun part hpart =>
    hfront ▸ List.mem_append_left _ hpart
  have hproper : IsName name := by
    have hlast : Part.name name ∈ Path.steps p.text.toList :=
      hfront ▸ List.mem_append_right _ List.mem_cons_self
    rcases Path.step_cases hlast with hup | ⟨_, heq, hproper⟩
    · cases hup
    · rwa [Part.name.inj heq]
  have hjoin : ∀ q : Path, q.isAbsolute = true → ∃ dir,
      ((front ++ [Part.name name]).foldl (fun q part => q.join ⟨part.text⟩) q).text =
        dir ++ "/" ++ name := by
    intro q habsolute
    rw [List.foldl_append]
    exact text_join_name (isAbsolute_foldl_join habsolute hmem) hproper
  unfold fromRoot
  simp only [p.filter_parts, hfront]
  by_cases habsolute : p.isAbsolute = true
  · obtain ⟨dir, htext⟩ := hjoin ⟨"/"⟩ rfl
    have hroot : (Path.ofParts (.root :: (front ++ [.name name]))).text = dir ++ "/" ++ name :=
      htext
    simp only [habsolute, if_true, List.singleton_append]
    split
    · exact ⟨"/" ++ dir, by rw [hroot, String.append_assoc, String.append_assoc,
        String.append_assoc]⟩
    · exact ⟨dir, hroot⟩
  · have hrelative : ¬ startsTwice p = true := mt isAbsolute_of_startsTwice habsolute
    simp only [hrelative, habsolute]
    exact hjoin _ h.isAbsolute_workingPath

/-- The path of a walked file from the root ends in the name of the file, behind a slash. -/
theorem exists_text_absolute (tree : h.files.IsTree) (hp : p ∈ h.regularFiles root) :
    ∃ dir name, p.fileName? = some name ∧ (h.absolute p).text = dir ++ "/" ++ name := by
  obtain ⟨hslash, name, hname⟩ := exists_fileName tree hp
  obtain ⟨dir, htext⟩ := text_fromRoot (h := h) hname
  refine ⟨dir, name, hname, ?_⟩
  have hlast : (p.text.toList.getLast? == some '/') = false := beq_eq_false_iff_ne.2 hslash
  rw [absolute_eq, hlast]
  exact htext

end Host

end LintScan
