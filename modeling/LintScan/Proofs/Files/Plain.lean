import LintScan.Proofs.Files.Parent
import LintScan.Proofs.Files.Unlinked

/-!
# Plain paths

A plain path starts at the root, has no step up, and leads through no link, so its names alone say
where it leads.  Whoever goes by such a path depends only on what stands on its way:

* `FileTree.Plain`, `Plain.place_of_locate` — such paths, and where they lead.
* `FileTree.AlikeOn` — two trees have the same on the way to a path.
* `Plain.find_of_alike`, `Plain.read_of_alike` — what is found or read there is the same.
* `FileTree.SameChange`, `Plain.write`, `Plain.makeDirectories` — what is written or made there
  changes both trees in the same way.
-/

namespace LintScan.FileTree

variable {t t' : FileTree} {cwd : Place} {p : Path}

/-- A path from the root whose names alone say where it leads: no link lies on its way, and it has
no step up. -/
structure Plain (t : FileTree) (p : Path) : Prop where
  absolute : p.isAbsolute = true
  noUp : .up ∉ p.parts
  unlinked : ∀ above, above <+: p.namesOn → ∀ target, t.entry? above ≠ some (.link target)

/-- Two trees have the same on the way to a path. -/
def AlikeOn (t t' : FileTree) (p : Path) : Prop :=
  ∀ above, above <+: p.namesOn → t'.entry? above = t.entry? above

/-! ## Where plain paths lead -/

namespace Plain

variable {followLast : Bool}

theorem up_notMem_stepsOf (plain : t.Plain p) : ".." ∉ stepsOf p := fun hmem =>
  dots_notMem_namesOn p (by
    rw [← filter_stepsOf plain.noUp]
    exact List.mem_filter.2 ⟨hmem, by decide⟩)

theorem isEmpty_text (plain : t.Plain p) : p.text.isEmpty = false := by
  rw [Bool.eq_false_iff, Ne, String.isEmpty_iff]
  intro hempty
  have := plain.absolute
  simp [Path.isAbsolute, hempty] at this

theorem locate_eq (plain : t.Plain p) (t' : FileTree) (cwd : Place) (followLast : Bool) :
    t'.locate cwd followLast p = t'.follow followLast linkLimit [] (stepsOf p) := by
  unfold locate
  rw [plain.absolute, plain.isEmpty_text]
  rfl

/-- A plain path leads where its names say. -/
theorem place_of_locate (plain : t.Plain p) {target : Place}
    (h : t.locate cwd followLast p = .ok target) : target = p.namesOn := by
  rw [plain.locate_eq] at h
  rw [← filter_stepsOf plain.noUp]
  have hunlinked := plain.unlinked
  rw [← filter_stepsOf plain.noUp] at hunlinked
  exact place_of_followSteps plain.up_notMem_stepsOf hunlinked h

/-- Only the parts of a path tell whether it is plain. -/
theorem of_parts {q : Path} (plain : t.Plain p) (h : q.parts = p.parts) : t.Plain q where
  absolute := by rw [← Path.root_mem_parts_iff, h, Path.root_mem_parts_iff, plain.absolute]
  noUp := h ▸ plain.noUp
  unlinked := by
    unfold Path.namesOn
    rw [h]
    exact plain.unlinked

theorem parent (plain : t.Plain p) {above : Path} (h : p.parent? = some above) :
    t.Plain above ∧ above.namesOn <+: p.namesOn := by
  obtain ⟨last, _, hparts⟩ := Path.parts_parent? h
  have hnames : above.namesOn <+: p.namesOn := by
    unfold Path.namesOn
    rw [hparts, List.filterMap_append]
    exact List.prefix_append _ _
  refine ⟨⟨?_, fun hup => plain.noUp ?_, fun q hq => plain.unlinked q (hq.trans hnames)⟩, hnames⟩
  · rw [Path.isAbsolute_parent? h, plain.absolute]
  · rw [hparts]
    exact List.mem_append_left _ hup

section

variable (plain : t.Plain p) (alike : AlikeOn t t' p) (cwd cwd' : Place)

include plain alike

/-- It leads to the same place in every tree that has the same on its way. -/
theorem locate_of_alike (followLast : Bool) :
    t'.locate cwd' followLast p = t.locate cwd followLast p := by
  have hunlinked := plain.unlinked
  unfold AlikeOn at alike
  rw [← filter_stepsOf plain.noUp] at hunlinked alike
  rw [plain.locate_eq, plain.locate_eq]
  exact followSteps_of_agree plain.up_notMem_stepsOf hunlinked alike

theorem find_of_alike : t'.find cwd' p = t.find cwd p := by
  unfold find
  rw [plain.locate_of_alike alike cwd cwd']
  cases hlocate : t.locate cwd true p with
  | error _ => rfl
  | ok target =>
    obtain rfl := plain.place_of_locate hlocate
    simp only [bind, Except.bind]
    rw [alike _ List.prefix_rfl]

theorem read_of_alike : t'.read cwd' p = t.read cwd p := by
  unfold read
  rw [plain.find_of_alike alike cwd cwd']

theorem isDirectory_of_alike : t'.isDirectory cwd' p = t.isDirectory cwd p := by
  unfold isDirectory
  rw [plain.find_of_alike alike cwd cwd']

end

end Plain

/-! ## The same change in two trees -/

/-- The tree with several entries set, one after the other. -/
def setAll (t : FileTree) (entries : List (Place × Entry)) : FileTree :=
  entries.foldl (fun t entry => t.set entry.1 entry.2) t

/-- A change comes to the same in two trees: it fails in both of them, or it sets the same entries,
all of which are allowed. -/
inductive SameChange (allowed : Place → Entry → Prop) (t t' : FileTree) :
    Except FileError FileTree → Except FileError FileTree → Prop
  | fails (e : FileError) : SameChange allowed t t' (.error e) (.error e)
  | sets (entries : List (Place × Entry)) :
      (∀ entry ∈ entries, allowed entry.1 entry.2) →
        SameChange allowed t t' (.ok (t.setAll entries)) (.ok (t'.setAll entries))

theorem SameChange.mono {allowed allowed' : Place → Entry → Prop}
    (h : ∀ place e, allowed place e → allowed' place e)
    {outcome outcome' : Except FileError FileTree}
    (same : SameChange allowed t t' outcome outcome') :
    SameChange allowed' t t' outcome outcome' := by
  cases same with
  | fails e => exact .fails e
  | sets entries hallowed => exact .sets entries fun entry hentry => h _ _ (hallowed entry hentry)

/-- A change behind entries that were set in both trees. -/
theorem SameChange.after {allowed : Place → Entry → Prop} {entries : List (Place × Entry)}
    (hentries : ∀ entry ∈ entries, allowed entry.1 entry.2)
    {outcome outcome' : Except FileError FileTree}
    (same : SameChange allowed (t.setAll entries) (t'.setAll entries) outcome outcome') :
    SameChange allowed t t' outcome outcome' := by
  cases same with
  | fails e => exact .fails e
  | sets more hmore =>
    unfold setAll
    rw [← List.foldl_append, ← List.foldl_append]
    refine .sets (entries ++ more) fun entry hentry => ?_
    exact (List.mem_append.1 hentry).elim (hentries entry) (hmore entry)

/-- What stands somewhere behind a change is what is set there, or what stood there before. -/
theorem entry?_set_eq (t : FileTree) {place : Place} (hplace : place ≠ []) (e : Entry)
    (other : Place) :
    entry? (t.set place e) other = if other = place then some e else t.entry? other := by
  split
  · rename_i hsame
    rw [hsame, entry?_set_self t hplace]
  · rename_i hne
    exact entry?_set_of_ne hne e

theorem AlikeOn.setAll {entries : List (Place × Entry)} (alike : AlikeOn t t' p)
    (proper : ∀ entry ∈ entries, entry.1 ≠ []) :
    AlikeOn (t.setAll entries) (t'.setAll entries) p := by
  induction entries generalizing t t' with
  | nil => exact alike
  | cons entry entries ih =>
    obtain ⟨hplace, hrest⟩ := List.forall_mem_cons.1 proper
    refine ih (fun above habove => ?_) hrest
    rw [entry?_set_eq t' hplace, entry?_set_eq t hplace, alike above habove]

/-- Directories that are set bring no link in. -/
theorem Plain.setAll {entries : List (Place × Entry)} (plain : t.Plain p)
    (proper : ∀ entry ∈ entries, entry.1 ≠ [])
    (directories : ∀ entry ∈ entries, entry.2 = .directory) : Plain (t.setAll entries) p := by
  induction entries generalizing t with
  | nil => exact plain
  | cons entry entries ih =>
    obtain ⟨hplace, hproper⟩ := List.forall_mem_cons.1 proper
    obtain ⟨hdirectory, hrest⟩ := List.forall_mem_cons.1 directories
    refine ih ⟨plain.absolute, plain.noUp, fun above habove target => ?_⟩ hproper hrest
    rw [entry?_set_eq t hplace, hdirectory]
    split
    · nofun
    · exact plain.unlinked above habove target

/-- Entries that are set take none away. -/
theorem entry?_of_setAll {entries : List (Place × Entry)} {place : Place}
    (proper : ∀ entry ∈ entries, entry.1 ≠ [])
    (h : entry? (t.setAll entries) place = none) : t.entry? place = none := by
  induction entries generalizing t with
  | nil => exact h
  | cons entry entries ih =>
    obtain ⟨hplace, hproper⟩ := List.forall_mem_cons.1 proper
    have hnone := ih hproper h
    rw [entry?_set_eq t hplace] at hnone
    split at hnone
    · cases hnone
    · exact hnone

/-! ## Writing -/

theorem ne_nil_of_entry {place : Place} {e : Option Entry} (h : t.entry? place = e)
    (hne : e ≠ some .directory) : place ≠ [] := by
  rintro rfl
  exact hne h.symm

/-- **A file at a plain path is written in the same way into trees that are alike on its way.** -/
theorem Plain.write (plain : t.Plain p) (alike : AlikeOn t t' p) (cwd cwd' : Place)
    (bytes : List UInt8) :
    SameChange (fun place _ => place = p.namesOn ∧ place ≠ []) t t' (t.write cwd p bytes)
      (t'.write cwd' p bytes) := by
  unfold FileTree.write
  rw [plain.locate_of_alike alike cwd cwd']
  cases hlocate : t.locate cwd true p with
  | error e => exact .fails e
  | ok place =>
    obtain rfl := plain.place_of_locate hlocate
    simp only [bind, Except.bind]
    rw [alike _ List.prefix_rfl, alike _ (List.dropLast_prefix _)]
    have hset : ∀ mode, p.namesOn ≠ [] →
        SameChange (fun place _ => place = p.namesOn ∧ place ≠ []) t t'
          (.ok (t.set p.namesOn (.file bytes mode))) (.ok (t'.set p.namesOn (.file bytes mode))) :=
      fun mode hne => .sets [(p.namesOn, .file bytes mode)] (by simpa using hne)
    split
    · rename_i hfile
      exact hset _ (ne_nil_of_entry hfile (by simp))
    · exact .fails _
    · exact .fails _
    · rename_i hnone
      split
      · exact hset _ (ne_nil_of_entry hnone (by simp))
      · exact .fails _
      · exact .fails _

/-! ## Making directories -/

/-- Slashes at the end of a path stand for nothing. -/
theorem parts_withoutLastSlashes (p : Path) : (withoutLastSlashes p).parts = p.parts := by
  have hparts : ∀ cs : List Char, cs.dropWhile (· == '/') ≠ [] →
      Path.textParts (cs.dropWhile (· == '/')).reverse = Path.textParts cs.reverse := by
    intro cs hne
    induction cs with
    | nil => exact absurd rfl hne
    | cons c cs ih =>
      by_cases hc : c = '/'
      · subst hc
        rw [List.dropWhile_cons_of_pos (by rfl)] at hne ⊢
        have hcs : cs.reverse ≠ [] := by
          rintro hnil
          rw [List.reverse_eq_nil_iff.1 hnil] at hne
          exact hne rfl
        rw [ih hne, List.reverse_cons, Path.textParts_append_slash hcs]
      · rw [List.dropWhile_cons_of_neg (by simpa using hc)]
  unfold withoutLastSlashes
  simp only [List.isEmpty_iff, List.reverse_eq_nil_iff]
  split
  · rfl
  · rename_i hne
    rw [Path.parts_eq_textParts, Path.parts_eq_textParts, String.toList_ofList, hparts _ hne,
      List.reverse_reverse]

/-- A directory that is missing on the way to a path. -/
structure MissingOn (t : FileTree) (p : Path) (place : Place) (e : Entry) : Prop where
  above : place <+: p.namesOn
  proper : place ≠ []
  missing : t.entry? place = none
  isDirectory : e = .directory

namespace MissingOn

variable {place : Place} {e : Entry}

/-- What is missing on the way to a parent is missing on the way. -/
theorem of_parent {above : Path} (hnames : above.namesOn <+: p.namesOn)
    (m : MissingOn t above place e) : MissingOn t p place e :=
  ⟨m.above.trans hnames, m.proper, m.missing, m.isDirectory⟩

/-- What is missing after some entries were set was missing before. -/
theorem of_setAll {entries : List (Place × Entry)} (proper : ∀ entry ∈ entries, entry.1 ≠ [])
    (m : MissingOn (t.setAll entries) p place e) : MissingOn t p place e :=
  ⟨m.above, m.proper, entry?_of_setAll proper m.missing, m.isDirectory⟩

end MissingOn

theorem Plain.makeDirectory (plain : t.Plain p) (alike : AlikeOn t t' p) (cwd cwd' : Place) :
    SameChange (MissingOn t p) t t' (t.makeDirectory cwd p) (t'.makeDirectory cwd' p) := by
  have hparts := parts_withoutLastSlashes p
  have hplain := plain.of_parts hparts
  have hnames : (withoutLastSlashes p).namesOn = p.namesOn := by
    unfold Path.namesOn
    rw [hparts]
  have halike : AlikeOn t t' (withoutLastSlashes p) := by
    unfold AlikeOn
    rw [hnames]
    exact alike
  unfold FileTree.makeDirectory
  rw [hplain.locate_of_alike halike cwd cwd']
  cases hlocate : t.locate cwd false (withoutLastSlashes p) with
  | error e => exact .fails e
  | ok place =>
    obtain rfl := hplain.place_of_locate hlocate
    rw [hnames]
    simp only [bind, Except.bind]
    rw [alike _ List.prefix_rfl, alike _ (List.dropLast_prefix _)]
    split
    · exact .fails _
    · rename_i hnone _
      exact .sets [(p.namesOn, .directory)] (by
        simpa using ⟨List.prefix_rfl, ne_nil_of_entry hnone (by simp), hnone, rfl⟩)
    · exact .fails _
    · exact .fails _

/-- A directory that could not be made is fine in both trees if it is there in both. -/
theorem Plain.directory {allowed : Place → Entry → Prop} (plain : t.Plain p)
    (alike : AlikeOn t t' p) (cwd cwd' : Place) (e : FileError) :
    SameChange allowed t t' (if t.isDirectory cwd p then .ok t else .error e)
      (if t'.isDirectory cwd' p then .ok t' else .error e) := by
  rw [plain.isDirectory_of_alike alike cwd cwd']
  split
  · exact .sets [] (by simp)
  · exact .fails e

theorem Plain.makeDirectoriesWithin (plain : t.Plain p) (alike : AlikeOn t t' p)
    (cwd cwd' : Place) (fuel : Nat) :
    SameChange (MissingOn t p) t t' (FileTree.makeDirectoriesWithin cwd fuel t p)
      (FileTree.makeDirectoriesWithin cwd' fuel t' p) := by
  induction fuel generalizing p with
  | zero => exact .fails _
  | succ fuel ih =>
    unfold FileTree.makeDirectoriesWithin
    rw [plain.isEmpty_text]
    simp only [Bool.false_eq_true, if_false]
    have hmade := plain.makeDirectory alike cwd cwd'
    generalize t.makeDirectory cwd p = outcome at hmade
    generalize t'.makeDirectory cwd' p = outcome' at hmade
    cases hmade with
    | sets entries hallowed => exact .sets entries hallowed
    | fails e =>
      cases e with
      | notFound =>
        simp only
        cases hparent : p.parent? with
        | none => exact .fails _
        | some above =>
          obtain ⟨habove, hnames⟩ := plain.parent hparent
          have hrest := ih habove fun q hq => alike q (hq.trans hnames)
          simp only
          generalize FileTree.makeDirectoriesWithin cwd fuel t above = outcome at hrest
          generalize FileTree.makeDirectoriesWithin cwd' fuel t' above = outcome' at hrest
          cases hrest with
          | fails e => exact .fails e
          | sets entries hallowed =>
            -- The directories above are there now, in both trees.
            have hproper : ∀ entry ∈ entries, entry.1 ≠ [] := fun entry hentry =>
              (hallowed entry hentry).proper
            have hplain := plain.setAll hproper fun entry hentry =>
              (hallowed entry hentry).isDirectory
            have halike := alike.setAll hproper
            refine SameChange.after (fun entry hentry => (hallowed entry hentry).of_parent hnames)
              (SameChange.mono (fun _ _ => MissingOn.of_setAll hproper) ?_)
            have hlast := hplain.makeDirectory halike cwd cwd'
            simp only [bind, Except.bind]
            generalize (t.setAll entries).makeDirectory cwd p = outcome at hlast
            generalize (t'.setAll entries).makeDirectory cwd' p = outcome' at hlast
            cases hlast with
            | fails e => exact hplain.directory halike cwd cwd' e
            | sets more hmore => exact .sets more hmore
      | _ => exact plain.directory alike cwd cwd' _

/-- **Directories on the way to a plain path are made in the same way in trees that are alike on
it,** each of them where it was missing. -/
theorem Plain.makeDirectories (plain : t.Plain p) (alike : AlikeOn t t' p) (cwd cwd' : Place) :
    SameChange (MissingOn t p) t t' (t.makeDirectories cwd p) (t'.makeDirectories cwd' p) :=
  plain.makeDirectoriesWithin alike cwd cwd' _

end LintScan.FileTree
