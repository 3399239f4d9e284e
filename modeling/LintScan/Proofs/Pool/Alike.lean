import Mathlib.Data.List.Infix
import LintScan.Package.Walk
import LintScan.Proofs.Files.Plain
import LintScan.Proofs.Pool.Steps

/-!
# What looks alike to a job

Machines that look alike to a job differ only in what belongs to other jobs.  So a job sees the same
on them wherever it goes by paths that are open to it:

* `Alike.eq_files` — the machines differ in nothing but their files.
* `OpenTo` — the plain paths on whose way everything belongs to the job or to nobody; what is found
  and read there is the same, and so are the files below a directory.
* `Alike.findProgram_eq`, `Alike.commandExists_eq` — so is the program with a name, where the search
  path is open.
* `Steps.Local.write`, `Steps.Local.makeDirectories` — a job may write and make directories at such
  paths, where the places that change are its own.
-/

namespace LintScan

open FileTree (AlikeOn Plain SameChange)

variable {owner : Place → Option Nat} {i : Nat} {h h' : Host} {t : FileTree} {p : Path}

/-- Machines that look alike differ in nothing but their files. -/
theorem Alike.eq_files (a : Alike owner i h h') : h' = { h with files := h'.files } := by
  obtain ⟨files, _, _, _, _, _, _⟩ := h
  obtain ⟨files', _, _, _, _, _, _⟩ := h'
  unfold Alike Host.restrict at a
  rw [Host.mk.injEq] at a
  obtain ⟨_, rfl, rfl, rfl, rfl, rfl, rfl⟩ := a
  rfl

/-! ## Open paths -/

/-- A path is open to a job if it is plain and the job may look at every place on its way. -/
structure OpenTo (owner : Place → Option Nat) (i : Nat) (t : FileTree) (p : Path) : Prop
    extends t.Plain p where
  look : ∀ above, above <+: p.namesOn → mayLook owner i above = true

namespace OpenTo

/-- Without links in the tree, the parts of a path say whether it is open. -/
theorem of_forall (absolute : p.isAbsolute = true) (noUp : .up ∉ p.parts)
    (noLinks : ∀ entry ∈ t.entries, (entry.2.isFile || entry.2.isDirectory) = true)
    (look : ∀ above ∈ p.namesOn.inits, mayLook owner i above = true) : OpenTo owner i t p where
  absolute := absolute
  noUp := noUp
  unlinked above _ target := FileTree.Unlinked.of_forall noLinks [] above target
  look above habove := look above ((List.mem_inits _ _).2 habove)

/-- A path that goes on behind an open one is open, if the job may look at what lies behind and
there is no link on the way. -/
theorem behind (o : OpenTo owner i t p) {q : Path} {names : List String}
    (absolute : q.isAbsolute = true) (noUp : .up ∉ q.parts)
    (hnames : q.namesOn = p.namesOn ++ names)
    (unlinked : ∀ more, more <+: names → ∀ target,
      t.entry? (p.namesOn ++ more) ≠ some (.link target))
    (look : ∀ more, mayLook owner i (p.namesOn ++ more) = true) : OpenTo owner i t q := by
  have habove : ∀ above, above <+: q.namesOn →
      above <+: p.namesOn ∨ ∃ more, more <+: names ∧ above = p.namesOn ++ more := by
    intro above hq
    rw [hnames] at hq
    refine (List.prefix_or_prefix_of_prefix hq (List.prefix_append _ _)).imp id ?_
    rintro ⟨more, rfl⟩
    exact ⟨more, (List.prefix_append_right_inj _).1 hq, rfl⟩
  refine ⟨⟨absolute, noUp, fun above hq => ?_⟩, fun above hq => ?_⟩
  · rcases habove above hq with hp | ⟨more, hmore, rfl⟩
    · exact o.unlinked above hp
    · exact unlinked more hmore
  · rcases habove above hq with hp | ⟨more, _, rfl⟩
    · exact o.look above hp
    · exact look more

theorem alikeOn (o : OpenTo owner i t p) (a : Alike owner i h h') :
    AlikeOn h.files h'.files p := fun above habove => a.entry? (o.look above habove)

variable (o : OpenTo owner i h.files p) (a : Alike owner i h h')

include o a

theorem find_eq : h'.files.find h'.workingDirectory p = h.files.find h.workingDirectory p :=
  o.find_of_alike (o.alikeOn a) _ _

theorem read_eq : h'.read p = h.read p := o.read_of_alike (o.alikeOn a) _ _

theorem readText_eq : h'.readText p = h.readText p := by
  unfold Host.readText FileTree.readText
  rw [o.read_of_alike (o.alikeOn a) h.workingDirectory h'.workingDirectory]

theorem isExecutable_eq : h'.files.isExecutable h'.workingDirectory p =
    h.files.isExecutable h.workingDirectory p := by
  unfold FileTree.isExecutable
  rw [o.find_eq a]

theorem programAt_eq : h'.programAt p = h.programAt p := by
  unfold Host.programAt
  rw [o.find_eq a]

theorem hasDirectory_eq : h'.hasDirectory p = h.hasDirectory p :=
  o.isDirectory_of_alike (o.alikeOn a) _ _

end OpenTo

/-- What lies below a place is the same if the job may look at all of it. -/
theorem Alike.below_eq (a : Alike owner i h h') {place : Place}
    (look : ∀ names, mayLook owner i (place ++ names) = true) :
    h'.files.below place = h.files.below place := by
  have hkept : ∀ h : Host,
      h.files.below place = (h.restrict (mayLook owner i)).files.below place := by
    intro h
    unfold FileTree.below Host.restrict
    simp only
    rw [List.filterMap_filter]
    congr 2
    funext e
    by_cases hlook : mayLook owner i e.1 = true
    · rw [if_pos hlook]
    · rw [if_neg hlook, if_neg]
      intro hbelow
      rw [Bool.and_eq_true, List.isPrefixOf_iff_prefix] at hbelow
      obtain ⟨⟨names, hnames⟩, _⟩ := hbelow
      exact hlook (hnames ▸ look names)
  rw [hkept, hkept h, a]

/-- **A job sees the same files in a directory that is open to it.** -/
theorem OpenTo.regularFiles_eq (o : OpenTo owner i h.files p) (a : Alike owner i h h')
    (look : ∀ names, mayLook owner i (p.namesOn ++ names) = true) :
    h'.regularFiles p = h.regularFiles p := by
  have hinside : ∀ h : Host, Host.regularFiles.inside h p p.namesOn =
      ((h.files.below p.namesOn).filter (·.entry.isFile)).map fun b =>
        b.names.foldl (fun q name => q.join ⟨name⟩) p := fun _ => rfl
  unfold Host.regularFiles
  rw [o.locate_of_alike (o.alikeOn a) h.workingDirectory h'.workingDirectory]
  cases hlocate : h.files.locate h.workingDirectory false p with
  | error e => rfl
  | ok place =>
    obtain rfl := o.place_of_locate hlocate
    simp only
    rw [a.entry? (o.look _ List.prefix_rfl), hinside, hinside, a.below_eq look]
    split
    · rfl
    · rfl
    · rename_i target hlink
      exact absurd hlink (o.unlinked _ List.prefix_rfl target)
    · rfl

/-! ## Programs -/

namespace Alike

variable (a : Alike owner i h h')

include a

theorem searchProgram_eq {name : Path} {dirs : List Path}
    (o : ∀ d ∈ dirs, OpenTo owner i h.files (d.join name)) (denied : Bool) :
    h'.searchProgram name denied dirs = h.searchProgram name denied dirs := by
  induction dirs generalizing denied with
  | nil => rfl
  | cons d dirs ih =>
    obtain ⟨hd, hdirs⟩ := List.forall_mem_cons.1 o
    unfold Host.searchProgram
    rw [hd.programAt_eq a]
    split
    · rfl
    · exact ih hdirs true
    · exact ih hdirs denied

/-- A job finds the same program if the places are open to it where the search looks. -/
theorem findProgram_eq {name : String} (hname : '/' ∉ name.toList)
    (o : ∀ d ∈ Host.directoriesOf (h.searchPath.getD Host.standardPath),
      OpenTo owner i h.files (d.join ⟨name⟩)) : h'.findProgram name = h.findProgram name := by
  have hsearch : h'.searchPath = h.searchPath := by rw [a.eq_files]
  unfold Host.findProgram
  rw [hsearch, a.searchProgram_eq o]
  simp [hname]

theorem commandExists_eq {name : String} (hname : (Path.mk name).parts.length ≤ 1)
    (o : ∀ d ∈ Host.directoriesOf (h.searchPath.getD Host.standardPath),
      OpenTo owner i h.files (d.join ⟨name⟩)) : h'.commandExists name = h.commandExists name := by
  have hsearch : h'.searchPath = h.searchPath := by rw [a.eq_files]
  unfold Host.commandExists
  simp only [hsearch]
  rw [if_neg (by omega), if_neg (by omega)]
  cases hdirs : h.searchPath with
  | none => rfl
  | some dirs =>
    rw [hdirs, Option.getD_some] at o
    simp only
    rw [Bool.eq_iff_iff, List.any_eq_true, List.any_eq_true]
    refine exists_congr fun d => and_congr_right fun hd => ?_
    rw [(o d hd).isExecutable_eq a]

end Alike

/-! ## Changes at open paths -/

namespace Alike

theorem setAll (a : Alike owner i h h') (entries : List (Place × Entry)) :
    Alike owner i { h with files := h.files.setAll entries }
      { h' with files := h'.files.setAll entries } := by
  induction entries generalizing h h' with
  | nil => exact a
  | cons entry entries ih => exact ih (a.put entry.1 entry.2)

end Alike

theorem Spares.setAll {entries : List (Place × Entry)}
    (own : ∀ entry ∈ entries, owner entry.1 = some i) :
    Spares owner i h { h with files := h.files.setAll entries } := by
  induction entries generalizing h with
  | nil => exact .refl h
  | cons entry entries ih =>
    obtain ⟨hentry, hrest⟩ := List.forall_mem_cons.1 own
    exact (Spares.put hentry entry.2).trans (ih hrest)

namespace Steps.Local

/-- A change of files may be made that comes to the same on all machines that look alike, and sets
entries only at places of the job. -/
theorem changeFiles {change : FileTree → Place → Except FileError FileTree}
    (same : ∀ h', Alike owner i h h' →
      SameChange (fun place _ => owner place = some i) h.files h'.files
        (change h.files h.workingDirectory) (change h'.files h'.workingDirectory)) :
    (Steps.changeFiles change).Local owner i h := by
  refine ⟨fun h' a => ?_, trivial⟩
  have hsame := same h' a
  beta_reduce
  generalize change h.files h.workingDirectory = outcome at hsame
  generalize change h'.files h'.workingDirectory = outcome' at hsame
  cases hsame with
  | fails e => exact ⟨rfl, a, .refl h'⟩
  | sets entries own => exact ⟨rfl, a.setAll entries, .setAll own⟩

/-- **A job may write its own file at an open path.** -/
theorem write (o : OpenTo owner i h.files p) (own : owner p.namesOn = some i)
    (bytes : List UInt8) :
    (Steps.changeFiles fun t cwd => t.write cwd p bytes).Local owner i h :=
  changeFiles fun _ a => (o.write (o.alikeOn a) _ _ bytes).mono fun _ _ hfile =>
    hfile.1 ▸ own

/-- **A job may make the directories on the way to an open path** whose places are its own, as far
as they are missing. -/
theorem makeDirectories (o : OpenTo owner i h.files p)
    (own : ∀ place, place <+: p.namesOn → h.files.entry? place = none → owner place = some i) :
    (Steps.changeFiles fun t cwd => t.makeDirectories cwd p).Local owner i h :=
  changeFiles fun _ a => (o.makeDirectories (o.alikeOn a) _ _).mono
    fun place _ m => own place m.above m.missing

end Steps.Local

end LintScan
