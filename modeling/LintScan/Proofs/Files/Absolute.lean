import LintScan.Proofs.Files.Follow
import LintScan.Proofs.Files.Parent
import LintScan.Session.Host

/-!
# Paths from the root

The path from the root has the parts of a path behind those of the working directory, or alone if
the path starts at the root. Dots go away; steps up stay.

* `Path.parts_step`, `Path.parts_foldl_join` — a step seen as a path, and steps put behind a path
  one by one.
* `Path.filter_parts` — a path without its dots.
* `Host.parts_absolute` — the parts of the path from the root.
-/

namespace LintScan

namespace Path

open Text

/-! ## Single parts -/

/-- The steps of a text are names and steps up. -/
theorem step_cases {cs : List Char} {part : Part} (h : part ∈ steps cs) :
    part = .up ∨ ∃ name, part = .name name ∧ IsName name := by
  obtain ⟨piece, hpiece, hpart⟩ := List.mem_filterMap.1 h
  unfold partOf? at hpart
  split at hpart
  · cases hpart
  · rename_i hne
    split at hpart
    · cases hpart
      exact .inl rfl
    · rename_i hup
      cases hpart
      refine .inr ⟨_, rfl, fun hempty => hne (.inl ?_), fun hdot => hne (.inr ?_),
        fun hdots => hup ?_, ?_⟩
      · rw [← String.toList_ofList (l := piece), hempty]
        rfl
      · rw [← String.toList_ofList (l := piece), hdot]
        rfl
      · rw [← String.toList_ofList (l := piece), hdots]
        rfl
      · rw [String.toList_ofList]
        exact fun hslash => (mem_of_mem_piece hpiece hslash).2 rfl

theorem isNamed_step {cs : List Char} {part : Part} (h : part ∈ steps cs) :
    (Path.mk part.text).IsNamed := by
  rcases step_cases h with rfl | ⟨name, rfl, hname⟩
  · exact ⟨by decide, by decide⟩
  · exact FileTree.isNamed_name hname

theorem parts_step {cs : List Char} {part : Part} (h : part ∈ steps cs) :
    (Path.mk part.text).parts = [part] := by
  rcases step_cases h with rfl | ⟨name, rfl, hname⟩
  · rfl
  · exact FileTree.parts_name hname

/-- A path names its first part if it has neither the root nor a leading dot. -/
theorem isNamed_iff {p : Path} : p.IsNamed ↔ .root ∉ p.parts ∧ .here ∉ p.parts := by
  have hsteps : ∀ part ∈ steps p.text.toList, part ≠ .root ∧ part ≠ .here := by
    intro part hpart
    rcases step_cases hpart with rfl | ⟨name, rfl, _⟩ <;> simp
  have hroot : .root ∉ steps p.text.toList := fun h => (hsteps _ h).1 rfl
  have hhere : .here ∉ steps p.text.toList := fun h => (hsteps _ h).2 rfl
  rw [parts_eq, List.mem_append, List.mem_append, or_iff_left hroot, or_iff_left hhere]
  unfold IsNamed lead
  by_cases hslash : p.text.toList.head? = some '/'
  · simp [hslash]
  · by_cases hdot : (splitAtEach '/' p.text.toList).head? = some ['.'] <;> simp [hslash, hdot]

theorem IsNamed.join {p q : Path} (hp : p.IsNamed) (hq : q.IsNamed) : (p.join q).IsNamed := by
  rw [isNamed_iff] at hp ⊢
  have hrest := isNamed_iff.1 hq
  rw [parts_join hq, List.mem_append, List.mem_append]
  exact ⟨not_or.2 ⟨hp.1, hrest.1⟩, not_or.2 ⟨hp.2, hrest.2⟩⟩

/-- Without a step up, such a path has names alone. -/
theorem IsNamed.parts_eq_map {p : Path} (h : p.IsNamed) (noUp : .up ∉ p.parts) :
    p.parts = p.namesOn.map .name := by
  unfold namesOn
  have hnames : ∀ part ∈ p.parts, ∃ name, part = .name name := by
    intro part hpart
    rw [h.parts_eq] at hpart noUp
    rcases step_cases hpart with rfl | ⟨name, rfl, _⟩
    · exact absurd hpart noUp
    · exact ⟨name, rfl⟩
  generalize p.parts = parts at hnames
  induction parts with
  | nil => rfl
  | cons part parts ih =>
    obtain ⟨⟨name, rfl⟩, hrest⟩ := List.forall_mem_cons.1 hnames
    rw [List.filterMap_cons_some (by rfl), List.map_cons, ← ih hrest]

/-- Steps put behind a path one by one are parts behind its parts. -/
theorem parts_foldl_join {ps : List Part} {cs : List Char} (h : ∀ part ∈ ps, part ∈ steps cs)
    (p : Path) : (ps.foldl (fun q part => q.join ⟨part.text⟩) p).parts = p.parts ++ ps := by
  induction ps generalizing p with
  | nil => exact (List.append_nil _).symm
  | cons part ps ih =>
    have hpart := h part List.mem_cons_self
    rw [List.foldl_cons, ih fun q hq => h q (List.mem_cons_of_mem part hq),
      parts_join (isNamed_step hpart), parts_step hpart, List.append_assoc, List.singleton_append]

theorem steps_slash (cs : List Char) : steps ('/' :: cs) = steps cs :=
  steps_append [] cs

theorem lead_of_isAbsolute {p : Path} (h : p.isAbsolute = true) :
    lead p.text.toList = [.root] := by
  unfold isAbsolute at h
  split at h
  · rename_i cs heq
    rw [heq]
    rfl
  · cases h

/-- Without a dot at its head, a path has steps behind the root, or steps alone. -/
theorem filter_parts (p : Path) : p.parts.filter (· != .here) =
    (if p.isAbsolute then [.root] else []) ++ steps p.text.toList := by
  have hsteps : (steps p.text.toList).filter (· != .here) = steps p.text.toList := by
    refine List.filter_eq_self.2 fun part hpart => bne_iff_ne.2 ?_
    rcases step_cases hpart with rfl | ⟨name, rfl, _⟩ <;> nofun
  rw [parts_eq, List.filter_append, hsteps]
  congr 1
  by_cases habsolute : p.isAbsolute = true
  · rw [lead_of_isAbsolute habsolute, if_pos habsolute]
    rfl
  · have hslash : p.text.toList.head? ≠ some '/' := by
      intro hhead
      obtain ⟨cs, heq⟩ := List.head?_eq_some_iff.1 hhead
      exact habsolute (by simp [isAbsolute, heq])
    rw [if_neg habsolute, lead, if_neg hslash]
    split <;> rfl

/-- The path of the root and some steps has just these parts. -/
theorem parts_ofParts {ps : List Part} {cs : List Char} (h : ∀ part ∈ ps, part ∈ steps cs) :
    (ofParts (.root :: ps)).parts = .root :: ps := by
  have hroot : (Path.join ⟨""⟩ ⟨Part.root.text⟩) = ⟨"/"⟩ := by decide
  rw [ofParts, List.foldl_cons, hroot, parts_foldl_join h]
  rfl

/-- A slash more in front of a path that starts at the root stands for nothing. -/
theorem parts_slash {p : Path} (h : p.isAbsolute = true) :
    (Path.mk ("/" ++ p.text)).parts = p.parts := by
  have htext : ("/" ++ p.text).toList = '/' :: p.text.toList := String.toList_append
  rw [parts_eq, parts_eq, lead_of_isAbsolute h, htext, steps_slash]
  rfl

end Path

namespace Host

variable (h : Host) (p : Path)

/-- The path from the root before a slash is put back at its end. -/
def fromRoot : Path :=
  let parts := p.parts.filter (· != .here)
  if startsTwice p then ⟨"/" ++ (Path.ofParts parts).text⟩
  else if p.isAbsolute then Path.ofParts parts
  else parts.foldl (fun q part => q.join ⟨part.text⟩) h.workingPath

theorem absolute_eq : h.absolute p =
    if p.text.toList.getLast? == some '/' && (h.fromRoot p).text != "/" then
      (h.fromRoot p).join ⟨""⟩
    else h.fromRoot p := rfl

theorem isAbsolute_of_startsTwice {p : Path} (hp : startsTwice p = true) :
    p.isAbsolute = true := by
  unfold startsTwice at hp
  unfold Path.isAbsolute
  split at hp
  · cases hp
  · rename_i heq
    simp [heq]
  · cases hp

theorem parts_fromRoot : (h.fromRoot p).parts =
    (if p.isAbsolute then [] else h.workingPath.parts) ++ p.parts.filter (· != .here) := by
  unfold fromRoot
  simp only [p.filter_parts]
  by_cases habsolute : p.isAbsolute = true
  · have hofParts : (Path.ofParts (.root :: Path.steps p.text.toList)).parts =
        .root :: Path.steps p.text.toList := Path.parts_ofParts fun part hpart => hpart
    have hroot : (Path.ofParts (.root :: Path.steps p.text.toList)).isAbsolute = true := by
      rw [← Path.root_mem_parts_iff, hofParts]
      exact List.mem_cons_self
    simp only [habsolute, if_true, List.singleton_append, List.nil_append]
    split
    · rw [Path.parts_slash hroot, hofParts]
    · exact hofParts
  · have hrelative : ¬ startsTwice p = true := mt isAbsolute_of_startsTwice habsolute
    simp only [hrelative, habsolute]
    exact Path.parts_foldl_join (fun part hpart => hpart) _

/-- The path from the root has the parts of a path without its dots, behind those of the working
directory unless they start at the root. -/
theorem parts_absolute : (h.absolute p).parts =
    (if p.isAbsolute then [] else h.workingPath.parts) ++ p.parts.filter (· != .here) := by
  have hempty : (Path.mk "").IsNamed := ⟨by decide, by decide⟩
  rw [absolute_eq]
  split
  · rw [Path.parts_join hempty, parts_fromRoot]
    exact List.append_nil _
  · exact h.parts_fromRoot p

end Host

end LintScan
