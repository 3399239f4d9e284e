import LintScan.Files.Path
import LintScan.Proofs.Text.Pieces

/-!
# The parts of a path

A path is read by its pieces between slashes.  This file says what becomes of the parts when texts
are put together:

* `Path.parts_join` — the parts of a path inside another one stand behind those of the other.
* `Path.fileName?_no_slash` — the last name of a path holds no slash.
-/

namespace LintScan

namespace Path

open Text

/-! ## Parts -/

/-- The steps up and the names among the pieces of a text. -/
def steps (cs : List Char) : List Part := (splitAtEach '/' cs).filterMap partOf?

/-- The part at the head of a path that its pieces do not tell: the root, or a leading dot. -/
def lead (cs : List Char) : List Part :=
  if cs.head? = some '/' then [.root]
  else if (splitAtEach '/' cs).head? = some ['.'] then [.here]
  else []

theorem parts_eq (p : Path) : p.parts = lead p.text.toList ++ steps p.text.toList := by
  unfold parts lead steps
  simp only
  generalize p.text.toList = cs
  generalize splitAtEach '/' cs = pieces
  have hhead : ∀ c, cs.head? = some c ↔ ∃ rest, cs = c :: rest := by
    intro c
    cases cs <;> simp [eq_comm]
  have hfirst : ∀ piece, pieces.head? = some piece ↔ ∃ rest, pieces = piece :: rest := by
    intro piece
    cases pieces <;> simp [eq_comm]
  split
  · rw [if_pos ((hhead _).2 ⟨_, rfl⟩)]
    rfl
  · rename_i hroot
    rw [if_neg fun h => absurd ((hhead _).1 h) fun ⟨_, h⟩ => hroot _ h,
      if_pos ((hfirst _).2 ⟨_, rfl⟩)]
    rfl
  · rename_i hroot hhere
    rw [if_neg fun h => absurd ((hhead _).1 h) fun ⟨_, h⟩ => hroot _ h,
      if_neg fun h => absurd ((hfirst _).1 h) fun ⟨_, h⟩ => hhere _ h]
    rfl

theorem steps_append (a b : List Char) : steps (a ++ '/' :: b) = steps a ++ steps b := by
  unfold steps
  rw [splitAtEach_append, List.filterMap_append]

theorem lead_append {a : List Char} (ha : a ≠ []) (b : List Char) :
    lead (a ++ '/' :: b) = lead a := by
  obtain ⟨c, a, rfl⟩ := List.exists_cons_of_ne_nil ha
  obtain ⟨piece, pieces, h⟩ := List.exists_cons_of_ne_nil (splitAtEach_ne_nil '/' (c :: a))
  unfold lead
  rw [splitAtEach_append, h]
  rfl

/-- What stands behind a slash has no say in the head of a path. -/
theorem lead_append_slash (a b : List Char) : lead (a ++ '/' :: b) = lead (a ++ ['/']) := by
  by_cases ha : a = []
  · subst ha
    rfl
  · rw [lead_append ha, lead_append ha]

/-- Whether a path names its first part: it starts neither at the root nor with a dot. -/
def IsNamed (p : Path) : Prop :=
  p.text.toList.head? ≠ some '/' ∧ (splitAtEach '/' p.text.toList).head? ≠ some ['.']

theorem isNamed_of_first {p : Path} {piece : List Char} {rest : List (List Char)}
    (h : splitAtEach '/' p.text.toList = piece :: rest) (hempty : piece ≠ [])
    (hdot : piece ≠ ['.']) : p.IsNamed := by
  constructor
  · intro hslash
    obtain ⟨tail, htext⟩ := List.head?_eq_some_iff.1 hslash
    rw [htext, splitAtEach, if_pos rfl, List.cons.injEq] at h
    exact hempty h.1.symm
  · rw [h]
    exact fun hd => hdot (Option.some.inj hd)

theorem IsNamed.parts_eq {p : Path} (h : p.IsNamed) : p.parts = steps p.text.toList := by
  rw [Path.parts_eq, lead, if_neg h.1, if_neg h.2, List.nil_append]

theorem IsNamed.isAbsolute_eq {p : Path} (h : p.IsNamed) : p.isAbsolute = false := by
  unfold isAbsolute
  split
  · rename_i hslash
    exact absurd (by rw [hslash]; rfl) h.1
  · rfl

/-- What stands before the text of a path that is put behind another one. -/
def front (p : Path) : String :=
  if p.text = "" then "" else if p.text.toList.getLast? = some '/' then p.text else p.text ++ "/"

theorem text_join {p q : Path} (hq : q.isAbsolute = false) :
    (p.join q).text = p.front ++ q.text := by
  unfold join front
  simp only [hq, Bool.false_or, String.isEmpty_iff, beq_iff_eq]
  split
  · simp
  · split <;> rfl

theorem front_ne {p : Path} (h : p.text ≠ "") : p.front ≠ "" := by
  unfold front
  rw [if_neg h]
  split
  · exact h
  · simp

theorem front_join {p q : Path} (hq : q.isAbsolute = false) (hne : q.text ≠ "") :
    (p.join q).front = p.front ++ q.front := by
  have hchars : q.text.toList ≠ [] := fun h => hne (String.toList_eq_nil_iff.1 h)
  have hjoin : p.front ++ q.text ≠ "" := fun h => hne (String.append_eq_empty_iff.1 h).2
  have hlast : (p.front ++ q.text).toList.getLast? = q.text.toList.getLast? := by
    rw [String.toList_append, List.getLast?_append_of_ne_nil _ hchars]
  rw [front, text_join hq, if_neg hjoin, hlast, front.eq_def q, if_neg hne]
  split
  · rfl
  · rw [String.append_assoc]

/-- A path behind two others, one after the other. -/
theorem join_join (p : Path) {q q' : Path} (hq : q.isAbsolute = false) (hne : q.text ≠ "")
    (hq' : q'.isAbsolute = false) (hrest : (q.join q').isAbsolute = false) :
    (p.join q).join q' = p.join (q.join q') := by
  have htext : ((p.join q).join q').text = (p.join (q.join q')).text := by
    rw [text_join hq', front_join hq hne, text_join hrest, text_join hq', String.append_assoc]
  exact congrArg Path.mk htext

/-- The parts of a path inside another one stand behind those of the other. -/
theorem parts_join {p q : Path} (hq : q.IsNamed) : (p.join q).parts = p.parts ++ q.parts := by
  rw [hq.parts_eq]
  unfold join
  by_cases hempty : p.text = ""
  · have hnone : p.parts = [] := by
      obtain ⟨text⟩ := p
      cases hempty
      rfl
    simp [hempty, hnone, hq.parts_eq]
  · have hchars : p.text.toList ≠ [] := fun h => hempty (String.toList_eq_nil_iff.1 h)
    simp only [hq.isAbsolute_eq, Bool.false_or, String.isEmpty_iff, hempty, if_false]
    split
    · rename_i hlast
      obtain ⟨l, hl⟩ := List.getLast?_eq_some_iff.1 (eq_of_beq hlast)
      rw [Path.parts_eq, Path.parts_eq p]
      simp only [String.toList_append, hl, List.append_assoc, List.singleton_append]
      rw [lead_append_slash, steps_append, steps_append l]
      simp [steps, splitAtEach, partOf?]
    · rw [Path.parts_eq, Path.parts_eq p]
      have hslash : "/".toList = ['/'] := rfl
      simp only [String.toList_append, hslash, List.append_assoc, List.singleton_append]
      rw [lead_append hchars, steps_append]

/-- The last name of a path holds no slash. -/
theorem fileName?_no_slash {p : Path} {name : String} (h : p.fileName? = some name) :
    '/' ∉ name.toList := by
  have hmem : Part.name name ∈ p.parts := by
    unfold fileName? at h
    split at h
    · rename_i hlast
      cases h
      exact List.mem_of_getLast? hlast
    · cases h
  rw [parts_eq, List.mem_append] at hmem
  rcases hmem with hmem | hmem
  · unfold lead at hmem
    split at hmem
    · simp at hmem
    · split at hmem <;> simp at hmem
  · obtain ⟨piece, hpiece, hpart⟩ := List.mem_filterMap.1 hmem
    unfold partOf? at hpart
    split at hpart
    · cases hpart
    · split at hpart
      · cases hpart
      · cases hpart
        rw [String.toList_ofList]
        exact fun hslash => (mem_of_mem_piece hpiece hslash).2 rfl

end Path

end LintScan
