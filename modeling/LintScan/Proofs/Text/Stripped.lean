import LintScan.Proofs.Text.Words

/-!
# The ends of a text

What is taken off both ends of a text is what stands around the part that begins and ends with
something else.

* `stripWhere_surrounded`, `exists_stripWhere` — that part is what is left, and there always is one.
* `stripWhere_reverse` — it does not matter from which end a text is read.
* `Spaced.of_infix` — a part of a text with single spaces has single spaces too, if it does not
  begin or end with one.
-/

namespace LintScan.Text

variable {p : Char → Bool} {cs before behind : List Char}

/-! ## What is left -/

theorem dropEnd_cons_of_not {c : Char} (hc : p c = false) (cs : List Char) :
    dropEnd p (c :: cs) = c :: dropEnd p cs := by
  by_cases h : dropEnd p cs = []
  · have hall : dropEnd p (c :: cs) = dropEnd p [c] := by
      rw [dropEnd, List.reverse_eq_nil_iff, List.dropWhile_eq_nil_iff] at h
      rw [dropEnd, List.reverse_cons, List.dropWhile_append_of_pos h, dropEnd,
        List.reverse_singleton]
    rw [hall, h, dropEnd_of_last]
    rintro d ⟨⟩
    exact hc
  · exact dropEnd_append (a := [c]) h

theorem dropEnd_append_of_all (h : ∀ c ∈ behind, p c = true) (cs : List Char) :
    dropEnd p (cs ++ behind) = dropEnd p cs := by
  rw [dropEnd, List.reverse_append, List.dropWhile_append_of_pos fun c hc =>
    h c (List.mem_reverse.1 hc), dropEnd]

theorem stripWhere_surrounded (hbefore : ∀ c ∈ before, p c = true)
    (hbehind : ∀ c ∈ behind, p c = true) (hhead : ∀ c ∈ cs.head?, p c = false)
    (hlast : ∀ c ∈ cs.getLast?, p c = false) : stripWhere p (before ++ cs ++ behind) = cs := by
  rw [stripWhere, List.append_assoc, List.dropWhile_append_of_pos hbefore]
  cases cs with
  | nil =>
    rw [List.nil_append, List.dropWhile_eq_nil_iff.2 hbehind]
    rfl
  | cons c cs =>
    have hkept : (c :: cs ++ behind).dropWhile p = c :: cs ++ behind := dropWhile_of_head hhead
    rw [hkept, dropEnd_append_of_all hbehind, dropEnd_of_last hlast]

theorem head_stripWhere : ∀ c ∈ (stripWhere p cs).head?, p c = false := by
  intro c hc
  unfold stripWhere at hc
  cases hrest : cs.dropWhile p with
  | nil =>
    rw [hrest] at hc
    cases hc
  | cons d rest =>
    have hd : p d = false := by
      have hne : cs.dropWhile p ≠ [] := hrest ▸ List.cons_ne_nil d rest
      simpa [hrest] using List.head_dropWhile_not p hne
    rw [hrest, dropEnd_cons_of_not hd] at hc
    cases hc
    exact hd

theorem last_stripWhere : ∀ c ∈ (stripWhere p cs).getLast?, p c = false := by
  intro c hc
  rw [stripWhere, dropEnd_eq_rdropWhile] at hc
  have hne : (cs.dropWhile p).rdropWhile p ≠ [] := by
    intro hnil
    rw [hnil] at hc
    cases hc
  rw [List.getLast?_eq_some_getLast hne] at hc
  cases hc
  simpa using List.rdropWhile_last_not p (cs.dropWhile p) hne

/-- What is taken off stands before and behind what is left. -/
theorem exists_stripWhere (p : Char → Bool) (cs : List Char) : ∃ before behind,
    (∀ c ∈ before, p c = true) ∧ (∀ c ∈ behind, p c = true) ∧
      cs = before ++ stripWhere p cs ++ behind := by
  refine ⟨cs.takeWhile p, (cs.dropWhile p).rtakeWhile p, fun c => List.mem_takeWhile_imp,
    fun c => List.mem_rtakeWhile_imp, ?_⟩
  rw [stripWhere, dropEnd_eq_rdropWhile, List.append_assoc, List.rdropWhile_append_rtakeWhile,
    List.takeWhile_append_dropWhile]

theorem stripWhere_reverse (p : Char → Bool) (cs : List Char) :
    stripWhere p cs.reverse = (stripWhere p cs).reverse := by
  obtain ⟨before, behind, hbefore, hbehind, hcs⟩ := exists_stripWhere p cs
  have hreverse : cs.reverse = behind.reverse ++ (stripWhere p cs).reverse ++ before.reverse := by
    conv => lhs; rw [hcs]
    simp only [List.reverse_append, List.append_assoc]
  rw [hreverse]
  refine stripWhere_surrounded ?_ ?_ ?_ ?_
  · exact fun c hc => hbehind c (List.mem_reverse.1 hc)
  · exact fun c hc => hbefore c (List.mem_reverse.1 hc)
  · rw [List.head?_reverse]
    exact last_stripWhere
  · rw [List.getLast?_reverse]
    exact head_stripWhere

theorem length_stripWhere_le (p : Char → Bool) (cs : List Char) :
    (stripWhere p cs).length ≤ cs.length := by
  obtain ⟨before, behind, _, _, hcs⟩ := exists_stripWhere p cs
  conv => rhs; rw [hcs]
  simp only [List.length_append]
  omega

/-! ## Parts of a text with single spaces -/

namespace Spaced

variable {a b : List Char}

theorem reverse (h : Spaced cs) : Spaced cs.reverse := by
  induction h with
  | last hc => exact .last hc
  | char hc _ ih =>
    rw [List.reverse_cons]
    exact ih.snoc hc
  | space hc _ ih =>
    rw [List.reverse_cons, List.reverse_cons, List.append_assoc]
    exact ih.append (.last hc)

/-- What stands behind a blank begins with another character, and the blank is a space. -/
theorem behind_blank {c : Char} (h : Spaced (a ++ c :: b)) (hc : isBlank c = true) :
    c = ' ' ∧ ∃ d rest, b = d :: rest ∧ isBlank d = false := by
  generalize hcs : a ++ c :: b = cs at h
  induction h generalizing a with
  | @last d hd =>
    rcases List.append_eq_singleton_iff.1 hcs with ⟨_, h⟩ | ⟨_, h⟩
    · cases h
      rw [hc] at hd
      cases hd
    · cases h
  | @char d rest hd _ ih =>
    rcases List.append_eq_cons_iff.1 hcs with ⟨_, h⟩ | ⟨a, _, h⟩
    · cases h
      rw [hc] at hd
      cases hd
    · exact ih h.symm
  | @space d rest hd hrest ih =>
    rcases List.append_eq_cons_iff.1 hcs with ⟨_, h⟩ | ⟨a, _, h⟩
    · cases h
      rw [hc] at hd
      cases hd
    · rcases List.append_eq_cons_iff.1 h.symm with ⟨_, h⟩ | ⟨a, _, h⟩
      · cases h
        obtain ⟨e, rest, rfl⟩ := List.exists_cons_of_ne_nil hrest.ne_nil
        exact ⟨rfl, e, rest, rfl, hrest.head_not_blank e rfl⟩
      · exact ih h.symm

/-- Blanks that stand in a row are a single space. -/
theorem blanks_eq {blanks : List Char} (h : Spaced (a ++ blanks ++ b)) (hne : blanks ≠ [])
    (hblanks : ∀ c ∈ blanks, isBlank c = true) : blanks = [' '] := by
  obtain ⟨c, more, rfl⟩ := List.exists_cons_of_ne_nil hne
  rw [List.append_assoc, List.cons_append] at h
  obtain ⟨rfl, d, rest, hrest, hd⟩ := h.behind_blank (hblanks c List.mem_cons_self)
  cases more with
  | nil => rfl
  | cons e more =>
    cases hrest
    rw [hblanks d (List.mem_cons_of_mem _ List.mem_cons_self)] at hd
    cases hd

theorem of_append (h : Spaced (a ++ b)) (hne : b ≠ []) (hhead : ∀ c ∈ b.head?, isBlank c = false) :
    Spaced b := by
  have hblank : isBlank ' ' = true := by decide
  generalize hcs : a ++ b = cs at h
  induction h generalizing a with
  | last hc =>
    rcases List.append_eq_singleton_iff.1 hcs with ⟨_, rfl⟩ | ⟨_, rfl⟩
    · exact .last hc
    · exact absurd rfl hne
  | char hc hrest ih =>
    rcases List.append_eq_cons_iff.1 hcs with ⟨_, rfl⟩ | ⟨a, _, h⟩
    · exact .char hc hrest
    · exact ih h.symm
  | space hc hrest ih =>
    rcases List.append_eq_cons_iff.1 hcs with ⟨_, rfl⟩ | ⟨a, _, h⟩
    · exact .space hc hrest
    · rcases List.append_eq_cons_iff.1 h.symm with ⟨_, rfl⟩ | ⟨a, _, h⟩
      · have := hhead ' ' rfl
        rw [hblank] at this
        cases this
      · exact ih h.symm

/-- A part that neither begins nor ends with a blank. -/
theorem of_infix (h : Spaced (a ++ cs ++ b)) (hne : cs ≠ [])
    (hhead : ∀ c ∈ cs.head?, isBlank c = false) (hlast : ∀ c ∈ cs.getLast?, isBlank c = false) :
    Spaced cs := by
  have hfront : Spaced (cs ++ b) := by
    rw [List.append_assoc] at h
    refine h.of_append (List.append_ne_nil_of_left_ne_nil hne b) ?_
    rwa [List.head?_append_of_ne_nil cs hne]
  have hback := hfront.reverse
  rw [List.reverse_append] at hback
  have hcs := hback.of_append (mt List.reverse_eq_nil_iff.1 hne) (List.head?_reverse ▸ hlast)
  rw [← List.reverse_reverse cs]
  exact hcs.reverse

end Spaced

end LintScan.Text
