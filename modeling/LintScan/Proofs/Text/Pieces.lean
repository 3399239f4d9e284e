import LintScan.Text.Pieces
import Mathlib.Data.List.Basic

/-!
# Cutting and searching texts

* `splitAtEach_append`, `exists_splitAtEach_glue` — the pieces of two texts with a separator between
  them, or with none at the seam.
* `splitAtEach_eq_pair_iff` — two pieces are the two sides of the only separator.
* `cutAt?_append` — a text is cut at the first place where the separator stands.
* `occursInChars_iff` — a text holds another one as consecutive characters.
* `infix_append_cons_iff` — where a character stands that the other text does not have, it lies on
  one side of it.
-/

namespace LintScan.Text

/-! ## Pieces -/

section Pieces

variable {sep : Char}

theorem splitAtEach_ne_nil (sep : Char) (cs : List Char) : splitAtEach sep cs ≠ [] := by
  cases cs with
  | nil => exact List.cons_ne_nil _ _
  | cons c cs =>
    unfold splitAtEach
    split
    · exact List.cons_ne_nil _ _
    · split <;> exact List.cons_ne_nil _ _

theorem splitAtEach_cons_of_ne {c : Char} (h : c ≠ sep) {cs piece : List Char}
    {pieces : List (List Char)} (hcs : splitAtEach sep cs = piece :: pieces) :
    splitAtEach sep (c :: cs) = (c :: piece) :: pieces := by
  rw [splitAtEach, if_neg h, hcs]

/-- The pieces of two texts with a separator between them. -/
theorem splitAtEach_append (sep : Char) (a b : List Char) :
    splitAtEach sep (a ++ sep :: b) = splitAtEach sep a ++ splitAtEach sep b := by
  induction a with
  | nil => simp [splitAtEach]
  | cons c a ih =>
    by_cases hc : c = sep
    · simp only [List.cons_append, splitAtEach, if_pos hc, ih]
    · obtain ⟨piece, pieces, h⟩ := List.exists_cons_of_ne_nil (splitAtEach_ne_nil sep a)
      rw [h, List.cons_append] at ih
      rw [List.cons_append, splitAtEach_cons_of_ne hc ih, splitAtEach_cons_of_ne hc h,
        List.cons_append]

/-- The pieces of two texts with no separator at the seam: the last piece of the first text goes on
in the first one of the second text. -/
theorem exists_splitAtEach_glue (sep : Char) (a b : List Char) :
    ∃ before last first after, splitAtEach sep a = before ++ [last] ∧
      splitAtEach sep b = first :: after ∧
      splitAtEach sep (a ++ b) = before ++ (last ++ first) :: after := by
  obtain ⟨first, after, hb⟩ := List.exists_cons_of_ne_nil (splitAtEach_ne_nil sep b)
  induction a with
  | nil => exact ⟨[], [], first, after, rfl, hb, hb⟩
  | cons c a ih =>
    obtain ⟨before, last, first, after, ha, hb, hab⟩ := ih
    by_cases hc : c = sep
    · refine ⟨[] :: before, last, first, after, ?_, hb, ?_⟩
      · rw [splitAtEach, if_pos hc, ha, List.cons_append]
      · rw [List.cons_append, splitAtEach, if_pos hc, hab, List.cons_append]
    · cases before with
      | nil => exact ⟨[], c :: last, first, after, splitAtEach_cons_of_ne hc ha, hb,
          splitAtEach_cons_of_ne hc hab⟩
      | cons piece before => exact ⟨(c :: piece) :: before, last, first, after,
          splitAtEach_cons_of_ne hc ha, hb, splitAtEach_cons_of_ne hc hab⟩

theorem splitAtEach_of_not_mem {cs : List Char} (h : sep ∉ cs) : splitAtEach sep cs = [cs] := by
  induction cs with
  | nil => rfl
  | cons c cs ih =>
    rw [List.mem_cons, not_or] at h
    exact splitAtEach_cons_of_ne (Ne.symm h.1) (ih h.2)

/-- A piece is made of characters of the text, and none of them is the separator. -/
theorem mem_of_mem_piece {cs piece : List Char} (h : piece ∈ splitAtEach sep cs) {c : Char}
    (hc : c ∈ piece) : c ∈ cs ∧ c ≠ sep := by
  induction cs generalizing piece with
  | nil =>
    obtain rfl := List.mem_singleton.1 h
    cases hc
  | cons d cs ih =>
    obtain ⟨first, rest, hcs⟩ := List.exists_cons_of_ne_nil (splitAtEach_ne_nil sep cs)
    rw [hcs] at ih
    have hlater : ∀ piece ∈ first :: rest, c ∈ piece → c ∈ d :: cs ∧ c ≠ sep := fun piece hp hc =>
      ⟨List.mem_cons_of_mem d (ih hp hc).1, (ih hp hc).2⟩
    by_cases hd : d = sep
    · rw [splitAtEach, if_pos hd, hcs] at h
      rcases List.mem_cons.1 h with rfl | h
      · cases hc
      · exact hlater piece h hc
    · rw [splitAtEach_cons_of_ne hd hcs] at h
      rcases List.mem_cons.1 h with rfl | h
      · rcases List.mem_cons.1 hc with rfl | hc
        · exact ⟨List.mem_cons_self, hd⟩
        · exact hlater first List.mem_cons_self hc
      · exact hlater piece (List.mem_cons_of_mem first h) hc

theorem length_splitAtEach (sep : Char) (cs : List Char) :
    (splitAtEach sep cs).length = cs.count sep + 1 := by
  induction cs with
  | nil => rfl
  | cons c cs ih =>
    by_cases hc : c = sep
    · rw [splitAtEach, if_pos hc, List.length_cons, ih, hc, List.count_cons_self]
    · obtain ⟨piece, pieces, hcs⟩ := List.exists_cons_of_ne_nil (splitAtEach_ne_nil sep cs)
      rw [splitAtEach_cons_of_ne hc hcs, List.length_cons, List.count_cons_of_ne hc, ← ih, hcs,
        List.length_cons]

theorem splitAtEach_eq_pair_iff {cs a b : List Char} :
    splitAtEach sep cs = [a, b] ↔ cs = a ++ sep :: b ∧ sep ∉ a ∧ sep ∉ b := by
  constructor
  · intro h
    have hcount : cs.count sep = 1 := by
      have hlength := length_splitAtEach sep cs
      rw [h] at hlength
      exact (Nat.succ.inj hlength).symm
    obtain ⟨front, rest, rfl, hfront⟩ :=
      List.eq_append_cons_of_mem (List.count_pos_iff.1 (hcount ▸ Nat.one_pos))
    have hrest : sep ∉ rest := by
      rw [List.count_append, List.count_cons_self] at hcount
      exact List.count_eq_zero.1 (by omega)
    rw [splitAtEach_append, splitAtEach_of_not_mem hfront, splitAtEach_of_not_mem hrest] at h
    cases h
    exact ⟨rfl, hfront, hrest⟩
  · rintro ⟨rfl, ha, hb⟩
    rw [splitAtEach_append, splitAtEach_of_not_mem ha, splitAtEach_of_not_mem hb,
      List.singleton_append]

end Pieces

/-! ## The first occurrence -/

theorem cutAt?_append {sep : Char} {front : List Char} (h : sep ∉ front) (rest : List Char) :
    cutAt? sep (front ++ sep :: rest) = some (front, rest) := by
  induction front with
  | nil => simp [cutAt?]
  | cons c front ih =>
    have hc : c ≠ sep := fun heq => h (heq ▸ List.mem_cons_self)
    have hfront : sep ∉ front := fun hmem => h (List.mem_cons_of_mem c hmem)
    rw [List.cons_append, cutAt?, if_neg hc, ih hfront]
    rfl

/-! ## Occurrences -/

theorem afterLead?_eq_some_iff {lead cs rest : List Char} :
    afterLead? lead cs = some rest ↔ cs = lead ++ rest := by
  fun_induction afterLead? lead cs with
  | case1 cs => simp
  | case2 => simp
  | case3 c lead cs ih => rw [ih, List.cons_append, List.cons.injEq, and_iff_right rfl]
  | case4 l lead c cs hne => simp [Ne.symm hne]

theorem beginsWith_iff {lead cs : List Char} : beginsWith lead cs = true ↔ lead <+: cs := by
  unfold beginsWith
  rw [Option.isSome_iff_exists]
  exact exists_congr fun rest => afterLead?_eq_some_iff.trans eq_comm

theorem occursInChars_iff {part cs : List Char} : occursInChars part cs = true ↔ part <:+: cs := by
  induction cs with
  | nil => rw [occursInChars, beginsWith_iff, List.prefix_nil, List.infix_nil]
  | cons c cs ih =>
    rw [occursInChars, Bool.or_eq_true, beginsWith_iff, ih, List.infix_cons_iff]

theorem infix_append_cons_iff {part front : List Char} {sep : Char} (h : sep ∉ part)
    (rest : List Char) :
    part <:+: front ++ sep :: rest ↔ part <:+: front ∨ part <:+: rest := by
  have hbegins : ∀ {lead : List Char}, sep ∉ lead → lead <+: sep :: rest → lead = [] := by
    intro lead hlead hbegin
    rcases List.prefix_cons_iff.1 hbegin with hnil | ⟨tail, rfl, _⟩
    · exact hnil
    · exact absurd List.mem_cons_self hlead
  rw [List.infix_append_iff, List.infix_cons_iff]
  constructor
  · rintro (hfront | (hbegin | hrest) | ⟨l, lead, rfl, hsuffix, hbegin⟩)
    · exact .inl hfront
    · exact .inl (hbegins h hbegin ▸ List.nil_infix)
    · exact .inr hrest
    · obtain rfl := hbegins (fun hmem => h (List.mem_append_right l hmem)) hbegin
      exact .inl (l.append_nil.symm ▸ hsuffix.isInfix)
  · rintro (hfront | hrest)
    · exact .inl hfront
    · exact .inr (.inl (.inr hrest))

end LintScan.Text
