import LintScan.Proofs.Files.Path

/-!
# The path above a path

The path above another one is found on its text, from the end: slashes and dots that stand for
nothing are taken off, then the last piece.

* `Path.textParts_trimTail` — what is taken off stands for nothing.
* `Path.parts_parent?`, `Path.parts_of_parent?_eq_none` — the path above lacks just the last part,
  and only the empty path and the root have none above them.
* `Path.isAbsolute_parent?` — a path and the one above it start at the same place.
-/

namespace LintScan.Path

open Text

/-! ## The head of a path -/

theorem root_notMem_steps (cs : List Char) : .root ∉ steps cs := by
  intro hmem
  obtain ⟨piece, _, hpart⟩ := List.mem_filterMap.1 hmem
  unfold partOf? at hpart
  split at hpart
  · cases hpart
  · split at hpart <;> cases hpart

theorem root_mem_parts_iff {p : Path} : .root ∈ p.parts ↔ p.isAbsolute = true := by
  rw [parts_eq, List.mem_append, or_iff_left (root_notMem_steps _)]
  unfold lead isAbsolute
  cases p.text.toList with
  | nil => simp [splitAtEach]
  | cons c cs =>
    by_cases hc : c = '/'
    · simp [hc]
    · simp [hc]

/-! ## The end of a path -/

/-- The parts that a text stands for. -/
def textParts (cs : List Char) : List Part := lead cs ++ steps cs

theorem parts_eq_textParts (p : Path) : p.parts = textParts p.text.toList := parts_eq p

theorem textParts_append_slash {cs : List Char} (h : cs ≠ []) :
    textParts (cs ++ ['/']) = textParts cs := by
  rw [textParts, lead_append h, steps_append]
  simp [textParts, steps, splitAtEach, partOf?]

theorem textParts_append_slash_dot {cs : List Char} (h : cs ≠ []) :
    textParts (cs ++ ['/', '.']) = textParts cs := by
  rw [textParts, lead_append h, steps_append]
  simp [textParts, steps, splitAtEach, partOf?]

/-- Slashes and dots at the end stand for nothing. -/
theorem textParts_trimTail (cs : List Char) :
    textParts (trimTail cs).reverse = textParts cs.reverse := by
  fun_induction trimTail cs with
  | case1 rest hempty => rw [List.isEmpty_iff.1 hempty]
  | case2 rest hrest ih =>
    rw [ih, List.reverse_cons, textParts_append_slash]
    simpa using hrest
  | case3 rest hempty =>
    rw [List.isEmpty_iff.1 hempty]
    rfl
  | case4 rest hrest ih =>
    have hdot : ('.' :: '/' :: rest).reverse = rest.reverse ++ ['/', '.'] := by simp
    rw [ih, hdot, textParts_append_slash_dot]
    simpa using hrest
  | case5 => rfl

/-- What is left has no slash at its end, and no dot behind one. -/
theorem trimTail_ne {cs : List Char} {c : Char} {rest : List Char} (h : trimTail cs = c :: rest)
    (hroot : trimTail cs ≠ ['/']) : c ≠ '/' ∧ ∀ more, c :: rest ≠ '.' :: '/' :: more := by
  fun_induction trimTail cs with
  | case1 => exact absurd rfl hroot
  | case2 _ _ ih => exact ih h hroot
  | case3 => exact absurd rfl hroot
  | case4 _ _ ih => exact ih h hroot
  | case5 cs hslash hdot =>
    subst h
    exact ⟨fun hc => hslash rest (by rw [hc]), hdot⟩

/-! ## The last part -/

/-- A single piece stands for one part. -/
theorem exists_textParts_piece {piece : List Char} (hne : piece ≠ []) (hslash : '/' ∉ piece) :
    ∃ last, last ≠ .root ∧ textParts piece = [last] := by
  have hhead : piece.head? ≠ some '/' := fun h => hslash (List.mem_of_head? h)
  unfold textParts lead steps
  rw [if_neg hhead, splitAtEach_of_not_mem hslash]
  by_cases hdot : piece = ['.']
  · exact ⟨.here, by simp, by simp [hdot, partOf?]⟩
  · by_cases hdots : piece = ['.', '.']
    · exact ⟨.up, by simp, by simp [hdots, partOf?]⟩
    · exact ⟨.name (String.ofList piece), by simp, by simp [partOf?, hne, hdot, hdots]⟩

/-- The last piece behind a slash stands for one part, unless it is a dot. -/
theorem exists_textParts_append {cs piece : List Char} (hne : piece ≠ []) (hdot : piece ≠ ['.'])
    (hslash : '/' ∉ piece) :
    ∃ last, last ≠ .root ∧ textParts (cs ++ '/' :: piece) = textParts (cs ++ ['/']) ++ [last] := by
  obtain ⟨last, hroot, hlast⟩ := exists_textParts_piece hne hslash
  have hnone : lead piece = [] := by
    unfold lead
    rw [if_neg fun h => hslash (List.mem_of_head? h), splitAtEach_of_not_mem hslash]
    exact if_neg fun h => hdot (Option.some.inj h)
  rw [textParts, hnone, List.nil_append] at hlast
  refine ⟨last, hroot, ?_⟩
  rw [textParts, lead_append_slash cs piece, steps_append, hlast, textParts, steps_append]
  simp [steps, splitAtEach, partOf?]

theorem parts_eq_trimTail (p : Path) :
    p.parts = textParts (trimTail p.text.toList.reverse).reverse := by
  rw [textParts_trimTail, List.reverse_reverse, parts_eq_textParts]

/-- **The path above a path lacks just its last part.** -/
theorem parts_parent? {p q : Path} (h : p.parent? = some q) :
    ∃ last, last ≠ .root ∧ p.parts = q.parts ++ [last] := by
  rw [parts_eq_trimTail p]
  unfold parent? at h
  generalize htrim : trimTail p.text.toList.reverse = cs at h
  cases cs with
  | nil => cases h
  | cons c rest =>
    by_cases hroot : c :: rest = ['/']
    · rw [hroot] at h
      cases h
    · obtain ⟨hc, hdot⟩ := trimTail_ne htrim (htrim ▸ hroot)
      obtain rfl : _ = q := by
        simpa [hroot] using h
      rw [parts_eq_textParts, String.toList_ofList, textParts_trimTail]
      -- The last piece, reversed, and what stands before it.
      have hsplit := List.takeWhile_append_dropWhile (p := (· != '/')) (l := c :: rest)
      have hpiece : ((c :: rest).takeWhile (· != '/')).reverse ≠ [] := by simp [hc]
      have hslash : '/' ∉ ((c :: rest).takeWhile (· != '/')).reverse := by
        intro hmem
        have := List.all_eq_true.1 List.all_takeWhile _ (List.mem_reverse.1 hmem)
        simp at this
      generalize (c :: rest).takeWhile (· != '/') = piece at hsplit hpiece hslash
      cases hfront : (c :: rest).dropWhile (· != '/') with
      | nil =>
        rw [hfront, List.append_nil] at hsplit
        rw [← hsplit]
        exact exists_textParts_piece hpiece hslash
      | cons d before =>
        have hd : d = '/' := by
          have := List.head_dropWhile_not (p := (· != '/')) (l := c :: rest) (by rw [hfront]; nofun)
          simpa [hfront] using this
        subst hd
        rw [hfront] at hsplit
        have hdots : piece.reverse ≠ ['.'] := by
          intro hone
          rw [List.reverse_eq_cons_iff] at hone
          exact hdot before (by rw [← hsplit, hone]; rfl)
        rw [← hsplit, List.reverse_append, List.reverse_cons, List.append_assoc]
        exact exists_textParts_append hpiece hdots hslash

/-- Only the empty path and the root have no path above them. -/
theorem parts_of_parent?_eq_none {p : Path} (h : p.parent? = none) :
    p.parts = [] ∨ p.parts = [.root] := by
  rw [parts_eq_trimTail p]
  unfold parent? at h
  split at h
  · rename_i hnil
    rw [hnil]
    exact .inl rfl
  · rename_i hroot
    rw [hroot]
    exact .inr rfl
  · cases h

theorem ancestors_of_top {p : Path} (h : p.parent? = none) : p.ancestors = [p] := by
  rw [ancestors]
  split
  · rfl
  · rename_i q hq
    rw [h] at hq
    cases hq

theorem ancestors_of_parent? {p q : Path} (h : p.parent? = some q) :
    p.ancestors = p :: q.ancestors := by
  rw [ancestors]
  split
  · rename_i hq
    rw [h] at hq
    cases hq
  · rename_i q' hq
    obtain rfl := Option.some.inj (hq.symm.trans h)
    rfl

/-- A path and the one above it start at the same place. -/
theorem isAbsolute_parent? {p q : Path} (h : p.parent? = some q) :
    q.isAbsolute = p.isAbsolute := by
  obtain ⟨last, hroot, hparts⟩ := parts_parent? h
  rw [Bool.eq_iff_iff, ← root_mem_parts_iff, ← root_mem_parts_iff, hparts]
  simp [hroot.symm]

end LintScan.Path
