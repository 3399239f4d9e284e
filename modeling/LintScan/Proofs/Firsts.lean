import Mathlib.Data.List.Nodup

/-!
# First occurrences

Names that are met more than once count where they are met first. `List.eraseDups` keeps these
occurrences in their order.

* `eraseDups_snoc` — a name that comes last counts if it is new.
* `eraseDups_of_nodup`, `nodup_eraseDups` — a list without repetitions is its own list of first
  occurrences, and no other list is one.
* `eraseDups_filter` — names may be left out before or after.
-/

namespace LintScan

theorem eraseDups_snoc (met : List String) (n : String) :
    (met ++ [n]).eraseDups = if n ∈ met.eraseDups then met.eraseDups else met.eraseDups ++ [n] := by
  rw [List.eraseDups_append]
  split
  · rename_i h
    rw [List.mem_eraseDups] at h
    simp [List.removeAll, h]
  · rename_i h
    rw [List.mem_eraseDups] at h
    simp [List.removeAll, h, List.eraseDups_cons]

theorem eraseDups_of_nodup {names : List String} (h : names.Nodup) : names.eraseDups = names := by
  induction names with
  | nil => rfl
  | cons n names ih =>
    rw [List.nodup_cons] at h
    have hn : names.filter (fun m => !m == n) = names := by
      rw [List.filter_eq_self]
      intro m hm
      have hmn : m ≠ n := fun e => h.1 (e ▸ hm)
      simpa using hmn
    rw [List.eraseDups_cons, hn, ih h.2]

theorem nodup_eraseDups : ∀ names : List String, names.eraseDups.Nodup
  | [] => List.nodup_nil
  | n :: names => by
    rw [List.eraseDups_cons, List.nodup_cons, List.mem_eraseDups]
    refine ⟨?_, nodup_eraseDups _⟩
    intro hn
    simpa using (List.mem_filter.1 hn).2
termination_by names => names.length
decreasing_by
  have := List.length_filter_le (fun m => !m == n) names
  simp only [List.length_cons]
  omega

theorem eraseDups_filter (p : String → Bool) :
    ∀ names : List String, (names.filter p).eraseDups = names.eraseDups.filter p
  | [] => rfl
  | n :: names => by
    have ih := eraseDups_filter p (names.filter fun m => !m == n)
    have hcomm : (names.filter p).filter (fun m => !m == n) =
        (names.filter fun m => !m == n).filter p := List.filter_comm ..
    by_cases hn : p n = true
    · rw [List.filter_cons_of_pos hn, List.eraseDups_cons, List.eraseDups_cons,
        List.filter_cons_of_pos hn, hcomm, ih]
    · have hgone : (names.filter p).filter (fun m => !m == n) = names.filter p := by
        rw [List.filter_eq_self]
        intro m hm
        have hmn : m ≠ n := by
          rintro rfl
          exact hn (List.mem_filter.1 hm).2
        simpa using hmn
      rw [List.filter_cons_of_neg hn, List.eraseDups_cons, List.filter_cons_of_neg hn, ← ih,
        ← hcomm, hgone]
termination_by names => names.length
decreasing_by
  have := List.length_filter_le (fun m => !m == n) names
  simp only [List.length_cons]
  omega

end LintScan
