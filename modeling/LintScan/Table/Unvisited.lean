/-!
# Names still to be visited

A walk through names that refer to one another ends if every step enters a known name that it is not
in yet.

* `unvisited` — the number of known names that a walk has not entered.
* `unvisited_append_lt`, `unvisited_cons_lt` — entering a known name leaves fewer.
-/

namespace LintScan

/-- The number of known names that are not among those visited. -/
def unvisited (known visited : List String) : Nat := known.countP (· ∉ visited)

theorem unvisited_le {known visited more : List String} (h : ∀ x ∈ visited, x ∈ more) :
    unvisited known more ≤ unvisited known visited := by
  apply List.countP_mono_left
  intro x _ hx
  simp only [decide_eq_true_eq] at hx ⊢
  exact fun hv => hx (h x hv)

theorem unvisited_lt {known visited more : List String} {name : String}
    (h : ∀ x ∈ visited, x ∈ more) (entered : name ∈ more) (isKnown : name ∈ known)
    (fresh : name ∉ visited) : unvisited known more < unvisited known visited := by
  induction known with
  | nil => simp at isKnown
  | cons k ks ih =>
    have hle : unvisited ks more ≤ unvisited ks visited := unvisited_le h
    unfold unvisited at ih hle ⊢
    rw [List.countP_cons, List.countP_cons]
    by_cases hk : k = name
    · subst hk
      have hin : decide (k ∉ more) = false := by simpa using entered
      have hout : decide (k ∉ visited) = true := by simpa using fresh
      simp only [hin, hout, Bool.false_eq_true, if_false, if_true]
      omega
    · have hks : name ∈ ks := by
        rcases List.mem_cons.1 isKnown with e | e
        · exact absurd e.symm hk
        · exact e
      have hlt := ih hks
      by_cases hm : k ∈ more
      · have hin : decide (k ∉ more) = false := by simpa using hm
        simp only [hin, Bool.false_eq_true, if_false]
        omega
      · have hv : k ∉ visited := fun e => hm (h k e)
        have hin : decide (k ∉ more) = true := by simpa using hm
        have hout : decide (k ∉ visited) = true := by simpa using hv
        simp only [hin, hout, if_true]
        omega

theorem unvisited_append_lt {known visited : List String} {name : String}
    (isKnown : name ∈ known) (fresh : name ∉ visited) :
    unvisited known (visited ++ [name]) < unvisited known visited :=
  unvisited_lt (fun _ hx => List.mem_append_left _ hx) (by simp) isKnown fresh

theorem unvisited_cons_lt {known visited : List String} {name : String}
    (isKnown : name ∈ known) (fresh : name ∉ visited) :
    unvisited known (name :: visited) < unvisited known visited :=
  unvisited_lt (fun _ hx => List.mem_cons_of_mem _ hx) (by simp) isKnown fresh

theorem unvisited_cons_of_not_mem {known visited : List String} {name : String}
    (h : name ∉ known) : unvisited known (name :: visited) = unvisited known visited := by
  apply List.countP_congr
  intro x hx
  have hne : x ≠ name := fun e => h (e ▸ hx)
  simp [hne]

end LintScan
