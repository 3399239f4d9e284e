import LintScan.Schedule.Order

/-!
# What plugins need

* `Dependencies.closure` — some plugins with everything that they need directly or indirectly. A
  plugin that is not known needs nothing.
-/

namespace LintScan.Dependencies

/-- What a plugin needs directly. -/
def needs (deps : Dependencies) (name : String) : List String := (deps.get? name).getD []

/-- The plugins `found`, with those of `pending` and everything that they need. -/
def closeOver (deps : Dependencies) (found : List String) : List String → List String
  | [] => found
  | name :: rest =>
    if _fresh : name ∈ found then closeOver deps found rest
    else closeOver deps (name :: found) (deps.needs name ++ rest)
termination_by pending => (unvisited deps.keys found, pending.length)
decreasing_by
  · apply Prod.Lex.right
    simp
  · by_cases known : name ∈ deps.keys
    · exact Prod.Lex.left _ _ (unvisited_cons_lt known _fresh)
    · have none_needed : deps.needs name = [] := by
        unfold needs
        cases h : deps.get? name with
        | none => rfl
        | some _ => exact absurd (SortedTable.mem_keys_of_get? h) known
      have same : unvisited deps.keys (name :: found) = unvisited deps.keys found :=
        unvisited_cons_of_not_mem known
      rw [same, none_needed]
      apply Prod.Lex.right
      simp

/-- The plugins with everything that they need. -/
def closure (deps : Dependencies) (names : List String) : List String := closeOver deps [] names

end LintScan.Dependencies
