import LintScan.Regex.Pattern.Read

/-!
# Reading a pattern within the limits

What a pattern stands for is read first and held against the limits on depth and size then.

* `nodeOf`, `Node.checked` — the two halves of `ofPattern`.
* `ofPattern_eq_ok_iff`, `ofPattern_of_error` — what they make together.
* `ofPattern_of_limits` — a pattern that is read and not refused for its depth or size stands for
  what was read.
-/

namespace LintScan.Regex

/-- The state before a pattern. -/
def Reader.start : Reader := ⟨{}, [], [], [], [], 0⟩

/-- The expression of a pattern with its depth, before it is held against the limits. -/
def nodeOf (pattern : String) : Except PatternError Node :=
  Reader.start.run (pattern.toList.length + 1) pattern.toList

/-- The expression, if it keeps the limits. -/
def Node.checked (node : Node) : Except PatternError Regex :=
  if node.depth > depthLimit then .error .tooDeep
  else if node.regex.size > sizeLimit then .error .tooLarge
  else .ok node.regex

theorem Node.checked_eq_ok_iff {node : Node} {regex : Regex} : node.checked = .ok regex ↔
    (node.depth ≤ depthLimit ∧ node.regex.size ≤ sizeLimit) ∧ node.regex = regex := by
  unfold checked
  split
  · simp
    omega
  · split
    · simp
      omega
    · simp
      omega

theorem ofPattern_eq (pattern : String) : ofPattern pattern = nodeOf pattern >>= Node.checked := rfl

section Patterns

variable (pattern : String) {node : Node}

theorem ofPattern_eq_ok_iff {regex : Regex} : ofPattern pattern = .ok regex ↔
    ∃ node, nodeOf pattern = .ok node ∧ node.checked = .ok regex := by
  rw [ofPattern_eq]
  cases nodeOf pattern with
  | error e => exact ⟨nofun, nofun⟩
  | ok node => simp [bind, Except.bind]

theorem ofPattern_of_error {e : PatternError} (h : nodeOf pattern = .error e) :
    ofPattern pattern = .error e := by
  rw [ofPattern_eq, h]
  rfl

/-- A shallow pattern is not refused for its depth. -/
theorem ofPattern_ne_tooDeep (h : nodeOf pattern = .ok node) (hdepth : node.depth ≤ depthLimit) :
    ofPattern pattern ≠ .error .tooDeep := by
  rw [ofPattern_eq, h]
  show node.checked ≠ _
  unfold Node.checked
  rw [if_neg (Nat.not_lt.2 hdepth)]
  split <;> nofun

/-- What is read within the limits is the expression for the pattern. -/
theorem ofPattern_of_limits (h : nodeOf pattern = .ok node)
    (deep : ofPattern pattern ≠ .error .tooDeep) (large : ofPattern pattern ≠ .error .tooLarge) :
    ofPattern pattern = .ok node.regex := by
  rw [ofPattern_eq, h] at deep large ⊢
  change node.checked ≠ _ at deep large
  show node.checked = _
  unfold Node.checked at deep large ⊢
  split at deep
  · exact absurd rfl deep
  · rename_i hdepth
    rw [if_neg hdepth] at large ⊢
    split at large
    · exact absurd rfl large
    · rename_i hsize
      rw [if_neg hsize]

end Patterns

end LintScan.Regex
