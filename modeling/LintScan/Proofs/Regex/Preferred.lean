import LintScan.Regex.Capture

/-!
# The preferred match

An expression is walked in order of preference until what stands behind it matches as well. The
forms of lines are sequences of characters and runs of characters, so this file says which run is
taken where several would match:

* `walk_seqs_cons`, `walkAll` — a sequence is walked part by part.
* `walk_char_eq_some_iff`, `exists_run_of_walk` — where a walk succeeds, the text begins with the
  character or with a run.
* `walk_run_greedy`, `walk_run_lazy` — the run that is taken: the longest one, or the shortest one,
  behind which the rest matches.
* `walk_group`, `walk_group_greedy`, `walk_group_lazy`, `exists_run_of_walk_group` — the same for
  what is captured; `exists_of_walk_group` — some run is taken where the rest matches behind one.
* `walk_optional`, `walk_optional_taken`, `walk_optional_missing` — parts that may be missing.
-/

namespace LintScan.Regex

variable {set : CharSet} {b : Option Char} {c : Char} {cs head tail : List Char}
  {groups r : Captures} {k : Continuation}

@[simp] theorem orTry_some (r : Captures) (second : Unit → Option Captures) :
    orTry (some r) second = some r := rfl

@[simp] theorem orTry_none (second : Unit → Option Captures) : orTry none second = second () := rfl

/-! ## Sequences and single characters -/

theorem walk_seqs_cons (part : Regex) (parts : List Regex) (at_ : Cursor) :
    walk (seqs (part :: parts)) at_ groups k =
      walk part at_ groups fun next groups => walk (seqs parts) next groups k := by
  cases parts <;> rfl

/-- The groups of the preferred match of some parts one after the other. -/
def walkAll (parts : List Regex) (at_ : Cursor) (groups : Captures) : Option Captures :=
  walk (seqs parts) at_ groups fun _ groups => some groups

theorem walkAll_cons (part : Regex) (parts : List Regex) (at_ : Cursor) :
    walkAll (part :: parts) at_ groups =
      walk part at_ groups fun next groups => walkAll parts next groups :=
  walk_seqs_cons part parts at_

theorem walk_char_cons (hc : set.has c = true) :
    walk (.char set) ⟨b, c :: cs⟩ groups k = k ⟨some c, cs⟩ groups := by
  simp [walk, hc]

theorem walk_char_eq_some_iff : walk (.char set) ⟨b, cs⟩ groups k = some r ↔
    ∃ c rest, cs = c :: rest ∧ set.has c = true ∧ k ⟨some c, rest⟩ groups = some r := by
  cases cs with
  | nil => simp [walk]
  | cons c rest =>
    by_cases hc : set.has c = true
    · rw [walk_char_cons hc]
      exact ⟨fun hk => ⟨c, rest, rfl, hc, hk⟩, fun ⟨_, _, heq, _, hk⟩ => by cases heq; exact hk⟩
    · simp only [walk, hc]
      exact ⟨nofun, fun ⟨_, _, heq, hc', _⟩ => by cases heq; exact absurd hc' hc⟩

/-! ## Runs of characters -/

/-- Tries what stands behind each run of characters of a set, the longest run first or last. -/
def tryRuns (greedy : Bool) (set : CharSet) (k : Cursor → Option Captures) :
    Option Char → List Char → Option Captures
  | b, [] => k ⟨b, []⟩
  | b, c :: cs =>
    if set.has c then
      if greedy then orTry (tryRuns greedy set k (some c) cs) fun _ => k ⟨b, c :: cs⟩
      else orTry (k ⟨b, c :: cs⟩) fun _ => tryRuns greedy set k (some c) cs
    else k ⟨b, c :: cs⟩

theorem orTry_none_right (first : Option Captures) : orTry first (fun _ => none) = first := by
  cases first <;> rfl

theorem iterate_char_eq_tryRuns (greedy : Bool) {fuel : Nat} (hfuel : cs.length < fuel) :
    iterate (walk (.char set)) greedy fuel 0 none ⟨b, cs⟩ groups k =
      tryRuns greedy set (k · groups) b cs := by
  induction cs generalizing b fuel with
  | nil =>
    obtain _ | fuel := fuel
    · exact absurd hfuel (Nat.not_lt_zero _)
    · cases greedy
      · exact orTry_none_right _
      · rfl
  | cons c cs ih =>
    obtain _ | fuel := fuel
    · exact absurd hfuel (Nat.not_lt_zero _)
    · have hrest := ih (b := some c) (Nat.lt_of_succ_lt_succ hfuel)
      by_cases hc : set.has c = true
      · cases greedy <;> simp [iterate, tryRuns, walk_char_cons hc, hc, hrest]
      · cases greedy <;> simp [iterate, tryRuns, walk, hc, orTry_none_right]

/-- A run has at least one character; behind it the others are tried. -/
theorem walk_run (greedy : Bool) :
    walk (.iter (.char set) 1 none greedy) ⟨b, cs⟩ groups k =
      walk (.char set) ⟨b, cs⟩ groups fun next groups =>
        tryRuns greedy set (k · groups) next.before next.rest := by
  have hfirst : walk (.iter (.char set) 1 none greedy) ⟨b, cs⟩ groups k =
      walk (.char set) ⟨b, cs⟩ groups fun next groups =>
        iterate (walk (.char set)) greedy (cs.length + 1) 0 none next groups k := rfl
  rw [hfirst]
  cases cs with
  | nil => rfl
  | cons c cs =>
    by_cases hc : set.has c = true
    · rw [walk_char_cons hc, walk_char_cons hc]
      exact iterate_char_eq_tryRuns greedy (Nat.lt_succ_of_lt (Nat.lt_succ_self cs.length))
    · simp [walk, hc]

section TryRuns

variable {greedy : Bool} {k : Cursor → Option Captures} {run rest : List Char}

theorem exists_run_of_tryRuns (h : tryRuns greedy set k b cs = some r) :
    ∃ b' run rest, (∀ c ∈ run, set.has c = true) ∧ cs = run ++ rest ∧ k ⟨b', rest⟩ = some r := by
  induction cs generalizing b with
  | nil => exact ⟨b, [], [], nofun, rfl, h⟩
  | cons c cs ih =>
    have hstop (hk : k ⟨b, c :: cs⟩ = some r) :
        ∃ b' run rest, (∀ d ∈ run, set.has d = true) ∧ c :: cs = run ++ rest ∧
          k ⟨b', rest⟩ = some r := ⟨b, [], c :: cs, nofun, rfl, hk⟩
    by_cases hc : set.has c = true
    · have hgo (hk : tryRuns greedy set k (some c) cs = some r) :
          ∃ b' run rest, (∀ d ∈ run, set.has d = true) ∧ c :: cs = run ++ rest ∧
            k ⟨b', rest⟩ = some r := by
        obtain ⟨b', run, rest, hrun, rfl, hend⟩ := ih hk
        exact ⟨b', c :: run, rest, List.forall_mem_cons.2 ⟨hc, hrun⟩, rfl, hend⟩
      cases greedy with
      | true =>
        cases hmore : tryRuns true set k (some c) cs with
        | some r' =>
          simp only [tryRuns, hc, hmore, if_true, orTry_some] at h
          exact hgo (hmore.trans h)
        | none =>
          simp only [tryRuns, hc, hmore, if_true, orTry_none] at h
          exact hstop h
      | false =>
        cases hk : k ⟨b, c :: cs⟩ with
        | some r' =>
          simp only [tryRuns, hc, hk, if_true, orTry_some] at h
          exact hstop (hk.trans h)
        | none =>
          simp only [tryRuns, hc, hk, if_true, orTry_none] at h
          exact hgo h
    · simp only [tryRuns, hc] at h
      exact hstop h

theorem tryRuns_eq_none (h : ∀ b' run rest, (∀ c ∈ run, set.has c = true) → cs = run ++ rest →
    k ⟨b', rest⟩ = none) : tryRuns greedy set k b cs = none := by
  refine Option.eq_none_iff_forall_ne_some.2 fun r hr => ?_
  obtain ⟨b', run, rest, hrun, hcs, hk⟩ := exists_run_of_tryRuns hr
  rw [h b' run rest hrun hcs] at hk
  cases hk

/-- Some run is taken where the rest matches behind one of them. -/
theorem exists_of_tryRuns (hrun : ∀ c ∈ run, set.has c = true)
    (hk : ∀ b', ∃ r, k ⟨b', rest⟩ = some r) :
    ∃ r, tryRuns greedy set k b (run ++ rest) = some r := by
  have hfirst {first second : Option Captures} (h : ∃ r, first = some r) :
      ∃ r, orTry first (fun _ => second) = some r := by
    obtain ⟨r, rfl⟩ := h
    exact ⟨r, rfl⟩
  have hsecond {first second : Option Captures} (h : ∃ r, second = some r) :
      ∃ r, orTry first (fun _ => second) = some r := by
    cases first with
    | none => exact h
    | some r => exact ⟨r, rfl⟩
  induction run generalizing b with
  | nil =>
    cases rest with
    | nil => exact hk b
    | cons d rest =>
      by_cases hd : set.has d = true
      · cases greedy <;> simp only [List.nil_append, tryRuns, hd, if_true]
        · exact hfirst (hk b)
        · exact hsecond (hk b)
      · rw [List.nil_append, tryRuns, if_neg hd]
        exact hk b
  | cons c run ih =>
    have hc := hrun c List.mem_cons_self
    have htail := ih (b := some c) fun d hd => hrun d (List.mem_cons_of_mem c hd)
    cases greedy <;> simp only [List.cons_append, tryRuns, hc, if_true]
    · exact hsecond htail
    · exact hfirst htail

/-- If nothing matches behind a longer run, the greedy choice falls on this one. -/
theorem tryRuns_greedy (hrun : ∀ c ∈ run, set.has c = true) (hk : ∀ b', k ⟨b', rest⟩ = some r)
    (hlonger : ∀ b' more rest', more ≠ [] → (∀ c ∈ more, set.has c = true) →
      rest = more ++ rest' → k ⟨b', rest'⟩ = none) :
    tryRuns true set k b (run ++ rest) = some r := by
  induction run generalizing b with
  | nil =>
    cases rest with
    | nil => exact hk b
    | cons d rest =>
      by_cases hd : set.has d = true
      · have hmore : tryRuns true set k (some d) rest = none :=
          tryRuns_eq_none fun b' run rest' hrun heq =>
            hlonger b' (d :: run) rest' (List.cons_ne_nil d run)
              (List.forall_mem_cons.2 ⟨hd, hrun⟩) (congrArg (d :: ·) heq)
        simp [tryRuns, hd, hmore, hk]
      · simp [tryRuns, hd, hk]
  | cons c run ih =>
    have hc := hrun c List.mem_cons_self
    have htail := ih (b := some c) fun d hd => hrun d (List.mem_cons_of_mem c hd)
    simp [tryRuns, hc, htail]

/-- If nothing matches behind a shorter run, the lazy choice falls on this one. -/
theorem tryRuns_lazy (hrun : ∀ c ∈ run, set.has c = true) (hk : ∀ b', k ⟨b', rest⟩ = some r)
    (hshorter : ∀ b' front back, back ≠ [] → run = front ++ back → k ⟨b', back ++ rest⟩ = none) :
    tryRuns false set k b (run ++ rest) = some r := by
  induction run generalizing b with
  | nil =>
    cases rest with
    | nil => exact hk b
    | cons d rest => by_cases hd : set.has d = true <;> simp [tryRuns, hd, hk]
  | cons c run ih =>
    have hc := hrun c List.mem_cons_self
    have hnow : k ⟨b, c :: (run ++ rest)⟩ = none :=
      hshorter b [] (c :: run) (List.cons_ne_nil c run) rfl
    have htail := ih (b := some c) (fun d hd => hrun d (List.mem_cons_of_mem c hd))
      fun b' front back hback heq => hshorter b' (c :: front) back hback (congrArg (c :: ·) heq)
    simp [tryRuns, hc, hnow, htail]

end TryRuns

/-! ## The run that is taken -/

theorem exists_run_of_walk {greedy : Bool}
    (h : walk (.iter (.char set) 1 none greedy) ⟨b, cs⟩ groups k = some r) :
    ∃ b' head tail, head ≠ [] ∧ (∀ c ∈ head, set.has c = true) ∧ cs = head ++ tail ∧
      k ⟨b', tail⟩ groups = some r := by
  rw [walk_run, walk_char_eq_some_iff] at h
  obtain ⟨c, rest, rfl, hc, h⟩ := h
  obtain ⟨b', run, tail, hrun, rfl, hk⟩ := exists_run_of_tryRuns h
  exact ⟨b', c :: run, tail, List.cons_ne_nil c run, List.forall_mem_cons.2 ⟨hc, hrun⟩, rfl, hk⟩

/-- The longest run behind which the rest matches is taken. -/
theorem walk_run_greedy (hne : head ≠ []) (hhead : ∀ c ∈ head, set.has c = true)
    (hk : ∀ b', k ⟨b', tail⟩ groups = some r)
    (hlonger : ∀ b' more rest, more ≠ [] → (∀ c ∈ more, set.has c = true) →
      tail = more ++ rest → k ⟨b', rest⟩ groups = none) :
    walk (.iter (.char set) 1 none true) ⟨b, head ++ tail⟩ groups k = some r := by
  obtain ⟨c, run, rfl⟩ := List.exists_cons_of_ne_nil hne
  obtain ⟨hc, hrun⟩ := List.forall_mem_cons.1 hhead
  rw [walk_run, List.cons_append, walk_char_cons hc]
  exact tryRuns_greedy hrun hk hlonger

/-- The shortest run behind which the rest matches is taken. -/
theorem walk_run_lazy (hne : head ≠ []) (hhead : ∀ c ∈ head, set.has c = true)
    (hk : ∀ b', k ⟨b', tail⟩ groups = some r)
    (hshorter : ∀ b' front back, front ≠ [] → back ≠ [] → head = front ++ back →
      k ⟨b', back ++ tail⟩ groups = none) :
    walk (.iter (.char set) 1 none false) ⟨b, head ++ tail⟩ groups k = some r := by
  obtain ⟨c, run, rfl⟩ := List.exists_cons_of_ne_nil hne
  obtain ⟨hc, hrun⟩ := List.forall_mem_cons.1 hhead
  rw [walk_run, List.cons_append, walk_char_cons hc]
  exact tryRuns_lazy hrun hk fun b' front back hback heq =>
    hshorter b' (c :: front) back (List.cons_ne_nil c front) hback (congrArg (c :: ·) heq)

/-! ## Runs that are captured -/

variable {index : Nat}

/-- The text that a group holds is what stands in front of the rest. -/
theorem take_length_sub (head tail : List Char) :
    (head ++ tail).take ((head ++ tail).length - tail.length) = head := by
  rw [List.length_append, Nat.add_sub_cancel, List.take_left]

/-- A part that is walked through a text whatever stands behind is captured with this text. -/
theorem walk_group {part : Regex}
    (hpart : ∀ k : Continuation, (∀ b', k ⟨b', tail⟩ groups = some r) →
      walk part ⟨b, head ++ tail⟩ groups k = some r)
    (hk : ∀ b', k ⟨b', tail⟩ ((index, head) :: groups) = some r) :
    walk (.group index part) ⟨b, head ++ tail⟩ groups k = some r := by
  rw [walk]
  refine hpart _ fun b' => ?_
  rw [take_length_sub]
  exact hk b'

theorem exists_run_of_walk_group {greedy : Bool}
    (h : walk (.group index (.iter (.char set) 1 none greedy)) ⟨b, cs⟩ groups k = some r) :
    ∃ b' head tail, head ≠ [] ∧ (∀ c ∈ head, set.has c = true) ∧ cs = head ++ tail ∧
      k ⟨b', tail⟩ ((index, head) :: groups) = some r := by
  obtain ⟨b', head, tail, hne, hhead, rfl, hk⟩ := exists_run_of_walk h
  rw [take_length_sub] at hk
  exact ⟨b', head, tail, hne, hhead, rfl, hk⟩

theorem walk_group_greedy (hne : head ≠ []) (hhead : ∀ c ∈ head, set.has c = true)
    (hk : ∀ b', k ⟨b', tail⟩ ((index, head) :: groups) = some r)
    (hlonger : ∀ b' more rest, more ≠ [] → (∀ c ∈ more, set.has c = true) →
      tail = more ++ rest → k ⟨b', rest⟩ ((index, head ++ more) :: groups) = none) :
    walk (.group index (.iter (.char set) 1 none true)) ⟨b, head ++ tail⟩ groups k = some r := by
  refine walk_run_greedy hne hhead (fun b' => ?_) fun b' more rest hmore hhas heq => ?_
  · rw [take_length_sub]
    exact hk b'
  · subst heq
    rw [← List.append_assoc, take_length_sub]
    exact hlonger b' more rest hmore hhas rfl

theorem walk_group_lazy (hne : head ≠ []) (hhead : ∀ c ∈ head, set.has c = true)
    (hk : ∀ b', k ⟨b', tail⟩ ((index, head) :: groups) = some r)
    (hshorter : ∀ b' front back, front ≠ [] → back ≠ [] → head = front ++ back →
      k ⟨b', back ++ tail⟩ ((index, front) :: groups) = none) :
    walk (.group index (.iter (.char set) 1 none false)) ⟨b, head ++ tail⟩ groups k = some r := by
  refine walk_run_lazy hne hhead (fun b' => ?_) fun b' front back hfront hback heq => ?_
  · rw [take_length_sub]
    exact hk b'
  · subst heq
    rw [List.append_assoc, take_length_sub]
    exact hshorter b' front back hfront hback rfl

theorem exists_of_walk_group {greedy : Bool} (hne : head ≠ [])
    (hhead : ∀ c ∈ head, set.has c = true)
    (hk : ∀ b' groups, ∃ r, k ⟨b', tail⟩ groups = some r) :
    ∃ r, walk (.group index (.iter (.char set) 1 none greedy)) ⟨b, head ++ tail⟩ groups k =
      some r := by
  obtain ⟨c, run, rfl⟩ := List.exists_cons_of_ne_nil hne
  obtain ⟨hc, hrun⟩ := List.forall_mem_cons.1 hhead
  rw [walk, walk_run, List.cons_append, walk_char_cons hc]
  exact exists_of_tryRuns hrun fun b' => hk b' _

/-! ## Parts that may be missing -/

/-- A part that may be missing is tried first, and passed over if the rest does not match behind
it. -/
theorem walk_optional (part : Regex) (at_ : Cursor) :
    walk (.iter part 0 (some 1) true) at_ groups k =
      orTry (walk part at_ groups fun next groups =>
        if next.rest.length < at_.rest.length then k next groups else none) fun _ =>
      k at_ groups := by
  have honce (fuel : Nat) (next : Cursor) (groups : Captures) :
      iterate (walk part) true fuel 0 (some 0) next groups k = k next groups := by
    cases fuel <;> rfl
  simp only [walk, iterate]
  simp [honce]

theorem walk_optional_taken {part : Regex} {more : Captures} (hne : head ≠ [])
    (hpart : ∀ k : Continuation, (∀ b', k ⟨b', tail⟩ more = some r) →
      walk part ⟨b, head ++ tail⟩ groups k = some r)
    (hk : ∀ b', k ⟨b', tail⟩ more = some r) :
    walk (.iter part 0 (some 1) true) ⟨b, head ++ tail⟩ groups k = some r := by
  have hlength : tail.length < (head ++ tail).length := by
    have hpos := List.length_pos_iff.2 hne
    rw [List.length_append]
    omega
  rw [walk_optional, hpart _ fun b' => (if_pos hlength).trans (hk b'), orTry_some]

theorem walk_optional_missing {part : Regex} {at_ : Cursor}
    (hpart : ∀ k : Continuation, walk part at_ groups k = none) :
    walk (.iter part 0 (some 1) true) at_ groups k = k at_ groups := by
  rw [walk_optional, hpart, orTry_none]

end LintScan.Regex
