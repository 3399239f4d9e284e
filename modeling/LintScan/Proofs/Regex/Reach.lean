import LintScan.Regex.Match

/-!
# What expressions match

A match is searched by sets of positions.  This file says what an expression matches, and that the
search finds exactly that.

* `Hops` — several steps of a relation between positions.
* `Regex.Spans` — the expression matches a text from one position up to another.
* `mem_repeatStep`, `mem_closure` — the two loops of the search: a fixed number of steps, and any
  number up to a bound.  An unbounded number needs no more steps than the text has positions, since
  a step that stays in place can be left out.
* `mem_reach` — the search finds the ends of all matches, and nothing else.
* `matchesIn_iff` — so a text is found to hold a match exactly if it does.
-/

namespace LintScan

/-! ## Steps between positions -/

/-- The relation leads from one position to another in `n` steps. -/
def Hops (R : Nat → Nat → Prop) : Nat → Nat → Nat → Prop
  | 0, p, q => p = q
  | n + 1, p, q => ∃ m, R p m ∧ Hops R n m q

namespace Hops

variable {R : Nat → Nat → Prop} {j k n p q : Nat}

theorem add_iff : Hops R (j + k) p q ↔ ∃ m, Hops R j p m ∧ Hops R k m q := by
  induction j generalizing p with
  | zero => simp [Hops]
  | succ j ih =>
    rw [Nat.succ_add]
    simp only [Hops, ih]
    constructor
    · rintro ⟨m, hpm, m', hmm', hm'q⟩
      exact ⟨m', ⟨m, hpm, hmm'⟩, hm'q⟩
    · rintro ⟨m', ⟨m, hpm, hmm'⟩, hm'q⟩
      exact ⟨m, hpm, m', hmm', hm'q⟩

/-- Steps that stay in place can be left out, so steps ahead need not be more than the distance. -/
theorem shorten (forward : ∀ p q, R p q → p ≤ q) (h : Hops R n p q) :
    p ≤ q ∧ ∃ j ≤ n, j ≤ q - p ∧ Hops R j p q := by
  induction n generalizing p with
  | zero =>
    obtain rfl : p = q := h
    exact ⟨Nat.le_refl p, 0, Nat.le_refl 0, Nat.zero_le _, rfl⟩
  | succ n ih =>
    obtain ⟨m, hpm, hmq⟩ := h
    have hle := forward p m hpm
    obtain ⟨hle', j, hjn, hj, hops⟩ := ih hmq
    refine ⟨Nat.le_trans hle hle', ?_⟩
    rcases Nat.eq_or_lt_of_le hle with rfl | hlt
    · exact ⟨j, by omega, hj, hops⟩
    · exact ⟨j + 1, by omega, by omega, m, hpm, hops⟩

end Hops

namespace Regex

variable {text : Array Char}

/-! ## Matches -/

/-- The expression matches the text from the position `p` up to the position `q`. -/
def Spans (text : Array Char) : Regex → Nat → Nat → Prop
  | .empty, p, q => q = p
  | .char set, p, q => q = p + 1 ∧ ∃ c, text[p]? = some c ∧ set.has c = true
  | .look a, p, q => q = p ∧ a.holds (if p = 0 then none else text[p - 1]?) text[p]? = true
  | .seq r s, p, q => ∃ m, Spans text r p m ∧ Spans text s m q
  | .alt r s, p, q => Spans text r p q ∨ Spans text s p q
  | .iter r min max _, p, q =>
    ∃ more, (∀ m, max = some m → more ≤ m - min) ∧ Hops (Spans text r) (min + more) p q
  | .group _ r, p, q => Spans text r p q

/-- A match goes forward, and does not leave the text. -/
theorem Spans.bounds {r : Regex} {p q : Nat} (h : Spans text r p q) :
    p ≤ q ∧ (q = p ∨ q ≤ text.size) := by
  induction r generalizing p q with
  | empty => exact ⟨Nat.le_of_eq h.symm, .inl h⟩
  | char set =>
    obtain ⟨rfl, c, hc, _⟩ := h
    have hlt : p < text.size := (Array.getElem?_eq_some_iff.1 hc).1
    exact ⟨Nat.le_succ p, .inr hlt⟩
  | look a => exact ⟨Nat.le_of_eq h.1.symm, .inl h.1⟩
  | seq r s ihr ihs =>
    obtain ⟨m, hr, hs⟩ := h
    have := ihr hr
    have := ihs hs
    omega
  | alt r s ihr ihs =>
    rcases h with hr | hs
    · exact ihr hr
    · exact ihs hs
  | iter r min max greedy ih =>
    obtain ⟨more, _, hops⟩ := h
    generalize min + more = n at hops
    induction n generalizing p with
    | zero => exact ⟨Nat.le_of_eq hops, .inl hops.symm⟩
    | succ n ihn =>
      obtain ⟨m, hpm, hmq⟩ := hops
      have := ih hpm
      have := ihn hmq
      omega
  | group index r ih => exact ih h

/-- The expressions match one after the other. -/
def Chain (text : Array Char) : List Regex → Nat → Nat → Prop
  | [], p, q => p = q
  | r :: rs, p, q => ∃ m, Spans text r p m ∧ Chain text rs m q

theorem chain_append_iff {rs rs' : List Regex} {p q : Nat} :
    Chain text (rs ++ rs') p q ↔ ∃ m, Chain text rs p m ∧ Chain text rs' m q := by
  induction rs generalizing p with
  | nil => simp [Chain]
  | cons r rs ih =>
    simp only [List.cons_append, Chain, ih]
    constructor
    · rintro ⟨m, hr, m', hrs, hrs'⟩
      exact ⟨m', ⟨m, hr, hrs⟩, hrs'⟩
    · rintro ⟨m', ⟨m, hr, hrs⟩, hrs'⟩
      exact ⟨m, hr, m', hrs, hrs'⟩

theorem spans_seqs_iff {rs : List Regex} {p q : Nat} :
    Spans text (seqs rs) p q ↔ Chain text rs p q := by
  induction rs generalizing p with
  | nil => exact eq_comm
  | cons r rs ih =>
    cases rs with
    | nil => simp [seqs, Chain]
    | cons r' rs =>
      have hseq : seqs (r :: r' :: rs) = .seq r (seqs (r' :: rs)) := rfl
      rw [hseq]
      simp only [Spans, Chain] at ih ⊢
      simp only [ih]

theorem chain_char_iff {set : CharSet} {rs : List Regex} {p q : Nat} :
    Chain text (.char set :: rs) p q ↔
      ∃ c, text[p]? = some c ∧ set.has c = true ∧ Chain text rs (p + 1) q := by
  constructor
  · rintro ⟨m, ⟨rfl, c, hc, hset⟩, hrest⟩
    exact ⟨c, hc, hset, hrest⟩
  · rintro ⟨c, hc, hset, hrest⟩
    exact ⟨p + 1, ⟨rfl, c, hc, hset⟩, hrest⟩

/-- An iteration over any character matches up to any position ahead in the text. -/
theorem spans_anything_iff {greedy : Bool} {p q : Nat} :
    Spans text (.iter (.char .full) 0 none greedy) p q ↔ p ≤ q ∧ (q = p ∨ q ≤ text.size) := by
  constructor
  · exact fun h => h.bounds
  · rintro ⟨hle, hq⟩
    refine ⟨q - p, by simp, ?_⟩
    obtain ⟨k, rfl⟩ := Nat.exists_eq_add_of_le hle
    have hsteps : ∀ k p, k = 0 ∨ p + k ≤ text.size →
        Hops (Spans text (.char .full)) k p (p + k) := by
      intro k
      induction k with
      | zero => exact fun p _ => rfl
      | succ k ih =>
        intro p hk
        have hp : p < text.size := by omega
        refine ⟨p + 1, ⟨rfl, text[p], Array.getElem?_eq_getElem hp, rfl⟩, ?_⟩
        have hnext := ih (p + 1) (by omega)
        rwa [Nat.add_right_comm] at hnext
    have hk := hsteps k p (by omega)
    simpa using hk

/-! ## The loops of the search -/

/-- Joining lists of positions loses none and adds none. -/
theorem mem_mergeAscending {fuel : Nat} {xs ys : List Nat} (h : xs.length + ys.length < fuel)
    {q : Nat} : q ∈ mergeAscending fuel xs ys ↔ q ∈ xs ∨ q ∈ ys := by
  induction fuel generalizing xs ys with
  | zero => omega
  | succ fuel ih =>
    match xs, ys with
    | [], ys => simp [mergeAscending]
    | x :: xs, [] => simp [mergeAscending]
    | x :: xs, y :: ys =>
      simp only [List.length_cons] at h
      unfold mergeAscending
      split
      · rw [List.mem_cons, ih (by simp only [List.length_cons]; omega)]
        simp only [List.mem_cons, or_assoc]
      · split
        · rw [List.mem_cons, ih (by simp only [List.length_cons]; omega)]
          simp only [List.mem_cons, or_left_comm]
        · obtain rfl : x = y := by omega
          rw [List.mem_cons, ih (by omega)]
          simp only [List.mem_cons]
          grind

theorem mem_unite {xs ys : List Nat} {q : Nat} : q ∈ unite xs ys ↔ q ∈ xs ∨ q ∈ ys :=
  mem_mergeAscending (Nat.lt_succ_self _)

section Loops

/-! The loops take one step for all positions of a list at once. -/

variable {step : List Nat → List Nat} {R : Nat → Nat → Prop} {q : Nat}

theorem exists_hops_succ (hstep : ∀ ps q, q ∈ step ps ↔ ∃ p ∈ ps, R p q) {n : Nat}
    {ps : List Nat} : (∃ p ∈ ps, Hops R (n + 1) p q) ↔ ∃ m ∈ step ps, Hops R n m q := by
  simp only [hstep, Hops]
  constructor
  · rintro ⟨p, hp, m, hpm, hmq⟩
    exact ⟨m, ⟨p, hp, hpm⟩, hmq⟩
  · rintro ⟨m, ⟨p, hp, hpm⟩, hmq⟩
    exact ⟨p, hp, m, hpm, hmq⟩

/-- A fixed number of steps. The loop stops at a list that does not change, and it would not change
later. -/
theorem mem_repeatStep (hstep : ∀ ps q, q ∈ step ps ↔ ∃ p ∈ ps, R p q) {n : Nat} {ps : List Nat} :
    q ∈ repeatStep step n ps ↔ ∃ p ∈ ps, Hops R n p q := by
  induction n generalizing ps with
  | zero => simp [repeatStep, Hops]
  | succ n ih =>
    rw [exists_hops_succ hstep]
    unfold repeatStep
    simp only
    split
    · rename_i hsame
      rw [beq_iff_eq] at hsame
      rw [hsame]
      clear ih
      induction n with
      | zero => simp [Hops]
      | succ n ihn => rw [exists_hops_succ hstep, hsame, ← ihn]
    · exact ih

/-- Any number of steps up to a bound. A position that is not in front has no step to a new one, so
a way from the positions reached either stays among them or goes through a fresh one. -/
theorem mem_closure (hstep : ∀ ps q, q ∈ step ps ↔ ∃ p ∈ ps, R p q) {n : Nat}
    {reached front : List Nat} (hfront : ∀ p ∈ front, p ∈ reached)
    (hclosed : ∀ p ∈ reached, p ∈ front ∨ ∀ q, R p q → q ∈ reached) :
    q ∈ closure step n reached front ↔ ∃ k ≤ n, ∃ p ∈ reached, Hops R k p q := by
  induction n generalizing reached front with
  | zero => simp [closure, Hops]
  | succ n ih =>
    have hfresh : ∀ q, q ∈ (step front).filter (!reached.contains ·) ↔
        (∃ p ∈ front, R p q) ∧ q ∉ reached := by
      intro q
      simp [hstep]
    have hnext : ∀ p ∈ reached, ∀ m, R p m →
        m ∈ reached ∨ m ∈ (step front).filter (!reached.contains ·) := by
      intro p hp m hpm
      rw [hfresh]
      rcases hclosed p hp with hin | hall
      · by_cases hm : m ∈ reached
        · exact .inl hm
        · exact .inr ⟨⟨p, hin, hpm⟩, hm⟩
      · exact .inl (hall m hpm)
    unfold closure
    simp only
    split
    · rename_i hempty
      rw [List.isEmpty_iff] at hempty
      have hstay : ∀ k p, p ∈ reached → Hops R k p q → q ∈ reached := by
        intro k
        induction k with
        | zero =>
          rintro p hp rfl
          exact hp
        | succ k ihk =>
          rintro p hp ⟨m, hpm, hmq⟩
          rcases hnext p hp m hpm with hm | hm
          · exact ihk m hm hmq
          · rw [hempty] at hm
            cases hm
      constructor
      · exact fun hq => ⟨0, Nat.zero_le _, q, hq, rfl⟩
      · rintro ⟨k, _, p, hp, hops⟩
        exact hstay k p hp hops
    · rw [ih (fun p hp => mem_unite.2 (.inr hp))]
      · constructor
        · rintro ⟨k, hk, p, hp, hops⟩
          rcases mem_unite.1 hp with hp | hp
          · exact ⟨k, by omega, p, hp, hops⟩
          · obtain ⟨⟨m, hm, hmp⟩, _⟩ := (hfresh p).1 hp
            exact ⟨k + 1, by omega, m, hfront m hm, p, hmp, hops⟩
        · rintro ⟨k, hk, p, hp, hops⟩
          cases k with
          | zero => exact ⟨0, Nat.zero_le _, p, mem_unite.2 (.inl hp), hops⟩
          | succ k =>
            obtain ⟨m, hpm, hmq⟩ := hops
            exact ⟨k, by omega, m, mem_unite.2 (hnext p hp m hpm), hmq⟩
      · intro p hp
        rcases mem_unite.1 hp with hp | hp
        · exact .inr fun q hpq => mem_unite.2 (hnext p hp q hpq)
        · exact .inl hp

end Loops

/-! ## The search -/

/-- The number of steps that the search takes at most behind the least number. -/
def stepsBehind (text : Array Char) (min : Nat) : Option Nat → Nat
  | none => text.size + 1
  | some m => Nat.min (m - min) (text.size + 1)

/-- An iteration needs no more steps behind its least number than the text has positions. -/
theorem spans_iter_iff {r : Regex} {min : Nat} {max : Option Nat} {greedy : Bool} {p q : Nat} :
    Spans text (.iter r min max greedy) p q ↔
      ∃ m, Hops (Spans text r) min p m ∧
        ∃ more ≤ stepsBehind text min max, Hops (Spans text r) more m q := by
  constructor
  · rintro ⟨more, hmax, hops⟩
    obtain ⟨m, hpm, hmq⟩ := Hops.add_iff.1 hops
    obtain ⟨_, fewer, hle, hdistance, hfewer⟩ := hmq.shorten fun _ _ h => h.bounds.1
    have hinside : q - m ≤ text.size := by
      have hiter : Spans text (.iter r 0 none greedy) m q := ⟨more, by simp, by simpa using hmq⟩
      have := hiter.bounds
      omega
    refine ⟨m, hpm, fewer, ?_, hfewer⟩
    cases max with
    | none =>
      show fewer ≤ text.size + 1
      omega
    | some k =>
      have := hmax k rfl
      exact Nat.le_min.2 ⟨by omega, by omega⟩
  · rintro ⟨m, hpm, more, hle, hmq⟩
    refine ⟨more, ?_, Hops.add_iff.2 ⟨m, hpm, hmq⟩⟩
    rintro k rfl
    exact (Nat.le_min.1 hle).1

/-- **The search finds the ends of all matches,** and nothing else. -/
theorem mem_reach {r : Regex} {ps : List Nat} {q : Nat} :
    q ∈ reach text r ps ↔ ∃ p ∈ ps, Spans text r p q := by
  induction r generalizing ps q with
  | empty => simp [reach, Spans]
  | char set =>
    simp only [reach, List.mem_filterMap]
    refine exists_congr fun p => and_congr_right fun _ => ?_
    unfold Spans
    cases text[p]? with
    | none => simp
    | some c =>
      simp only [Option.some.injEq, exists_eq_left']
      by_cases hset : set.has c = true
      · rw [if_pos hset, Option.some.injEq]
        exact ⟨fun h => ⟨h.symm, hset⟩, fun h => h.1.symm⟩
      · rw [if_neg hset]
        exact ⟨nofun, fun h => absurd h.2 hset⟩
  | look a =>
    simp only [reach, List.mem_filter, Spans]
    grind
  | seq r s ihr ihs =>
    simp only [reach, ihs, ihr, Spans]
    grind
  | alt r s ihr ihs =>
    simp only [reach, mem_unite, ihr, ihs, Spans]
    grind
  | iter r min max greedy ih =>
    have hstart : ∀ m, m ∈ repeatStep (reach text r) min ps ↔
        ∃ p ∈ ps, Hops (Spans text r) min p m := fun m => mem_repeatStep fun _ _ => ih
    have hreach : reach text (.iter r min max greedy) ps =
        closure (reach text r) (stepsBehind text min max) (repeatStep (reach text r) min ps)
          (repeatStep (reach text r) min ps) := by
      unfold reach stepsBehind
      rfl
    rw [hreach, mem_closure (fun _ _ => ih) (fun _ h => h) fun _ h => .inl h]
    simp only [hstart, spans_iter_iff]
    grind
  | group index r ih => exact ih

/-- **A text is found to hold a match exactly if it does.** -/
theorem matchesIn_iff {r : Regex} {s : String} :
    r.matchesIn s = true ↔
      ∃ p ≤ s.toList.toArray.size, ∃ q, Spans s.toList.toArray r p q := by
  unfold matchesIn
  simp only [Bool.not_eq_true', List.isEmpty_eq_false_iff_exists_mem, mem_reach, List.mem_range]
  constructor
  · rintro ⟨q, p, hp, h⟩
    exact ⟨p, Nat.le_of_lt_succ hp, q, h⟩
  · rintro ⟨p, hp, q, h⟩
    exact ⟨q, p, Nat.lt_succ_of_le hp, h⟩

end Regex

end LintScan
