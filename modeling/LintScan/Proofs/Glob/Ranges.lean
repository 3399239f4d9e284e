import LintScan.Proofs.Glob.Hyphens

/-!
# Ranges in a set

In a shell pattern a set may hold ranges.  Its body is read from left to right: a hyphen between two
characters makes a range of them, whichever they are, and a reversed range holds nothing.

* `rangesOf` — the ranges of a body; `classParts_eq_rangesOf` says that without two hyphens in a row
  the class has just these.
* `IsOneSet` — the patterns made of one closed set.
* `IsOneSet.ofPattern_of_reversed`, `IsOneSet.ofPattern_of_forward` — with a reversed range in its
  class such a pattern cannot be read, and otherwise it is read as the parts of the class.
* `followsRanges_rangesOf_iff` — when the pattern accepts just the characters that the ranges hold;
  `followsRanges_reversedRange` has a pattern that cannot be read and one that loses a character.
-/

namespace LintScan.Glob

open Regex

/-! ## The ranges of a body -/

/-- The ranges that a body lists, from left to right. A character that makes no range with those
behind it stands for itself. -/
def rangesOf : List Char → List (Char × Char)
  | [] => []
  | lo :: '-' :: hi :: cs => (lo, hi) :: rangesOf cs
  | c :: cs => (c, c) :: rangesOf cs

/-- Two hyphens stand in a row. -/
def HasTwoHyphens (members : List Char) : Prop := ['-', '-'] <:+: members

theorem HasTwoHyphens.cons {c : Char} {cs : List Char} (h : HasTwoHyphens cs) :
    HasTwoHyphens (c :: cs) :=
  List.IsInfix.trans h (List.suffix_cons c cs).isInfix

theorem hasTwoHyphens_head (cs : List Char) : HasTwoHyphens ('-' :: '-' :: cs) :=
  ⟨[], cs, rfl⟩

/-- Without two hyphens in a row, a class reads its members as the ranges of the body. -/
theorem partsOf_eq_rangesOf {cs : List Char} (h : ¬ HasTwoHyphens cs) :
    partsOf cs = ⟨rangesOf cs, []⟩ := by
  induction cs using partsOf.induct with
  | case1 => rfl
  | case2 cs => exact absurd (hasTwoHyphens_head cs) h
  | case3 lo cs => exact absurd (hasTwoHyphens_head cs).cons h
  | case4 lo hi cs hlo hhi ih =>
    rw [partsOf.eq_3 lo hi cs hlo, if_neg hhi, ih fun hcs => h hcs.cons.cons.cons]
    rfl
  | case5 c cs hhyphens hrange ih =>
    rw [partsOf.eq_4 c cs hhyphens hrange, ih fun hcs => h hcs.cons, rangesOf.eq_3 c cs hrange]
    rfl

theorem classParts_eq_rangesOf {members : List Char} (h : ¬ HasTwoHyphens members) :
    classParts members = ⟨rangesOf members, []⟩ := by
  cases members with
  | nil => rfl
  | cons c cs =>
    by_cases hc : c = '-'
    · subst hc
      have hhead : ∀ more, cs ≠ '-' :: more := by
        rintro more rfl
        exact h (hasTwoHyphens_head more)
      have hrest : cs.takeWhile (· == '-') = [] ∧ cs.dropWhile (· == '-') = cs := by
        cases cs with
        | nil => exact ⟨rfl, rfl⟩
        | cons d cs =>
          have hd : ¬ (d == '-') = true := by
            rw [beq_iff_eq]
            rintro rfl
            exact hhead cs rfl
          exact ⟨List.takeWhile_cons_of_neg hd, List.dropWhile_cons_of_neg hd⟩
      unfold classParts
      rw [List.takeWhile_cons_of_pos (by rfl), List.dropWhile_cons_of_pos (by rfl), hrest.1,
        hrest.2, partsOf_eq_rangesOf fun hcs => h hcs.cons,
        rangesOf.eq_3 '-' cs fun hi more heq => hhead (hi :: more) heq]
      rfl
    · unfold classParts
      rw [List.takeWhile_cons_of_neg (by simpa using hc),
        List.dropWhile_cons_of_neg (by simpa using hc), partsOf_eq_rangesOf h]
      rfl

/-! ## Patterns made of one set -/

/-- The pattern is made of one closed set. -/
def IsOneSet (glob : String) (negated : Bool) (members : List Char) : Prop :=
  ∃ text, glob.toList = '[' :: text ∧ IsSet text negated members []

/-- The expression for the pattern stays within the limits for expressions. -/
def WithinLimits (glob : String) : Prop :=
  ofPattern (translate glob) ≠ .error .tooDeep ∧ ofPattern (translate glob) ≠ .error .tooLarge

theorem withinLimits_of_ok {glob : String} {regex : Regex}
    (h : ofPattern (translate glob) = .ok regex) : WithinLimits glob := by
  rw [WithinLimits, h]
  exact ⟨nofun, nofun⟩

namespace IsOneSet

variable {glob : String} {negated : Bool} {members : List Char}

theorem translateChars_eq (h : IsOneSet glob negated members) :
    translateChars glob.toList =
      '[' :: ((if negated then ['^'] else []) ++ (members.flatMap memberText ++ [']'])) := by
  obtain ⟨text, htext, hset⟩ := h
  rw [htext, translateChars_closed hset, translateChars]

theorem ne_nil (h : IsOneSet glob negated members) : members ≠ [] := by
  obtain ⟨_, _, hset⟩ := h
  exact hset.ne_nil

/-- A pattern with a reversed range cannot be read. -/
theorem ofPattern_of_reversed (h : IsOneSet glob negated members)
    (reversed : ¬ (classParts members).Forward) :
    ofPattern (translate glob) = .error .classRange := by
  obtain ⟨m, hread, _⟩ := readBracketed_parts isPlain_wholeFlags negated h.ne_nil ['\\', 'z']
  rw [if_neg reversed] at hread
  obtain ⟨steps, hsteps, hrun⟩ := reads_opened glob
  obtain ⟨fuel, hfuel⟩ : ∃ fuel, (translate glob).toList.length + 1 = fuel + 1 + steps :=
    ⟨(translate glob).toList.length - steps, by omega⟩
  have hclass : openedReader.run (fuel + 1) (translateChars glob.toList ++ ['\\', 'z']) =
      .error .classRange := by
    rw [h.translateChars_eq, List.cons_append, Reader.run_succ isPlain_wholeFlags]
    unfold Reader.step
    simp only [List.append_assoc, List.cons_append, List.nil_append, openedReader, hread, bind,
      Except.bind]
  refine ofPattern_of_error _ ?_
  rw [nodeOf, hfuel]
  exact (hrun (fuel + 1)).trans hclass

/-- Without a reversed range, the pattern is read as the parts of its class. -/
theorem ofPattern_of_forward (h : IsOneSet glob negated members)
    (forward : (classParts members).Forward) (limits : WithinLimits glob) :
    ∃ m : Member, ofPattern (translate glob) =
        .ok (wholeRegex [⟨.char (signed negated m).set, (signed negated m).depth⟩]) ∧
      ∀ c, m.set.has c = true ↔ (classParts members).Holds c := by
  obtain ⟨m, hread, hhas⟩ := readBracketed_parts isPlain_wholeFlags negated h.ne_nil ['\\', 'z']
  rw [if_pos forward] at hread
  refine ⟨m, ?_, hhas⟩
  have hitems : openedReader.Reads (translateChars glob.toList ++ ['\\', 'z'])
      (pushAll openedReader [⟨.char (signed negated m).set, (signed negated m).depth⟩])
      ['\\', 'z'] := by
    rw [h.translateChars_eq, List.cons_append]
    refine Reader.reads_of_step isPlain_wholeFlags ?_ ?_
    · unfold Reader.step
      simp only [List.append_assoc, List.cons_append, List.nil_append, openedReader, hread, bind,
        Except.bind]
      rfl
    · simp only [List.length_append, List.length_cons, List.length_nil]
      omega
  obtain ⟨depth, hcurrent, _⟩ :=
    current_pushAll [⟨.char (signed negated m).set, (signed negated m).depth⟩]
  have hnode := nodeOf_opened hitems
  rw [hcurrent] at hnode
  exact ofPattern_of_limits _ hnode limits.1 limits.2

end IsOneSet

/-- One character between the two ends of a text. -/
theorem matchesIn_singleton_iff {set : CharSet} {depth : Nat} {c : Char} :
    (wholeRegex [⟨.char set, depth⟩]).matchesIn (String.singleton c) = true ↔ set.has c = true := by
  rw [matchesIn_wholeRegex_iff_chain]
  simp [chain_char_iff, Chain]

theorem has_signed {negated : Bool} {m : Member} {c : Char} :
    (signed negated m).set.has c = true ↔ (m.set.has c = true ↔ negated = false) := by
  cases negated <;> simp [signed, CharSet.has]

end LintScan.Glob

namespace LintScan.FilePattern

open Glob

/-- The pattern can be read, and accepts a text of one character just if the ranges hold the
character or, for a negated set, do not. -/
def FollowsRanges (glob : String) (negated : Bool) (ranges : List (Char × Char)) : Prop :=
  ∃ p, ofString? glob = some p ∧
    ∀ c : Char, p.accepts (String.singleton c) = true ↔ (Lists ranges c ↔ negated = false)

theorem ofString?_eq_none_of_error {glob : String} {e : Regex.PatternError}
    (h : Regex.ofPattern (translate glob) = .error e) : ofString? glob = none := by
  unfold ofString? read
  rw [h]
  rfl

theorem ofString?_of_ok {glob : String} {regex : Regex}
    (h : Regex.ofPattern (translate glob) = .ok regex) : ofString? glob = some ⟨glob, regex⟩ := by
  unfold ofString? read
  rw [h]
  rfl

section OneSet

variable {glob : String} {negated : Bool} {members : List Char}

/-- A pattern made of one set whose ranges all go forward accepts what the parts of its class
hold. -/
theorem exists_accepts_parts (h : IsOneSet glob negated members)
    (forward : (classParts members).Forward) (limits : WithinLimits glob) :
    ∃ p, ofString? glob = some p ∧ ∀ c : Char, p.accepts (String.singleton c) = true ↔
      ((classParts members).Holds c ↔ negated = false) := by
  obtain ⟨m, hread, hhas⟩ := h.ofPattern_of_forward forward limits
  refine ⟨_, ofString?_of_ok hread, fun c => ?_⟩
  unfold accepts
  rw [matchesIn_singleton_iff, has_signed, hhas]

/-- Only a pattern within the limits without a reversed range can be read. -/
theorem forward_of_ofString? (h : IsOneSet glob negated members) {p : FilePattern}
    (hread : ofString? glob = some p) : (classParts members).Forward ∧ WithinLimits glob := by
  constructor
  · refine Decidable.byContradiction fun reversed => ?_
    rw [ofString?_eq_none_of_error (h.ofPattern_of_reversed reversed)] at hread
    cases hread
  · cases hregex : Regex.ofPattern (translate glob) with
    | error e =>
      rw [ofString?_eq_none_of_error hregex] at hread
      cases hread
    | ok regex => exact withinLimits_of_ok hregex

theorem followsRanges_iff_parts (h : IsOneSet glob negated members) (ranges : List (Char × Char)) :
    FollowsRanges glob negated ranges ↔ (classParts members).Forward ∧ WithinLimits glob ∧
      ∀ c, (classParts members).Holds c ↔ Lists ranges c := by
  constructor
  · rintro ⟨p, hread, hfollows⟩
    obtain ⟨forward, limits⟩ := forward_of_ofString? h hread
    obtain ⟨_, hread', hparts⟩ := exists_accepts_parts h forward limits
    obtain rfl := Option.some.inj (hread.symm.trans hread')
    refine ⟨forward, limits, fun c => ?_⟩
    have hsame := (hparts c).symm.trans (hfollows c)
    by_cases hnegated : negated = false
    · simpa [hnegated] using hsame
    · simpa [hnegated, not_iff_not] using hsame
  · rintro ⟨forward, limits, hsame⟩
    obtain ⟨p, hread, hparts⟩ := exists_accepts_parts h forward limits
    refine ⟨p, hread, fun c => ?_⟩
    rw [hparts, hsame]

/-- **A pattern made of one set accepts the characters that the ranges of its body hold** exactly if
none of the ranges that the class has is reversed, and the class takes nothing away that they hold.
Without two hyphens in a row, the first is enough, for the ranges of the body itself. -/
theorem followsRanges_rangesOf_iff (h : IsOneSet glob negated members) :
    (FollowsRanges glob negated (rangesOf members) ↔
      (classParts members).Forward ∧ WithinLimits glob ∧
        ∀ c, (classParts members).Holds c ↔ Lists (rangesOf members) c) ∧
    (¬ HasTwoHyphens members → (FollowsRanges glob negated (rangesOf members) ↔
      (∀ r ∈ rangesOf members, r.1 ≤ r.2) ∧ WithinLimits glob)) := by
  have hparts := followsRanges_iff_parts h (rangesOf members)
  refine ⟨hparts, fun hhyphens => ?_⟩
  rw [hparts, classParts_eq_rangesOf hhyphens]
  simp [ClassParts.Forward, ClassParts.Holds]

end OneSet

/-- A negated set with a hyphen at its head and a range behind it. -/
theorem followsRanges_headHyphen :
    IsOneSet "[!-a-c]" true ['-', 'a', '-', 'c'] ∧ ¬ HasTwoHyphens ['-', 'a', '-', 'c'] ∧
      FollowsRanges "[!-a-c]" true (rangesOf ['-', 'a', '-', 'c']) := by
  have hset : IsOneSet "[!-a-c]" true ['-', 'a', '-', 'c'] :=
    ⟨['!', '-', 'a', '-', 'c', ']'], rfl, rfl, by decide, by decide, nofun⟩
  have hhyphens : ¬ HasTwoHyphens ['-', 'a', '-', 'c'] := by
    unfold HasTwoHyphens
    decide
  have hread : (Regex.ofPattern (translate "[!-a-c]")).toOption.isSome = true := by
    decide +kernel
  have limits : WithinLimits "[!-a-c]" := by
    cases hregex : Regex.ofPattern (translate "[!-a-c]") with
    | error e =>
      rw [hregex] at hread
      cases hread
    | ok regex => exact withinLimits_of_ok hregex
  exact ⟨hset, hhyphens, ((followsRanges_rangesOf_iff hset).2 hhyphens).2 ⟨by decide, limits⟩⟩

/-- A reversed range makes the pattern unreadable, whatever else the set lists, and two hyphens in a
row take away what a range lists. -/
theorem followsRanges_reversedRange :
    (IsOneSet "[b-ad]" false ['b', '-', 'a', 'd'] ∧ Lists (rangesOf ['b', '-', 'a', 'd']) 'd' ∧
      ofString? "[b-ad]" = none ∧
      ¬ FollowsRanges "[b-ad]" false (rangesOf ['b', '-', 'a', 'd'])) ∧
    (IsOneSet "[+--]" false ['+', '-', '-'] ∧ Lists (rangesOf ['+', '-', '-']) ',' ∧
      ¬ FollowsRanges "[+--]" false (rangesOf ['+', '-', '-'])) := by
  have hreversed : IsOneSet "[b-ad]" false ['b', '-', 'a', 'd'] :=
    ⟨['b', '-', 'a', 'd', ']'], rfl, rfl, by decide, by decide, fun _ => by decide⟩
  have hminus : IsOneSet "[+--]" false ['+', '-', '-'] :=
    ⟨['+', '-', '-', ']'], rfl, rfl, by decide, by decide, fun _ => by decide⟩
  have hbackward : ¬ (classParts ['b', '-', 'a', 'd']).Forward := by decide
  have hcomma : Lists (rangesOf ['+', '-', '-']) ',' :=
    ⟨('+', '-'), by decide, by decide, by decide⟩
  refine ⟨⟨hreversed, ⟨('d', 'd'), by decide, by decide, by decide⟩,
    ofString?_eq_none_of_error (hreversed.ofPattern_of_reversed hbackward), fun hfollows => ?_⟩,
    hminus, hcomma, fun hfollows => ?_⟩
  · exact hbackward ((followsRanges_iff_parts hreversed _).1 hfollows).1
  · obtain ⟨_, _, hsame⟩ := (followsRanges_iff_parts hminus _).1 hfollows
    have htaken : (classParts ['+', '-', '-']).taken = [('+', '+')] := by decide
    have hholds := ((hsame ',').2 hcomma).1
    rw [htaken, lists_cons_iff] at hholds
    rcases hholds with hplus | hnone
    · exact absurd hplus (by decide)
    · exact not_lists_nil hnone

end LintScan.FilePattern
