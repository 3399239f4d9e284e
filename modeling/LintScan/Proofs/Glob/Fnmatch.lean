import LintScan.Glob.Translate
import Mathlib.Logic.Basic

/-!
# What a shell pattern matches

This file says what a pattern matches, without a regular expression.

* `IsSet` — a closed set at the head of a text: whether it is negated, its members and what stands
  behind it; `cutSet?_eq_some_iff` says that these are what the translation finds.
* `Fnmatch` — the texts that a pattern matches, item by item.
* `HyphenFree` — the patterns whose closed sets have no hyphen.
-/

namespace LintScan.Glob

/-! ## Closed sets -/

/-- The text behind an opening bracket is a closed set with these members, and `rest` stands behind
it. The set ends at the first closing bracket, unless that is its first member. -/
structure IsSet (text : List Char) (negated : Bool) (members rest : List Char) : Prop where
  text_eq : text = (if negated then ['!'] else []) ++ (members ++ ']' :: rest)
  ne_nil : members ≠ []
  closes : ']' ∉ members.tail
  mark : negated = false → members.head? ≠ some '!'

/-- The text between the brackets of a set. -/
def setBody (negated : Bool) (members : List Char) : List Char :=
  (if negated then ['!'] else []) ++ members

variable {text members rest : List Char} {negated : Bool}

/-- A set goes up to the first closing bracket behind its head. -/
theorem cutSet?_of_cutHead {head more : List Char}
    (hhead : cutHead text = (head, more ++ ']' :: rest)) (hmore : ']' ∉ more) :
    cutSet? text = some (head ++ more, rest) := by
  have hkeep : ∀ c ∈ more, (c != ']') = true := by
    rintro c hc
    rw [bne_iff_ne]
    rintro rfl
    exact hmore hc
  unfold cutSet?
  simp only [hhead, List.dropWhile_append_of_pos hkeep, List.takeWhile_append_of_pos hkeep]
  simp

/-- The translation finds a closed set. -/
theorem IsSet.cutSet?_eq (h : IsSet text negated members rest) :
    cutSet? text = some (setBody negated members, rest) := by
  obtain ⟨rfl, hne, hcloses, hmark⟩ := h
  obtain ⟨c, more, rfl⟩ := List.exists_cons_of_ne_nil hne
  rw [List.tail_cons] at hcloses
  have hhead : cutHead ((if negated then ['!'] else []) ++ (c :: more ++ ']' :: rest)) =
      if c = ']' then (setBody negated [']'], more ++ ']' :: rest)
      else (setBody negated [], c :: more ++ ']' :: rest) := by
    cases negated with
    | true => by_cases hc : c = ']' <;> simp [cutHead, setBody, hc]
    | false =>
      have hc' : c ≠ '!' := by simpa using hmark rfl
      by_cases hc : c = ']' <;> simp [cutHead, setBody, hc, hc']
  by_cases hc : c = ']'
  · subst hc
    rw [if_pos rfl] at hhead
    rw [cutSet?_of_cutHead hhead hcloses]
    simp [setBody]
  · have hall : ']' ∉ c :: more := by
      rw [List.mem_cons, not_or]
      exact ⟨fun he => hc he.symm, hcloses⟩
    rw [if_neg hc] at hhead
    rw [cutSet?_of_cutHead hhead hall]
    simp [setBody]

/-- What stands at the head of a body. -/
theorem cutHead_cases (cs : List Char) :
    (∃ more, cs = '!' :: ']' :: more ∧ cutHead cs = (['!', ']'], more)) ∨
    (∃ more, cs = '!' :: more ∧ more.head? ≠ some ']' ∧ cutHead cs = (['!'], more)) ∨
    (∃ more, cs = ']' :: more ∧ cutHead cs = ([']'], more)) ∨
    (cs.head? ≠ some '!' ∧ cs.head? ≠ some ']' ∧ cutHead cs = ([], cs)) := by
  unfold cutHead
  split
  · exact .inl ⟨_, rfl, rfl⟩
  · rename_i more hne
    refine .inr (.inl ⟨more, rfl, ?_, rfl⟩)
    intro h
    obtain ⟨tail, rfl⟩ := List.head?_eq_some_iff.1 h
    exact hne tail rfl
  · exact .inr (.inr (.inl ⟨_, rfl, rfl⟩))
  · rename_i hmark hbracket
    refine .inr (.inr (.inr ⟨?_, ?_, rfl⟩))
    · intro h
      obtain ⟨tail, rfl⟩ := List.head?_eq_some_iff.1 h
      exact hmark tail rfl
    · intro h
      obtain ⟨tail, rfl⟩ := List.head?_eq_some_iff.1 h
      exact hbracket tail rfl

/-- A text in which a closing bracket follows the head of the body. -/
theorem exists_cutHead {body : List Char} (h : cutSet? text = some (body, rest)) :
    ∃ more, ']' ∉ more ∧ body = (cutHead text).1 ++ more ∧
      (cutHead text).2 = more ++ ']' :: rest := by
  unfold cutSet? at h
  simp only at h
  split at h
  · rename_i d behind hdrop
    cases h
    have hd : d = ']' := by
      have := List.head?_dropWhile_not (· != ']') (cutHead text).2
      rw [hdrop] at this
      simpa using this
    subst hd
    refine ⟨_, ?_, rfl, ?_⟩
    · intro hmem
      have := List.all_eq_true.1 (List.all_takeWhile (p := (· != ']'))) _ hmem
      simp at this
    · rw [← hdrop, List.takeWhile_append_dropWhile]
  · cases h

/-- What the translation finds is a closed set. -/
theorem exists_isSet {body : List Char} (h : cutSet? text = some (body, rest)) :
    ∃ negated members, body = setBody negated members ∧ IsSet text negated members rest := by
  obtain ⟨more, hclosed, rfl, hsplit⟩ := exists_cutHead h
  have htail : ']' ∉ more.tail := fun hmem => hclosed (List.mem_of_mem_tail hmem)
  rcases cutHead_cases text with ⟨_, rfl, hcut⟩ | ⟨_, rfl, hne, hcut⟩ | ⟨_, rfl, hcut⟩ |
    ⟨hmark, hne, hcut⟩
  · rw [hcut] at hsplit ⊢
    simp only at hsplit
    exact ⟨true, ']' :: more, rfl, by rw [hsplit]; rfl, List.cons_ne_nil _ _, hclosed, nofun⟩
  · rw [hcut] at hsplit ⊢
    simp only at hsplit
    refine ⟨true, more, rfl, by rw [hsplit]; rfl, ?_, htail, nofun⟩
    rintro rfl
    rw [hsplit] at hne
    exact hne rfl
  · rw [hcut] at hsplit ⊢
    simp only at hsplit
    refine ⟨false, ']' :: more, rfl, by rw [hsplit]; rfl, List.cons_ne_nil _ _, hclosed, ?_⟩
    simp
  · rw [hcut] at hsplit ⊢
    simp only at hsplit
    have hmore : more ≠ [] := by
      rintro rfl
      rw [hsplit] at hne
      exact hne rfl
    obtain ⟨c, tail, rfl⟩ := List.exists_cons_of_ne_nil hmore
    refine ⟨false, c :: tail, rfl, hsplit, hmore, htail, fun _ => ?_⟩
    rw [hsplit] at hmark
    exact hmark

/-- **The translation finds just the closed sets.** -/
theorem cutSet?_eq_some_iff {body : List Char} :
    cutSet? text = some (body, rest) ↔
      ∃ negated members, body = setBody negated members ∧ IsSet text negated members rest := by
  constructor
  · exact exists_isSet
  · rintro ⟨negated, members, rfl, h⟩
    exact h.cutSet?_eq

theorem cutSet?_eq_none_iff :
    cutSet? text = none ↔ ∀ negated members rest, ¬ IsSet text negated members rest := by
  rw [Option.eq_none_iff_forall_not_mem]
  constructor
  · exact fun h negated members rest hset => h _ hset.cutSet?_eq
  · rintro h ⟨body, rest⟩ hmem
    obtain ⟨negated, members, _, hset⟩ := exists_isSet hmem
    exact h negated members rest hset

/-- A text is a closed set in one way only. -/
theorem IsSet.unique {negated' : Bool} {members' rest' : List Char}
    (h : IsSet text negated members rest) (h' : IsSet text negated' members' rest') :
    negated = negated' ∧ members = members' ∧ rest = rest' := by
  have hcut := h.cutSet?_eq.symm.trans h'.cutSet?_eq
  rw [Option.some.injEq, Prod.mk.injEq] at hcut
  obtain ⟨hbody, hrest⟩ := hcut
  have hmark := h.mark
  have hmark' := h'.mark
  cases negated with
  | true =>
    cases negated' with
    | true => exact ⟨rfl, List.append_cancel_left hbody, hrest⟩
    | false =>
      obtain rfl : '!' :: members = members' := hbody
      exact absurd rfl (hmark' rfl)
  | false =>
    cases negated' with
    | true =>
      obtain rfl : members = '!' :: members' := hbody
      exact absurd rfl (hmark rfl)
    | false => exact ⟨rfl, hbody, hrest⟩

/-! ## Patterns -/

/-- The pattern matches the text: a star any characters, a question mark any one, a closed set one
of its members or, if it is negated, one other character, and everything else itself. -/
inductive Fnmatch : List Char → List Char → Prop
  | done : Fnmatch [] []
  | many {glob taken left : List Char} : Fnmatch glob left → Fnmatch ('*' :: glob) (taken ++ left)
  | one {glob left : List Char} {c : Char} : Fnmatch glob left → Fnmatch ('?' :: glob) (c :: left)
  | set {text members glob left : List Char} {negated : Bool} {c : Char} :
      IsSet text negated members glob → (c ∈ members ↔ negated = false) → Fnmatch glob left →
      Fnmatch ('[' :: text) (c :: left)
  | unclosed {glob left : List Char} :
      (∀ negated members rest, ¬ IsSet glob negated members rest) → Fnmatch glob left →
      Fnmatch ('[' :: glob) ('[' :: left)
  | same {glob left : List Char} {c : Char} : c ≠ '*' → c ≠ '?' → c ≠ '[' → Fnmatch glob left →
      Fnmatch (c :: glob) (c :: left)

/-- No closed set of the pattern has a hyphen. -/
inductive HyphenFree : List Char → Prop
  | done : HyphenFree []
  | set {text members glob : List Char} {negated : Bool} :
      IsSet text negated members glob → '-' ∉ members → HyphenFree glob → HyphenFree ('[' :: text)
  | unclosed {glob : List Char} :
      (∀ negated members rest, ¬ IsSet glob negated members rest) → HyphenFree glob →
      HyphenFree ('[' :: glob)
  | other {glob : List Char} {c : Char} : c ≠ '[' → HyphenFree glob → HyphenFree (c :: glob)

namespace Fnmatch

variable {glob s : List Char} {c : Char}

theorem nil_iff : Fnmatch [] s ↔ s = [] := by
  constructor
  · intro h
    cases h
    rfl
  · rintro rfl
    exact .done

theorem many_iff :
    Fnmatch ('*' :: glob) s ↔ ∃ taken left, s = taken ++ left ∧ Fnmatch glob left := by
  constructor
  · intro h
    cases h with
    | many hrest => exact ⟨_, _, rfl, hrest⟩
    | same hc => exact absurd rfl hc
  · rintro ⟨taken, left, rfl, hrest⟩
    exact .many hrest

theorem one_iff : Fnmatch ('?' :: glob) s ↔ ∃ c left, s = c :: left ∧ Fnmatch glob left := by
  constructor
  · intro h
    cases h with
    | one hrest => exact ⟨_, _, rfl, hrest⟩
    | same _ hc => exact absurd rfl hc
  · rintro ⟨c, left, rfl, hrest⟩
    exact .one hrest

theorem set_iff (hset : IsSet text negated members glob) :
    Fnmatch ('[' :: text) s ↔
      ∃ c left, s = c :: left ∧ (c ∈ members ↔ negated = false) ∧ Fnmatch glob left := by
  constructor
  · intro h
    cases h with
    | set hset' hmem hrest =>
      obtain ⟨rfl, rfl, rfl⟩ := hset.unique hset'
      exact ⟨_, _, rfl, hmem, hrest⟩
    | unclosed hopen => exact absurd hset (hopen _ _ _)
    | same _ _ hc => exact absurd rfl hc
  · rintro ⟨c, left, rfl, hmem, hrest⟩
    exact .set hset hmem hrest

theorem unclosed_iff (hopen : ∀ negated members rest, ¬ IsSet glob negated members rest) :
    Fnmatch ('[' :: glob) s ↔ ∃ left, s = '[' :: left ∧ Fnmatch glob left := by
  constructor
  · intro h
    cases h with
    | set hset => exact absurd hset (hopen _ _ _)
    | unclosed _ hrest => exact ⟨_, rfl, hrest⟩
    | same _ _ hc => exact absurd rfl hc
  · rintro ⟨left, rfl, hrest⟩
    exact .unclosed hopen hrest

theorem same_iff (hstar : c ≠ '*') (hmark : c ≠ '?') (hbracket : c ≠ '[') :
    Fnmatch (c :: glob) s ↔ ∃ left, s = c :: left ∧ Fnmatch glob left := by
  constructor
  · intro h
    cases h with
    | many => exact absurd rfl hstar
    | one => exact absurd rfl hmark
    | set => exact absurd rfl hbracket
    | unclosed => exact absurd rfl hbracket
    | same _ _ _ hrest => exact ⟨_, rfl, hrest⟩
  · rintro ⟨left, rfl, hrest⟩
    exact .same hstar hmark hbracket hrest

/-- Several stars in a row match the same as one. -/
theorem dropWhile_iff : Fnmatch ('*' :: glob.dropWhile (· == '*')) s ↔ Fnmatch ('*' :: glob) s := by
  induction glob generalizing s with
  | nil => rfl
  | cons c glob ih =>
    by_cases hc : c = '*'
    · subst hc
      rw [List.dropWhile_cons_of_pos (by rfl), ih, many_iff, many_iff]
      simp only [many_iff]
      constructor
      · rintro ⟨taken, left, rfl, hrest⟩
        exact ⟨[], taken ++ left, rfl, taken, left, rfl, hrest⟩
      · rintro ⟨taken, _, rfl, more, left, rfl, hrest⟩
        exact ⟨taken ++ more, left, by rw [List.append_assoc], hrest⟩
    · rw [List.dropWhile_cons_of_neg (by simpa using hc)]

end Fnmatch

namespace HyphenFree

variable {glob : List Char} {c : Char}

theorem of_cons (hbracket : c ≠ '[') (h : HyphenFree (c :: glob)) : HyphenFree glob := by
  cases h with
  | set => exact absurd rfl hbracket
  | unclosed => exact absurd rfl hbracket
  | other _ hrest => exact hrest

theorem of_set (hset : IsSet text negated members glob) (h : HyphenFree ('[' :: text)) :
    '-' ∉ members ∧ HyphenFree glob := by
  cases h with
  | set hset' hmem hrest =>
    obtain ⟨rfl, rfl, rfl⟩ := hset.unique hset'
    exact ⟨hmem, hrest⟩
  | unclosed hopen => exact absurd hset (hopen _ _ _)
  | other hc => exact absurd rfl hc

theorem of_unclosed (hopen : ∀ negated members rest, ¬ IsSet glob negated members rest)
    (h : HyphenFree ('[' :: glob)) : HyphenFree glob := by
  cases h with
  | set hset => exact absurd hset (hopen _ _ _)
  | unclosed _ hrest => exact hrest
  | other hc => exact absurd rfl hc

theorem dropWhile (h : HyphenFree glob) : HyphenFree (glob.dropWhile (· == '*')) := by
  induction glob with
  | nil => exact h
  | cons c glob ih =>
    by_cases hc : c = '*'
    · subst hc
      rw [List.dropWhile_cons_of_pos (by rfl)]
      exact ih (h.of_cons (by decide))
    · rw [List.dropWhile_cons_of_neg (by simpa using hc)]
      exact h

end HyphenFree

end LintScan.Glob
