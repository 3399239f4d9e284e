import LintScan.Regex.Pattern.Read
import Mathlib.Logic.Basic

/-!
# Reading what was escaped

A pattern may be put together from characters that stand for themselves, once each is escaped.  This
file says how such parts are read back, in the modes that leave characters as they are.

* `Flags.IsPlain` — the modes in which a character stands for itself and blanks are not passed over.
* `listed`, `has_listed` — the class that escaped characters stand for, and what it holds.
* `Reader.Reads` — reading goes on from one state to another; `Reads.trans` puts parts together.
* `reads_escapeChar`, `reads_dot`, `reads_anything`, `reads_class` — the parts: an escaped
  character, a dot, a dot with a star, and a class of escaped characters with or without its
  negation.
-/

namespace LintScan.Regex

theorem foldl_max_le {α : Type} {f : α → Nat} {as : List α} {b d : Nat} (h : ∀ a ∈ as, f a ≤ b)
    (hd : d ≤ b) : as.foldl (fun d a => d.max (f a)) d ≤ b := by
  induction as generalizing d with
  | nil => exact hd
  | cons a as ih =>
    rw [List.foldl_cons]
    exact ih (fun a ha => h a (List.mem_cons_of_mem _ ha))
      (Nat.max_le.2 ⟨hd, h a List.mem_cons_self⟩)

/-! ## Modes -/

/-- A character stands for itself, and blanks are not passed over. -/
structure Flags.IsPlain (f : Flags) : Prop where
  anyCase : f.anyCase = false
  unicode : f.unicode = true
  extended : f.extended = false

namespace Flags.IsPlain

variable {f : Flags} (plain : f.IsPlain)

include plain

theorem skip_eq (cs : List Char) : f.skip cs = cs := by
  simp [Flags.skip, plain.extended]

theorem fold_eq (s : CharSet) : f.fold s = s := by
  simp [Flags.fold, plain.anyCase]

theorem negate_eq (negated : Bool) (s : CharSet) :
    f.negate negated s = .ok (if negated then .compl s else s) := by
  cases negated <;> simp [Flags.negate, plain.unicode]

theorem literal_eq (c : Char) : f.literal c = .char (.single c) := by
  simp [Flags.literal, plain.unicode, plain.fold_eq]

end Flags.IsPlain

/-! ## Escaped characters -/

/-- An escaped character is read back. -/
theorem readEscape_of_isMeta (f : Flags) {c : Char} (h : isMeta c = true) (rest : List Char) :
    readEscape f (c :: rest) = .ok (.literal c false, rest) := by
  have hescapable : isEscapable c = true := by simp [isEscapable, h]
  unfold readEscape
  simp only
  -- A character that means something behind a backslash means nothing without one.
  split
  all_goals first
    | rw [if_pos hescapable]
    | exact absurd h (by decide)

/-- The first character of an escaped one means nothing but that. -/
theorem escapeChar_cases (c : Char) :
    (isMeta c = true ∧ escapeChar c = ['\\', c]) ∨ (isMeta c = false ∧ escapeChar c = [c]) := by
  unfold escapeChar
  cases h : isMeta c <;> simp

/-- The character may stand at the head of an escaped one. -/
def IsHead (d : Char) : Prop := d = '\\' ∨ isMeta d = false

theorem exists_head_escapeChar (c : Char) : ∃ d tail, escapeChar c = d :: tail ∧ IsHead d := by
  rcases escapeChar_cases c with ⟨_, htext⟩ | ⟨hmeta, htext⟩
  · exact ⟨'\\', [c], htext, .inl rfl⟩
  · exact ⟨c, [], htext, .inr hmeta⟩

/-- Escaped characters do not begin with any other character that means something. -/
theorem IsHead.ne {d e : Char} (hd : IsHead d) (he : e ≠ '\\' ∧ isMeta e = true) : d ≠ e := by
  rintro rfl
  rcases hd with hd | hd
  · exact he.1 hd
  · rw [hd] at he
    exact absurd he.2 (by decide)

/-! ## Classes of escaped characters -/

/-- A character among the members of a class. -/
def Member.ofChar (c : Char) : Member := ⟨.single c, 0⟩

/-- The class of some members, last first, or of all others. -/
def listed (negated : Bool) (members : List Member) : CharSet :=
  if negated then .compl (Member.ofList members).set else (Member.ofList members).set

theorem readItem_escapeChar (f : Flags) (c : Char) (rest : List Char) :
    readItem f (escapeChar c ++ rest) = .ok (.literal c false, rest) := by
  rcases escapeChar_cases c with ⟨hmeta, htext⟩ | ⟨hmeta, htext⟩
  · rw [htext]
    exact readEscape_of_isMeta f hmeta rest
  · have hne : c ≠ '\\' := by
      rintro rfl
      exact absurd hmeta (by decide)
    rw [htext]
    exact readItem.eq_3 f c rest hne

/-- No hyphen stands at the head of escaped characters before a closing bracket. -/
theorem exists_head_flatMap (chars rest : List Char) :
    ∃ d tail, chars.flatMap escapeChar ++ ']' :: rest = d :: tail ∧ d ≠ '-' := by
  cases chars with
  | nil => exact ⟨']', rest, rfl, by decide⟩
  | cons c chars =>
    obtain ⟨d, tail, htext, hd⟩ := exists_head_escapeChar c
    refine ⟨d, tail ++ (chars.flatMap escapeChar ++ ']' :: rest), ?_, hd.ne (by decide)⟩
    rw [List.flatMap_cons, htext]
    simp

theorem length_le_flatMap_escapeChar (chars : List Char) :
    chars.length ≤ (chars.flatMap escapeChar).length := by
  induction chars with
  | nil => exact Nat.le_refl 0
  | cons c chars ih =>
    obtain ⟨d, tail, htext, _⟩ := exists_head_escapeChar c
    rw [List.flatMap_cons, List.length_append, List.length_cons, htext, List.length_cons]
    omega

/-! ### What the classes hold -/

theorem has_single {c d : Char} : (CharSet.single c).has d = true ↔ d = c := by
  simp only [CharSet.single, CharSet.has, Bool.and_eq_true, decide_eq_true_eq]
  constructor
  · rintro ⟨hle, hge⟩
    exact Char.le_antisymm hge hle
  · rintro rfl
    exact ⟨Char.le_refl d, Char.le_refl d⟩

theorem has_unions {sets : List CharSet} {d : Char} :
    (CharSet.unions sets).has d = true ↔ ∃ s ∈ sets, s.has d = true := by
  induction sets with
  | nil => simp [CharSet.unions, CharSet.has]
  | cons s sets ih =>
    have hcons : CharSet.unions (s :: sets) = .union s (CharSet.unions sets) := rfl
    rw [hcons, CharSet.has, Bool.or_eq_true, ih]
    simp

theorem has_ofList {members : List Member} {d : Char} :
    (Member.ofList members).set.has d = true ↔ ∃ m ∈ members, m.set.has d = true := by
  unfold Member.ofList
  split
  · simp [CharSet.has]
  · simp
  · simp only [has_unions, List.mem_map, List.mem_reverse, exists_exists_and_eq_and]

/-- The class of some characters holds just them, and its complement all others. -/
theorem has_listed {negated : Bool} {chars : List Char} {d : Char} :
    (listed negated (chars.map .ofChar).reverse).has d = true ↔ (d ∈ chars ↔ negated = false) := by
  have hhas : (Member.ofList (chars.map .ofChar).reverse).set.has d = true ↔ d ∈ chars := by
    simp only [has_ofList, List.mem_reverse, List.mem_map, exists_exists_and_eq_and,
      Member.ofChar, has_single, exists_eq_right']
  cases negated with
  | true => simp [listed, CharSet.has, ← hhas]
  | false => simp [listed, hhas]

/-- A list of characters nests at most once. -/
theorem depth_ofList_le (chars : List Char) :
    (Member.ofList (chars.map .ofChar).reverse).depth ≤ 1 := by
  have hflat : ∀ m ∈ (chars.map Member.ofChar).reverse, m.depth ≤ 0 := by
    simp [Member.ofChar]
  unfold Member.ofList
  split
  · exact Nat.zero_le _
  · rename_i m heq
    have := hflat m (heq ▸ List.mem_singleton_self m)
    omega
  · exact Nat.succ_le_succ (foldl_max_le hflat (Nat.le_refl 0))

section Classes

variable {f : Flags} (plain : f.IsPlain)

include plain

/-- A character behind which no hyphen stands is read alone. -/
theorem readRange_escapeChar (c : Char) {d : Char} (hd : d ≠ '-') (rest : List Char) :
    readRange f (escapeChar c ++ d :: rest) = .ok (.single c, d :: rest) := by
  have hliteral : literalOf f c = .ok c := by simp [literalOf, plain.unicode]
  unfold readRange
  simp [readItem_escapeChar, hliteral, plain.skip_eq, hd, bind, Except.bind]

/-- A character behind which no hyphen stands becomes a member. -/
theorem readMembers_escapeChar (fuel : Nat) (members : List Member) (frames : List ClassFrame)
    (c : Char) {d : Char} (hd : d ≠ '-') (rest : List Char) :
    readMembers f (fuel + 1) members frames (escapeChar c ++ d :: rest) =
      readMembers f fuel (.ofChar c :: members) frames (d :: rest) := by
  have hrange := readRange_escapeChar plain c hd rest
  obtain ⟨e, tail, htext, he⟩ := exists_head_escapeChar c
  have hopen : e ≠ '[' := he.ne (by decide)
  have hclose : e ≠ ']' := he.ne (by decide)
  have hinter : e ≠ '&' := he.ne (by decide)
  have hdiff : e ≠ '-' := he.ne (by decide)
  have hsymDiff : e ≠ '~' := he.ne (by decide)
  rw [htext, List.cons_append] at hrange ⊢
  rw [readMembers]
  simp [plain.skip_eq, hopen, hclose, hinter, hdiff, hsymDiff, hrange, Member.ofChar, bind,
    Except.bind]

/-- The bracket that closes the outermost class ends the reading. -/
theorem readMembers_close (fuel : Nat) (members : List Member) (negated : Bool)
    (rest : List Char) :
    readMembers f (fuel + 1) members [.opened [] negated] (']' :: rest) =
      .ok (⟨listed negated members, (Member.ofList members).depth + 1⟩, rest) := by
  rw [readMembers]
  simp only [plain.skip_eq, closeOperator, plain.fold_eq, plain.negate_eq, listed]
  rfl

/-- Escaped characters up to the closing bracket are the members. -/
theorem readMembers_flatMap {fuel : Nat} {chars : List Char} (h : chars.length < fuel)
    (members : List Member) (negated : Bool) (rest : List Char) :
    readMembers f fuel members [.opened [] negated] (chars.flatMap escapeChar ++ ']' :: rest) =
      .ok (⟨listed negated ((chars.map .ofChar).reverse ++ members),
        (Member.ofList ((chars.map .ofChar).reverse ++ members)).depth + 1⟩, rest) := by
  induction chars generalizing fuel members with
  | nil =>
    obtain ⟨fuel, rfl⟩ := Nat.exists_eq_succ_of_ne_zero (Nat.ne_of_gt h)
    exact readMembers_close plain fuel members negated rest
  | cons c chars ih =>
    rw [List.length_cons] at h
    obtain ⟨fuel, rfl⟩ := Nat.exists_eq_succ_of_ne_zero (Nat.ne_of_gt (Nat.zero_lt_of_lt h))
    obtain ⟨d, tail, htext, hd⟩ := exists_head_flatMap chars rest
    rw [List.flatMap_cons, List.append_assoc, htext, readMembers_escapeChar plain fuel _ _ c hd,
      ← htext, ih (Nat.lt_of_succ_lt_succ h)]
    simp

/-- A class that does not begin with a hyphen or a closing bracket is read from its head on. -/
theorem readOpening_of_head (negated : Bool) {d : Char} (hd : IsHead d) (rest : List Char) :
    readOpening f ((if negated then ['^'] else []) ++ d :: rest) = (negated, [], d :: rest) := by
  have hhyphens : ∀ fuel, readOpening.dropHyphens f fuel [] (d :: rest) = ([], d :: rest) := by
    intro fuel
    unfold readOpening.dropHyphens
    split
    · rfl
    · split
      · rename_i heq
        exact absurd (List.cons.inj heq).1 (hd.ne (by decide))
      · rfl
  have hcaret : d ≠ '^' := hd.ne (by decide)
  have hbracket : d ≠ ']' := hd.ne (by decide)
  cases negated with
  | true =>
    show readOpening f ('^' :: d :: rest) = _
    unfold readOpening
    simp [plain.skip_eq, hhyphens, hbracket]
  | false =>
    show readOpening f (d :: rest) = _
    unfold readOpening
    simp [plain.skip_eq, hhyphens, hbracket, hcaret]

/-- A class of escaped characters is read as the class of these characters. -/
theorem readBracketed_flatMap (negated : Bool) {chars : List Char} (hne : chars ≠ [])
    (rest : List Char) :
    readBracketed f
        ((if negated then ['^'] else []) ++ (chars.flatMap escapeChar ++ ']' :: rest)) =
      .ok (⟨listed negated (chars.map .ofChar).reverse,
        (Member.ofList (chars.map .ofChar).reverse).depth + 1⟩, rest) := by
  obtain ⟨c, more, rfl⟩ := List.exists_cons_of_ne_nil hne
  obtain ⟨d, tail, htext, hd⟩ := exists_head_escapeChar c
  have hopening : readOpening f
      ((if negated then ['^'] else []) ++ ((c :: more).flatMap escapeChar ++ ']' :: rest)) =
        (negated, [], (c :: more).flatMap escapeChar ++ ']' :: rest) := by
    rw [List.flatMap_cons, htext]
    exact readOpening_of_head plain negated hd _
  have hfuel : (c :: more).length < ((if negated then ['^'] else []) ++
      ((c :: more).flatMap escapeChar ++ ']' :: rest)).length + 2 := by
    have := length_le_flatMap_escapeChar (c :: more)
    simp only [List.length_append]
    omega
  unfold readBracketed
  rw [hopening]
  simp only
  rw [readMembers_flatMap plain hfuel, List.append_nil]

end Classes

/-! ## States of the reader -/

namespace Reader

variable {st st₁ st₂ : Reader}

/-- Reading goes on from the state `st` before `cs` to the state `st'` before `rest`. -/
def Reads (st : Reader) (cs : List Char) (st' : Reader) (rest : List Char) : Prop :=
  ∃ n, n + rest.length ≤ cs.length ∧ ∀ fuel, st.run (fuel + n) cs = st'.run fuel rest

theorem Reads.refl (st : Reader) (cs : List Char) : st.Reads cs st cs :=
  ⟨0, by omega, fun _ => rfl⟩

theorem Reads.trans {cs rest₁ rest₂ : List Char} (h₁ : st.Reads cs st₁ rest₁)
    (h₂ : st₁.Reads rest₁ st₂ rest₂) : st.Reads cs st₂ rest₂ := by
  obtain ⟨n₁, hle₁, hrun₁⟩ := h₁
  obtain ⟨n₂, hle₂, hrun₂⟩ := h₂
  refine ⟨n₂ + n₁, by omega, fun fuel => ?_⟩
  rw [← Nat.add_assoc, hrun₁, hrun₂]

theorem run_succ (plain : st.flags.IsPlain) (fuel : Nat) (c : Char) (cs : List Char) :
    st.run (fuel + 1) (c :: cs) = st.step c cs >>= fun (st₁, rest) => st₁.run fuel rest := by
  rw [run, plain.skip_eq]

/-- A step of the reader is reading. -/
theorem reads_of_step (plain : st.flags.IsPlain) {c : Char} {cs rest : List Char}
    (hstep : st.step c cs = .ok (st₁, rest)) (hle : rest.length ≤ cs.length) :
    st.Reads (c :: cs) st₁ rest := by
  refine ⟨1, by simp only [List.length_cons]; omega, fun fuel => ?_⟩
  rw [run_succ plain, hstep]
  rfl

/-- An escaped character is pushed as itself. -/
theorem reads_escapeChar (plain : st.flags.IsPlain) (c : Char) (rest : List Char) :
    st.Reads (escapeChar c ++ rest) (st.push (.char (.single c)) 0) rest := by
  rcases escapeChar_cases c with ⟨hmeta, htext⟩ | ⟨hmeta, htext⟩
  · have hatom : st.flags.atom (.literal c false) = .ok (.char (.single c)) := by
      simp [Flags.atom, plain.literal_eq]
    rw [htext]
    show st.Reads ('\\' :: c :: rest) _ rest
    refine reads_of_step plain ?_ (Nat.le_succ _)
    unfold step
    simp only [readEscape_of_isMeta _ hmeta, hatom, bind, Except.bind]
  · rw [htext]
    show st.Reads (c :: rest) _ rest
    refine reads_of_step plain ?_ (Nat.le_refl _)
    unfold step
    simp only
    split
    all_goals first
      | exact absurd hmeta (by decide)
      | rw [plain.literal_eq]

/-- A dot is pushed as any character, where it stands for line breaks as well. -/
theorem reads_dot (plain : st.flags.IsPlain) (hall : st.flags.dotAll = true) (rest : List Char) :
    st.Reads ('.' :: rest) (st.push (.char .full) 0) rest := by
  have hdot : st.flags.dot = .ok (.char .full) := by simp [Flags.dot, plain.unicode, hall]
  refine reads_of_step plain ?_ (Nat.le_refl _)
  unfold step
  simp only [hdot, bind, Except.bind]

/-- A dot with a star is pushed as any characters, as long as no question mark follows. -/
theorem reads_anything (plain : st.flags.IsPlain) (hall : st.flags.dotAll = true)
    {rest : List Char} (hrest : rest.head? ≠ some '?') :
    st.Reads ('.' :: '*' :: rest)
      (st.push (.iter (.char .full) 0 none (!st.flags.swapGreed)) 1) rest := by
  have hlazy : readLazy rest = (false, rest) := by
    unfold readLazy
    split
    · simp at hrest
    · rfl
  have hplain : (st.push (.char .full) 0).flags.IsPlain := plain
  refine (reads_dot plain hall _).trans (reads_of_step hplain ?_ (Nat.le_refl _))
  unfold step
  simp only [mark, hlazy, repeatLast, push, bind, Except.bind]
  simp

/-- A class of escaped characters is pushed as the class of these characters. -/
theorem reads_class (plain : st.flags.IsPlain) (negated : Bool) {chars : List Char}
    (hne : chars ≠ []) (rest : List Char) :
    st.Reads
      ('[' :: ((if negated then ['^'] else []) ++ (chars.flatMap escapeChar ++ ']' :: rest)))
      (st.push (.char (listed negated (chars.map .ofChar).reverse))
        ((Member.ofList (chars.map .ofChar).reverse).depth + 1)) rest := by
  refine reads_of_step plain ?_ ?_
  · unfold step
    simp only [readBracketed_flatMap plain negated hne, bind, Except.bind]
  · simp only [List.length_append, List.length_cons]
    omega

end Reader

end LintScan.Regex
