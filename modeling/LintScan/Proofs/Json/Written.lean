import LintScan.Json.Read
import Mathlib.Data.List.Basic

/-!
# Written values are read back

A value is written on one line, and reading the line gives back the value. The reader is taken
through a written part in front of any text that may follow it, part by part:

* `readStringBody_flatMap` — the characters of a string, each escaped where it has to be.
* `readNumber_toString` — an integer, as long as what follows does not go on with the number.
* `Integral` — the values whose numbers are integers.
* `isReadBack_of_integral` — any such value, with as much fuel as the text is long.
* `readFor?_write` — so the whole text gives back the value.
* `le_of_mem_write` — no control character is written, so a written value stands on one line.
-/

namespace LintScan.Json

/-! ## Strings -/

theorem hexValue?_hexDigit : ∀ n < 16, hexValue? (hexDigit n) = some n := by decide

/-- The two digits behind `\u00` spell a control character. -/
theorem unit?_control {c : Char} (h : c.toNat < 0x20) :
    unit? '0' '0' (hexDigit (c.toNat / 16)) (hexDigit (c.toNat % 16)) = some c.toNat := by
  have hhi := hexValue?_hexDigit (c.toNat / 16) (by omega)
  have hlo := hexValue?_hexDigit (c.toNat % 16) (by omega)
  have hzero : hexValue? '0' = some 0 := by decide
  simp only [unit?, hhi, hlo, hzero, Option.bind_eq_bind, Option.bind_some, Option.some.injEq]
  omega

section Units

variable (strict : Bool) {a b c d : Char} (rest : List Char)

/-- Four characters that spell no code unit are refused, whatever follows. -/
theorem readStringBody_noUnit (hunit : unit? a b c d = none) :
    readStringBody strict ('\\' :: 'u' :: a :: b :: c :: d :: rest) = none := by
  by_cases hpair : ∃ e f g h more, rest = '\\' :: 'u' :: e :: f :: g :: h :: more
  · obtain ⟨e, f, g, h, more, rfl⟩ := hpair
    rw [readStringBody.eq_3, hunit]
  · rw [readStringBody.eq_4 _ _ _ _ _ _ fun e f g h more heq => hpair ⟨e, f, g, h, more, heq⟩,
      hunit]
    rfl

/-- A code unit that is no half of a surrogate pair is a character, whatever follows. -/
theorem readStringBody_unit {n : Nat} (hunit : unit? a b c d = some n) (hn : n < 0xd800) :
    readStringBody strict ('\\' :: 'u' :: a :: b :: c :: d :: rest) =
      (readStringBody strict rest).map fun (s, r) => (Char.ofNat n :: s, r) := by
  have hhalf : ¬ (0xd800 ≤ n ∧ n < 0xe000) := by omega
  have hhigh : ¬ (0xd800 ≤ n ∧ n < 0xdc00) := by omega
  by_cases hpair : ∃ e f g h more, rest = '\\' :: 'u' :: e :: f :: g :: h :: more
  · obtain ⟨e, f, g, h, more, rfl⟩ := hpair
    rw [readStringBody.eq_3, hunit]
    cases hnext : unit? e f g h with
    | none => rw [readStringBody_noUnit strict more hnext, Option.map_none]
    | some lo =>
      simp only [hhigh, hhalf, false_and, if_false, Option.bind_eq_bind, Option.bind_some]
  · rw [readStringBody.eq_4 _ _ _ _ _ _ fun e f g h more heq => hpair ⟨e, f, g, h, more, heq⟩,
      hunit]
    simp only [hhalf, if_false, Option.bind_eq_bind, Option.bind_some]

end Units

/-- A character that needs no escape. -/
theorem readStringBody_plain (strict : Bool) {c : Char} (rest : List Char) (hquote : c ≠ '"')
    (hback : c ≠ '\\') (hcontrol : ¬ c.toNat < 0x20) :
    readStringBody strict (c :: rest) =
      (readStringBody strict rest).map fun (s, r) => (c :: s, r) := by
  rw [readStringBody.eq_6 _ _ _ hquote (fun _ _ _ _ _ _ _ _ _ h => absurd h hback)
    (fun _ _ _ _ _ h => absurd h hback) (fun _ _ h => absurd h hback),
    if_neg (not_or.2 ⟨hback, hcontrol⟩)]

theorem readStringBody_escape (strict : Bool) (c : Char) (rest : List Char) :
    readStringBody strict (escape c ++ rest) =
      (readStringBody strict rest).map fun (s, r) => (c :: s, r) := by
  unfold escape
  split
  · subst_vars; simp [readStringBody, simpleEscape?]
  split
  · subst_vars; simp [readStringBody, simpleEscape?]
  split
  · subst_vars; simp [readStringBody, simpleEscape?]
  split
  · subst_vars; simp [readStringBody, simpleEscape?]
  split
  · subst_vars; simp [readStringBody, simpleEscape?]
  split
  · subst_vars; simp [readStringBody, simpleEscape?]
  split
  · subst_vars; simp [readStringBody, simpleEscape?]
  split
  · rename_i hcontrol
    have hread := readStringBody_unit strict rest (unit?_control hcontrol) (by omega)
    rwa [Char.ofNat_toNat] at hread
  · rename_i hquote hback _ _ _ _ _ hcontrol
    exact readStringBody_plain strict rest hquote hback hcontrol

/-- A string is read up to its closing quote. -/
theorem readStringBody_flatMap (strict : Bool) (s rest : List Char) :
    readStringBody strict (s.flatMap escape ++ '"' :: rest) = some (s, rest) := by
  induction s with
  | nil => rw [List.flatMap_nil, List.nil_append, readStringBody]
  | cons c s ih =>
    rw [List.flatMap_cons, List.append_assoc, readStringBody_escape, ih, Option.map_some]

/-! ## Numbers -/

/-- What follows does not go on with a number. -/
def EndsNumber (rest : List Char) : Prop :=
  ∀ c ∈ rest.head?, c.isDigit = false ∧ c ≠ '.' ∧ c ≠ 'e' ∧ c ≠ 'E'

theorem endsNumber_nil : EndsNumber [] := nofun

theorem endsNumber_cons {c : Char} (h : c.isDigit = false ∧ c ≠ '.' ∧ c ≠ 'e' ∧ c ≠ 'E')
    (rest : List Char) : EndsNumber (c :: rest) := by
  rintro d ⟨⟩
  exact h

theorem isDigit_toDigits (n : Nat) : ∀ c ∈ Nat.toDigits 10 n, c.isDigit = true :=
  fun _ hc => Nat.isDigit_of_mem_toDigits (by decide) (by decide) hc

theorem exists_toDigits_cons (n : Nat) :
    ∃ c ds, Nat.toDigits 10 n = c :: ds ∧ c.isDigit = true := by
  obtain ⟨c, ds, hds⟩ := List.exists_cons_of_ne_nil (Nat.toDigits_ne_nil (n := n) (b := 10))
  exact ⟨c, ds, hds, isDigit_toDigits n c (by rw [hds]; exact List.mem_cons_self)⟩

/-- Only the digits of zero begin with a zero. -/
theorem head_toDigits_ne {n : Nat} (hn : n ≠ 0) : ∀ c ∈ (Nat.toDigits 10 n).head?, c ≠ '0' := by
  induction n using Nat.strongRecOn with
  | ind n ih =>
    rw [Nat.toDigits_eq_if (by decide)]
    split
    · rename_i hlt
      have hsmall : ∀ n < 10, n ≠ 0 → Nat.digitChar n ≠ '0' := by decide
      rintro c ⟨⟩
      exact hsmall n hlt hn
    · rw [List.head?_append_of_ne_nil _ Nat.toDigits_ne_nil]
      exact ih (n / 10) (by omega) (by omega)

theorem toList_toString (n : Int) :
    (toString n).toList =
      if 0 ≤ n then Nat.toDigits 10 n.toNat else '-' :: Nat.toDigits 10 (-n).toNat := by
  rw [Int.toString_eq_repr, Int.repr_eq_if]
  split <;> simp

section Numbers

variable {rest : List Char} (hrest : EndsNumber rest)

include hrest

theorem readDigits_append {ds : List Char} (hne : ds ≠ []) (hds : ∀ c ∈ ds, c.isDigit = true) :
    readDigits (ds ++ rest) = some (ds, rest) := by
  have htake : rest.takeWhile Char.isDigit = [] ∧ rest.dropWhile Char.isDigit = rest := by
    cases rest with
    | nil => exact ⟨rfl, rfl⟩
    | cons c rest =>
      have hc : ¬ c.isDigit = true := by simp [(hrest c rfl).1]
      exact ⟨List.takeWhile_cons_of_neg hc, List.dropWhile_cons_of_neg hc⟩
  unfold readDigits
  rw [List.takeWhile_append_of_pos hds, List.dropWhile_append_of_pos hds, htake.1, htake.2,
    List.append_nil]
  simp [hne]

theorem readWhole_toDigits (n : Nat) :
    readWhole (Nat.toDigits 10 n ++ rest) = some (Nat.toDigits 10 n, rest) := by
  by_cases hn : n = 0
  · have hdigit : ¬ rest.head?.any Char.isDigit = true := by
      rw [Option.any_eq_true]
      rintro ⟨c, hc, hdigit⟩
      rw [(hrest c hc).1] at hdigit
      cases hdigit
    rw [hn, Nat.toDigits_zero, List.singleton_append, readWhole, if_neg hdigit]
  · obtain ⟨c, ds, hds, _⟩ := exists_toDigits_cons n
    have hzero : c ≠ '0' := head_toDigits_ne hn c (by rw [hds]; rfl)
    have hread := readDigits_append hrest Nat.toDigits_ne_nil (isDigit_toDigits n)
    rw [hds] at hread ⊢
    rw [List.cons_append, readWhole.eq_2 _ fun _ heq => hzero (List.cons.inj heq).1]
    exact hread

theorem readFraction_none : readFraction rest = some ([], rest) := by
  cases rest with
  | nil => rfl
  | cons c rest => rw [readFraction.eq_2 _ fun _ heq => (hrest c rfl).2.1 (List.cons.inj heq).1]

theorem readExponent_none : readExponent rest = some ([], rest) := by
  cases rest with
  | nil => rfl
  | cons c rest =>
    obtain ⟨_, _, hlower, hupper⟩ := hrest c rfl
    simp [readExponent, hlower, hupper]

/-- A natural number is read up to where it ends, with a minus before it or without. -/
theorem readNumber_toDigits (n : Nat) :
    readNumber (Nat.toDigits 10 n ++ rest) = some (Nat.toDigits 10 n, rest) ∧
      readNumber ('-' :: Nat.toDigits 10 n ++ rest) = some ('-' :: Nat.toDigits 10 n, rest) := by
  have hwhole := readWhole_toDigits hrest n
  have hfraction := readFraction_none hrest
  have hexponent := readExponent_none hrest
  constructor
  · obtain ⟨c, ds, hds, hc⟩ := exists_toDigits_cons n
    have hminus : c ≠ '-' := by
      rintro rfl
      exact absurd hc (by decide)
    rw [hds] at hwhole ⊢
    unfold readNumber
    rw [List.cons_append] at hwhole ⊢
    simp [hminus, hwhole, hfraction, hexponent]
  · unfold readNumber
    simp [hwhole, hfraction, hexponent]

/-- An integer is read up to where it ends. -/
theorem readNumber_toString (n : Int) :
    readNumber ((toString n).toList ++ rest) = some ((toString n).toList, rest) := by
  rw [toList_toString]
  split
  · exact (readNumber_toDigits hrest _).1
  · exact (readNumber_toDigits hrest _).2

end Numbers

/-! ## Values -/

/-- A value whose numbers are integers. -/
inductive Integral : Json → Prop
  | null : Integral .null
  | bool (b : Bool) : Integral (.bool b)
  | int (n : Int) : Integral (.int n)
  | string (s : String) : Integral (.string s)
  | array {items : List Json} : (∀ v ∈ items, Integral v) → Integral (.array items)
  | object {members : List (String × Json)} :
      (∀ m ∈ members, Integral m.2) → Integral (.object members)

theorem toList_quote (s : String) :
    (quote s).toList = '"' :: (s.toList.flatMap escape ++ ['"']) := by
  rw [quote, String.toList_ofList]
  rfl

/-- An integer begins with a digit or a minus. -/
theorem exists_head_toString (n : Int) :
    ∃ c cs, (toString n).toList = c :: cs ∧ (c = '-' ∨ c.isDigit = true) := by
  rw [toList_toString]
  split
  · obtain ⟨c, ds, hds, hc⟩ := exists_toDigits_cons n.toNat
    exact ⟨c, ds, hds, .inr hc⟩
  · exact ⟨'-', _, rfl, .inl rfl⟩

/-! ### The parts of a written value -/

theorem toList_write_array (items : List Json) :
    (Json.array items).write.toList = '[' :: ((writeItems true items).toList ++ [']']) := by
  simp [write]

theorem toList_write_object (members : List (String × Json)) :
    (Json.object members).write.toList =
      '\x7b' :: ((writeMembers true members).toList ++ ['\x7d']) := by
  simp [write]

theorem toList_writeItems (v : Json) (vs : List Json) :
    (writeItems true (v :: vs)).toList = v.write.toList ++ (writeItems false vs).toList ∧
      (writeItems false (v :: vs)).toList = ',' :: (writeItems true (v :: vs)).toList := by
  simp [writeItems]

theorem toList_writeMembers (k : String) (v : Json) (ms : List (String × Json)) :
    (writeMembers true ((k, v) :: ms)).toList =
        (quote k).toList ++ ':' :: (v.write.toList ++ (writeMembers false ms).toList) ∧
      (writeMembers false ((k, v) :: ms)).toList =
        ',' :: (writeMembers true ((k, v) :: ms)).toList := by
  simp [writeMembers]

/-- No value begins with a blank, and none with a closing bracket. -/
theorem exists_head_write {v : Json} (h : Integral v) :
    ∃ c cs, v.write.toList = c :: cs ∧ isGap c = false ∧ c ≠ ']' := by
  cases h with
  | null => exact ⟨'n', _, rfl, by decide, by decide⟩
  | bool b =>
    cases b with
    | true => exact ⟨'t', _, rfl, by decide, by decide⟩
    | false => exact ⟨'f', _, rfl, by decide, by decide⟩
  | int n =>
    obtain ⟨c, cs, htext, hc⟩ := exists_head_toString n
    refine ⟨c, cs, htext, ?_, ?_⟩
    · rcases hc with rfl | hc
      · decide
      · cases hgap : isGap c with
        | false => rfl
        | true =>
          simp only [isGap, Bool.or_eq_true, beq_iff_eq] at hgap
          rcases hgap with ((rfl | rfl) | rfl) | rfl <;> exact absurd hc (by decide)
    · rintro rfl
      exact absurd hc (by decide)
  | string s => exact ⟨'"', _, toList_quote s, by decide, by decide⟩
  | array => exact ⟨'[', _, toList_write_array _, by decide, by decide⟩
  | object => exact ⟨'\x7b', _, toList_write_object _, by decide, by decide⟩

/-! ### Reading the parts -/

section Values

variable {wanted : String → Bool}

/-- The value is read in front of any text that does not go on with a number, with as much fuel as
it has characters. -/
def IsReadBack (wanted : String → Bool) (v : Json) : Prop :=
  ∀ strict fuel rest, v.write.toList.length ≤ fuel → EndsNumber rest →
    readValue wanted strict fuel (v.write.toList ++ rest) = some (v, rest)

/-- A text that begins as an integer does is read as a number. -/
theorem readValue_number (strict : Bool) (fuel : Nat) {c : Char} {cs : List Char}
    (h : c = '-' ∨ c.isDigit = true) :
    readValue wanted strict (fuel + 1) (c :: cs) =
      (readNumber (c :: cs)).map fun (t, r) => (.number (String.ofList t), r) := by
  have hgap : isGap c = false := by
    rw [Bool.eq_false_iff]
    intro hgap
    simp only [isGap, Bool.or_eq_true, beq_iff_eq] at hgap
    rcases hgap with ((rfl | rfl) | rfl) | rfl <;> exact absurd h (by decide)
  rw [readValue, List.dropWhile_cons_of_neg (by simp [hgap])]
  split
  -- the other values begin with a letter, a quote or an opening bracket
  all_goals first
    | rfl
    | rename_i heq
      obtain ⟨rfl, _⟩ := List.cons.inj heq
      exact absurd h (by decide)

theorem endsNumber_comma (rest : List Char) : EndsNumber (',' :: rest) :=
  endsNumber_cons (by decide) rest

/-- The items of an array are read up to its closing bracket. -/
theorem readItems_writeItems {items : List Json} (hne : items ≠ [])
    (hread : ∀ v ∈ items, IsReadBack wanted v) (strict : Bool) {fuel : Nat}
    (hfuel : (writeItems true items).toList.length < fuel) (rest : List Char) :
    readItems wanted strict fuel ((writeItems true items).toList ++ ']' :: rest) =
      some (items, rest) := by
  induction items generalizing fuel with
  | nil => exact absurd rfl hne
  | cons v vs ih =>
    obtain ⟨fuel, rfl⟩ := Nat.exists_eq_succ_of_ne_zero (Nat.ne_of_gt (Nat.zero_lt_of_lt hfuel))
    rw [(toList_writeItems v vs).1, List.length_append] at hfuel
    rw [(toList_writeItems v vs).1, List.append_assoc, readItems]
    have hv := hread v List.mem_cons_self strict fuel
    cases vs with
    | nil =>
      have hnil : (writeItems false []).toList = [] := rfl
      rw [hnil, List.nil_append, hv _ (by omega) (endsNumber_cons (by decide) rest)]
      rfl
    | cons w ws =>
      rw [(toList_writeItems w ws).2, List.length_cons] at hfuel
      have hmore : readItems wanted strict fuel
          ((writeItems true (w :: ws)).toList ++ ']' :: rest) = some (w :: ws, rest) :=
        ih (List.cons_ne_nil w ws) (fun u hu => hread u (List.mem_cons_of_mem v hu)) (by omega)
      rw [(toList_writeItems w ws).2, List.cons_append, hv _ (by omega) (endsNumber_comma _)]
      simp [isGap, hmore]

/-- What follows the value of the member named `k`. -/
def readMore (wanted : String → Bool) (strict : Bool) (fuel : Nat) (k : String)
    (p : Json × List Char) : Option (List (String × Json) × List Char) :=
  match p.2.dropWhile isGap with
  | ',' :: rest => (readMembers wanted strict fuel rest).map fun (ms, r) => ((k, p.1) :: ms, r)
  | '\x7d' :: rest => some ([(k, p.1)], rest)
  | _ => none

/-- A name in quotes and the colon behind it are read before the value of the member. -/
theorem readMembers_quote (strict : Bool) (fuel : Nat) (k : String) (rest : List Char) :
    readMembers wanted strict (fuel + 1) ((quote k).toList ++ ':' :: rest) =
      (readValue wanted (strict && wanted k) fuel rest).bind (readMore wanted strict fuel k) := by
  have hquote (cs : List Char) : ('"' :: cs).dropWhile isGap = '"' :: cs := rfl
  have hcolon : (':' :: rest).dropWhile isGap = ':' :: rest := rfl
  have hname := readStringBody_flatMap strict k.toList (':' :: rest)
  rw [toList_quote, List.cons_append, List.append_assoc, List.singleton_append, readMembers]
  simp only [hquote, hname, hcolon, Option.bind_eq_bind, Option.bind_some, String.ofList_toList]
  rfl

/-- The members of an object are read up to its closing brace. -/
theorem readMembers_writeMembers {members : List (String × Json)} (hne : members ≠ [])
    (hread : ∀ m ∈ members, IsReadBack wanted m.2) (strict : Bool) {fuel : Nat}
    (hfuel : (writeMembers true members).toList.length < fuel) (rest : List Char) :
    readMembers wanted strict fuel ((writeMembers true members).toList ++ '\x7d' :: rest) =
      some (members, rest) := by
  induction members generalizing fuel with
  | nil => exact absurd rfl hne
  | cons m ms ih =>
    obtain ⟨k, v⟩ := m
    obtain ⟨fuel, rfl⟩ := Nat.exists_eq_succ_of_ne_zero (Nat.ne_of_gt (Nat.zero_lt_of_lt hfuel))
    rw [(toList_writeMembers k v ms).1, List.length_append, List.length_cons,
      List.length_append] at hfuel
    rw [(toList_writeMembers k v ms).1, List.append_assoc, List.cons_append, List.append_assoc,
      readMembers_quote]
    have hv : ∀ rest, v.write.toList.length ≤ fuel → EndsNumber rest →
        readValue wanted (strict && wanted k) fuel (v.write.toList ++ rest) = some (v, rest) :=
      hread (k, v) List.mem_cons_self (strict && wanted k) fuel
    cases ms with
    | nil =>
      have hnil : (writeMembers false []).toList = [] := rfl
      rw [hnil, List.nil_append, hv _ (by omega) (endsNumber_cons (by decide) rest)]
      rfl
    | cons m ms =>
      obtain ⟨l, w⟩ := m
      rw [(toList_writeMembers l w ms).2, List.length_cons] at hfuel
      have hmore : readMembers wanted strict fuel
          ((writeMembers true ((l, w) :: ms)).toList ++ '\x7d' :: rest) =
            some ((l, w) :: ms, rest) :=
        ih (List.cons_ne_nil _ _) (fun u hu => hread u (List.mem_cons_of_mem _ hu)) (by omega)
      rw [(toList_writeMembers l w ms).2, List.cons_append, hv _ (by omega) (endsNumber_comma _)]
      simp [readMore, isGap, hmore]

/-- An array whose first item follows the bracket at once. -/
theorem readValue_items (strict : Bool) (fuel : Nat) {c : Char} {cs : List Char}
    (hgap : isGap c = false) (hc : c ≠ ']') :
    readValue wanted strict (fuel + 1) ('[' :: c :: cs) =
      (readItems wanted strict fuel (c :: cs)).map fun (vs, r) => (.array vs, r) := by
  have hopen : ('[' :: c :: cs).dropWhile isGap = '[' :: c :: cs := rfl
  have hfirst : (c :: cs).dropWhile isGap = c :: cs :=
    List.dropWhile_cons_of_neg (by simp [hgap])
  rw [readValue, hopen]
  simp only [hfirst]
  split
  · rename_i heq
    exact absurd (List.cons.inj heq).1 hc
  · rfl

/-- An object whose first name follows the brace at once. -/
theorem readValue_members (strict : Bool) (fuel : Nat) (cs : List Char) :
    readValue wanted strict (fuel + 1) ('\x7b' :: '"' :: cs) =
      (readMembers wanted strict fuel ('"' :: cs)).map fun (ms, r) => (.object ms, r) := by
  rw [readValue]
  rfl

theorem isReadBack_of_succ {v : Json} (h : Integral v)
    (hread : ∀ strict fuel rest, v.write.toList.length ≤ fuel + 1 → EndsNumber rest →
      readValue wanted strict (fuel + 1) (v.write.toList ++ rest) = some (v, rest)) :
    IsReadBack wanted v := by
  intro strict fuel rest hfuel hrest
  obtain ⟨c, cs, htext, _⟩ := exists_head_write h
  cases fuel with
  | zero =>
    rw [htext, List.length_cons] at hfuel
    omega
  | succ fuel => exact hread strict fuel rest hfuel hrest

/-- A written value is read up to its end. -/
theorem isReadBack_of_integral {v : Json} (h : Integral v) : IsReadBack wanted v := by
  induction h with
  | null =>
    refine isReadBack_of_succ .null fun strict fuel rest _ _ => ?_
    simp [write, readValue, isGap]
  | bool b =>
    refine isReadBack_of_succ (.bool b) fun strict fuel rest _ _ => ?_
    cases b <;> simp [write, readValue, isGap]
  | int n =>
    refine isReadBack_of_succ (.int n) fun strict fuel rest _ hrest => ?_
    obtain ⟨c, cs, htext, hc⟩ := exists_head_toString n
    have hnumber := readNumber_toString hrest n
    show readValue wanted strict (fuel + 1) ((toString n).toList ++ rest) = _
    rw [htext, List.cons_append, readValue_number strict fuel hc, ← List.cons_append, ← htext,
      hnumber, Option.map_some]
    simp only [String.ofList_toList, int]
  | string s =>
    refine isReadBack_of_succ (.string s) fun strict fuel rest _ _ => ?_
    rw [write, toList_quote, readValue]
    simp [isGap, readStringBody_flatMap]
  | @array items h ih =>
    refine isReadBack_of_succ (.array h) fun strict fuel rest hfuel _ => ?_
    rw [toList_write_array] at hfuel ⊢
    simp only [List.length_cons, List.length_append, List.length_nil] at hfuel
    rw [List.cons_append, List.append_assoc, List.singleton_append]
    cases items with
    | nil => simp [isGap, writeItems, readValue]
    | cons v vs =>
      have hitems := readItems_writeItems (List.cons_ne_nil v vs) ih strict
        (show (writeItems true (v :: vs)).toList.length < fuel by omega) rest
      obtain ⟨c, cs, htext, hgap, hbracket⟩ := exists_head_write (h v List.mem_cons_self)
      rw [(toList_writeItems v vs).1, htext, List.cons_append] at hitems ⊢
      rw [List.cons_append, readValue_items strict fuel hgap hbracket, ← List.cons_append, hitems]
      rfl
  | @object members h ih =>
    refine isReadBack_of_succ (.object h) fun strict fuel rest hfuel _ => ?_
    rw [toList_write_object] at hfuel ⊢
    simp only [List.length_cons, List.length_append, List.length_nil] at hfuel
    rw [List.cons_append, List.append_assoc, List.singleton_append]
    cases members with
    | nil => simp [isGap, writeMembers, readValue]
    | cons m ms =>
      obtain ⟨k, v⟩ := m
      have hmembers := readMembers_writeMembers (List.cons_ne_nil (k, v) ms) ih strict
        (show (writeMembers true ((k, v) :: ms)).toList.length < fuel by omega) rest
      rw [(toList_writeMembers k v ms).1, toList_quote, List.cons_append, List.cons_append]
        at hmembers ⊢
      rw [readValue_members, hmembers]
      rfl

end Values

/-- **A written value is read back,** whichever members it is read for. -/
theorem readFor?_write (wanted : String → Bool) {v : Json} (h : Integral v) :
    readFor? wanted v.write = some v := by
  have hread : readValue wanted true (2 * v.write.toList.length + 2) (v.write.toList ++ []) =
      some (v, []) := isReadBack_of_integral h true (2 * v.write.toList.length + 2) []
    (by omega) endsNumber_nil
  rw [List.append_nil] at hread
  unfold readFor?
  simp only [hread]
  rfl

/-! ## One line -/

theorem le_of_mem_escape {c d : Char} (h : d ∈ escape c) : 0x20 ≤ d.toNat := by
  have hhex : ∀ n < 16, 0x20 ≤ (hexDigit n).toNat := by decide
  unfold escape at h
  iterate 7
    split at h
    · simp only [List.mem_cons, List.not_mem_nil, or_false] at h
      rcases h with rfl | rfl <;> decide
  split at h
  · rename_i hcontrol
    simp only [List.mem_cons, List.not_mem_nil, or_false] at h
    rcases h with rfl | rfl | rfl | rfl | rfl | rfl
    · decide
    · decide
    · decide
    · decide
    · exact hhex _ (by omega)
    · exact hhex _ (by omega)
  · rename_i hcontrol
    rw [List.mem_singleton.1 h]
    omega

theorem le_of_mem_quote {s : String} {c : Char} (h : c ∈ (quote s).toList) : 0x20 ≤ c.toNat := by
  rw [toList_quote, List.mem_cons, List.mem_append, List.mem_singleton, List.mem_flatMap] at h
  rcases h with rfl | ⟨d, _, hc⟩ | rfl
  · decide
  · exact le_of_mem_escape hc
  · decide

theorem le_of_mem_toString {n : Int} {c : Char} (h : c ∈ (toString n).toList) :
    0x20 ≤ c.toNat := by
  have hdigit : ∀ m, c ∈ Nat.toDigits 10 m → 0x20 ≤ c.toNat := by
    intro m hc
    have := isDigit_toDigits m c hc
    simp only [Char.isDigit, Bool.and_eq_true, decide_eq_true_eq] at this
    exact Nat.le_trans (by decide) (UInt32.le_iff_toNat_le.1 this.1)
  rw [toList_toString] at h
  split at h
  · exact hdigit _ h
  · rcases List.mem_cons.1 h with rfl | h
    · decide
    · exact hdigit _ h

theorem le_of_mem_writeItems {items : List Json}
    (hitems : ∀ v ∈ items, ∀ c ∈ v.write.toList, 0x20 ≤ c.toNat) {c : Char}
    (h : c ∈ (writeItems true items).toList) : 0x20 ≤ c.toNat := by
  induction items with
  | nil => cases h
  | cons v vs ih =>
    rw [(toList_writeItems v vs).1, List.mem_append] at h
    rcases h with h | h
    · exact hitems v List.mem_cons_self c h
    · cases vs with
      | nil => cases h
      | cons w ws =>
        rw [(toList_writeItems w ws).2, List.mem_cons] at h
        rcases h with rfl | h
        · decide
        · exact ih (fun u hu => hitems u (List.mem_cons_of_mem v hu)) h

theorem le_of_mem_writeMembers {members : List (String × Json)}
    (hmembers : ∀ m ∈ members, ∀ c ∈ m.2.write.toList, 0x20 ≤ c.toNat) {c : Char}
    (h : c ∈ (writeMembers true members).toList) : 0x20 ≤ c.toNat := by
  induction members with
  | nil => cases h
  | cons m ms ih =>
    obtain ⟨k, v⟩ := m
    rw [(toList_writeMembers k v ms).1, List.mem_append, List.mem_cons, List.mem_append] at h
    rcases h with h | rfl | h | h
    · exact le_of_mem_quote h
    · decide
    · exact hmembers (k, v) List.mem_cons_self c h
    · cases ms with
      | nil => cases h
      | cons m ms =>
        obtain ⟨l, w⟩ := m
        rw [(toList_writeMembers l w ms).2, List.mem_cons] at h
        rcases h with rfl | h
        · decide
        · exact ih (fun u hu => hmembers u (List.mem_cons_of_mem _ hu)) h

theorem le_of_all {text : List Char} (h : text.all (0x20 ≤ ·.toNat) = true) :
    ∀ c ∈ text, 0x20 ≤ c.toNat := by
  intro c hc
  exact of_decide_eq_true (List.all_eq_true.1 h c hc)

/-- **No control character is written.** -/
theorem le_of_mem_write {v : Json} (h : Integral v) : ∀ c ∈ v.write.toList, 0x20 ≤ c.toNat := by
  induction h with
  | null => exact le_of_all (by decide)
  | bool b =>
    cases b with
    | false => exact le_of_all (by decide)
    | true => exact le_of_all (by decide)
  | int n => exact fun c => le_of_mem_toString
  | string s => exact fun c => le_of_mem_quote
  | array _ ih =>
    intro c hc
    rw [toList_write_array, List.mem_cons, List.mem_append, List.mem_singleton] at hc
    rcases hc with rfl | hc | rfl
    · decide
    · exact le_of_mem_writeItems ih hc
    · decide
  | object _ ih =>
    intro c hc
    rw [toList_write_object, List.mem_cons, List.mem_append, List.mem_singleton] at hc
    rcases hc with rfl | hc | rfl
    · decide
    · exact le_of_mem_writeMembers ih hc
    · decide

end LintScan.Json
