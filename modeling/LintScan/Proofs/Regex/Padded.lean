import LintScan.Regex.Pattern.Read

/-!
# A parenthesis behind a pattern

A closing parenthesis is written behind a pattern, and both are read side by side. Up to the end of
the pattern nothing changes: no part of it waits for a closing parenthesis. At the end the
parenthesis is still to be read, or the pattern ends within a comment, which swallows it.

* `Padded` — the rests of both texts.
* `Tracks` — the two readings of a part: they succeed alike, or both fail, or the reading with the
  parenthesis gets beyond the end of the pattern; `late` says where it may be then.
* `tracks_readEscape`, `tracks_readBounds`, `tracks_readBracketed` — the parts of a pattern.
-/

namespace LintScan.Regex

/-! ## Texts -/

/-- The second text is the first with a closing parenthesis behind it, or the first itself. -/
inductive Padded : List Char → List Char → Prop
  | swallowed : Padded [] []
  | paren : Padded [] [')']
  | cons (c : Char) {cs cs' : List Char} : Padded cs cs' → Padded (c :: cs) (c :: cs')

namespace Padded

variable {cs cs' : List Char}

theorem append_paren (cs : List Char) : Padded cs (cs ++ [')']) := by
  induction cs with
  | nil => exact .paren
  | cons c cs ih => exact .cons c ih

theorem length_le (h : Padded cs cs') : cs.length ≤ cs'.length ∧ cs'.length ≤ cs.length + 1 := by
  induction h with
  | swallowed => decide
  | paren => decide
  | cons c _ ih =>
    simp only [List.length_cons]
    omega

theorem dropIgnored (h : Padded cs cs') (comment : Bool) :
    Padded (dropIgnored comment cs) (dropIgnored comment cs') := by
  induction h generalizing comment with
  | swallowed => cases comment <;> exact .swallowed
  | paren =>
    cases comment with
    | false => exact .paren
    | true => exact .swallowed
  | cons c h ih =>
    cases comment with
    | true =>
      simp only [Regex.dropIgnored]
      exact ih _
    | false =>
      simp only [Regex.dropIgnored]
      split
      · exact ih false
      · split
        · exact ih true
        · exact h.cons c

theorem skip (h : Padded cs cs') (f : Flags) : Padded (f.skip cs) (f.skip cs') := by
  unfold Flags.skip
  split
  · exact h.dropIgnored false
  · exact h

theorem dropBlanks (h : Padded cs cs') :
    Padded (cs.dropWhile Text.isBlank) (cs'.dropWhile Text.isBlank) := by
  induction h with
  | swallowed => exact .swallowed
  | paren => exact .paren
  | cons c h ih =>
    simp only [List.dropWhile_cons]
    split
    · exact ih
    · exact h.cons c

/-- Only the parenthesis that was added can be gone. -/
theorem exists_cons {c : Char} (h : Padded cs (c :: cs')) (hc : c ≠ ')') :
    ∃ t, cs = c :: t ∧ Padded t cs' := by
  cases h with
  | paren => exact absurd rfl hc
  | cons _ h => exact ⟨_, rfl, h⟩

end Padded

theorem length_dropIgnored_le (comment : Bool) (cs : List Char) :
    (dropIgnored comment cs).length ≤ cs.length := by
  induction cs generalizing comment with
  | nil => cases comment <;> exact Nat.le_refl 0
  | cons c cs ih =>
    cases comment with
    | true => exact Nat.le_succ_of_le (ih _)
    | false =>
      simp only [dropIgnored]
      split
      · exact Nat.le_succ_of_le (ih false)
      · split
        · exact Nat.le_succ_of_le (ih true)
        · exact Nat.le_refl _

theorem length_skip_le (f : Flags) (cs : List Char) : (f.skip cs).length ≤ cs.length := by
  unfold Flags.skip
  split
  · exact length_dropIgnored_le false cs
  · exact Nat.le_refl _

@[simp] theorem Flags.skip_nil (f : Flags) : f.skip [] = [] := by
  unfold skip
  split <;> rfl

@[simp] theorem Flags.skip_paren (f : Flags) : f.skip [')'] = [')'] := by
  unfold skip
  split <;> rfl

theorem Flags.skip_brace (f : Flags) (cs : List Char) : f.skip ('\x7b' :: cs) = '\x7b' :: cs := by
  unfold skip
  split <;> rfl

/-! ## Readings -/

/-- The reading of a pattern and the one with a parenthesis behind it. -/
inductive Tracks {α β : Type} (R : α → β → Prop) (late : β → Prop) :
    Except PatternError α → Except PatternError β → Prop
  | ok {a : α} {b : β} : R a b → Tracks R late (.ok a) (.ok b)
  | error (e e' : PatternError) : Tracks R late (.error e) (.error e')
  | late (e : PatternError) {b : β} : late b → Tracks R late (.error e) (.ok b)

/-- The reading with the parenthesis does not get beyond the end. -/
def never {β : Type} (_ : β) : Prop := False

theorem Tracks.bind {α β γ δ : Type} {R : α → β → Prop} {late : β → Prop} {S : γ → δ → Prop}
    {later : δ → Prop} {x : Except PatternError α} {y : Except PatternError β}
    {g : α → Except PatternError γ} {k : β → Except PatternError δ} (h : Tracks R late x y)
    (hok : ∀ a b, R a b → Tracks S later (g a) (k b))
    (hlate : ∀ e b, late b → Tracks S later (.error e) (k b)) :
    Tracks S later (x >>= g) (y >>= k) := by
  cases h with
  | ok h => exact hok _ _ h
  | error e e' => exact .error e e'
  | late e h => exact hlate e _ h

theorem Tracks.mono {α β : Type} {R S : α → β → Prop} {late later : β → Prop}
    {x : Except PatternError α} {y : Except PatternError β} (h : Tracks R late x y)
    (hok : ∀ a b, R a b → S a b) (hlate : ∀ b, late b → later b) : Tracks S later x y := by
  cases h with
  | ok h => exact .ok (hok _ _ h)
  | error e e' => exact .error e e'
  | late e h => exact .late e (hlate _ h)

/-- What both readings share: what was read, before rests of no more than `n` characters. -/
inductive Same {α : Type} (n : Nat) : α × List Char → α × List Char → Prop
  | mk {a : α} {cs cs' : List Char} : Padded cs cs' → cs.length ≤ n → Same n (a, cs) (a, cs')

namespace Same

variable {α : Type} {n : Nat} {p q : α × List Char}

theorem value (h : Same n p q) : q.1 = p.1 := by
  cases h
  rfl

theorem rest (h : Same n p q) : Padded p.2 q.2 := by
  cases h
  assumption

theorem bound (h : Same n p q) : p.2.length ≤ n := by
  cases h
  assumption

end Same

/-! ## Escape sequences -/

section Escapes

variable (f : Flags) {n : Nat} {cs cs' : List Char}

theorem Same.skip {α : Type} (a : α) (h : Padded cs cs') (hn : cs.length ≤ n) :
    Same n (a, f.skip cs) (a, f.skip cs') :=
  ⟨h.skip f, Nat.le_trans (length_skip_le f cs) hn⟩

theorem tracks_readHexBraced {fuel fuel' : Nat} (h : Padded cs cs') (hn : cs.length ≤ n)
    (hfuel : cs.length < fuel) (hfuel' : cs'.length < fuel') (digits : List Nat) :
    Tracks (Same n) never (readHexBraced f fuel digits cs) (readHexBraced f fuel' digits cs') := by
  induction fuel generalizing fuel' digits cs cs' with
  | zero => omega
  | succ fuel ih =>
    obtain ⟨fuel', rfl⟩ := Nat.exists_eq_succ_of_ne_zero (Nat.ne_zero_of_lt hfuel')
    rw [readHexBraced, readHexBraced]
    have hskip := h.skip f
    have hle := length_skip_le f cs
    have hle' := length_skip_le f cs'
    generalize f.skip cs = s at hskip hle ⊢
    generalize f.skip cs' = s' at hskip hle' ⊢
    cases hskip with
    | swallowed => exact .error _ _
    | paren => exact .error _ _
    | @cons c t t' ht =>
      simp only [List.length_cons] at hle hle'
      by_cases hc : c = '\x7d'
      · subst hc
        exact .ok (Same.skip f digits ht (by omega))
      · simp only
        cases hexValue? c with
        | none => exact .error _ _
        | some d => exact ih ht (by omega) (by omega) (Nat.lt_of_lt_of_le hle' (by omega)) _

theorem tracks_readHexFixed (h : Padded cs cs') (hn : cs.length ≤ n) (count : Nat)
    (digits : List Nat) :
    Tracks (Same n) never (readHexFixed f count digits cs) (readHexFixed f count digits cs') := by
  induction count generalizing digits cs cs' with
  | zero => exact .ok (Same.skip f digits h hn)
  | succ count ih =>
    rw [readHexFixed, readHexFixed]
    have hskip := h.skip f
    have hle := length_skip_le f cs
    generalize f.skip cs = s at hskip hle ⊢
    generalize f.skip cs' = s' at hskip ⊢
    cases hskip with
    | swallowed => exact .error _ _
    | paren => exact .error _ _
    | @cons c t t' ht =>
      simp only [List.length_cons] at hle ⊢
      cases hexValue? c with
      | none => exact .error _ _
      | some d => exact ih ht (by omega) _

/-! ### Code points -/

/-- The code point of some hexadecimal digits. -/
def hexAtom (braced : Bool) (count : Nat) (p : List Nat × List Char) :
    Except PatternError (Atom × List Char) :=
  match p.1.isEmpty, (smallNat? 16 p.1).bind charOf? with
  | false, some c => .ok (.literal c (!braced && count == 2), p.2)
  | _, _ => .error .escape

theorem readHex_of_brace {rest : List Char} (h : f.skip cs = '\x7b' :: rest) (count : Nat) :
    readHex f count cs =
      readHexBraced f (rest.length + 1) [] rest >>= hexAtom true count := by
  unfold readHex
  simp only [h]
  rfl

theorem readHex_of_digit {c : Char} {rest : List Char} (h : f.skip cs = c :: rest)
    (hc : c ≠ '\x7b') (count : Nat) :
    readHex f count cs = readHexFixed f count [] (c :: rest) >>= hexAtom false count := by
  unfold readHex
  simp only [h]
  split
  · contradiction
  · rename_i heq
    exact absurd (List.cons.inj heq).1 hc
  · rfl

theorem tracks_hexAtom (braced : Bool) (count : Nat) {p q : List Nat × List Char}
    (h : Same n p q) :
    Tracks (Same n) never (hexAtom braced count p) (hexAtom braced count q) := by
  obtain ⟨hrest, hle⟩ := h
  unfold hexAtom
  simp only
  split
  · exact .ok ⟨hrest, hle⟩
  · exact .error _ _

theorem tracks_readHex (h : Padded cs cs') (hn : cs.length ≤ n) (count : Nat) :
    Tracks (Same n) never (readHex f (count + 1) cs) (readHex f (count + 1) cs') := by
  have hskip := h.skip f
  have hle := length_skip_le f cs
  generalize hs : f.skip cs = s at hskip hle
  generalize hs' : f.skip cs' = s' at hskip
  cases hskip with
  | swallowed =>
    unfold readHex
    simp only [hs, hs']
    exact .error _ _
  | paren =>
    rw [readHex_of_digit f hs' (by decide), readHexFixed, f.skip_paren]
    unfold readHex
    simp only [hs]
    exact .error _ _
  | @cons c t t' ht =>
    simp only [List.length_cons] at hle
    by_cases hc : c = '\x7b'
    · subst hc
      rw [readHex_of_brace f hs, readHex_of_brace f hs']
      have hdigits := tracks_readHexBraced f ht (by omega : t.length ≤ n) (Nat.lt_succ_self _)
        (Nat.lt_succ_self _) []
      exact hdigits.bind (fun _ _ => tracks_hexAtom true _) nofun
    · rw [readHex_of_digit f hs hc, readHex_of_digit f hs' hc]
      have hdigits := tracks_readHexFixed f (ht.cons c) (Nat.le_trans hle hn) (count + 1) []
      exact hdigits.bind (fun _ _ => tracks_hexAtom false _) nofun

/-! ### Properties -/

theorem readBraced_nil (fuel : Nat) (name : List Char) : readBraced f fuel name [] = none := by
  cases fuel with
  | zero => rfl
  | succ fuel => rw [readBraced, f.skip_nil]

theorem rel_readBraced {fuel fuel' : Nat} (h : Padded cs cs') (hn : cs.length ≤ n)
    (hfuel : cs.length < fuel) (hfuel' : cs'.length < fuel') (name : List Char) :
    Option.Rel (Same n) (readBraced f fuel name cs) (readBraced f fuel' name cs') := by
  induction fuel generalizing fuel' name cs cs' with
  | zero => omega
  | succ fuel ih =>
    obtain ⟨fuel', rfl⟩ := Nat.exists_eq_succ_of_ne_zero (Nat.ne_zero_of_lt hfuel')
    rw [readBraced, readBraced]
    have hskip := h.skip f
    have hle := length_skip_le f cs
    have hle' := length_skip_le f cs'
    generalize f.skip cs = s at hskip hle ⊢
    generalize f.skip cs' = s' at hskip hle' ⊢
    cases hskip with
    | swallowed => exact .none
    | paren =>
      -- the name goes on with the parenthesis, but is not closed either
      show Option.Rel _ none (readBraced f fuel' (name ++ [')']) [])
      rw [readBraced_nil]
      exact .none
    | @cons c t t' ht =>
      simp only [List.length_cons] at hle hle'
      by_cases hc : c = '\x7d'
      · subst hc
        exact .some ⟨ht, by omega⟩
      · simp only
        exact ih ht (by omega) (by omega) (Nat.lt_of_lt_of_le hle' (by omega)) _

/-- The set of a property that was found. -/
def propertyAtom (negated : Bool) (p : Option (CharSet × Bool) × List Char) :
    Except PatternError (Atom × List Char) :=
  match p.1 with
  | none => .error .property
  | some (s, again) =>
    if !f.unicode then .error .invalidText
    else do
      let s ← f.negate (negated != again) (f.fold s)
      .ok (.set s, p.2)

theorem tracks_propertyAtom (negated : Bool) {p q : Option (CharSet × Bool) × List Char}
    (h : Same n p q) {late : Atom × List Char → Prop} :
    Tracks (Same n) late (propertyAtom f negated p) (propertyAtom f negated q) := by
  obtain ⟨hrest, hle⟩ := h
  unfold propertyAtom
  simp only
  split
  · exact .error _ _
  · split
    · exact .error _ _
    · cases f.negate _ _ with
      | error e => exact .error e e
      | ok s => exact .ok ⟨hrest, hle⟩

theorem rest_propertyAtom {negated : Bool} {p : Option (CharSet × Bool) × List Char}
    {q : Atom × List Char} (h : propertyAtom f negated p = .ok q) : q.2 = p.2 := by
  unfold propertyAtom at h
  split at h
  · cases h
  · split at h
    · cases h
    · cases hset : f.negate _ _ with
      | error e => rw [hset] at h; cases h
      | ok s =>
        rw [hset] at h
        cases h
        rfl

/-- The reading with the parenthesis is at the end of the text. -/
def spent {α : Type} (p : α × List Char) : Prop := p.2 = []

theorem readProperty_of_char {c : Char} {rest : List Char} (h : f.skip cs = c :: rest)
    (hbrace : c ≠ '\x7b') (hback : c ≠ '\\') (negated : Bool) :
    readProperty f negated cs =
      propertyAtom f negated ((propertySet? [c]).map (·, false), f.skip rest) := by
  unfold readProperty
  simp only [h]
  rfl

theorem tracks_readProperty (h : Padded cs cs') (hn : cs.length ≤ n) (negated : Bool) :
    Tracks (Same n) spent (readProperty f negated cs) (readProperty f negated cs') := by
  have hskip := h.skip f
  have hle := length_skip_le f cs
  generalize hs : f.skip cs = s at hskip hle
  generalize hs' : f.skip cs' = s' at hskip
  cases hskip with
  | swallowed =>
    unfold readProperty
    simp only [hs, hs']
    exact .error _ _
  | paren =>
    -- one character may name a property, and the text ends behind it
    rw [readProperty_of_char f hs' (by decide) (by decide), f.skip_nil]
    unfold readProperty
    simp only [hs]
    cases hatom : propertyAtom f negated ((propertySet? [')']).map (·, false), []) with
    | error e => exact .error _ _
    | ok p => exact .late _ (rest_propertyAtom f hatom)
  | @cons c t t' ht =>
    simp only [List.length_cons] at hle
    have htn : t.length ≤ n := by omega
    by_cases hbrace : c = '\x7b'
    · subst hbrace
      unfold readProperty
      simp only [hs, hs']
      have hname := rel_readBraced f ht htn (Nat.lt_succ_self _) (Nat.lt_succ_self _) []
      generalize readBraced f (t.length + 1) [] t = x at hname ⊢
      generalize readBraced f (t'.length + 1) [] t' = y at hname ⊢
      cases hname with
      | none => exact .error _ _
      | some h =>
        obtain ⟨hrest, hlename⟩ := h
        exact tracks_propertyAtom f negated ⟨hrest, hlename⟩
    · by_cases hback : c = '\\'
      · subst hback
        unfold readProperty
        simp only [hs, hs']
        exact .error _ _
      · rw [readProperty_of_char f hs hbrace hback, readProperty_of_char f hs' hbrace hback]
        exact tracks_propertyAtom f negated (Same.skip f _ ht htn)

/-! ### Edges -/

theorem same_readEdgeName {fuel fuel' : Nat} (h : Padded cs cs') (hn : cs.length ≤ n)
    (hfuel : cs.length < fuel) (hfuel' : cs'.length < fuel') (name : List Char) :
    Same n (readEdgeName f fuel name cs) (readEdgeName f fuel' name cs') := by
  induction fuel generalizing fuel' name cs cs' with
  | zero => omega
  | succ fuel ih =>
    obtain ⟨fuel', rfl⟩ := Nat.exists_eq_succ_of_ne_zero (Nat.ne_zero_of_lt hfuel')
    cases h with
    | swallowed => exact ⟨.swallowed, hn⟩
    | paren => exact ⟨.paren, hn⟩
    | @cons c t t' ht =>
      rw [readEdgeName, readEdgeName]
      have hle := length_skip_le f t
      have hle' := length_skip_le f t'
      simp only [List.length_cons] at hn hfuel hfuel'
      split
      · exact ih (ht.skip f) (by omega) (by omega) (by omega) _
      · exact ⟨ht.cons c, hn⟩

/-- A word edge before a brace behind which only the parenthesis is left. -/
def EdgeBeforeBrace (p : Atom × List Char) : Prop :=
  ∃ edge t, p = (.look edge, '\x7b' :: t) ∧ f.skip t = [')']

/-- The edge that has a name. -/
def edgeAtom (p : List Char × List Char) : Except PatternError (Atom × List Char) :=
  match p.2, namedEdge? (!f.unicode) (String.ofList p.1) with
  | '\x7d' :: after, some a => .ok (.look a, after)
  | _, _ => .error .escape

theorem tracks_edgeAtom {p q : List Char × List Char} (h : Same n p q)
    {late : Atom × List Char → Prop} : Tracks (Same n) late (edgeAtom f p) (edgeAtom f q) := by
  obtain ⟨hafter, hle⟩ := h
  unfold edgeAtom
  simp only
  split
  · rename_i a heq
    cases hafter with
    | cons _ hafter =>
      simp only [heq]
      simp only [List.length_cons] at hle
      exact .ok ⟨hafter, Nat.le_of_succ_le hle⟩
  · rename_i hno
    split
    · rename_i after' a heq
      obtain ⟨t, rfl, _⟩ := hafter.exists_cons (by decide)
      exact absurd heq (hno _ _ rfl)
    · exact .error _ _

theorem readEdge_of_ne {c : Char} (hc : c ≠ '\x7b') (rest : List Char) :
    readEdge f (c :: rest) = .ok (.look (.wordEdge (!f.unicode)), c :: rest) := by
  unfold readEdge
  split
  · rename_i heq
    exact absurd (List.cons.inj heq).1 hc
  · rfl

theorem tracks_readEdge (h : Padded cs cs') (hn : cs.length ≤ n) :
    Tracks (Same n) (EdgeBeforeBrace f) (readEdge f cs) (readEdge f cs') := by
  have hplain {late : Atom × List Char → Prop} : Tracks (Same n) late
      (.ok (Atom.look (.wordEdge (!f.unicode)), cs))
      (.ok (Atom.look (.wordEdge (!f.unicode)), cs')) := .ok ⟨h, hn⟩
  cases h with
  | swallowed => exact hplain
  | paren => exact hplain
  | @cons c t t' ht =>
    by_cases hc : c = '\x7b'
    · subst hc
      simp only [readEdge]
      simp only [List.length_cons] at hn
      have hskip := ht.skip f
      have hle := length_skip_le f t
      have hle' := length_skip_le f t'
      generalize f.skip t = s at hskip hle ⊢
      generalize hs' : f.skip t' = s' at hskip hle' ⊢
      cases hskip with
      | swallowed => exact .error _ _
      | paren => exact .late _ ⟨_, t', rfl, hs'⟩
      | @cons d u u' hu =>
        simp only
        split
        · exact tracks_edgeAtom f (same_readEdgeName f (hu.cons d) (Nat.le_trans hle (by omega))
            (Nat.lt_succ_self _) (Nat.lt_succ_self _) [])
        · exact hplain
    · rw [readEdge_of_ne f hc, readEdge_of_ne f hc]
      exact hplain

/-! ### All sequences -/

theorem tracks_namedClass (ascii wide : CharSet) (negated : Bool) (h : Padded cs cs')
    (hn : cs.length ≤ n) {late : Atom × List Char → Prop} :
    Tracks (Same n) late (namedClass f ascii wide negated cs)
      (namedClass f ascii wide negated cs') := by
  unfold namedClass
  cases f.negate negated _ with
  | error e => exact .error e e
  | ok s => exact .ok ⟨h, hn⟩

/-- Where the reading of an escape sequence may be beyond the end. -/
def EscapeLate (p : Atom × List Char) : Prop := spent p ∨ EdgeBeforeBrace f p

theorem tracks_readEscape (h : Padded cs cs') (hn : cs.length ≤ n + 1) :
    Tracks (Same n) (EscapeLate f) (readEscape f cs) (readEscape f cs') := by
  cases h with
  | swallowed => exact .error _ _
  | paren => exact .late _ (.inl rfl)
  | @cons c t t' ht =>
    have hle : t.length ≤ n := Nat.le_of_succ_le_succ hn
    have hok (a : Atom) : Tracks (Same n) (EscapeLate f) (.ok (a, t)) (.ok (a, t')) :=
      .ok ⟨ht, hle⟩
    have hclass (ascii wide : CharSet) (negated : Bool) : Tracks (Same n) (EscapeLate f)
        (namedClass f ascii wide negated t) (namedClass f ascii wide negated t') :=
      tracks_namedClass f ascii wide negated ht hle
    have hhex (count : Nat) : Tracks (Same n) (EscapeLate f) (readHex f (count + 1) t)
        (readHex f (count + 1) t') := (tracks_readHex f ht hle count).mono (fun _ _ h => h) nofun
    have hproperty (negated : Bool) : Tracks (Same n) (EscapeLate f) (readProperty f negated t)
        (readProperty f negated t') :=
      (tracks_readProperty f ht hle negated).mono (fun _ _ h => h) fun _ => .inl
    have hedge : Tracks (Same n) (EscapeLate f) (readEdge f t) (readEdge f t') :=
      (tracks_readEdge f ht hle).mono (fun _ _ h => h) fun _ => .inr
    simp only [readEscape]
    split
    case h_24 =>
      split
      · exact hok _
      · exact .error _ _
    all_goals first
      | exact hok _
      | exact hclass _ _ _
      | exact hhex _
      | exact hproperty _
      | exact hedge

end Escapes

end LintScan.Regex
