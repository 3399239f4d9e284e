import LintScan.Proofs.Regex.Padded

/-!
# A parenthesis behind a class

* `tracks_readRange` — an item or a range. The reading with the parenthesis may take it for an item
  of the class, and is beyond the end then.
* `tracks_readBracketed` — a whole class. What is not closed without the parenthesis is not closed
  with it, so both readings succeed alike.
-/

namespace LintScan.Regex

variable (f : Flags) {n : Nat} {cs cs' : List Char}

/-! ## Items and ranges -/

theorem tracks_readItem (h : Padded cs cs') (hn : cs.length ≤ n + 1) :
    Tracks (Same n) (EscapeLate f) (readItem f cs) (readItem f cs') := by
  cases h with
  | swallowed => exact .error _ _
  | paren => exact .late _ (.inl rfl)
  | @cons c t t' ht =>
    have hle : t.length ≤ n := Nat.le_of_succ_le_succ hn
    by_cases hc : c = '\\'
    · subst hc
      exact tracks_readEscape f ht (Nat.le_succ_of_le hle)
    · simp only [readItem]
      exact .ok ⟨ht, hle⟩

theorem endsRange_eq (h : Padded cs cs') : endsRange f cs' = endsRange f cs := by
  unfold endsRange
  have hskip := h.skip f
  generalize f.skip cs = s at hskip ⊢
  generalize f.skip cs' = s' at hskip ⊢
  cases hskip with
  | swallowed => rfl
  | paren => rfl
  | cons c _ =>
    by_cases hbracket : c = ']'
    · subst hbracket
      rfl
    · by_cases hhyphen : c = '-'
      · subst hhyphen
        rfl
      · simp [hbracket, hhyphen]

/-- The set of an item that stands alone. -/
def itemSet : Atom → Except PatternError CharSet
  | .literal c _ => do
    let c ← literalOf f c
    .ok (.single c)
  | .set s => .ok s
  | .look _ => .error .escape

/-- The range up to the last item. -/
def rangeTo (first : Atom) (p : Atom × List Char) : Except PatternError (CharSet × List Char) :=
  match first, p.1 with
  | .literal lo _, .literal hi _ => do
    let lo ← literalOf f lo
    let hi ← literalOf f hi
    if lo ≤ hi then .ok (.range lo hi, p.2) else .error .classRange
  | _, _ => .error .classRange

/-- What follows the first item. -/
def rangeFrom (p : Atom × List Char) : Except PatternError (CharSet × List Char) :=
  match f.skip p.2 with
  | [] => .error .classOpen
  | '-' :: behind =>
    if endsRange f behind then do
      let s ← itemSet f p.1
      .ok (s, f.skip p.2)
    else
      match f.skip behind with
      | [] => .error .classOpen
      | more => readItem f more >>= rangeTo f p.1
  | rest => do
    let s ← itemSet f p.1
    .ok (s, rest)

theorem readRange_eq (cs : List Char) : readRange f cs = readItem f cs >>= rangeFrom f := rfl

/-- The reading with the parenthesis has at most the parenthesis before it. -/
def ending {α : Type} (p : α × List Char) : Prop := p.2 = [] ∨ p.2 = [')']

theorem rest_rangeTo {first : Atom} {p : Atom × List Char} {q : CharSet × List Char}
    (h : rangeTo f first p = .ok q) : q.2 = p.2 ∧ ∀ edge, p.1 ≠ .look edge := by
  unfold rangeTo at h
  split at h
  · rename_i hlast
    simp only [bind, Except.bind] at h
    split at h
    · cases h
    · split at h
      · cases h
      · split at h
        · cases h
          exact ⟨rfl, fun edge hedge => by rw [hedge] at hlast; cases hlast⟩
        · cases h
  · cases h

theorem tracks_rangeTo (first : Atom) {p q : Atom × List Char} (h : Same n p q)
    {late : CharSet × List Char → Prop} :
    Tracks (Same n) late (rangeTo f first p) (rangeTo f first q) := by
  unfold rangeTo
  rw [h.value]
  split
  · simp only [bind, Except.bind]
    split
    · exact .error _ _
    · split
      · exact .error _ _
      · split
        · exact .ok ⟨h.rest, h.bound⟩
        · exact .error _ _
  · exact .error _ _

theorem tracks_itemSet (a : Atom) (h : Padded cs cs') (hn : cs.length ≤ n)
    {late : CharSet × List Char → Prop} :
    Tracks (Same n) late (itemSet f a >>= fun s => .ok (s, cs))
      (itemSet f a >>= fun s => .ok (s, cs')) := by
  cases itemSet f a with
  | error e => exact .error e e
  | ok s => exact .ok ⟨h, hn⟩

theorem tracks_rangeTo_late (first : Atom) (e : PatternError) {p : Atom × List Char}
    (h : EscapeLate f p) : Tracks (Same n) ending (.error e) (rangeTo f first p) := by
  cases hrange : rangeTo f first p with
  | error e' => exact .error e e'
  | ok q =>
    obtain ⟨hrest, hlook⟩ := rest_rangeTo f hrange
    rcases h with hspent | ⟨edge, t, rfl, _⟩
    · exact .late e (.inl (hrest.trans hspent))
    · exact absurd rfl (hlook edge)

theorem rangeFrom_of_ne (first : Atom) {c : Char} {rest : List Char} (h : f.skip cs = c :: rest)
    (hc : c ≠ '-') :
    rangeFrom f (first, cs) = itemSet f first >>= fun s => .ok (s, c :: rest) := by
  unfold rangeFrom
  simp [h, hc]

theorem rangeFrom_nil (first : Atom) : rangeFrom f (first, []) = .error .classOpen := by
  unfold rangeFrom
  simp only [f.skip_nil]

/-- Beyond the end of an escape sequence nothing follows that makes it an item. -/
theorem not_rangeFrom_ok {p : Atom × List Char} (h : EscapeLate f p) :
    ∃ e, rangeFrom f p = .error e := by
  obtain ⟨first, rest⟩ := p
  rcases h with hspent | ⟨edge, t, hp, _⟩
  · obtain rfl : rest = [] := hspent
    exact ⟨_, rangeFrom_nil f first⟩
  · obtain ⟨rfl, rfl⟩ := Prod.mk.inj hp
    exact ⟨.escape, rangeFrom_of_ne f _ (f.skip_brace t) (by decide)⟩

theorem tracks_rangeFrom {p q : Atom × List Char} (h : Same n p q) :
    Tracks (Same n) ending (rangeFrom f p) (rangeFrom f q) := by
  obtain @⟨first, rest, rest', hrest, hn⟩ := h
  have hskip := hrest.skip f
  have hle := Nat.le_trans (length_skip_le f rest) hn
  generalize hs : f.skip rest = s at hskip hle
  generalize hs' : f.skip rest' = s' at hskip
  cases hskip with
  | swallowed =>
    simp only [rangeFrom, hs, hs']
    exact .error _ _
  | paren =>
    -- the item stands alone before the parenthesis
    rw [rangeFrom_of_ne f _ hs' (by decide)]
    simp only [rangeFrom, hs]
    cases itemSet f first with
    | error e => exact .error _ _
    | ok s => exact .late _ (.inr rfl)
  | @cons c t t' ht =>
    by_cases hc : c = '-'
    · subst hc
      simp only [rangeFrom, hs, hs', endsRange_eq f ht]
      split
      · exact tracks_itemSet f first (ht.cons '-') hle
      · have hbehind := ht.skip f
        have hlebehind := Nat.le_trans (length_skip_le f t) (Nat.le_of_succ_le hle)
        generalize f.skip t = u at hbehind hlebehind ⊢
        generalize f.skip t' = u' at hbehind ⊢
        cases hbehind with
        | swallowed => exact .error _ _
        | paren =>
          have hend : EscapeLate f (.literal ')' false, []) := .inl rfl
          exact tracks_rangeTo_late f first _ hend
        | @cons d v v' hv =>
          exact (tracks_readItem f (hv.cons d) (Nat.le_succ_of_le hlebehind)).bind
            (fun _ _ hsame => tracks_rangeTo f first hsame) fun e _ => tracks_rangeTo_late f first e
    · rw [rangeFrom_of_ne f _ hs hc, rangeFrom_of_ne f _ hs' hc]
      exact tracks_itemSet f first (ht.cons c) hle

theorem tracks_readRange (h : Padded cs cs') (hn : cs.length ≤ n + 1) :
    Tracks (Same n) ending (readRange f cs) (readRange f cs') := by
  rw [readRange_eq, readRange_eq]
  refine (tracks_readItem f h hn).bind (fun _ _ => tracks_rangeFrom f) fun e p hp => ?_
  obtain ⟨e', herror⟩ := not_rangeFrom_ok f hp
  rw [herror]
  exact .error e e'

theorem readRange_paren : readRange f [')'] = .error .classOpen := by
  rw [readRange_eq]
  exact rangeFrom_nil f _

/-! ## The head of a class -/

theorem dropHyphens_of_ne {c : Char} (hc : c ≠ '-') (fuel : Nat) (members : List Member)
    (rest : List Char) :
    readOpening.dropHyphens f fuel members (c :: rest) = (members, c :: rest) := by
  unfold readOpening.dropHyphens
  split
  · rfl
  · split
    · rename_i heq
      exact absurd (List.cons.inj heq).1 hc
    · rfl

theorem same_dropHyphens {fuel fuel' : Nat} (h : Padded cs cs') (hn : cs.length ≤ n)
    (hfuel : cs.length ≤ fuel) (hfuel' : cs'.length ≤ fuel') (members : List Member) :
    Same n (readOpening.dropHyphens f fuel members cs)
      (readOpening.dropHyphens f fuel' members cs') := by
  induction fuel generalizing fuel' members cs cs' with
  | zero =>
    have hempty : cs = [] := List.eq_nil_of_length_eq_zero (Nat.le_zero.1 hfuel)
    subst hempty
    have hstays : readOpening.dropHyphens f fuel' members cs' = (members, cs') := by
      cases h with
      | swallowed => cases fuel' <;> rfl
      | paren => cases fuel' <;> rfl
    rw [hstays]
    exact ⟨h, hn⟩
  | succ fuel ih =>
    cases h with
    | swallowed => cases fuel' <;> exact ⟨.swallowed, hn⟩
    | paren => cases fuel' <;> exact ⟨.paren, hn⟩
    | @cons c t t' ht =>
      obtain ⟨fuel', rfl⟩ : ∃ k, fuel' = k + 1 := ⟨fuel' - 1, by
        simp only [List.length_cons] at hfuel'
        omega⟩
      have hle := length_skip_le f t
      have hle' := length_skip_le f t'
      simp only [List.length_cons] at hfuel hfuel'
      by_cases hc : c = '-'
      · subst hc
        simp only [List.length_cons] at hn
        exact ih (ht.skip f) (by omega) (by omega) (by omega) _
      · rw [dropHyphens_of_ne f hc, dropHyphens_of_ne f hc]
        exact ⟨ht.cons c, hn⟩

/-- Whether a class begins with `^`, and what follows. -/
def openingCaret (cs : List Char) : Bool × List Char :=
  match f.skip cs with
  | '^' :: rest => (true, f.skip rest)
  | cs => (false, cs)

/-- The head of a class whose caret and hyphens are read. -/
def openingMembers (negated : Bool) (p : List Member × List Char) :
    Bool × List Member × List Char :=
  match p.1, p.2 with
  | [], ']' :: rest => (negated, [⟨.single ']', 0⟩], f.skip rest)
  | _, _ => (negated, p.1, p.2)

theorem readOpening_eq (cs : List Char) :
    readOpening f cs = openingMembers f (openingCaret f cs).1
      (readOpening.dropHyphens f (openingCaret f cs).2.length [] (openingCaret f cs).2) := rfl

theorem same_openingCaret (h : Padded cs cs') (hn : cs.length ≤ n) :
    Same n (openingCaret f cs) (openingCaret f cs') := by
  unfold openingCaret
  have hskip := h.skip f
  have hle := Nat.le_trans (length_skip_le f cs) hn
  generalize f.skip cs = s at hskip hle ⊢
  generalize f.skip cs' = s' at hskip ⊢
  cases hskip with
  | swallowed => exact ⟨.swallowed, hle⟩
  | paren => exact ⟨.paren, hle⟩
  | @cons c t t' ht =>
    by_cases hc : c = '^'
    · subst hc
      exact Same.skip f _ ht (Nat.le_of_succ_le hle)
    · simpa [hc] using (⟨ht.cons c, hle⟩ : Same n (false, c :: t) (false, c :: t'))

theorem same_openingMembers (negated : Bool) {p q : List Member × List Char} (h : Same n p q) :
    (openingMembers f negated q).1 = (openingMembers f negated p).1 ∧
      Same n (openingMembers f negated p).2 (openingMembers f negated q).2 := by
  obtain @⟨hyphens, rest, rest', hrest, hn⟩ := h
  unfold openingMembers
  simp only
  split
  · cases hrest with
    | cons _ hrest => exact ⟨rfl, Same.skip f _ hrest (Nat.le_of_succ_le hn)⟩
  · rename_i hno
    split
    · cases hrest
      exact absurd rfl (hno _ rfl)
    · exact ⟨rfl, hrest, hn⟩

theorem same_readOpening (h : Padded cs cs') (hn : cs.length ≤ n) :
    (readOpening f cs').1 = (readOpening f cs).1 ∧
      Same n (readOpening f cs).2 (readOpening f cs').2 := by
  have hcaret := same_openingCaret f h hn
  rw [readOpening_eq, readOpening_eq, hcaret.value]
  exact same_openingMembers f _
    (same_dropHyphens f hcaret.rest hcaret.bound (Nat.le_refl _) (Nat.le_refl _) [])

/-! ## Whole classes -/

/-- A text is cut at its first colon with the parenthesis behind it as without. -/
theorem Padded.cutColon (h : Padded cs cs') :
    Padded (cs.dropWhile (· != ':')) (cs'.dropWhile (· != ':')) ∧
      (cs.dropWhile (· != ':') ≠ [] →
        cs'.takeWhile (· != ':') = cs.takeWhile (· != ':')) := by
  induction h with
  | swallowed => exact ⟨.swallowed, fun _ => rfl⟩
  | paren => exact ⟨.swallowed, fun h => absurd rfl h⟩
  | cons c h ih =>
    simp only [List.dropWhile_cons, List.takeWhile_cons]
    split
    · exact ⟨ih.1, fun hne => congrArg (c :: ·) (ih.2 hne)⟩
    · exact ⟨h.cons c, fun _ => rfl⟩

/-- The class that is named up to the first colon, if it ends there. -/
def asciiClassIn? (negated : Bool) (body : List Char) : Option (Bool × CharSet × List Char) :=
  match body.dropWhile (· != ':') with
  | ':' :: ']' :: rest =>
    (asciiClass? (String.ofList (body.takeWhile (· != ':')))).map fun s => (negated, s, rest)
  | _ => none

theorem rel_asciiClassIn (negated : Bool) (h : Padded cs cs') (hn : cs.length ≤ n) :
    Option.Rel (fun p q : Bool × CharSet × List Char => q.1 = p.1 ∧ Same n p.2 q.2)
      (asciiClassIn? negated cs) (asciiClassIn? negated cs') := by
  obtain ⟨hdrop, htake⟩ := h.cutColon
  have hle := Nat.le_trans (List.dropWhile_suffix (· != ':') (l := cs)).length_le hn
  unfold asciiClassIn?
  generalize cs.dropWhile _ = s at hdrop htake hle ⊢
  generalize cs'.dropWhile _ = s' at hdrop ⊢
  split
  · cases hdrop with
    | cons _ hdrop =>
      cases hdrop with
      | cons _ hrest =>
        rw [htake (List.cons_ne_nil _ _)]
        simp only [List.length_cons] at hle
        cases asciiClass? _ with
        | none => exact .none
        | some set => exact .some ⟨rfl, hrest, by omega⟩
  · rename_i hno
    split
    · obtain ⟨t, rfl, ht⟩ := hdrop.exists_cons (by decide)
      obtain ⟨u, rfl, _⟩ := ht.exists_cons (by decide)
      exact absurd rfl (hno u)
    · exact .none

/-- Whether a named class begins with `^`, and what follows. -/
def asciiCaret (cs : List Char) : Bool × List Char :=
  match cs with
  | '^' :: rest => (true, rest)
  | _ => (false, cs)

theorem readAsciiClass_eq (cs : List Char) :
    readAsciiClass? cs = asciiClassIn? (asciiCaret cs).1 (asciiCaret cs).2 := rfl

theorem same_asciiCaret (h : Padded cs cs') (hn : cs.length ≤ n) :
    Same n (asciiCaret cs) (asciiCaret cs') := by
  cases h with
  | swallowed => exact ⟨.swallowed, hn⟩
  | paren => exact ⟨.paren, hn⟩
  | @cons c t t' ht =>
    by_cases hc : c = '^'
    · subst hc
      exact ⟨ht, Nat.le_of_succ_le hn⟩
    · simpa [asciiCaret, hc] using (⟨ht.cons c, hn⟩ : Same n (false, c :: t) (false, c :: t'))

theorem rel_readAsciiClass (h : Padded cs cs') (hn : cs.length ≤ n) :
    Option.Rel (fun p q : Bool × CharSet × List Char => q.1 = p.1 ∧ Same n p.2 q.2)
      (readAsciiClass? cs) (readAsciiClass? cs') := by
  have hcaret := same_asciiCaret h hn
  rw [readAsciiClass_eq, readAsciiClass_eq, hcaret.value]
  exact rel_asciiClassIn _ hcaret.rest hcaret.bound

/-- The next member is an item or a range. -/
def readMember (fuel : Nat) (members : List Member) (frames : List ClassFrame) (cs : List Char) :
    Except PatternError (Member × List Char) :=
  readRange f cs >>= fun p => readMembers f fuel (⟨p.1, 0⟩ :: members) frames p.2

/-- The next member is a class of its own. -/
def readNested (fuel : Nat) (members : List Member) (frames : List ClassFrame) (cs : List Char) :
    Except PatternError (Member × List Char) :=
  readMembers f fuel (readOpening f cs).2.1 (.opened members (readOpening f cs).1 :: frames)
    (readOpening f cs).2.2

/-- What follows an operator. -/
def readOperand (fuel : Nat) (op : SetOp) (members : List Member) (frames : List ClassFrame)
    (cs : List Char) : Except PatternError (Member × List Char) :=
  readMembers f fuel [] (.operator op (closeOperator f members frames).1 ::
    (closeOperator f members frames).2) cs

/-- The operator that a doubled character stands for. -/
def SetOp.ofChar? : Char → Option SetOp
  | '&' => some .inter
  | '-' => some .diff
  | '~' => some .symDiff
  | _ => none

/-- The operator at the head. -/
def operatorAt? : List Char → Option (SetOp × List Char)
  | c :: d :: rest => if c = d then (SetOp.ofChar? c).map (·, rest) else none
  | _ => none

theorem operatorAt?_eq (cs : List Char) :
    operatorAt? cs = match cs with
      | '&' :: '&' :: rest => some (.inter, rest)
      | '-' :: '-' :: rest => some (.diff, rest)
      | '~' :: '~' :: rest => some (.symDiff, rest)
      | _ => none := by
  match cs with
  | [] => rfl
  | [c] => simp [operatorAt?]
  | c :: d :: t =>
    simp only [operatorAt?]
    split
    · rename_i heq
      subst heq
      unfold SetOp.ofChar?
      split <;> simp_all
    · split <;> simp_all

theorem rel_operatorAt (h : Padded cs cs') (hn : cs.length ≤ n + 1) :
    Option.Rel (Same n) (operatorAt? cs) (operatorAt? cs') := by
  cases h with
  | swallowed => exact .none
  | paren => exact .none
  | @cons c t t' ht =>
    cases ht with
    | swallowed => exact .none
    | paren =>
      by_cases hc : c = ')'
      · subst hc
        exact .none
      · simp only [operatorAt?, hc, if_false]
        exact .none
    | @cons d u u' hu =>
      simp only [List.length_cons] at hn
      simp only [operatorAt?]
      split
      · cases SetOp.ofChar? c with
        | none => exact .none
        | some op => exact .some ⟨hu, by show u.length ≤ n; omega⟩
      · exact .none

theorem readMembers_inner (fuel : Nat) (members : List Member) (frames : List ClassFrame) {c : Char}
    {t : List Char} (hs : f.skip cs = c :: t) (hopen : c ≠ '[') (hclose : c ≠ ']') :
    readMembers f (fuel + 1) members frames cs =
      match operatorAt? (c :: t) with
      | some (op, rest) => readOperand f fuel op members frames rest
      | none => readMember f fuel members frames (c :: t) := by
  rw [operatorAt?_eq]
  unfold readMembers
  simp only [hs]
  split
  all_goals simp_all [readOperand, readMember]

/-- What follows an opening bracket. -/
def readOpened (fuel : Nat) (members : List Member) (frames : List ClassFrame) (cs : List Char) :
    Except PatternError (Member × List Char) :=
  match cs with
  | ':' :: named =>
    match readAsciiClass? named with
    | some (negated, s, rest) => do
      let s ← f.negate negated (f.fold s)
      readMembers f fuel (⟨s, 0⟩ :: members) frames rest
    | none => readNested f fuel members frames cs
  | _ => readNested f fuel members frames cs

theorem readMembers_open (fuel : Nat) (members : List Member) (frames : List ClassFrame)
    {rest : List Char} (hs : f.skip cs = '[' :: rest) :
    readMembers f (fuel + 1) members frames cs = readOpened f fuel members frames rest := by
  rw [readMembers, hs]
  rfl

/-- What follows a closing bracket. -/
def readShut (fuel : Nat) (members : List Member) (frames : List ClassFrame) (cs : List Char) :
    Except PatternError (Member × List Char) :=
  match (closeOperator f members frames).2 with
  | .opened outer negated :: frames' => do
    let s ← f.negate negated (f.fold (closeOperator f members frames).1.set)
    let whole : Member := ⟨s, (closeOperator f members frames).1.depth + 1⟩
    match frames' with
    | [] => .ok (whole, cs)
    | _ => readMembers f fuel (whole :: outer) frames' cs
  | _ => .error .classOpen

theorem readMembers_shut (fuel : Nat) (members : List Member) (frames : List ClassFrame)
    {rest : List Char} (hs : f.skip cs = ']' :: rest) :
    readMembers f (fuel + 1) members frames cs = readShut f fuel members frames rest := by
  rw [readMembers, hs]
  rfl

theorem readMembers_nil (fuel : Nat) (members : List Member) (frames : List ClassFrame)
    (hs : f.skip cs = []) : readMembers f fuel members frames cs = .error .classOpen := by
  cases fuel with
  | zero => rfl
  | succ fuel => rw [readMembers, hs]

theorem readMembers_paren (fuel : Nat) (members : List Member) (frames : List ClassFrame)
    (hs : f.skip cs = [')']) : readMembers f fuel members frames cs = .error .classOpen := by
  cases fuel with
  | zero => rfl
  | succ fuel =>
    rw [readMembers_inner f fuel members frames hs (by decide) (by decide)]
    show readMember f fuel members frames [')'] = _
    rw [readMember, readRange_paren]
    rfl

section Step

/-! The readings of what follows agree as soon as those with less fuel do. -/

variable {fuel fuel' : Nat} {bound : Nat}
  (hmore : ∀ {t t' : List Char}, Padded t t' → t.length ≤ bound → ∀ members frames,
    Tracks (Same n) never (readMembers f fuel members frames t)
      (readMembers f fuel' members frames t'))

include hmore

theorem tracks_readMember (h : Padded cs cs') (hn : cs.length ≤ bound + 1) (members : List Member)
    (frames : List ClassFrame) :
    Tracks (Same n) never (readMember f fuel members frames cs)
      (readMember f fuel' members frames cs') := by
  refine (tracks_readRange f h hn).bind ?_ ?_
  · rintro _ _ ⟨ht, hle⟩
    exact hmore ht hle _ _
  · rintro e ⟨s, t⟩ (hend | hend)
    · obtain rfl : t = [] := hend
      simp only [readMembers_nil f fuel' _ _ f.skip_nil]
      exact .error _ _
    · obtain rfl : t = [')'] := hend
      simp only [readMembers_paren f fuel' _ _ f.skip_paren]
      exact .error _ _

theorem tracks_readNested (h : Padded cs cs') (hn : cs.length ≤ bound) (members : List Member)
    (frames : List ClassFrame) :
    Tracks (Same n) never (readNested f fuel members frames cs)
      (readNested f fuel' members frames cs') := by
  obtain ⟨hnegated, hmembers⟩ := same_readOpening f h hn
  unfold readNested
  rw [hnegated, hmembers.value]
  exact hmore hmembers.rest hmembers.bound _ _

theorem tracks_readOpened (h : Padded cs cs') (hn : cs.length ≤ bound) (members : List Member)
    (frames : List ClassFrame) :
    Tracks (Same n) never (readOpened f fuel members frames cs)
      (readOpened f fuel' members frames cs') := by
  have hnested := tracks_readNested f hmore h hn members frames
  unfold readOpened
  cases h with
  | swallowed => exact hnested
  | paren => exact hnested
  | @cons c t t' ht =>
    by_cases hc : c = ':'
    · subst hc
      simp only
      have hclass := rel_readAsciiClass ht (Nat.le_of_succ_le hn)
      generalize readAsciiClass? t = x at hclass ⊢
      generalize readAsciiClass? t' = y at hclass ⊢
      cases hclass with
      | none => exact hnested
      | @some p q h =>
        obtain ⟨negated, p⟩ := p
        obtain ⟨_, q⟩ := q
        obtain ⟨rfl, hsame⟩ := h
        obtain ⟨hrest, hle⟩ := hsame
        simp only
        cases f.negate _ _ with
        | error e => exact .error e e
        | ok s => exact hmore hrest hle _ _
    · simp [hc, hnested]

theorem tracks_readShut (h : Padded cs cs') (hn : cs.length ≤ bound) (hbound : bound ≤ n)
    (members : List Member) (frames : List ClassFrame) :
    Tracks (Same n) never (readShut f fuel members frames cs)
      (readShut f fuel' members frames cs') := by
  unfold readShut
  split
  · cases f.negate _ _ with
    | error e => exact .error e e
    | ok s =>
      simp only [bind, Except.bind]
      split
      · exact .ok ⟨h, Nat.le_trans hn hbound⟩
      · exact hmore h hn _ _
  · exact .error _ _

end Step

theorem tracks_readMembers {fuel fuel' : Nat} (h : Padded cs cs') (hn : cs.length ≤ n)
    (hfuel : cs.length < fuel) (hfuel' : cs.length + 1 < fuel') (members : List Member)
    (frames : List ClassFrame) :
    Tracks (Same n) never (readMembers f fuel members frames cs)
      (readMembers f fuel' members frames cs') := by
  induction fuel generalizing fuel' members frames cs cs' with
  | zero => omega
  | succ fuel ih =>
    obtain ⟨fuel', rfl⟩ := Nat.exists_eq_succ_of_ne_zero (Nat.ne_zero_of_lt hfuel')
    have hskip := h.skip f
    have hle := length_skip_le f cs
    generalize hs : f.skip cs = s at hskip hle
    generalize hs' : f.skip cs' = s' at hskip
    cases hskip with
    | swallowed =>
      rw [readMembers_nil f _ _ _ hs, readMembers_nil f _ _ _ hs']
      exact .error _ _
    | paren =>
      rw [readMembers_nil f _ _ _ hs, readMembers_paren f _ _ _ hs']
      exact .error _ _
    | @cons c t t' ht =>
      simp only [List.length_cons] at hle
      have hmore {u u' : List Char} (hu : Padded u u') (hlt : u.length ≤ t.length)
          (members : List Member) (frames : List ClassFrame) :
          Tracks (Same n) never (readMembers f fuel members frames u)
            (readMembers f fuel' members frames u') :=
        ih hu (by omega) (by omega) (by omega) members frames
      by_cases hopen : c = '['
      · subst hopen
        rw [readMembers_open f _ _ _ hs, readMembers_open f _ _ _ hs']
        exact tracks_readOpened f hmore ht (Nat.le_refl _) members frames
      · by_cases hclose : c = ']'
        · subst hclose
          rw [readMembers_shut f _ _ _ hs, readMembers_shut f _ _ _ hs']
          exact tracks_readShut f hmore ht (Nat.le_refl _) (by omega) members frames
        · rw [readMembers_inner f _ _ _ hs hopen hclose, readMembers_inner f _ _ _ hs' hopen hclose]
          have hop := rel_operatorAt (ht.cons c) (Nat.le_refl (t.length + 1))
          generalize operatorAt? (c :: t) = x at hop ⊢
          generalize operatorAt? (c :: t') = y at hop ⊢
          cases hop with
          | none => exact tracks_readMember f hmore (ht.cons c) (Nat.le_refl _) members frames
          | @some p q h =>
            obtain @⟨op, u, u', hu, hlt⟩ := h
            exact hmore hu hlt _ _

theorem tracks_readBracketed (h : Padded cs cs') (hn : cs.length ≤ n) :
    Tracks (Same n) never (readBracketed f cs) (readBracketed f cs') := by
  obtain ⟨hnegated, hmembers⟩ := same_readOpening f h (Nat.le_refl _)
  have hle := hmembers.bound
  have hlength := h.length_le
  unfold readBracketed
  simp only
  rw [hnegated, hmembers.value]
  exact tracks_readMembers f hmembers.rest (Nat.le_trans hle hn) (by omega) (by omega) _ _

end LintScan.Regex
