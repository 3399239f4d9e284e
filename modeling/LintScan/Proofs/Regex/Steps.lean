import LintScan.Proofs.Regex.Brackets

/-!
# A parenthesis behind a step

* `tracks_readBounds`, `tracks_readGroup` — the counts of repetitions, and what opens a group.
* `Reader.within` — a state inside further groups; `step_within`: a step does not look at them,
  unless it closes one.
* `Reader.Stuck` — a state from which the reading inside further groups gets no further.
* `tracks_step` — one step with the parenthesis behind the text and without.
-/

namespace LintScan.Regex

/-! ## Counts -/

section Counts

variable (f : Flags) {n : Nat} {cs cs' : List Char}

theorem same_readDigits {fuel fuel' : Nat} (h : Padded cs cs') (hn : cs.length ≤ n)
    (hfuel : cs.length ≤ fuel) (hfuel' : cs'.length ≤ fuel') (digits : List Nat) :
    Same n (readDigits f fuel digits cs) (readDigits f fuel' digits cs') := by
  induction fuel generalizing fuel' digits cs cs' with
  | zero =>
    have hempty : cs = [] := List.eq_nil_of_length_eq_zero (Nat.le_zero.1 hfuel)
    subst hempty
    cases h with
    | swallowed => cases fuel' <;> exact ⟨.swallowed, hn⟩
    | paren => cases fuel' <;> exact ⟨.paren, hn⟩
  | succ fuel ih =>
    cases h with
    | swallowed => cases fuel' <;> exact ⟨.swallowed, hn⟩
    | paren => cases fuel' <;> exact ⟨.paren, hn⟩
    | @cons c t t' ht =>
      simp only [List.length_cons] at hfuel hfuel'
      obtain ⟨fuel', rfl⟩ := Nat.exists_eq_succ_of_ne_zero (Nat.ne_zero_of_lt hfuel')
      rw [readDigits, readDigits]
      have hle := length_skip_le f t
      have hle' := length_skip_le f t'
      split
      · simp only [List.length_cons] at hn
        exact ih (ht.skip f) (by omega) (by omega) (by omega) _
      · exact ⟨ht.cons c, hn⟩

theorem same_readCount (h : Padded cs cs') (hn : cs.length ≤ n) :
    Same n (readCount f cs) (readCount f cs') := by
  have hblanks := h.dropBlanks
  have hle := (List.dropWhile_suffix Text.isBlank (l := cs)).length_le
  have hle' := (List.dropWhile_suffix Text.isBlank (l := cs')).length_le
  have hdigits := same_readDigits f hblanks (Nat.le_trans hle hn) hle hle' []
  unfold readCount
  simp only
  rw [hdigits.value]
  exact Same.skip f _ hdigits.rest.dropBlanks
    (Nat.le_trans (List.dropWhile_suffix Text.isBlank).length_le hdigits.bound)

theorem readCount_paren : readCount f [')'] = (none, [')']) := by
  have hblank : [')'].dropWhile Text.isBlank = [')'] := rfl
  have hdigits : readDigits f 1 [] [')'] = ([], [')']) := rfl
  simp only [readCount, hblank, List.length_singleton, hdigits, f.skip_paren]
  rfl

/-- The bounds whose least number and comma are read. -/
def boundsUpTo (min : Nat) (p : Option Nat × List Char) :
    Except PatternError ((Nat × Option Nat) × List Char) :=
  match p with
  | (some max, '\x7d' :: rest) =>
    if min ≤ max then .ok ((min, some max), rest) else .error .repetitionCount
  | _ => .error .repetitionCount

/-- The bounds behind the comma. -/
def boundsBehind (min : Nat) (cs : List Char) :
    Except PatternError ((Nat × Option Nat) × List Char) :=
  match f.skip cs with
  | '\x7d' :: rest => .ok ((min, none), rest)
  | rest => boundsUpTo min (readCount f rest)

/-- The bounds behind their least number. -/
def boundsFrom (p : Option Nat × List Char) :
    Except PatternError ((Nat × Option Nat) × List Char) :=
  match p.1, p.2 with
  | some min, '\x7d' :: rest => .ok ((min, some min), rest)
  | some min, ',' :: rest => boundsBehind f min rest
  | _, _ => .error .repetitionCount

theorem readBounds_eq (cs : List Char) :
    readBounds f cs = boundsFrom f (readCount f (f.skip cs)) := by
  unfold readBounds boundsFrom boundsBehind
  generalize readCount f (f.skip cs) = p
  rfl

theorem tracks_boundsUpTo (min : Nat) {p q : Option Nat × List Char} (h : Same n p q) :
    Tracks (Same n) never (boundsUpTo min p) (boundsUpTo min q) := by
  obtain @⟨max, rest, rest', hrest, hn⟩ := h
  unfold boundsUpTo
  split
  · rename_i heq
    obtain ⟨rfl, rfl⟩ := Prod.mk.inj heq
    cases hrest with
    | cons _ hrest =>
      simp only
      split
      · exact .ok ⟨hrest, Nat.le_of_succ_le hn⟩
      · exact .error _ _
  · rename_i hno
    split
    · rename_i heq
      obtain ⟨rfl, rfl⟩ := Prod.mk.inj heq
      obtain ⟨t, rfl, _⟩ := hrest.exists_cons (by decide)
      exact absurd rfl (hno _ t)
    · exact .error _ _

theorem tracks_boundsBehind (min : Nat) (h : Padded cs cs') (hn : cs.length ≤ n) :
    Tracks (Same n) never (boundsBehind f min cs) (boundsBehind f min cs') := by
  have hskip := h.skip f
  have hle := Nat.le_trans (length_skip_le f cs) hn
  unfold boundsBehind
  generalize f.skip cs = s at hskip hle ⊢
  generalize f.skip cs' = s' at hskip ⊢
  have hmax := tracks_boundsUpTo min (same_readCount f hskip hle)
  cases hskip with
  | swallowed => exact hmax
  | paren => exact hmax
  | @cons c t t' ht =>
    by_cases hc : c = '\x7d'
    · subst hc
      exact .ok ⟨ht, Nat.le_of_succ_le hle⟩
    · simp [hc, hmax]

theorem tracks_boundsFrom {p q : Option Nat × List Char} (h : Same n p q) :
    Tracks (Same n) never (boundsFrom f p) (boundsFrom f q) := by
  obtain @⟨min, rest, rest', hrest, hn⟩ := h
  cases min with
  | none => exact .error _ _
  | some min =>
    cases hrest with
    | swallowed => exact .error _ _
    | paren => exact .error _ _
    | @cons c t t' ht =>
      by_cases hbrace : c = '\x7d'
      · subst hbrace
        exact .ok ⟨ht, Nat.le_of_succ_le hn⟩
      · by_cases hcomma : c = ','
        · subst hcomma
          exact tracks_boundsBehind f min ht (Nat.le_of_succ_le hn)
        · have hrefused (rest : List Char) :
              boundsFrom f (some min, c :: rest) = .error .repetitionCount := by
            simp [boundsFrom, hbrace, hcomma]
          rw [hrefused, hrefused]
          exact .error _ _

theorem tracks_readBounds (h : Padded cs cs') (hn : cs.length ≤ n) :
    Tracks (Same n) never (readBounds f cs) (readBounds f cs') := by
  rw [readBounds_eq, readBounds_eq]
  exact tracks_boundsFrom f
    (same_readCount f (h.skip f) (Nat.le_trans (length_skip_le f cs) hn))

theorem readBounds_paren (h : f.skip cs = [')']) :
    readBounds f cs = .error .repetitionCount := by
  rw [readBounds_eq, h, readCount_paren]
  rfl

theorem same_readLazy (h : Padded cs cs') (hn : cs.length ≤ n) :
    Same n (readLazy cs) (readLazy cs') := by
  cases h with
  | swallowed => exact ⟨.swallowed, hn⟩
  | paren => exact ⟨.paren, hn⟩
  | @cons c t t' ht =>
    by_cases hc : c = '?'
    · subst hc
      exact ⟨ht, Nat.le_of_succ_le hn⟩
    · simpa [readLazy, hc] using (⟨ht.cons c, hn⟩ : Same n (false, c :: t) (false, c :: t'))

end Counts

/-! ## Groups -/

section Groups

variable {n : Nat} {cs cs' : List Char}

theorem tracks_readFlags (h : Padded cs cs') (hn : cs.length ≤ n) (f : Flags) (seen : List Char) :
    Tracks (fun p q => q.1 = p.1 ∧ q.2.1 = p.2.1 ∧ Same n p.2.2 q.2.2)
      (fun q => q.2.2 = (')', [])) (readFlags f seen cs) (readFlags f seen cs') := by
  induction h generalizing f seen with
  | swallowed => exact .error _ _
  | paren =>
    simp only [readFlags]
    split
    · split
      · exact .error _ _
      · exact .late _ rfl
    · contradiction
  | @cons c t t' ht ih =>
    have hle := Nat.le_of_succ_le hn
    simp only [readFlags]
    split
    · split
      · exact .error _ _
      · exact .ok ⟨rfl, rfl, ht, hle⟩
    · split
      · exact .error _ _
      · split
        · exact ih hle f _
        · cases f.set? _ c with
          | none => exact .error _ _
          | some f => exact ih hle f _

theorem tracks_readName (h : Padded cs cs') (hn : cs.length ≤ n) (name : List Char) :
    Tracks (Same n) never (readName name cs) (readName name cs') := by
  induction h generalizing name with
  | swallowed => exact .error _ _
  | paren =>
    have hno (first : Bool) : isNameChar first ')' = false := by cases first <;> decide +kernel
    have hrefused : readName name [')'] = .error .groupName := by simp [readName, hno]
    rw [hrefused]
    exact .error _ _
  | @cons c t t' ht ih =>
    have hle := Nat.le_of_succ_le hn
    simp only [readName]
    split
    · split
      · exact .error _ _
      · exact .ok ⟨ht, hle⟩
    · split
      · exact ih hle _
      · exact .error _ _

variable (st : Reader)

theorem tracks_openNamed (h : Padded cs cs') (hn : cs.length ≤ n)
    {late : Reader × List Char → Prop} :
    Tracks (Same n) late (st.openNamed cs) (st.openNamed cs') := by
  unfold Reader.openNamed
  refine (tracks_readName h hn []).bind ?_ nofun
  rintro _ _ ⟨hrest, hle⟩
  simp only
  split
  · exact .error _ _
  · exact .ok ⟨hrest, hle⟩

/-- What is left after the modes of a group. -/
def Reader.openModes (p : Flags × List Char × Char × List Char) :
    Except PatternError (Reader × List Char) :=
  if p.2.2.1 == ':' then .ok (st.openGroup p.1 false, p.2.2.2)
  else if p.2.1.isEmpty then .error .repetitionMissing
  else .ok ({ st with flags := p.1, items := .flags :: st.items }, p.2.2.2)

/-- What follows a question mark behind an opening parenthesis. -/
def Reader.readSpecial (cs : List Char) : Except PatternError (Reader × List Char) :=
  match cs with
  | '=' :: _ => .error .lookAround
  | '!' :: _ => .error .lookAround
  | '<' :: '=' :: _ => .error .lookAround
  | '<' :: '!' :: _ => .error .lookAround
  | 'P' :: '<' :: rest => st.openNamed rest
  | '<' :: rest => st.openNamed rest
  | rest => readFlags st.flags [] rest >>= st.openModes

theorem readGroup_special {rest : List Char} (h : st.flags.skip cs = '?' :: rest) :
    st.readGroup cs = st.readSpecial rest := by
  rw [Reader.readGroup, h]
  unfold Reader.readSpecial
  split
  case h_7 heq =>
    cases heq
    split
    case h_7 => rfl
    all_goals simp_all
  all_goals simp_all

theorem readGroup_plain (h : ∀ rest, st.flags.skip cs ≠ '?' :: rest) :
    st.readGroup cs = .ok (st.openGroup st.flags true, st.flags.skip cs) := by
  unfold Reader.readGroup
  split <;> simp_all

theorem tracks_readModes (h : Padded cs cs') (hn : cs.length ≤ n) :
    Tracks (Same n) spent (readFlags st.flags [] cs >>= st.openModes)
      (readFlags st.flags [] cs' >>= st.openModes) := by
  refine (tracks_readFlags h hn st.flags []).bind ?_ ?_
  · rintro ⟨flags, seen, p⟩ ⟨_, _, q⟩ ⟨rfl, rfl, hsame⟩
    obtain ⟨hrest, hle⟩ := hsame
    unfold Reader.openModes
    simp only
    split
    · exact .ok ⟨hrest, hle⟩
    · split
      · exact .error _ _
      · exact .ok ⟨hrest, hle⟩
  · rintro e ⟨flags, seen, close, rest⟩ hlate
    obtain ⟨rfl, rfl⟩ := Prod.mk.inj hlate
    unfold Reader.openModes
    simp only
    split
    · contradiction
    · split
      · exact .error _ _
      · exact .late _ rfl

theorem tracks_readSpecial (h : Padded cs cs') (hn : cs.length ≤ n) :
    Tracks (Same n) spent (st.readSpecial cs) (st.readSpecial cs') := by
  have hmodes := tracks_readModes st h hn
  cases h with
  | swallowed => exact hmodes
  | paren => exact hmodes
  | @cons c t t' ht =>
    have hle := Nat.le_of_succ_le hn
    by_cases heq : c = '='
    · subst heq
      exact .error _ _
    by_cases hbang : c = '!'
    · subst hbang
      exact .error _ _
    by_cases hangle : c = '<'
    · subst hangle
      have hnamed : Tracks (Same n) spent (st.openNamed t) (st.openNamed t') :=
        tracks_openNamed st ht hle
      cases ht with
      | swallowed => exact hnamed
      | paren => exact hnamed
      | @cons d u u' hu =>
        by_cases hd : d = '='
        · subst hd
          exact .error _ _
        · by_cases hd' : d = '!'
          · subst hd'
            exact .error _ _
          · simpa [Reader.readSpecial, hd, hd'] using hnamed
    by_cases hp : c = 'P'
    · subst hp
      cases ht with
      | swallowed => exact hmodes
      | paren => exact hmodes
      | @cons d u u' hu =>
        by_cases hd : d = '<'
        · subst hd
          exact tracks_openNamed st hu (Nat.le_of_succ_le hle)
        · simpa [Reader.readSpecial, hd] using hmodes
    · simpa [Reader.readSpecial, heq, hbang, hangle, hp] using hmodes

theorem tracks_readGroup (h : Padded cs cs') (hn : cs.length ≤ n) :
    Tracks (Same n) spent (st.readGroup cs) (st.readGroup cs') := by
  have hskip := h.skip st.flags
  have hle := Nat.le_trans (length_skip_le st.flags cs) hn
  by_cases hspecial : ∃ rest, st.flags.skip cs = '?' :: rest
  · obtain ⟨t, hs⟩ := hspecial
    rw [hs] at hskip hle
    generalize hs' : st.flags.skip cs' = s' at hskip
    cases hskip with
    | cons _ ht =>
      rw [readGroup_special st hs, readGroup_special st hs']
      exact tracks_readSpecial st ht (Nat.le_of_succ_le hle)
  · have hspecial' : ∀ rest, st.flags.skip cs' ≠ '?' :: rest := by
      intro rest hs'
      rw [hs'] at hskip
      obtain ⟨t, ht, _⟩ := hskip.exists_cons (by decide)
      exact hspecial ⟨t, ht⟩
    rw [readGroup_plain st fun rest hs => hspecial ⟨rest, hs⟩, readGroup_plain st hspecial']
    exact .ok ⟨hskip, hle⟩

end Groups

/-! ## Frames -/

namespace Reader

variable (st : Reader) (outer : List GroupFrame)

/-- The state inside further groups. -/
def within : Reader := { st with frames := st.frames ++ outer }

/-- A reading taken into further groups. -/
def lift (p : Reader × List Char) : Reader × List Char := (p.1.within outer, p.2)

theorem openNamed_within (cs : List Char) :
    (st.within outer).openNamed cs = (st.openNamed cs).map (lift outer) := by
  unfold openNamed
  cases readName [] cs with
  | error e => rfl
  | ok p =>
    simp only [bind, Except.bind]
    have hnames : (st.within outer).names = st.names := rfl
    rw [hnames]
    split <;> rfl

theorem readSpecial_within (cs : List Char) :
    (st.within outer).readSpecial cs = (st.readSpecial cs).map (lift outer) := by
  unfold readSpecial
  split
  all_goals first
    | rfl
    | exact openNamed_within st outer _
    | skip
  have hflags : (st.within outer).flags = st.flags := rfl
  rw [hflags]
  cases readFlags st.flags [] _ with
  | error e => rfl
  | ok p =>
    simp only [bind, Except.bind, openModes]
    split
    · rfl
    · split <;> rfl

theorem readGroup_within (cs : List Char) :
    (st.within outer).readGroup cs = (st.readGroup cs).map (lift outer) := by
  have hflags : (st.within outer).flags = st.flags := rfl
  by_cases hspecial : ∃ rest, st.flags.skip cs = '?' :: rest
  · obtain ⟨rest, hs⟩ := hspecial
    have hs' : (st.within outer).flags.skip cs = '?' :: rest := hs
    rw [readGroup_special _ hs', readGroup_special st hs]
    exact readSpecial_within st outer rest
  · have hplain : ∀ rest, st.flags.skip cs ≠ '?' :: rest := fun rest hs => hspecial ⟨rest, hs⟩
    have hplain' : ∀ rest, (st.within outer).flags.skip cs ≠ '?' :: rest := hplain
    rw [readGroup_plain _ hplain', readGroup_plain st hplain]
    rfl

theorem closeGroup_within (h : st.frames ≠ []) :
    (st.within outer).closeGroup = st.closeGroup.map (·.within outer) := by
  obtain ⟨frame, frames, hframes⟩ := List.exists_cons_of_ne_nil h
  have hwithin : (st.within outer).frames = frame :: (frames ++ outer) := by
    rw [within, hframes]
    rfl
  simp only [closeGroup, hframes, hwithin]
  rfl

theorem repeatLast_within (min : Nat) (max : Option Nat) (lazy : Bool) :
    (st.within outer).repeatLast min max lazy =
      (st.repeatLast min max lazy).map (·.within outer) := by
  unfold repeatLast
  have hitems : (st.within outer).items = st.items := rfl
  rw [hitems]
  split <;> rfl

theorem mark_within (min : Nat) (max : Option Nat) (cs : List Char) :
    (st.within outer).mark min max cs = (st.mark min max cs).map (lift outer) := by
  unfold mark
  simp only
  rw [repeatLast_within]
  cases st.repeatLast min max _ <;> rfl

/-- A step does the same inside further groups, as long as it does not close one of them. -/
theorem step_within {c : Char} (h : c = ')' → st.frames ≠ []) (cs : List Char) :
    (st.within outer).step c cs = (st.step c cs).map (lift outer) := by
  have hflags : (st.within outer).flags = st.flags := rfl
  unfold step
  simp only [hflags]
  split
  case h_1 => exact readGroup_within st outer cs
  case h_2 =>
    rw [closeGroup_within st outer (h rfl)]
    cases st.closeGroup <;> rfl
  case h_4 => cases readBracketed st.flags cs <;> rfl
  case h_5 => exact mark_within st outer _ _ cs
  case h_6 => exact mark_within st outer _ _ cs
  case h_7 => exact mark_within st outer _ _ cs
  case h_8 =>
    cases readBounds st.flags cs with
    | error e => rfl
    | ok p =>
      simp only [bind, Except.bind, repeatLast_within]
      cases st.repeatLast _ _ _ <;> rfl
  case h_9 =>
    cases readEscape st.flags cs with
    | error e => rfl
    | ok p =>
      simp only [bind, Except.bind]
      cases st.flags.atom p.1 <;> rfl
  case h_10 => cases st.flags.dot <;> rfl
  all_goals rfl

/-- With more groups around it, the state gets no further. -/
def Stuck (p : Reader × List Char) : Prop :=
  ∀ outer, outer ≠ [] → ∀ fuel, ∃ e, (p.1.within outer).run fuel p.2 = .error e

variable {n : Nat} {cs cs' : List Char}

theorem stuck_nil : Stuck (st, []) := by
  intro outer houter fuel
  cases fuel with
  | zero => exact ⟨_, rfl⟩
  | succ fuel =>
    refine ⟨.groupOpen, ?_⟩
    have hframes : (st.within outer).frames.isEmpty = false := by
      simp [within, houter]
    simp only [run, Flags.skip_nil, hframes]
    rfl

/-- Behind a word edge, the brace begins no count of repetitions. -/
theorem stuck_brace {cs : List Char} (h : st.flags.skip cs = [')']) : Stuck (st, '\x7b' :: cs) := by
  intro outer _ fuel
  cases fuel with
  | zero => exact ⟨_, rfl⟩
  | succ fuel =>
    refine ⟨.repetitionCount, ?_⟩
    have hflags : (st.within outer).flags = st.flags := rfl
    have hstep : (st.within outer).step '\x7b' cs = .error .repetitionCount := by
      simp only [step, hflags, readBounds_paren _ h]
      rfl
    simp only [run, Flags.skip_brace, hstep]
    rfl

theorem tracks_repeatLast (h : Padded cs cs') (hn : cs.length ≤ n) (min : Nat) (max : Option Nat)
    (lazy : Bool) {late : Reader × List Char → Prop} :
    Tracks (Same n) late (st.repeatLast min max lazy >>= fun st => .ok (st, cs))
      (st.repeatLast min max lazy >>= fun st => .ok (st, cs')) := by
  cases st.repeatLast min max lazy with
  | error e => exact .error e e
  | ok st => exact .ok ⟨h, hn⟩

theorem tracks_mark (h : Padded cs cs') (hn : cs.length ≤ n) (min : Nat) (max : Option Nat)
    {late : Reader × List Char → Prop} :
    Tracks (Same n) late (st.mark min max cs) (st.mark min max cs') := by
  have hlazy := same_readLazy h hn
  unfold mark
  simp only
  rw [hlazy.value]
  exact tracks_repeatLast st hlazy.rest hlazy.bound min max _

/-- A step reads the same with the parenthesis behind the text, or gets stuck at its end. -/
theorem tracks_step (c : Char) (h : Padded cs cs') (hn : cs.length ≤ n) :
    Tracks (Same n) Stuck (st.step c cs) (st.step c cs') := by
  have hpush (r : Regex) (depth : Nat) :
      Tracks (Same n) Stuck (.ok (st.push r depth, cs)) (.ok (st.push r depth, cs')) :=
    .ok ⟨h, hn⟩
  unfold step
  simp only
  split
  case h_1 =>
    refine (tracks_readGroup st h hn).mono (fun _ _ hsame => hsame) ?_
    rintro ⟨st', rest⟩ hspent
    obtain rfl : rest = [] := hspent
    exact stuck_nil st'
  case h_2 =>
    cases st.closeGroup with
    | error e => exact .error e e
    | ok st => exact .ok ⟨h, hn⟩
  case h_3 => exact .ok ⟨h, hn⟩
  case h_4 =>
    refine (tracks_readBracketed st.flags h hn).bind ?_ nofun
    rintro _ _ ⟨hrest, hle⟩
    exact .ok ⟨hrest, hle⟩
  case h_5 => exact tracks_mark st h hn _ _
  case h_6 => exact tracks_mark st h hn _ _
  case h_7 => exact tracks_mark st h hn _ _
  case h_8 =>
    refine (tracks_readBounds st.flags h hn).bind ?_ nofun
    rintro _ _ ⟨hrest, hle⟩
    have hlazy := same_readLazy (hrest.skip st.flags)
      (Nat.le_trans (length_skip_le st.flags _) hle)
    simp only
    rw [hlazy.value]
    exact tracks_repeatLast st hlazy.rest hlazy.bound _ _ _
  case h_9 =>
    refine (tracks_readEscape st.flags h (Nat.le_succ_of_le hn)).bind ?_ ?_
    · rintro _ _ @⟨a, rest, rest', hrest, hle⟩
      simp only
      cases st.flags.atom a with
      | error e => exact .error e e
      | ok r => exact .ok ⟨hrest, hle⟩
    · rintro e ⟨a, rest⟩ (hspent | ⟨edge, t, hp, ht⟩)
      · obtain rfl : rest = [] := hspent
        cases st.flags.atom a with
        | error e' => exact .error e e'
        | ok r => exact .late e (stuck_nil _)
      · obtain ⟨rfl, rfl⟩ := Prod.mk.inj hp
        exact .late e (stuck_brace _ ht)
  case h_10 =>
    cases st.flags.dot with
    | error e => exact .error e e
    | ok r => exact hpush r 0
  all_goals exact hpush _ 0

end Reader

end LintScan.Regex
