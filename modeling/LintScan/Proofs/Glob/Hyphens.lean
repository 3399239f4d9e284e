import LintScan.Proofs.Glob.Translate

/-!
# How a set with hyphens is read

A set is passed on as a class whose hyphens stand as they are.  There a hyphen may belong to a
range, and two in a row, but for those at the head, take what follows away from what was listed
before.

* `ClassParts`, `classParts` — what the class lists, and what it takes away again.
* `readAs_partsOf` — the members up to the closing bracket are read as these parts, unless one of
  the ranges is reversed; one case for each way in which the text can go on.
* `readBracketed_parts` — the same for the whole class, with the hyphens at its head.
-/

namespace LintScan.Glob

open Regex

/-! ## The parts of a class -/

/-- One of the ranges holds the character. -/
def Lists (ranges : List (Char × Char)) (c : Char) : Prop := ∃ r ∈ ranges, r.1 ≤ c ∧ c ≤ r.2

/-- The ranges that a class takes, and those that each later part takes away. -/
structure ClassParts where
  taken : List (Char × Char)
  removed : List (List (Char × Char))

namespace ClassParts

/-- The parts with one more range in front. -/
def add (r : Char × Char) (p : ClassParts) : ClassParts := { p with taken := r :: p.taken }

/-- The parts as they stand behind two hyphens. -/
def behind (p : ClassParts) : ClassParts := ⟨[], p.taken :: p.removed⟩

/-- The character is taken and not taken away. -/
def Holds (p : ClassParts) (c : Char) : Prop :=
  Lists p.taken c ∧ ∀ part ∈ p.removed, ¬ Lists part c

/-- No range is reversed. -/
def Forward (p : ClassParts) : Prop :=
  (∀ r ∈ p.taken, r.1 ≤ r.2) ∧ ∀ part ∈ p.removed, ∀ r ∈ part, r.1 ≤ r.2

instance (p : ClassParts) : Decidable p.Forward :=
  inferInstanceAs (Decidable (_ ∧ _))

theorem forward_add_iff {r : Char × Char} {p : ClassParts} :
    (p.add r).Forward ↔ r.1 ≤ r.2 ∧ p.Forward := by
  simp [Forward, add, and_assoc]

theorem forward_behind_iff {p : ClassParts} : p.behind.Forward ↔ p.Forward := by
  simp [Forward, behind]

end ClassParts

theorem lists_cons_iff {r : Char × Char} {ranges : List (Char × Char)} {c : Char} :
    Lists (r :: ranges) c ↔ (r.1 ≤ c ∧ c ≤ r.2) ∨ Lists ranges c := by
  simp [Lists]

theorem lists_append_iff {ranges more : List (Char × Char)} {c : Char} :
    Lists (ranges ++ more) c ↔ Lists ranges c ∨ Lists more c := by
  simp [Lists, or_and_right, exists_or]

theorem not_lists_nil {c : Char} : ¬ Lists [] c := by simp [Lists]

/-- The parts of a class behind the hyphens at its head: two hyphens begin the next part, a hyphen
between two other characters makes a range, and all else stands for itself. -/
def partsOf : List Char → ClassParts
  | [] => ⟨[], []⟩
  | '-' :: '-' :: cs => (partsOf cs).behind
  | lo :: '-' :: hi :: cs =>
    if hi = '-' then (partsOf ('-' :: hi :: cs)).add (lo, lo) else (partsOf cs).add (lo, hi)
  | c :: cs => (partsOf cs).add (c, c)

/-- The parts of a class. The hyphens at its head stand for themselves. -/
def classParts (members : List Char) : ClassParts :=
  let rest := partsOf (members.dropWhile (· == '-'))
  { rest with taken := (members.takeWhile (· == '-')).map (fun c => (c, c)) ++ rest.taken }

theorem has_range {lo hi c : Char} : (CharSet.range lo hi).has c = true ↔ lo ≤ c ∧ c ≤ hi := by
  simp [CharSet.has]

/-! ## The text of the members -/

theorem memberText_hyphen : memberText '-' = ['-'] := rfl

/-- What stands at the head of the text of some members before the closing bracket. -/
theorem head_memberText (cs rest : List Char) :
    ∃ d tail, cs.flatMap memberText ++ ']' :: rest = d :: tail ∧
      (cs = [] ∧ d = ']' ∨ (∃ more, cs = '-' :: more) ∧ d = '-' ∨
        (∃ c more, cs = c :: more ∧ c ≠ '-') ∧ IsHead d) := by
  cases cs with
  | nil => exact ⟨']', rest, rfl, .inl ⟨rfl, rfl⟩⟩
  | cons c more =>
    by_cases hc : c = '-'
    · subst hc
      exact ⟨'-', _, rfl, .inr (.inl ⟨⟨more, rfl⟩, rfl⟩)⟩
    · obtain ⟨d, tail, htext, hd⟩ := exists_head_escapeChar c
      refine ⟨d, tail ++ (more.flatMap memberText ++ ']' :: rest), ?_,
        .inr (.inr ⟨⟨c, more, rfl, hc⟩, hd⟩)⟩
      rw [List.flatMap_cons, memberText_of_ne hc, htext]
      simp

/-- No hyphen stands there, unless the first member is one. -/
theorem head_ne_hyphen {cs : List Char} (h : cs.head? ≠ some '-') (rest : List Char) :
    ∃ d tail, cs.flatMap memberText ++ ']' :: rest = d :: tail ∧ d ≠ '-' := by
  obtain ⟨d, tail, htext, hd⟩ := head_memberText cs rest
  refine ⟨d, tail, htext, ?_⟩
  rcases hd with ⟨_, rfl⟩ | ⟨⟨more, rfl⟩, _⟩ | ⟨_, hd⟩
  · decide
  · exact absurd rfl h
  · exact hd.ne (by decide)

theorem length_le_flatMap_memberText (cs : List Char) :
    cs.length ≤ (cs.flatMap memberText).length := by
  induction cs with
  | nil => exact Nat.le_refl 0
  | cons c cs ih =>
    have hone : 1 ≤ (memberText c).length := by
      unfold memberText escapeChar
      split
      · exact Nat.le_refl 1
      · split <;> simp
    rw [List.flatMap_cons, List.length_append, List.length_cons]
    omega

/-! ## One step of the reader -/

section Reading

variable {f : Flags} (plain : f.IsPlain)

/-- The class that is being read, and the difference that waits for its right side, if there is
one. -/
def framesOf (negated : Bool) : Option Member → List ClassFrame
  | none => [.opened [] negated]
  | some left => [.operator .diff left, .opened [] negated]

/-- What the members come to that were read so far. -/
def joined : Option Member → List Member → Member
  | none, members => Member.ofList members
  | some left, members =>
    ⟨.diff left.set (Member.ofList members).set, left.depth.max (Member.ofList members).depth + 1⟩

/-- A character is held in the end, if `now` says whether it is among the members read last. -/
def Ends (left : Option Member) (now : Prop) (c : Char) : Prop :=
  match left with
  | none => now
  | some left => left.set.has c = true ∧ ¬ now

theorem ends_congr {left : Option Member} {now now' : Prop} {c : Char} (h : now ↔ now') :
    Ends left now c ↔ Ends left now' c := by
  cases left <;> simp [Ends, h]

theorem has_joined {left : Option Member} {members : List Member} {c : Char} :
    (joined left members).set.has c = true ↔
      Ends left (∃ m ∈ members, m.set.has c = true) c := by
  cases left with
  | none => exact has_ofList
  | some left =>
    show (left.set.has c && !(Member.ofList members).set.has c) = true ↔ _
    rw [Bool.and_eq_true, Bool.not_eq_true', ← Bool.not_eq_true, has_ofList]
    rfl

/-- The class of some members, or of all others. -/
def signed (negated : Bool) (m : Member) : Member :=
  ⟨if negated then .compl m.set else m.set, m.depth + 1⟩

include plain

theorem closeOperator_framesOf (negated : Bool) (left : Option Member) (members : List Member) :
    closeOperator f members (framesOf negated left) =
      (joined left members, [.opened [] negated]) := by
  cases left with
  | none => rfl
  | some left => simp [framesOf, closeOperator, joined, SetOp.apply, plain.fold_eq]

theorem readMembers_end (fuel : Nat) (left : Option Member) (members : List Member) (negated : Bool)
    (rest : List Char) :
    readMembers f (fuel + 1) members (framesOf negated left) (']' :: rest) =
      .ok (signed negated (joined left members), rest) := by
  rw [readMembers]
  simp only [plain.skip_eq, closeOperator_framesOf plain, plain.fold_eq, plain.negate_eq]
  rfl

theorem readMembers_minus (fuel : Nat) (left : Option Member) (members : List Member)
    (negated : Bool) (rest : List Char) :
    readMembers f (fuel + 1) members (framesOf negated left) ('-' :: '-' :: rest) =
      readMembers f fuel [] (framesOf negated (some (joined left members))) rest := by
  rw [readMembers]
  simp only [plain.skip_eq, closeOperator_framesOf plain]
  rfl

/-- What begins with the head of an escaped character is an item or a range. -/
theorem readMembers_of_head (fuel : Nat) (members : List Member) (frames : List ClassFrame)
    {e : Char} (he : IsHead e) (tail : List Char) :
    readMembers f (fuel + 1) members frames (e :: tail) =
      readRange f (e :: tail) >>= fun (s, rest) =>
        readMembers f fuel (⟨s, 0⟩ :: members) frames rest := by
  have hopen : e ≠ '[' := he.ne (by decide)
  have hclose : e ≠ ']' := he.ne (by decide)
  have hinter : e ≠ '&' := he.ne (by decide)
  have hdiff : e ≠ '-' := he.ne (by decide)
  have hsymDiff : e ≠ '~' := he.ne (by decide)
  rw [readMembers]
  simp [plain.skip_eq, hopen, hclose, hinter, hdiff, hsymDiff]

/-- A hyphen behind which no other one stands is a member. -/
theorem readMembers_hyphen (fuel : Nat) (members : List Member) (frames : List ClassFrame)
    {d : Char} (hd : d ≠ '-') (rest : List Char) :
    readMembers f (fuel + 1) members frames ('-' :: d :: rest) =
      readMembers f fuel (.ofChar '-' :: members) frames (d :: rest) := by
  have hliteral : literalOf f '-' = .ok '-' := by simp [literalOf, plain.unicode]
  have hrange : readRange f ('-' :: d :: rest) = .ok (.single '-', d :: rest) := by
    unfold readRange readItem
    simp [hliteral, plain.skip_eq, hd, bind, Except.bind]
  rw [readMembers]
  simp [plain.skip_eq, hd, hrange, Member.ofChar, bind, Except.bind]

/-- A character stands for itself before a hyphen that makes no range. -/
theorem readMembers_before_hyphen (fuel : Nat) (members : List Member) (frames : List ClassFrame)
    (c : Char) {d : Char} (hd : d = '-' ∨ d = ']') (rest : List Char) :
    readMembers f (fuel + 1) members frames (escapeChar c ++ '-' :: d :: rest) =
      readMembers f fuel (.ofChar c :: members) frames ('-' :: d :: rest) := by
  have hliteral : literalOf f c = .ok c := by simp [literalOf, plain.unicode]
  have hends : endsRange f (d :: rest) = true := by
    rcases hd with rfl | rfl <;> simp [endsRange, plain.skip_eq]
  have hrange : readRange f (escapeChar c ++ '-' :: d :: rest) =
      .ok (.single c, '-' :: d :: rest) := by
    unfold readRange
    simp [readItem_escapeChar, hliteral, plain.skip_eq, hends, bind, Except.bind]
  obtain ⟨e, tail, htext, he⟩ := exists_head_escapeChar c
  rw [htext, List.cons_append] at hrange ⊢
  rw [readMembers_of_head plain fuel members frames he, hrange]
  rfl

/-- A hyphen between two other characters makes a range, which must not be reversed. -/
theorem readMembers_range (fuel : Nat) (members : List Member) (frames : List ClassFrame)
    (lo hi : Char) (rest : List Char) :
    readMembers f (fuel + 1) members frames (escapeChar lo ++ '-' :: (escapeChar hi ++ rest)) =
      if lo ≤ hi then readMembers f fuel (⟨.range lo hi, 0⟩ :: members) frames rest
      else .error .classRange := by
  have hlo : literalOf f lo = .ok lo := by simp [literalOf, plain.unicode]
  have hhi : literalOf f hi = .ok hi := by simp [literalOf, plain.unicode]
  have hitem := readItem_escapeChar f hi rest
  obtain ⟨d, more, hmore, hd⟩ := exists_head_escapeChar hi
  rw [hmore, List.cons_append] at hitem ⊢
  have hends : endsRange f (d :: (more ++ rest)) = false := by
    have hclose : d ≠ ']' := hd.ne (by decide)
    have hhyphen : d ≠ '-' := hd.ne (by decide)
    simp [endsRange, plain.skip_eq, hclose, hhyphen]
  have hrange : readRange f (escapeChar lo ++ '-' :: d :: (more ++ rest)) =
      if lo ≤ hi then .ok (.range lo hi, rest) else .error .classRange := by
    unfold readRange
    simp [readItem_escapeChar, hlo, hhi, hitem, plain.skip_eq, hends, bind, Except.bind]
  obtain ⟨e, tail, htext, he⟩ := exists_head_escapeChar lo
  rw [htext, List.cons_append] at hrange ⊢
  rw [readMembers_of_head plain fuel members frames he, hrange]
  split <;> rfl

/-! ## All members -/

/-- The members before a closing bracket are read as the parts, behind what was read before, unless
one of the ranges is reversed. -/
def ReadAs (f : Flags) (negated : Bool) (cs : List Char) (p : ClassParts) : Prop :=
  ∀ (fuel : Nat) (left : Option Member) (members : List Member) (rest : List Char),
    cs.length < fuel →
    ∃ m, readMembers f fuel members (framesOf negated left) (cs.flatMap memberText ++ ']' :: rest) =
        (if p.Forward then .ok (signed negated m, rest) else .error .classRange) ∧
      ∀ c, m.set.has c = true ↔
        Ends left ((∃ m ∈ members, m.set.has c = true) ∨ Lists p.taken c) c ∧
          ∀ part ∈ p.removed, ¬ Lists part c

namespace ReadAs

variable {negated : Bool} {cs cs' : List Char} {p : ClassParts}

theorem nil : ReadAs f negated [] ⟨[], []⟩ := by
  intro fuel left members rest hfuel
  obtain ⟨fuel, rfl⟩ := Nat.exists_eq_succ_of_ne_zero (Nat.ne_of_gt hfuel)
  refine ⟨joined left members, ?_, fun c => ?_⟩
  · have hforward : (⟨[], []⟩ : ClassParts).Forward := by simp [ClassParts.Forward]
    rw [if_pos hforward]
    exact readMembers_end plain fuel left members negated rest
  · rw [has_joined]
    simp [not_lists_nil]

/-- Two hyphens take away what follows them. -/
theorem behind (h : ReadAs f negated cs p) : ReadAs f negated ('-' :: '-' :: cs) p.behind := by
  intro fuel left members rest hfuel
  simp only [List.length_cons] at hfuel
  obtain ⟨fuel, rfl⟩ := Nat.exists_eq_succ_of_ne_zero (Nat.ne_of_gt (Nat.zero_lt_of_lt hfuel))
  obtain ⟨m, hread, hhas⟩ := h fuel (some (joined left members)) [] rest (by omega)
  refine ⟨m, ?_, fun c => ?_⟩
  · simp only [ClassParts.forward_behind_iff]
    rw [← hread]
    exact readMembers_minus plain fuel left members negated _
  · rw [hhas]
    simp only [Ends, has_joined, ClassParts.behind, List.not_mem_nil, false_and, exists_false,
      false_or, List.mem_cons, forall_eq_or_imp, not_lists_nil, or_false, and_assoc]

omit plain in
/-- One more item or range in front. -/
theorem add {r : Char × Char} {set : CharSet} (h : ReadAs f negated cs p)
    (hlength : cs.length < cs'.length)
    (hset : ∀ c, set.has c = true ↔ r.1 ≤ c ∧ c ≤ r.2)
    (hstep : ∀ (fuel : Nat) (members : List Member) (frames : List ClassFrame) (rest : List Char),
      readMembers f (fuel + 1) members frames (cs'.flatMap memberText ++ ']' :: rest) =
        if r.1 ≤ r.2 then
          readMembers f fuel (⟨set, 0⟩ :: members) frames (cs.flatMap memberText ++ ']' :: rest)
        else .error .classRange) :
    ReadAs f negated cs' (p.add r) := by
  intro fuel left members rest hfuel
  obtain ⟨fuel, rfl⟩ := Nat.exists_eq_succ_of_ne_zero (Nat.ne_of_gt (Nat.zero_lt_of_lt hfuel))
  obtain ⟨m, hread, hhas⟩ := h fuel left (⟨set, 0⟩ :: members) rest (by omega)
  refine ⟨m, ?_, fun c => ?_⟩
  · rw [hstep, hread]
    simp only [ClassParts.forward_add_iff]
    by_cases hr : r.1 ≤ r.2
    · simp [hr]
    · simp [hr]
  · rw [hhas]
    refine and_congr_left fun _ => ends_congr ?_
    simp only [List.mem_cons, exists_eq_or_imp, hset, ClassParts.add, lists_cons_iff]
    rw [or_assoc]
    exact or_left_comm

omit plain in
/-- One more character that stands for itself. -/
theorem one {c : Char} (h : ReadAs f negated cs p)
    (hstep : ∀ (fuel : Nat) (members : List Member) (frames : List ClassFrame) (rest : List Char),
      readMembers f (fuel + 1) members frames ((c :: cs).flatMap memberText ++ ']' :: rest) =
        readMembers f fuel (.ofChar c :: members) frames (cs.flatMap memberText ++ ']' :: rest)) :
    ReadAs f negated (c :: cs) (p.add (c, c)) := by
  refine h.add (Nat.lt_succ_self _) (fun d => has_range) fun fuel members frames rest => ?_
  rw [if_pos (Char.le_refl c)]
  exact hstep fuel members frames rest

end ReadAs

theorem readAs_partsOf (negated : Bool) (cs : List Char) : ReadAs f negated cs (partsOf cs) := by
  induction cs using partsOf.induct with
  | case1 =>
    rw [partsOf]
    exact .nil plain
  | case2 cs ih =>
    rw [partsOf]
    exact ih.behind plain
  | case3 lo cs hlo ih =>
    rw [partsOf.eq_3 lo '-' cs hlo, if_pos rfl]
    refine ih.one fun fuel members frames rest => ?_
    rw [List.flatMap_cons, memberText_of_ne hlo, List.append_assoc]
    exact readMembers_before_hyphen plain fuel members frames lo (.inl rfl) _
  | case4 lo hi cs hlo hhi ih =>
    rw [partsOf.eq_3 lo hi cs hlo, if_neg hhi]
    refine ih.add (by simp only [List.length_cons]; omega) (fun c => has_range)
      fun fuel members frames rest => ?_
    have htext : (lo :: '-' :: hi :: cs).flatMap memberText ++ ']' :: rest =
        escapeChar lo ++ '-' :: (escapeChar hi ++ (cs.flatMap memberText ++ ']' :: rest)) := by
      simp [memberText_of_ne hlo, memberText_of_ne hhi, memberText_hyphen]
    rw [htext]
    exact readMembers_range plain fuel members frames lo hi _
  | case5 c cs hhyphens hrange ih =>
    rw [partsOf.eq_4 c cs hhyphens hrange]
    refine ih.one fun fuel members frames rest => ?_
    rw [List.flatMap_cons, List.append_assoc]
    by_cases hc : c = '-'
    · subst hc
      have hhead : cs.head? ≠ some '-' := fun h =>
        have ⟨more, hmore⟩ := List.head?_eq_some_iff.1 h
        hhyphens more rfl hmore
      obtain ⟨d, tail, htext, hd⟩ := head_ne_hyphen hhead rest
      rw [htext]
      exact readMembers_hyphen plain fuel members frames hd tail
    · rw [memberText_of_ne hc]
      by_cases hhead : cs.head? = some '-'
      · obtain ⟨more, rfl⟩ := List.head?_eq_some_iff.1 hhead
        -- Nothing stands behind this hyphen, as it would make a range.
        cases more with
        | nil => exact readMembers_before_hyphen plain fuel members frames c (.inr rfl) rest
        | cons hi more => exact absurd rfl (hrange hi more)
      · obtain ⟨d, tail, htext, hd⟩ := head_ne_hyphen hhead rest
        rw [htext]
        exact readMembers_escapeChar plain fuel members frames c hd tail

/-! ## The whole class -/

/-- The hyphens at the head of a class are its first members. -/
theorem dropHyphens_flatMap (members : List Char) (rest : List Char) :
    ∀ {fuel : Nat} (taken : List Member), members.length ≤ fuel →
      readOpening.dropHyphens f fuel taken (members.flatMap memberText ++ ']' :: rest) =
        (((members.takeWhile (· == '-')).map .ofChar).reverse ++ taken,
          (members.dropWhile (· == '-')).flatMap memberText ++ ']' :: rest) := by
  induction members with
  | nil =>
    intro fuel taken _
    cases fuel <;> rfl
  | cons c members ih =>
    intro fuel taken hfuel
    obtain ⟨fuel, rfl⟩ := Nat.exists_eq_succ_of_ne_zero (Nat.ne_of_gt (Nat.lt_of_lt_of_le
      (Nat.zero_lt_succ _) hfuel))
    by_cases hc : c = '-'
    · subst hc
      have hstep : readOpening.dropHyphens f (fuel + 1) taken
          (('-' :: members).flatMap memberText ++ ']' :: rest) =
            readOpening.dropHyphens f fuel (.ofChar '-' :: taken)
              (f.skip (members.flatMap memberText ++ ']' :: rest)) := rfl
      rw [hstep, plain.skip_eq, ih _ (Nat.le_of_succ_le_succ hfuel),
        List.takeWhile_cons_of_pos (by rfl), List.dropWhile_cons_of_pos (by rfl)]
      simp
    · rw [List.takeWhile_cons_of_neg (by simpa using hc),
        List.dropWhile_cons_of_neg (by simpa using hc)]
      have hhead : (c :: members).head? ≠ some '-' := by simpa using hc
      obtain ⟨d, tail, htext, hd⟩ := head_ne_hyphen hhead rest
      rw [htext]
      simp [readOpening.dropHyphens, hd]

/-- A class begins with the hyphens at its head, where no caret and no closing bracket stands. -/
theorem readOpening_of_dropHyphens (negated : Bool) {d : Char} {tail cs : List Char}
    {members : List Member} (hcaret : d ≠ '^')
    (hdrop : readOpening.dropHyphens f (d :: tail).length [] (d :: tail) = (members, cs))
    (hbracket : members = [] → ∀ more, cs ≠ ']' :: more) :
    readOpening f ((if negated then ['^'] else []) ++ d :: tail) = (negated, members, cs) := by
  rw [List.length_cons] at hdrop
  have hkeep : ∀ rest, members = [] → cs ≠ ']' :: rest := fun rest h => hbracket h rest
  cases negated with
  | true =>
    show readOpening f ('^' :: d :: tail) = _
    unfold readOpening
    simp [plain.skip_eq, hdrop]
  | false =>
    show readOpening f (d :: tail) = _
    unfold readOpening
    simp [plain.skip_eq, hdrop, hcaret]

theorem readOpening_flatMap (negated : Bool) {members : List Char} (hne : members ≠ [])
    (rest : List Char) :
    readOpening f ((if negated then ['^'] else []) ++ (members.flatMap memberText ++ ']' :: rest)) =
      (negated, ((members.takeWhile (· == '-')).map .ofChar).reverse,
        (members.dropWhile (· == '-')).flatMap memberText ++ ']' :: rest) := by
  have hfuel : members.length ≤ (members.flatMap memberText ++ ']' :: rest).length := by
    have := length_le_flatMap_memberText members
    rw [List.length_append]
    omega
  have hhyphens := dropHyphens_flatMap plain members rest [] hfuel
  rw [List.append_nil] at hhyphens
  obtain ⟨d, tail, htext, hd⟩ := head_memberText members rest
  have hcaret : d ≠ '^' := by
    rcases hd with ⟨_, rfl⟩ | ⟨_, rfl⟩ | ⟨_, hd⟩
    · decide
    · decide
    · exact hd.ne (by decide)
  rw [htext] at hhyphens ⊢
  refine readOpening_of_dropHyphens plain negated hcaret hhyphens fun hnone more hmore => ?_
  -- Without a hyphen at its head, a class begins with the head of its first member.
  rcases hd with ⟨rfl, _⟩ | ⟨⟨_, rfl⟩, _⟩ | ⟨⟨c, _, rfl, hc⟩, hd⟩
  · exact hne rfl
  · simp at hnone
  · rw [List.dropWhile_cons_of_neg (by simpa using hc), htext] at hmore
    exact hd.ne (e := ']') (by decide) (List.cons.inj hmore).1

/-- **A class with hyphens is read as its parts,** unless one of the ranges is reversed. -/
theorem readBracketed_parts (negated : Bool) {members : List Char} (hne : members ≠ [])
    (rest : List Char) :
    ∃ m, readBracketed f
        ((if negated then ['^'] else []) ++ (members.flatMap memberText ++ ']' :: rest)) =
          (if (classParts members).Forward then .ok (signed negated m, rest)
            else .error .classRange) ∧
      ∀ c, m.set.has c = true ↔ (classParts members).Holds c := by
  obtain ⟨m, hread, hhas⟩ := readAs_partsOf plain negated (members.dropWhile (· == '-'))
    (((if negated then ['^'] else []) ++ (members.flatMap memberText ++ ']' :: rest)).length + 2)
    none ((members.takeWhile (· == '-')).map .ofChar).reverse rest (by
      have := (List.dropWhile_sublist (l := members) (· == '-')).length_le
      have := length_le_flatMap_memberText members
      simp only [List.length_append]
      omega)
  refine ⟨m, ?_, fun c => ?_⟩
  · have hforward : (classParts members).Forward ↔
        (partsOf (members.dropWhile (· == '-'))).Forward := by
      simp [classParts, ClassParts.Forward, or_imp, forall_and]
    unfold readBracketed
    rw [readOpening_flatMap plain negated hne]
    simp only [hforward]
    exact hread
  · rw [hhas]
    refine and_congr_left fun _ => ?_
    simp only [Ends, classParts, lists_append_iff]
    refine or_congr_left ?_
    simp only [Lists, List.mem_reverse, List.mem_map, exists_exists_and_eq_and, Member.ofChar,
      CharSet.single, has_range]

end Reading

end LintScan.Glob
