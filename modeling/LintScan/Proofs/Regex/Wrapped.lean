import LintScan.Proofs.Regex.Limits
import LintScan.Proofs.Regex.Reach
import LintScan.Proofs.Regex.Steps

/-!
# A pattern in parentheses

A pattern is put in parentheses behind an anchor. What is read then is not what the pattern says if
the pattern has to do with the parenthesis behind it: it may close the parentheses itself, or end
within a comment. Any other pattern is read as it is by itself.

* `run_wrapped`, `run_wrapped_error` — the run over a pattern beside the run over the pattern in
  parentheses.
* `nodeOf_atHead_of_ok`, `nodeOf_atHead_of_error` — what becomes of a valid pattern, and of an
  invalid one.
* `Enclosable` — a pattern that can stand in parentheses behind the anchor.
* `ofPattern_atHead`, `ofPattern_atHead_of_error` — the same with the limits on depth and size.
* `matchesIn_anchored` — what the anchored expression is found in.
-/

namespace LintScan.Regex

namespace Reader

variable (st : Reader) {cs cs' : List Char}

/-! ## Runs -/

theorem closeGroup_of_outermost (h : st.frames = []) : st.closeGroup = .error .groupNotOpened := by
  rw [closeGroup, h]

/-- A step that leads on does so inside further groups, with the parenthesis behind the text. -/
theorem step_wrapped {c : Char} {st₁ : Reader} {rest : List Char} (h : Padded cs cs')
    (hstep : st.step c cs = .ok (st₁, rest)) :
    ∃ rest', Padded rest rest' ∧ rest.length ≤ cs.length ∧
      ∀ outer, (st.within outer).step c cs' = .ok (st₁.within outer, rest') := by
  have hopen : c = ')' → st.frames ≠ [] := by
    rintro rfl hframes
    have hclose : st.step ')' cs = st.closeGroup >>= fun st => .ok (st, cs) := rfl
    rw [hclose, closeGroup_of_outermost st hframes] at hstep
    cases hstep
  have htracks := tracks_step st c h (Nat.le_refl _)
  rw [hstep] at htracks
  generalize hstep' : st.step c cs' = y at htracks
  cases htracks with
  | @ok _ q hsame =>
    obtain ⟨st₂, rest'⟩ := q
    obtain rfl : st₂ = st₁ := hsame.value
    refine ⟨rest', hsame.rest, hsame.bound, fun outer => ?_⟩
    rw [step_within st outer hopen, hstep']
    rfl

/-- A step that fails leads nowhere inside further groups, unless it closes one of them. -/
theorem step_wrapped_error {c : Char} {e : PatternError} (h : Padded cs cs')
    (hstep : st.step c cs = .error e) (he : e ≠ .groupNotOpened) {outer : List GroupFrame}
    (houter : outer ≠ []) (fuel : Nat) :
    ∃ e', ((st.within outer).step c cs' >>= fun p => p.1.run fuel p.2) = .error e' := by
  have hopen : c = ')' → st.frames ≠ [] := by
    rintro rfl hframes
    have hclose : st.step ')' cs = st.closeGroup >>= fun st => .ok (st, cs) := rfl
    rw [hclose, closeGroup_of_outermost st hframes] at hstep
    cases hstep
    exact he rfl
  have htracks := tracks_step st c h (Nat.le_refl _)
  rw [hstep] at htracks
  rw [step_within st outer hopen]
  generalize st.step c cs' = y at htracks ⊢
  cases htracks with
  | error _ e' => exact ⟨e', rfl⟩
  | @late _ q hstuck => exact hstuck outer houter fuel

theorem run_succ_cons {fuel : Nat} {c : Char} {t : List Char} (hs : st.flags.skip cs = c :: t) :
    st.run (fuel + 1) cs = st.step c t >>= fun p => p.1.run fuel p.2 := by
  rw [run, hs]

theorem run_congr {fuel : Nat} {text text' : List Char}
    (h : st.flags.skip text = st.flags.skip text') : st.run fuel text = st.run fuel text' := by
  cases fuel with
  | zero => rfl
  | succ fuel => rw [run, run, h]

/-- Whatever groups are around, the run over a text comes to another state before the rest. -/
def Comes (st : Reader) (text : List Char) (steps : Nat) (st₁ : Reader) (rest : List Char) :
    Prop :=
  ∀ outer fuel, (st.within outer).run (fuel + steps) text = (st₁.within outer).run fuel rest

/-- The run over a pattern ends in some state. With the parenthesis behind the pattern, the run
comes to that state and has the parenthesis before it, if that was not swallowed. -/
theorem run_wrapped {fuel : Nat} {node : Node} (h : Padded cs cs')
    (hrun : st.run fuel cs = .ok node) :
    ∃ (st₁ : Reader) (rest : List Char), st₁.frames = [] ∧ st₁.current = node ∧
      (rest = [] ∨ rest = [')']) ∧ ∃ steps ≤ cs.length, Comes st cs' steps st₁ rest := by
  induction fuel generalizing st cs cs' with
  | zero => cases hrun
  | succ fuel ih =>
    have hskip := h.skip st.flags
    have hle := length_skip_le st.flags cs
    generalize hs : st.flags.skip cs = s at hskip hle
    generalize hs' : st.flags.skip cs' = s' at hskip
    have hend (hnil : s = []) : st.frames = [] ∧ st.current = node := by
      rw [run, hs, hnil] at hrun
      simp only at hrun
      split at hrun
      · exact ⟨List.isEmpty_iff.1 ‹_›, Except.ok.inj hrun⟩
      · cases hrun
    cases hskip with
    | swallowed =>
      obtain ⟨hframes, hcurrent⟩ := hend rfl
      refine ⟨st, [], hframes, hcurrent, .inl rfl, 0, Nat.zero_le _, fun outer fuel => ?_⟩
      exact run_congr _ (hs'.trans (Flags.skip_nil _).symm)
    | paren =>
      obtain ⟨hframes, hcurrent⟩ := hend rfl
      refine ⟨st, [')'], hframes, hcurrent, .inr rfl, 0, Nat.zero_le _, fun outer fuel => ?_⟩
      exact run_congr _ (hs'.trans (Flags.skip_paren _).symm)
    | @cons c t t' ht =>
      rw [run_succ_cons st hs] at hrun
      cases hstep : st.step c t with
      | error e =>
        rw [hstep] at hrun
        cases hrun
      | ok p =>
        obtain ⟨st₁, rest⟩ := p
        rw [hstep] at hrun
        obtain ⟨rest', hrest, hle', hwithin⟩ := step_wrapped st ht hstep
        obtain ⟨st₂, rest₂, hframes, hcurrent, htail, steps, hsteps, hcomes⟩ := ih st₁ hrest hrun
        simp only [List.length_cons] at hle
        refine ⟨st₂, rest₂, hframes, hcurrent, htail, steps + 1, by omega, fun outer fuel => ?_⟩
        have hs'' : (st.within outer).flags.skip cs' = c :: t' := hs'
        rw [← Nat.add_assoc, run_succ_cons _ hs'', hwithin]
        exact hcomes outer fuel

theorem exists_closeGroup (h : st.frames ≠ []) : ∃ st₁, st.closeGroup = .ok st₁ := by
  obtain ⟨frame, frames, hframes⟩ := List.exists_cons_of_ne_nil h
  rw [closeGroup, hframes]
  exact ⟨_, rfl⟩

/-- The parenthesis closes only one of the groups that are open. -/
theorem not_run_paren (h : st.frames ≠ []) {outer : List GroupFrame} (houter : outer ≠ [])
    (fuel : Nat) : ∃ e, (st.within outer).run fuel [')'] = .error e := by
  cases fuel with
  | zero => exact ⟨_, rfl⟩
  | succ fuel =>
    obtain ⟨st₁, hclose⟩ := exists_closeGroup st h
    have hstep : (st.within outer).step ')' [] = .ok (st₁.within outer, []) := by
      show ((st.within outer).closeGroup >>= fun st => .ok (st, [])) = _
      rw [closeGroup_within st outer h, hclose]
      rfl
    rw [run_succ_cons _ (Flags.skip_paren _), hstep]
    exact stuck_nil st₁ outer houter fuel

/-- Where the run over a pattern fails, so does the run with more groups around the pattern and the
parenthesis behind it, unless the pattern closes one of these groups. -/
theorem run_wrapped_error {fuel fuel' : Nat} {e : PatternError} (h : Padded cs cs')
    (hfuel : cs.length < fuel) (hrun : st.run fuel cs = .error e) (he : e ≠ .groupNotOpened)
    {outer : List GroupFrame} (houter : outer ≠ []) :
    ∃ e', (st.within outer).run fuel' cs' = .error e' := by
  induction fuel generalizing st cs cs' fuel' with
  | zero => omega
  | succ fuel ih =>
    have hskip := h.skip st.flags
    have hle := length_skip_le st.flags cs
    generalize hs : st.flags.skip cs = s at hskip hle
    generalize hs' : st.flags.skip cs' = s' at hskip
    cases hskip with
    | swallowed =>
      rw [run_congr (st.within outer) (hs'.trans (Flags.skip_nil _).symm)]
      exact stuck_nil st outer houter fuel'
    | paren =>
      rw [run_congr (st.within outer) (hs'.trans (Flags.skip_paren _).symm)]
      refine not_run_paren st ?_ houter fuel'
      intro hframes
      rw [run, hs, hframes] at hrun
      cases hrun
    | @cons c t t' ht =>
      cases fuel' with
      | zero => exact ⟨_, rfl⟩
      | succ fuel' =>
        rw [run_succ_cons st hs] at hrun
        have hs'' : (st.within outer).flags.skip cs' = c :: t' := hs'
        rw [run_succ_cons _ hs'']
        cases hstep : st.step c t with
        | error e₁ =>
          rw [hstep] at hrun
          cases hrun
          exact step_wrapped_error st ht hstep he houter fuel'
        | ok p =>
          obtain ⟨st₁, rest⟩ := p
          rw [hstep] at hrun
          obtain ⟨rest', hrest, hle', hwithin⟩ := step_wrapped st ht hstep
          rw [hwithin]
          simp only [List.length_cons] at hle
          exact ih st₁ hrest (by omega) hrun

/-! ## Whole patterns -/

@[simp] theorem within_nil : st.within [] = st := by
  rw [within, List.append_nil]

/-- The group that begins behind the anchor at the head of a rule. -/
def anchored : GroupFrame := ⟨[.node ⟨.look .textStart, 0⟩], [], {}, none⟩

theorem run_anchored (fuel : Nat) (cs : List Char) :
    start.run (fuel + 2) ('^' :: '(' :: '?' :: ':' :: cs) =
      (start.within [anchored]).run fuel cs := rfl

theorem run_nil_outermost (h : st.frames = []) (fuel : Nat) :
    st.run (fuel + 1) [] = .ok st.current := by
  rw [run, Flags.skip_nil]
  simp [h]

theorem run_paren_outermost (h : st.frames = []) (fuel : Nat) :
    st.run (fuel + 1) [')'] = .error .groupNotOpened := by
  rw [run_succ_cons st (Flags.skip_paren _)]
  show (st.closeGroup >>= fun st => .ok (st, [])) >>= _ = _
  rw [closeGroup_of_outermost st h]
  rfl

theorem run_nil_anchored (fuel : Nat) :
    (st.within [anchored]).run (fuel + 1) [] = .error .groupOpen := by
  rw [run, Flags.skip_nil]
  simp [within]

/-- The state once the group behind the anchor is closed. -/
def enclosed : Reader :=
  { st with
    flags := {}, branches := [], frames := []
    items := .node ⟨st.current.regex, st.current.depth + 1⟩ :: anchored.items }

theorem closeGroup_anchored (h : st.frames = []) :
    (st.within [anchored]).closeGroup = .ok st.enclosed := by
  have hframes : (st.within [anchored]).frames = [anchored] := by
    rw [within, h]
    rfl
  rw [closeGroup, hframes]
  rfl

theorem current_enclosed : st.enclosed.current =
    ⟨.seq (.look .textStart) st.current.regex, st.current.depth + 2⟩ := by
  have hitems : st.enclosed.items =
      [.node ⟨st.current.regex, st.current.depth + 1⟩, .node ⟨.look .textStart, 0⟩] := rfl
  have hbranches : st.enclosed.branches = [] := rfl
  rw [current, hitems, hbranches]
  simp [choice, concatenation, seqs, Nat.max_def]

theorem run_paren_anchored (h : st.frames = []) (fuel : Nat) :
    (st.within [anchored]).run (fuel + 2) [')'] =
      .ok ⟨.seq (.look .textStart) st.current.regex, st.current.depth + 2⟩ := by
  rw [run_succ_cons _ (Flags.skip_paren _)]
  show ((st.within [anchored]).closeGroup >>= fun st => .ok (st, [])) >>= _ = _
  rw [closeGroup_anchored st h, ← current_enclosed]
  exact run_nil_outermost st.enclosed rfl fuel

end Reader

/-- The pattern at the head of a text. -/
def atHead (pattern : String) : String := "^(?:" ++ pattern ++ ")"

section Patterns

variable (pattern : String) {node : Node}

theorem nodeOf_atHead : nodeOf (atHead pattern) =
    (Reader.start.within [Reader.anchored]).run (pattern.toList.length + 4)
      (pattern.toList ++ [')']) := by
  have htext : (atHead pattern).toList = '^' :: '(' :: '?' :: ':' :: (pattern.toList ++ [')']) := by
    simp [atHead]
  unfold nodeOf
  rw [htext, ← Reader.run_anchored]
  simp

theorem nodeOf_append_paren : nodeOf (pattern ++ ")") =
    (Reader.start.within []).run (pattern.toList.length + 2) (pattern.toList ++ [')']) := by
  unfold nodeOf
  rw [Reader.within_nil]
  simp

/-- What a valid pattern becomes behind the anchor, in parentheses. The parenthesis behind it is
seen, or swallowed by a comment at its end. -/
theorem nodeOf_atHead_of_ok (h : nodeOf pattern = .ok node) :
    (nodeOf (pattern ++ ")") = .error .groupNotOpened ∧
      nodeOf (atHead pattern) = .ok ⟨.seq (.look .textStart) node.regex, node.depth + 2⟩) ∨
    (nodeOf (pattern ++ ")") = .ok node ∧ nodeOf (atHead pattern) = .error .groupOpen) := by
  obtain ⟨st, rest, hframes, rfl, hrest, steps, hsteps, hcomes⟩ :=
    Reader.start.run_wrapped (.append_paren pattern.toList) h
  obtain ⟨left, hleft⟩ := Nat.exists_eq_add_of_le hsteps
  rw [nodeOf_atHead, nodeOf_append_paren, hleft]
  have hplain := hcomes [] (left + 2)
  have hanchored := hcomes [Reader.anchored] (left + 4)
  rw [show left + 2 + steps = steps + left + 2 by omega] at hplain
  rw [show left + 4 + steps = steps + left + 4 by omega] at hanchored
  rw [hplain, hanchored, Reader.within_nil]
  rcases hrest with rfl | rfl
  · right
    exact ⟨st.run_nil_outermost hframes _, st.run_nil_anchored _⟩
  · left
    exact ⟨st.run_paren_outermost hframes _, st.run_paren_anchored hframes _⟩

/-- An invalid pattern stays so behind the anchor, in parentheses, unless it closes them. -/
theorem nodeOf_atHead_of_error {e : PatternError} (h : nodeOf pattern = .error e)
    (he : e ≠ .groupNotOpened) : ∃ e', nodeOf (atHead pattern) = .error e' := by
  rw [nodeOf_atHead]
  exact Reader.start.run_wrapped_error (.append_paren pattern.toList) (Nat.lt_succ_self _) h he
    (List.cons_ne_nil _ _)

/-- A pattern that can stand behind the anchor, in parentheses: a parenthesis behind it is seen, and
there is room for both. -/
structure Enclosable : Prop where
  seen : ofPattern (pattern ++ ")") = .error .groupNotOpened
  shallow : ∀ node, nodeOf pattern = .ok node → node.depth + 2 ≤ depthLimit
  small : ∀ node, nodeOf pattern = .ok node → node.regex.size + 1 ≤ sizeLimit

/-- Behind the anchor and in parentheses, a pattern needs two more levels and one more state. -/
theorem checked_anchored_iff {regex : Regex} :
    (Node.mk (.seq (.look .textStart) node.regex) (node.depth + 2)).checked = .ok regex ↔
      (node.depth + 2 ≤ depthLimit ∧ node.regex.size + 1 ≤ sizeLimit) ∧
        .seq (.look .textStart) node.regex = regex := by
  rw [Node.checked_eq_ok_iff]
  have hsize : (Regex.seq (.look .textStart) node.regex).size = node.regex.size + 1 :=
    Nat.add_comm _ _
  rw [hsize]

/-- A valid pattern is read behind the anchor if it can stand there, and is refused if not. -/
theorem ofPattern_atHead {regex : Regex} (h : ofPattern pattern = .ok regex) :
    (Enclosable pattern ∧ ofPattern (atHead pattern) = .ok (.seq (.look .textStart) regex)) ∨
      (¬ Enclosable pattern ∧ ∃ e, ofPattern (atHead pattern) = .error e) := by
  obtain ⟨node, hnode, hchecked⟩ := (ofPattern_eq_ok_iff pattern).1 h
  obtain ⟨_, rfl⟩ := Node.checked_eq_ok_iff.1 hchecked
  rcases nodeOf_atHead_of_ok pattern hnode with ⟨hseen, hhead⟩ | ⟨hswallowed, hhead⟩
  · by_cases hroom : node.depth + 2 ≤ depthLimit ∧ node.regex.size + 1 ≤ sizeLimit
    · left
      refine ⟨⟨ofPattern_of_error _ hseen, ?_, ?_⟩, ?_⟩
      · rintro _ h'
        obtain rfl := Except.ok.inj (hnode.symm.trans h')
        exact hroom.1
      · rintro _ h'
        obtain rfl := Except.ok.inj (hnode.symm.trans h')
        exact hroom.2
      · exact (ofPattern_eq_ok_iff _).2 ⟨_, hhead, checked_anchored_iff.2 ⟨hroom, rfl⟩⟩
    · right
      refine ⟨fun henclosable => hroom ⟨henclosable.shallow node hnode,
        henclosable.small node hnode⟩, ?_⟩
      cases hread : ofPattern (atHead pattern) with
      | error e => exact ⟨e, rfl⟩
      | ok regex =>
        obtain ⟨_, hhead', hfits⟩ := (ofPattern_eq_ok_iff _).1 hread
        obtain rfl := Except.ok.inj (hhead.symm.trans hhead')
        exact absurd (checked_anchored_iff.1 hfits).1 hroom
  · right
    have hread : ofPattern (pattern ++ ")") = .ok node.regex :=
      (ofPattern_eq_ok_iff _).2 ⟨node, hswallowed, hchecked⟩
    refine ⟨fun henclosable => ?_, _, ofPattern_of_error _ hhead⟩
    rw [henclosable.seen] at hread
    cases hread

/-- An invalid pattern is refused behind the anchor as well, unless it closes its parentheses. -/
theorem ofPattern_atHead_of_error {e : PatternError} (h : ofPattern pattern = .error e)
    (he : e ≠ .groupNotOpened) : ∃ e', ofPattern (atHead pattern) = .error e' := by
  cases hnode : nodeOf pattern with
  | error e₁ =>
    obtain rfl := Except.error.inj ((ofPattern_of_error _ hnode).symm.trans h)
    obtain ⟨e', hhead⟩ := nodeOf_atHead_of_error pattern hnode he
    exact ⟨e', ofPattern_of_error _ hhead⟩
  | ok node =>
    -- what does not keep the limits alone does not keep them in parentheses
    cases hread : ofPattern (atHead pattern) with
    | error e' => exact ⟨e', rfl⟩
    | ok regex =>
      obtain ⟨head, hhead, hfits⟩ := (ofPattern_eq_ok_iff _).1 hread
      rcases nodeOf_atHead_of_ok pattern hnode with ⟨_, hanchored⟩ | ⟨_, hopen⟩
      · obtain rfl := Except.ok.inj (hanchored.symm.trans hhead)
        obtain ⟨⟨hdepth, hsize⟩, _⟩ := checked_anchored_iff.1 hfits
        have hvalid : ofPattern pattern = .ok node.regex := (ofPattern_eq_ok_iff _).2
          ⟨node, hnode, Node.checked_eq_ok_iff.2 ⟨⟨by omega, by omega⟩, rfl⟩⟩
        rw [hvalid] at h
        cases h
      · rw [hopen] at hhead
        cases hhead

end Patterns

/-- The anchored expression is found in a text exactly if the text begins with a match. -/
theorem matchesIn_anchored {regex : Regex} {s : String} :
    (Regex.seq (.look .textStart) regex).matchesIn s = true ↔
      ∃ q, Spans s.toList.toArray regex 0 q := by
  rw [matchesIn_iff]
  constructor
  · rintro ⟨p, hp, q, m, ⟨hm, hstart⟩, hregex⟩
    subst hm
    cases m with
    | zero => exact ⟨q, hregex⟩
    | succ p =>
      have hsome := Array.getElem?_eq_getElem (Nat.lt_of_succ_le hp)
      simp [Anchor.holds, hsome] at hstart
  · rintro ⟨q, hregex⟩
    exact ⟨0, Nat.zero_le _, q, 0, ⟨rfl, rfl⟩, hregex⟩

end LintScan.Regex
