import LintScan.Exceptions.Pattern
import LintScan.Proofs.Glob.Fnmatch
import LintScan.Proofs.Regex.Limits
import LintScan.Proofs.Regex.Plain
import LintScan.Proofs.Regex.Reach

/-!
# The regular expression for a shell pattern

A pattern for files is translated to the text of a regular expression, which is read and searched
for.  This file says that this comes to what the pattern itself matches.

* `Reading` — the translation of a pattern is read as a list of expressions, and these match one
  after the other what the pattern matches; `Reading.many` and `Reading.char` are the two kinds of
  items, and `exists_reading` goes through a pattern without hyphens in its sets.
* `ofPattern_translate` — the whole expression, with its ends.
* `accepts_iff_fnmatch` — so a pattern for files accepts a text exactly if it matches it.
-/

namespace LintScan.Glob

open Regex

/-! ## The text of the translation -/

theorem translateChars_many (glob : List Char) :
    translateChars ('*' :: glob) = '.' :: '*' :: translateChars (glob.dropWhile (· == '*')) := by
  rw [translateChars, if_pos rfl]

theorem translateChars_one (glob : List Char) :
    translateChars ('?' :: glob) = '.' :: translateChars glob := by
  rw [translateChars, if_neg (by decide), if_pos rfl]

/-- A set becomes a class, in which a hyphen stands as it is. -/
theorem translateChars_closed {text members glob : List Char} {negated : Bool}
    (h : IsSet text negated members glob) :
    translateChars ('[' :: text) = '[' :: ((if negated then ['^'] else []) ++
      (members.flatMap memberText ++ ']' :: translateChars glob)) := by
  have hset : setText (setBody negated members) =
      '[' :: ((if negated then ['^'] else []) ++ (members.flatMap memberText ++ [']'])) := by
    cases negated with
    | true => rfl
    | false =>
      obtain ⟨c, more, rfl⟩ := List.exists_cons_of_ne_nil h.ne_nil
      have hne : c ≠ '!' := by simpa using h.mark rfl
      simp [setText, setBody, hne]
  rw [translateChars, if_neg (by decide), if_neg (by decide), if_pos rfl, h.cutSet?_eq]
  simp only [hset]
  simp

theorem memberText_of_ne {c : Char} (h : c ≠ '-') : memberText c = escapeChar c := if_neg h

/-- A set without hyphens becomes a class of escaped characters. -/
theorem translateChars_set {text members glob : List Char} {negated : Bool}
    (h : IsSet text negated members glob) (free : '-' ∉ members) :
    translateChars ('[' :: text) = '[' :: ((if negated then ['^'] else []) ++
      (members.flatMap escapeChar ++ ']' :: translateChars glob)) := by
  have hmembers : members.flatMap memberText = members.flatMap escapeChar := by
    rw [List.flatMap_def, List.flatMap_def]
    congr 1
    apply List.map_congr_left
    rintro c hc
    have hne : c ≠ '-' := by
      rintro rfl
      exact free hc
    exact memberText_of_ne hne
  rw [translateChars_closed h, hmembers]

theorem translateChars_unclosed {glob : List Char}
    (h : ∀ negated members rest, ¬ IsSet glob negated members rest) :
    translateChars ('[' :: glob) = escapeChar '[' ++ translateChars glob := by
  rw [translateChars, if_neg (by decide), if_neg (by decide), if_pos rfl, cutSet?_eq_none_iff.2 h]

theorem translateChars_same {glob : List Char} {c : Char} (hstar : c ≠ '*') (hmark : c ≠ '?')
    (hbracket : c ≠ '[') : translateChars (c :: glob) = escapeChar c ++ translateChars glob := by
  rw [translateChars, if_neg hstar, if_neg hmark, if_neg hbracket]

/-- No question mark stands at the head of a translation, where it would change the star before. -/
theorem head?_translateChars (glob : List Char) {rest : List Char} (h : rest.head? ≠ some '?') :
    (translateChars glob ++ rest).head? ≠ some '?' := by
  have hescaped : ∀ c more, (escapeChar c ++ more).head? ≠ some '?' := by
    intro c more
    obtain ⟨d, tail, htext, hd⟩ := exists_head_escapeChar c
    rw [htext, List.cons_append, List.head?_cons]
    exact fun he => hd.ne (by decide) (Option.some.inj he)
  cases glob with
  | nil => simpa [translateChars] using h
  | cons c glob =>
    rw [translateChars]
    split
    · simp
    · split
      · simp
      · split
        · split
          · unfold setText
            split <;> simp
          · rw [List.append_assoc]
            exact hescaped '[' _
        · rw [List.append_assoc]
          exact hescaped c _

/-! ## Reading the translation -/

/-- The modes of the expression for a pattern: a dot stands for line breaks as well. -/
def wholeFlags : Flags := { dotAll := true }

theorem isPlain_wholeFlags : wholeFlags.IsPlain := ⟨rfl, rfl, rfl⟩

/-- The state with several more items. -/
def pushAll (st : Reader) (nodes : List Node) : Reader :=
  nodes.foldl (fun st n => st.push n.regex n.depth) st

theorem pushAll_eq (st : Reader) (nodes : List Node) :
    pushAll st nodes = { st with items := (nodes.map Item.node).reverse ++ st.items } := by
  induction nodes generalizing st with
  | nil => rfl
  | cons n nodes ih =>
    have hstep : pushAll st (n :: nodes) = pushAll (st.push n.regex n.depth) nodes := rfl
    rw [hstep, ih]
    simp [Reader.push]

/-- The translation of the pattern is read as the nodes, and these match one after the other just
what the pattern matches. -/
structure Reading (glob : List Char) (nodes : List Node) : Prop where
  shallow : ∀ n ∈ nodes, n.depth ≤ 2
  reads : ∀ (st : Reader) (rest : List Char), st.flags = wholeFlags → rest.head? ≠ some '?' →
    st.Reads (translateChars glob ++ rest) (pushAll st nodes) rest
  spans : ∀ (s : List Char) (p : Nat), p ≤ s.length →
    (Chain s.toArray (nodes.map (·.regex)) p s.length ↔ Fnmatch glob (s.drop p))

theorem drop_eq_cons_iff {s left : List Char} {p : Nat} {c : Char} :
    s.drop p = c :: left ↔ s[p]? = some c ∧ s.drop (p + 1) = left := by
  rw [← List.head?_drop, ← List.tail_drop]
  cases s.drop p <;> simp

namespace Reading

variable {glob glob' : List Char} {nodes : List Node}

theorem nil : Reading [] [] where
  shallow := by simp
  reads st rest _ _ := by
    rw [translateChars]
    exact Reader.Reads.refl st rest
  spans s p hp := by
    rw [Fnmatch.nil_iff, List.drop_eq_nil_iff]
    exact ⟨Nat.le_of_eq ∘ Eq.symm, Nat.le_antisymm hp⟩

/-- One more item that stands for one character. -/
theorem char (h : Reading glob nodes) {set : CharSet} {depth : Nat} (hdepth : depth ≤ 2)
    (hreads : ∀ (st : Reader) (rest : List Char), st.flags = wholeFlags →
      st.Reads (translateChars glob' ++ rest) (st.push (.char set) depth)
        (translateChars glob ++ rest))
    (hmatch : ∀ s, Fnmatch glob' s ↔
      ∃ c left, s = c :: left ∧ set.has c = true ∧ Fnmatch glob left) :
    Reading glob' (⟨.char set, depth⟩ :: nodes) where
  shallow n hn := by
    rcases List.mem_cons.1 hn with rfl | hn
    · exact hdepth
    · exact h.shallow n hn
  reads st rest hflags hrest := (hreads st rest hflags).trans (h.reads _ rest hflags hrest)
  spans s p hp := by
    rw [hmatch, List.map_cons, chain_char_iff]
    constructor
    · rintro ⟨c, hc, hset, hchain⟩
      rw [List.getElem?_toArray] at hc
      have hlt : p < s.length := (List.getElem?_eq_some_iff.1 hc).1
      exact ⟨c, s.drop (p + 1), drop_eq_cons_iff.2 ⟨hc, rfl⟩, hset,
        (h.spans s (p + 1) hlt).1 hchain⟩
    · rintro ⟨c, left, hdrop, hset, hrest⟩
      obtain ⟨hc, rfl⟩ := drop_eq_cons_iff.1 hdrop
      have hlt : p < s.length := (List.getElem?_eq_some_iff.1 hc).1
      exact ⟨c, by rwa [List.getElem?_toArray], hset, (h.spans s (p + 1) hlt).2 hrest⟩

theorem one (h : Reading glob nodes) : Reading ('?' :: glob) (⟨.char .full, 0⟩ :: nodes) := by
  refine h.char (Nat.zero_le 2) (fun st rest hflags => ?_) fun s => ?_
  · have hplain : st.flags.IsPlain := hflags ▸ isPlain_wholeFlags
    rw [translateChars_one]
    exact Reader.reads_dot hplain (by rw [hflags]; rfl) _
  · have hfull : ∀ c, CharSet.full.has c = true := fun _ => rfl
    simp only [Fnmatch.one_iff, hfull, true_and]

theorem set {text members : List Char} {negated : Bool} (hset : IsSet text negated members glob)
    (free : '-' ∉ members) (h : Reading glob nodes) :
    Reading ('[' :: text) (⟨.char (listed negated (members.map .ofChar).reverse),
      (Member.ofList (members.map .ofChar).reverse).depth + 1⟩ :: nodes) := by
  refine h.char (Nat.succ_le_succ (depth_ofList_le members)) (fun st rest hflags => ?_) fun s => ?_
  · have hplain : st.flags.IsPlain := hflags ▸ isPlain_wholeFlags
    have hclass := Reader.reads_class hplain negated hset.ne_nil (translateChars glob ++ rest)
    rw [translateChars_set hset free]
    simpa using hclass
  · simp only [Fnmatch.set_iff hset, has_listed]

/-- An item that stands for itself. -/
theorem escaped {c : Char} (h : Reading glob nodes)
    (htext : translateChars glob' = escapeChar c ++ translateChars glob)
    (hmatch : ∀ s, Fnmatch glob' s ↔ ∃ left, s = c :: left ∧ Fnmatch glob left) :
    Reading glob' (⟨.char (.single c), 0⟩ :: nodes) := by
  refine h.char (Nat.zero_le 2) (fun st rest hflags => ?_) fun s => ?_
  · have hplain : st.flags.IsPlain := hflags ▸ isPlain_wholeFlags
    rw [htext, List.append_assoc]
    exact Reader.reads_escapeChar hplain c _
  · rw [hmatch]
    simp only [has_single]
    constructor
    · rintro ⟨left, rfl, hrest⟩
      exact ⟨c, left, rfl, rfl, hrest⟩
    · rintro ⟨_, left, rfl, rfl, hrest⟩
      exact ⟨left, rfl, hrest⟩

/-- A star before some items. -/
theorem many (h : Reading (glob.dropWhile (· == '*')) nodes) :
    Reading ('*' :: glob) (⟨.iter (.char .full) 0 none true, 1⟩ :: nodes) where
  shallow n hn := by
    rcases List.mem_cons.1 hn with rfl | hn
    · exact Nat.le_succ 1
    · exact h.shallow n hn
  reads st rest hflags hrest := by
    have hplain : st.flags.IsPlain := hflags ▸ isPlain_wholeFlags
    have hall : st.flags.dotAll = true := by rw [hflags]; rfl
    have hgreedy : (!st.flags.swapGreed) = true := by rw [hflags]; rfl
    have hstar := Reader.reads_anything hplain hall
      (head?_translateChars (glob.dropWhile (· == '*')) hrest)
    rw [hgreedy] at hstar
    rw [translateChars_many]
    exact hstar.trans (h.reads _ rest hflags hrest)
  spans s p hp := by
    rw [← Fnmatch.dropWhile_iff, Fnmatch.many_iff, List.map_cons]
    constructor
    · rintro ⟨m, hspan, hchain⟩
      obtain ⟨hle, hm⟩ := spans_anything_iff.1 hspan
      rw [List.size_toArray] at hm
      refine ⟨(s.drop p).take (m - p), s.drop m, ?_, (h.spans s m (by omega)).1 hchain⟩
      have hdrop : s.drop m = (s.drop p).drop (m - p) := by
        rw [List.drop_drop]
        congr 1
        omega
      rw [hdrop, List.take_append_drop]
    · rintro ⟨taken, left, hsplit, hrest⟩
      have hlength := congrArg List.length hsplit
      rw [List.length_drop, List.length_append] at hlength
      have hdrop : s.drop (p + taken.length) = left := by
        rw [← List.drop_drop, hsplit, List.drop_left]
      refine ⟨p + taken.length, spans_anything_iff.2 ⟨Nat.le_add_right _ _, ?_⟩,
        (h.spans s _ (by omega)).2 (hdrop ▸ hrest)⟩
      rw [List.size_toArray]
      omega

end Reading

/-- The translation of a pattern without hyphens in its sets is read as what the pattern matches. -/
theorem exists_reading {glob : List Char} (free : HyphenFree glob) :
    ∃ nodes, Reading glob nodes := by
  induction glob using translateChars.induct with
  | case1 => exact ⟨[], .nil⟩
  | case2 glob ih =>
    obtain ⟨nodes, h⟩ := ih (free.of_cons (by decide)).dropWhile
    exact ⟨_, h.many⟩
  | case3 glob _ ih =>
    obtain ⟨nodes, h⟩ := ih (free.of_cons (by decide))
    exact ⟨_, h.one⟩
  | case4 text body glob hcut _ _ ih =>
    obtain ⟨negated, members, rfl, hset⟩ := cutSet?_eq_some_iff.1 hcut
    obtain ⟨hmembers, hrest⟩ := free.of_set hset
    obtain ⟨nodes, h⟩ := ih hrest
    exact ⟨_, h.set hset hmembers⟩
  | case5 glob hcut _ _ ih =>
    have hopen := cutSet?_eq_none_iff.1 hcut
    obtain ⟨nodes, h⟩ := ih (free.of_unclosed hopen)
    exact ⟨_, h.escaped (translateChars_unclosed hopen) fun _ => Fnmatch.unclosed_iff hopen⟩
  | case6 c glob hstar hmark hbracket ih =>
    obtain ⟨nodes, h⟩ := ih (free.of_cons hbracket)
    exact ⟨_, h.escaped (translateChars_same hstar hmark hbracket) fun _ =>
      Fnmatch.same_iff hstar hmark hbracket⟩

/-! ## The whole expression -/

/-- The expression for a pattern whose items are read as the nodes. -/
def wholeRegex (nodes : List Node) : Regex :=
  seqs (.look .textStart :: (nodes.map (·.regex) ++ [.look .textEnd]))

/-- The state behind the modes and the head of the text. -/
def openedReader : Reader :=
  ⟨wholeFlags, [.node ⟨.look .textStart, 0⟩, .flags], [], [], [], 0⟩

/-- What the items between the two ends of a text come to. -/
theorem current_pushAll (nodes : List Node) :
    ∃ depth, ((pushAll openedReader nodes).push (.look .textEnd) 0).current =
      ⟨wholeRegex nodes, depth⟩ ∧ ((∀ n ∈ nodes, n.depth ≤ 2) → depth ≤ 3) := by
  have hitems : ((pushAll openedReader nodes).push (.look .textEnd) 0).items.reverse =
      .flags :: .node ⟨.look .textStart, 0⟩ ::
        (nodes.map Item.node ++ [.node ⟨.look .textEnd, 0⟩]) := by
    rw [pushAll_eq]
    simp [openedReader, Reader.push]
  have hbranches : ((pushAll openedReader nodes).push (.look .textEnd) 0).branches = [] := by
    rw [pushAll_eq]
    rfl
  have hdepth (hshallow : ∀ n ∈ nodes, n.depth ≤ 2) :
      (⟨.look .textStart, 0⟩ :: (nodes ++ [⟨.look .textEnd, 0⟩]) : List Node).foldl
        (fun d n => d.max n.depth) 0 ≤ 2 := by
    refine foldl_max_le (fun n hn => ?_) (Nat.zero_le 2)
    simp only [List.mem_cons, List.mem_append, List.not_mem_nil, or_false] at hn
    rcases hn with rfl | hn | rfl
    · exact Nat.zero_le 2
    · exact hshallow n hn
    · exact Nat.zero_le 2
  unfold Reader.current concatenation
  rw [hbranches, hitems]
  simp only [choice, List.filterMap_cons, List.filterMap_append, List.filterMap_map,
    Function.comp_def, List.filterMap_some, List.filterMap_nil, List.map_cons, List.map_append,
    List.map_nil]
  refine ⟨_, rfl, fun hshallow => ?_⟩
  have := hdepth hshallow
  split
  · omega
  · omega

/-- The modes and the head of the text are read first. -/
theorem reads_opened (glob : String) :
    Reader.Reads Reader.start (translate glob).toList openedReader
      (translateChars glob.toList ++ ['\\', 'z']) := by
  have htext : (translate glob).toList =
      '(' :: '?' :: 's' :: ')' :: '\\' :: 'A' :: (translateChars glob.toList ++ ['\\', 'z']) := by
    simp [translate]
  have hmodes : Reader.Reads Reader.start (translate glob).toList
      ⟨wholeFlags, [.flags], [], [], [], 0⟩
      ('\\' :: 'A' :: (translateChars glob.toList ++ ['\\', 'z'])) := by
    rw [htext]
    exact Reader.reads_of_step ⟨rfl, rfl, rfl⟩ rfl (by simp only [List.length_cons]; omega)
  exact hmodes.trans (Reader.reads_of_step isPlain_wholeFlags rfl (Nat.le_succ _))

/-- A translation whose items are read as the nodes is read as these between the two ends of a
text. -/
theorem nodeOf_opened {glob : String} {nodes : List Node}
    (hitems : openedReader.Reads (translateChars glob.toList ++ ['\\', 'z'])
      (pushAll openedReader nodes) ['\\', 'z']) :
    nodeOf (translate glob) =
      .ok ((pushAll openedReader nodes).push (.look .textEnd) 0).current := by
  have hend : Reader.Reads (pushAll openedReader nodes) ['\\', 'z']
      ((pushAll openedReader nodes).push (.look .textEnd) 0) [] := by
    rw [pushAll_eq]
    exact Reader.reads_of_step isPlain_wholeFlags rfl (Nat.zero_le _)
  obtain ⟨n, hle, hrun⟩ := ((reads_opened glob).trans hitems).trans hend
  obtain ⟨fuel, hfuel⟩ : ∃ fuel, (translate glob).toList.length + 1 = fuel + 1 + n :=
    ⟨(translate glob).toList.length - n, by simp only [List.length_nil] at hle; omega⟩
  rw [nodeOf, hfuel, hrun, pushAll_eq]
  rfl

/-- The text of the translation is read as its items between the two ends of a text. -/
theorem nodeOf_translate {glob : String} {nodes : List Node} (h : Reading glob.toList nodes) :
    ∃ depth ≤ 3, nodeOf (translate glob) = .ok ⟨wholeRegex nodes, depth⟩ := by
  obtain ⟨depth, hcurrent, hdepth⟩ := current_pushAll nodes
  refine ⟨depth, hdepth h.shallow, ?_⟩
  rw [nodeOf_opened (h.reads openedReader ['\\', 'z'] rfl (by decide)), hcurrent]

/-- Unless it is too large, the translation of a pattern is an expression that matches, from the
head of a text to its end, just what the pattern matches. -/
theorem ofPattern_translate {glob : String} {nodes : List Node} (h : Reading glob.toList nodes)
    (fits : ofPattern (translate glob) ≠ .error .tooLarge) :
    ofPattern (translate glob) = .ok (wholeRegex nodes) := by
  obtain ⟨depth, hdepth, hnode⟩ := nodeOf_translate h
  have hshallow : depth ≤ depthLimit := Nat.le_trans hdepth (by decide)
  exact ofPattern_of_limits _ hnode (ofPattern_ne_tooDeep _ hnode hshallow) fits

/-- Between the two ends of a text, the items match the whole text. -/
theorem matchesIn_wholeRegex_iff_chain (nodes : List Node) (s : String) :
    (wholeRegex nodes).matchesIn s = true ↔
      Chain s.toList.toArray (nodes.map (·.regex)) 0 s.toList.length := by
  have hsize : s.toList.toArray.size = s.toList.length := List.size_toArray
  rw [matchesIn_iff]
  simp only [wholeRegex, spans_seqs_iff, Chain, chain_append_iff]
  constructor
  · rintro ⟨p, hp, _, m, ⟨hm, hstart⟩, q, hq, _, ⟨_, hend⟩, _⟩
    have hzero : p = 0 := by
      rcases Nat.eq_zero_or_pos p with hzero | hpos
      · exact hzero
      · rw [if_neg (Nat.ne_of_gt hpos)] at hstart
        have hout := Array.getElem?_eq_none_iff.1 (Option.isNone_iff_eq_none.1 hstart)
        omega
    subst hm hzero
    have hq' := (spans_seqs_iff.2 hq).bounds
    have hout := Array.getElem?_eq_none_iff.1 (Option.isNone_iff_eq_none.1 hend)
    have hlast : q = s.toList.length := by omega
    exact hlast ▸ hq
  · intro hall
    have hend : (Anchor.textEnd.holds
        (if s.toList.length = 0 then none else s.toList.toArray[s.toList.length - 1]?)
        s.toList.toArray[s.toList.length]?) = true := by
      rw [Array.getElem?_eq_none_iff.2 (Nat.le_of_eq hsize)]
      rfl
    exact ⟨0, Nat.zero_le _, _, 0, ⟨rfl, rfl⟩, _, hall, _, ⟨rfl, hend⟩, rfl⟩

theorem matchesIn_wholeRegex {glob : List Char} {nodes : List Node} (h : Reading glob nodes)
    (s : String) : (wholeRegex nodes).matchesIn s = true ↔ Fnmatch glob s.toList := by
  have hchain := h.spans s.toList 0 (Nat.zero_le _)
  rw [List.drop_zero] at hchain
  exact (matchesIn_wholeRegex_iff_chain nodes s).trans hchain

end LintScan.Glob

namespace LintScan.FilePattern

open Glob

/-- **A pattern for files accepts just the texts that it matches,** if its sets have no hyphen and
its expression is not too large. -/
theorem accepts_iff_fnmatch {glob : String} (free : HyphenFree glob.toList)
    (fits : Regex.ofPattern (translate glob) ≠ .error .tooLarge) :
    ∃ p, ofString? glob = some p ∧ p.source = glob ∧
      ∀ s, p.accepts s = true ↔ Fnmatch glob.toList s.toList := by
  obtain ⟨nodes, h⟩ := exists_reading free
  refine ⟨⟨glob, wholeRegex nodes⟩, ?_, rfl, matchesIn_wholeRegex h⟩
  unfold ofString? read
  rw [ofPattern_translate h fits]
  rfl

/-- A pattern with a set that holds a closing bracket, and a bracket that is never closed. -/
theorem accepts_unclosed_bracket :
    ∃ p, ofString? "*/[!]_]?.[ch" = some p ∧ p.source = "*/[!]_]?.[ch" ∧
      ∀ s, p.accepts s = true ↔ Fnmatch "*/[!]_]?.[ch".toList s.toList := by
  have htext : "*/[!]_]?.[ch".toList =
      ['*', '/', '[', '!', ']', '_', ']', '?', '.', '[', 'c', 'h'] := rfl
  have hset : IsSet ['!', ']', '_', ']', '?', '.', '[', 'c', 'h'] true [']', '_']
      ['?', '.', '[', 'c', 'h'] := ⟨rfl, by decide, by decide, nofun⟩
  have hopen := cutSet?_eq_none_iff.1 (show cutSet? ['c', 'h'] = none by decide)
  have hread : (Regex.ofPattern (translate "*/[!]_]?.[ch")).toOption.isSome = true := by
    decide +kernel
  refine accepts_iff_fnmatch ?_ fun hlarge => ?_
  · rw [htext]
    refine .other (by decide) (.other (by decide) (.set hset (by decide) ?_))
    exact .other (by decide) (.other (by decide)
      (.unclosed hopen (.other (by decide) (.other (by decide) .done))))
  · rw [hlarge] at hread
    cases hread

end LintScan.FilePattern
