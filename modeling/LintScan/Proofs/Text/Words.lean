import LintScan.Text.Blank
import LintScan.Text.Pieces
import Mathlib.Data.List.Chain
import Mathlib.Data.List.DropRight

/-!
# Words

The words of a text are its maximal runs of characters that are not blank.

* `wordsFrom_blank`, `wordsFrom_char` — one step of the reader; all that follows rests on the two.
* `Touches` — two texts that meet without a blank. `wordsOf_append` and `length_wordsOf_append` say
  what becomes of the words at such a seam, and `wordsOf_flatten_iff` what becomes of the words of
  many texts: they are the words of each exactly if no two neighbours touch.
* `Spaced` — texts in which blanks stand as single spaces between other characters. They are the
  words joined by spaces: `join_words` and `words_join` undo each other.
* `trimChars_of_spaced`, `dropEnd_append` — what is taken off the ends of a text.
-/

namespace LintScan.Text

/-! ## Reading words -/

/-- The word that has been read, if there is one. -/
def ended (word : List Char) : List (List Char) := if word.isEmpty then [] else [word]

theorem ended_nil : ended [] = [] := rfl

theorem ended_of_ne {word : List Char} (h : word ≠ []) : ended word = [word] := by
  unfold ended
  rw [if_neg (by simpa using h)]

theorem wordsFrom_nil (word : List Char) : wordsFrom word [] = ended word := by
  rw [wordsFrom, ended]

theorem wordsFrom_blank {word rest : List Char} {c : Char} (hc : isBlank c = true) :
    wordsFrom word (c :: rest) = ended word ++ wordsFrom [] rest := by
  rw [wordsFrom, if_pos hc, ended]
  split <;> rfl

theorem wordsFrom_char {word rest : List Char} {c : Char} (hc : isBlank c = false) :
    wordsFrom word (c :: rest) = wordsFrom (word ++ [c]) rest := by
  rw [wordsFrom, if_neg (by rw [hc]; exact Bool.false_ne_true)]

theorem wordsFrom_append_chars {more : List Char} (h : ∀ c ∈ more, isBlank c = false)
    (word rest : List Char) :
    wordsFrom word (more ++ rest) = wordsFrom (word ++ more) rest := by
  induction more generalizing word with
  | nil => simp
  | cons c more ih =>
    rw [List.cons_append, wordsFrom_char (h c List.mem_cons_self),
      ih fun d hd => h d (List.mem_cons_of_mem c hd), List.append_assoc, List.singleton_append]

/-- A word has characters, and none of them is blank. -/
def IsWord (word : List Char) : Prop := word ≠ [] ∧ ∀ c ∈ word, isBlank c = false

theorem isWord_of_mem_ended {word v : List Char} (h : ∀ c ∈ word, isBlank c = false)
    (hv : v ∈ ended word) : IsWord v := by
  by_cases hw : word = []
  · rw [hw, ended_nil] at hv
    cases hv
  · rw [ended_of_ne hw, List.mem_singleton] at hv
    exact hv ▸ ⟨hw, h⟩

theorem isWord_of_mem_wordsFrom {word cs v : List Char} (h : ∀ c ∈ word, isBlank c = false)
    (hv : v ∈ wordsFrom word cs) : IsWord v := by
  induction cs generalizing word with
  | nil =>
    rw [wordsFrom_nil] at hv
    exact isWord_of_mem_ended h hv
  | cons c cs ih =>
    cases hc : isBlank c with
    | true =>
      rw [wordsFrom_blank hc] at hv
      rcases List.mem_append.1 hv with hv | hv
      · exact isWord_of_mem_ended h hv
      · exact ih (fun _ hd => by cases hd) hv
    | false =>
      rw [wordsFrom_char hc] at hv
      refine ih (fun d hd => ?_) hv
      rcases List.mem_append.1 hd with hd | hd
      · exact h d hd
      · rw [List.mem_singleton.1 hd]
        exact hc

/-- All characters of the words come from the text. -/
theorem mem_flatten_wordsFrom {word cs : List Char} {c : Char}
    (h : c ∈ (wordsFrom word cs).flatten) : c ∈ word ++ cs := by
  have hended : ∀ {word : List Char}, c ∈ (ended word).flatten → c ∈ word := by
    intro word hc
    unfold ended at hc
    split at hc
    · cases hc
    · simpa using hc
  induction cs generalizing word with
  | nil =>
    rw [wordsFrom_nil] at h
    rw [List.append_nil]
    exact hended h
  | cons d cs ih =>
    cases hd : isBlank d with
    | true =>
      rw [wordsFrom_blank hd, List.flatten_append, List.mem_append] at h
      rcases h with h | h
      · exact List.mem_append_left _ (hended h)
      · exact List.mem_append_right _ (List.mem_cons_of_mem d (ih h))
    | false =>
      rw [wordsFrom_char hd] at h
      simpa using ih h

/-! ## Seams -/

/-- The first text ends and the second one begins with a character that is not blank, so where they
meet two words become one. -/
def Touches (a b : List Char) : Prop :=
  (∃ c ∈ a.getLast?, isBlank c = false) ∧ ∃ d ∈ b.head?, isBlank d = false

theorem wordsFrom_append_blank {a b word : List Char} (h : ∀ d ∈ b.head?, isBlank d = true) :
    wordsFrom word (a ++ b) = wordsFrom word a ++ wordsFrom [] b := by
  induction a generalizing word with
  | nil =>
    cases b with
    | nil => rw [List.append_nil, wordsFrom_nil, wordsFrom_nil, ended_nil, List.append_nil]
    | cons d b =>
      have hd : isBlank d = true := h d rfl
      rw [List.nil_append, wordsFrom_nil, wordsFrom_blank hd, wordsFrom_blank hd, ended_nil,
        List.nil_append]
  | cons c a ih =>
    cases hc : isBlank c with
    | true => rw [List.cons_append, wordsFrom_blank hc, wordsFrom_blank hc, ih, List.append_assoc]
    | false => rw [List.cons_append, wordsFrom_char hc, wordsFrom_char hc, ih]

/-- Where two texts do not touch, no word goes across the seam. -/
theorem wordsOf_append {a b : List Char} (h : ¬ Touches a b) :
    wordsOf (a ++ b) = wordsOf a ++ wordsOf b := by
  unfold wordsOf
  by_cases hb : ∀ d ∈ b.head?, isBlank d = true
  · exact wordsFrom_append_blank hb
  · -- the blank is at the end of the first text, or that text is empty
    have ha : ∀ c ∈ a.getLast?, isBlank c = true := by
      intro c hc
      by_contra hblank
      push Not at hb
      obtain ⟨d, hd, hdb⟩ := hb
      exact h ⟨⟨c, hc, by simpa using hblank⟩, d, hd, by simpa using hdb⟩
    rcases List.eq_nil_or_concat a with rfl | ⟨front, c, rfl⟩
    · rw [List.nil_append, wordsFrom_nil, ended_nil, List.nil_append]
    · have hc : isBlank c = true := ha c (by simp)
      have hhead : ∀ (rest : List Char), ∀ d ∈ (c :: rest).head?, isBlank d = true := by
        rintro rest d ⟨⟩
        exact hc
      rw [List.concat_eq_append, List.append_assoc, List.singleton_append,
        wordsFrom_append_blank (hhead b), wordsFrom_append_blank (hhead []), wordsFrom_blank hc,
        wordsFrom_blank hc, wordsFrom_nil, ended_nil, List.nil_append, List.nil_append,
        List.append_nil]

theorem length_wordsFrom {word other : List Char} (cs : List Char) (hw : word ≠ [])
    (ho : other ≠ []) : (wordsFrom word cs).length = (wordsFrom other cs).length := by
  induction cs generalizing word other with
  | nil => rw [wordsFrom_nil, wordsFrom_nil, ended_of_ne hw, ended_of_ne ho]; rfl
  | cons c cs ih =>
    cases hc : isBlank c with
    | true =>
      rw [wordsFrom_blank hc, wordsFrom_blank hc, ended_of_ne hw, ended_of_ne ho]
      rfl
    | false =>
      rw [wordsFrom_char hc, wordsFrom_char hc]
      exact ih (by simp) (by simp)

/-- A text that begins with a character that is not blank goes on with the word before it. -/
theorem length_wordsFrom_append {word a b : List Char} {d : Char} (hd : isBlank d = false)
    (hopen : word ≠ [] ∨ a ≠ []) (hlast : ∀ c ∈ a.getLast?, isBlank c = false) :
    (wordsFrom word (a ++ d :: b)).length + 1 =
      (wordsFrom word a).length + (wordsFrom [] (d :: b)).length := by
  induction a generalizing word with
  | nil =>
    have hw : word ≠ [] := hopen.resolve_right fun h => h rfl
    rw [List.nil_append, wordsFrom_nil, ended_of_ne hw, wordsFrom_char hd, wordsFrom_char hd,
      length_wordsFrom b (show word ++ [d] ≠ [] by simp) (show [] ++ [d] ≠ [] by simp),
      List.length_singleton, Nat.add_comm]
  | cons c a ih =>
    have hlast' : ∀ c ∈ a.getLast?, isBlank c = false := by
      intro e he
      cases a with
      | nil => cases he
      | cons => exact hlast e (by simpa using he)
    cases hc : isBlank c with
    | true =>
      have ha : a ≠ [] := by
        rintro rfl
        have := hlast c rfl
        rw [hc] at this
        cases this
      have hrest : (wordsFrom [] (a ++ d :: b)).length + 1 =
          (wordsFrom [] a).length + (wordsFrom [] (d :: b)).length := ih (.inr ha) hlast'
      rw [List.cons_append, wordsFrom_blank hc, wordsFrom_blank hc, List.length_append,
        List.length_append]
      omega
    | false =>
      rw [List.cons_append, wordsFrom_char hc, wordsFrom_char hc]
      exact ih (.inl (by simp)) hlast'

/-- Where two texts touch, two words become one. -/
theorem length_wordsOf_append {a b : List Char} (h : Touches a b) :
    (wordsOf (a ++ b)).length + 1 = (wordsOf a).length + (wordsOf b).length := by
  obtain ⟨⟨c, hc, hcb⟩, d, hd, hdb⟩ := h
  cases b with
  | nil => cases hd
  | cons e b =>
    cases hd
    have ha : a ≠ [] := by
      rintro rfl
      cases hc
    refine length_wordsFrom_append hdb (.inr ha) fun e he => ?_
    rw [Option.mem_def] at hc he
    rw [hc] at he
    cases he
    exact hcb

theorem length_wordsOf_append_le (a b : List Char) :
    (wordsOf (a ++ b)).length ≤ (wordsOf a).length + (wordsOf b).length := by
  by_cases h : Touches a b
  · have := length_wordsOf_append h
    omega
  · rw [wordsOf_append h, List.length_append]

theorem length_wordsOf_flatten_le (texts : List (List Char)) :
    (wordsOf texts.flatten).length ≤ (texts.flatMap wordsOf).length := by
  induction texts with
  | nil => exact Nat.le_refl _
  | cons a texts ih =>
    have := length_wordsOf_append_le a texts.flatten
    rw [List.flatten_cons, List.flatMap_cons, List.length_append]
    omega

/-- **Texts one behind the other have the words of each exactly if no two neighbours touch.** -/
theorem wordsOf_flatten_iff {texts : List (List Char)} (hne : ∀ a ∈ texts, a ≠ []) :
    wordsOf texts.flatten = texts.flatMap wordsOf ↔
      texts.IsChain fun a b => ¬ Touches a b := by
  induction texts with
  | nil => simp [wordsOf, wordsFrom_nil, ended_nil]
  | cons a texts ih =>
    have ih := ih fun b hb => hne b (List.mem_cons_of_mem a hb)
    cases texts with
    | nil => simp
    | cons b texts =>
      -- the neighbour decides how the rest begins, as it is not empty
      have hseam : Touches a (b :: texts).flatten ↔ Touches a b := by
        cases b with
        | nil => exact absurd rfl (hne [] (by simp))
        | cons d b => rfl
      rw [List.isChain_cons_cons, ← ih, List.flatten_cons, List.flatMap_cons, ← hseam]
      constructor
      · intro h
        have hfree : ¬ Touches a (b :: texts).flatten := by
          intro htouch
          have hlen := length_wordsOf_append htouch
          have hle := length_wordsOf_flatten_le (b :: texts)
          rw [h, List.length_append] at hlen
          omega
        rw [wordsOf_append hfree] at h
        exact ⟨hfree, List.append_cancel_left h⟩
      · rintro ⟨hfree, h⟩
        rw [wordsOf_append hfree, h]

/-- Texts that are empty add nothing, neither to the whole nor to the words. -/
theorem filter_ne_empty (texts : List String) :
    String.join (texts.filter (· ≠ "")) = String.join texts ∧
      (texts.filter (· ≠ "")).flatMap words = texts.flatMap words := by
  induction texts with
  | nil => exact ⟨rfl, rfl⟩
  | cons s texts ih =>
    obtain ⟨hjoin, hwords⟩ := ih
    by_cases hs : s = ""
    · subst hs
      rw [List.filter_cons_of_neg (by simp), hjoin, hwords, String.join_cons, String.empty_append,
        List.flatMap_cons]
      exact ⟨rfl, rfl⟩
    · rw [List.filter_cons_of_pos (by simpa using hs), String.join_cons, String.join_cons,
        List.flatMap_cons, List.flatMap_cons, hjoin, hwords]
      exact ⟨rfl, rfl⟩

/-- The same for texts as they are joined, where those that are empty are no neighbours. -/
theorem words_concat_iff (texts : List String) :
    words (String.join texts) = texts.flatMap words ↔
      (texts.filter (· ≠ "")).IsChain fun a b => ¬ Touches a.toList b.toList := by
  obtain ⟨hjoin, hwords⟩ := filter_ne_empty texts
  have hne : ∀ a ∈ (texts.filter (· ≠ "")).map String.toList, a ≠ [] := by
    intro a ha
    obtain ⟨s, hs, rfl⟩ := List.mem_map.1 ha
    simpa using (List.mem_filter.1 hs).2
  have hall : ((texts.filter (· ≠ "")).flatMap words) =
      (((texts.filter (· ≠ "")).map String.toList).flatMap wordsOf).map String.ofList := by
    rw [List.map_flatMap, List.flatMap_map]
    rfl
  have hinj : Function.Injective (List.map String.ofList) :=
    List.map_injective_iff.2 fun _ _ => String.ofList_injective
  rw [← hjoin, ← hwords, hall, words, String.toList_join, List.flatMap_def, hinj.eq_iff,
    wordsOf_flatten_iff hne, List.isChain_map]

/-! ## Single spaces -/

/-- Blanks stand only as single spaces between other characters. -/
inductive Spaced : List Char → Prop
  | last {c : Char} : isBlank c = false → Spaced [c]
  | char {c : Char} {rest : List Char} : isBlank c = false → Spaced rest → Spaced (c :: rest)
  | space {c : Char} {rest : List Char} :
      isBlank c = false → Spaced rest → Spaced (c :: ' ' :: rest)

namespace Spaced

variable {a b cs : List Char}

theorem ne_nil (h : Spaced cs) : cs ≠ [] := by
  cases h <;> exact List.cons_ne_nil _ _

theorem head_not_blank (h : Spaced cs) : ∀ c ∈ cs.head?, isBlank c = false := by
  cases h <;> rintro c ⟨⟩ <;> assumption

theorem last_not_blank (h : Spaced cs) : ∀ c ∈ cs.getLast?, isBlank c = false := by
  induction h with
  | last hc =>
    rintro c ⟨⟩
    exact hc
  | char _ hrest ih =>
    obtain ⟨d, rest, rfl⟩ := List.exists_cons_of_ne_nil hrest.ne_nil
    simpa using ih
  | space _ hrest ih =>
    obtain ⟨d, rest, rfl⟩ := List.exists_cons_of_ne_nil hrest.ne_nil
    simpa using ih

theorem snoc {c : Char} (h : Spaced cs) (hc : isBlank c = false) : Spaced (cs ++ [c]) := by
  induction h with
  | last hd => exact .char hd (.last hc)
  | char hd _ ih => exact .char hd ih
  | space hd _ ih => exact .space hd ih

theorem append (ha : Spaced a) (hb : Spaced b) : Spaced (a ++ ' ' :: b) := by
  induction ha with
  | last hc => exact .space hc hb
  | char hc _ ih => exact .char hc ih
  | space hc _ ih => exact .space hc ih

end Spaced

theorem IsWord.spaced {word : List Char} (h : IsWord word) : Spaced word := by
  obtain ⟨hne, hchars⟩ := h
  induction word with
  | nil => exact absurd rfl hne
  | cons c word ih =>
    have hc := hchars c List.mem_cons_self
    by_cases hw : word = []
    · exact hw ▸ .last hc
    · exact .char hc (ih hw fun d hd => hchars d (List.mem_cons_of_mem c hd))

theorem toList_join_cons_cons (s t : String) (rest : List String) :
    (join " " (s :: t :: rest)).toList = s.toList ++ ' ' :: (join " " (t :: rest)).toList := by
  rw [join, String.toList_append, String.toList_append, List.append_assoc]
  rfl

theorem spaced_join : ∀ {ss : List String}, ss ≠ [] → (∀ s ∈ ss, Spaced s.toList) →
    Spaced (join " " ss).toList
  | [], hne, _ => absurd rfl hne
  | [s], _, h => h s List.mem_cons_self
  | s :: t :: rest, _, h => by
    rw [toList_join_cons_cons]
    refine (h s List.mem_cons_self).append ?_
    exact spaced_join (List.cons_ne_nil t rest) fun u hu => h u (List.mem_cons_of_mem s hu)

theorem mem_join {c : Char} : ∀ {ss : List String}, c ∈ (join " " ss).toList →
    c = ' ' ∨ ∃ s ∈ ss, c ∈ s.toList
  | [], h => by cases h
  | [s], h => .inr ⟨s, List.mem_cons_self, h⟩
  | s :: t :: rest, h => by
    rw [toList_join_cons_cons, List.mem_append, List.mem_cons] at h
    rcases h with h | h | h
    · exact .inr ⟨s, List.mem_cons_self, h⟩
    · exact .inl h
    · refine (mem_join h).imp_right ?_
      rintro ⟨u, hu, hc⟩
      exact ⟨u, List.mem_cons_of_mem s hu, hc⟩

theorem words_join : ∀ {ss : List String}, (∀ s ∈ ss, IsWord s.toList) → words (join " " ss) = ss
  | [], _ => rfl
  | [s], h => by
    obtain ⟨hne, hchars⟩ := h s List.mem_cons_self
    have hread := wordsFrom_append_chars hchars [] []
    rw [List.append_nil, List.nil_append, wordsFrom_nil, ended_of_ne hne] at hread
    rw [join, words, wordsOf, hread, List.map_singleton, String.ofList_toList]
  | s :: t :: rest, h => by
    obtain ⟨hne, hchars⟩ := h s List.mem_cons_self
    have ih : words (join " " (t :: rest)) = t :: rest :=
      words_join fun u hu => h u (List.mem_cons_of_mem s hu)
    have hspace : isBlank ' ' = true := by decide
    rw [words, wordsOf] at ih
    rw [words, wordsOf, toList_join_cons_cons, wordsFrom_append_chars hchars, List.nil_append,
      wordsFrom_blank hspace, ended_of_ne hne, List.map_append, ih, List.map_singleton,
      String.ofList_toList, List.singleton_append]

theorem isWord_of_mem_words {s t : String} (h : t ∈ words s) : IsWord t.toList := by
  obtain ⟨v, hv, rfl⟩ := List.mem_map.1 h
  rw [String.toList_ofList]
  exact isWord_of_mem_wordsFrom (fun _ hd => by cases hd) hv

theorem mem_of_mem_words {s t : String} {c : Char} (ht : t ∈ words s) (hc : c ∈ t.toList) :
    c ∈ s.toList := by
  obtain ⟨v, hv, rfl⟩ := List.mem_map.1 ht
  rw [String.toList_ofList] at hc
  exact mem_flatten_wordsFrom (List.mem_flatten.2 ⟨v, hv, hc⟩)

theorem join_wordsFrom {cs : List Char} (h : Spaced cs) (word : List Char) :
    (join " " ((wordsFrom word cs).map String.ofList)).toList = word ++ cs := by
  induction h generalizing word with
  | last hc =>
    rw [wordsFrom_char hc, wordsFrom_nil, ended_of_ne (by simp), List.map_singleton, join,
      String.toList_ofList]
  | char hc _ ih => rw [wordsFrom_char hc, ih, List.append_assoc, List.singleton_append]
  | @space c rest hc hrest ih =>
    have hspace : isBlank ' ' = true := by decide
    rw [wordsFrom_char hc, wordsFrom_blank hspace, ended_of_ne (by simp), List.singleton_append,
      List.map_cons]
    have hjoin := ih []
    cases hwords : wordsFrom [] rest with
    | nil =>
      rw [hwords] at hjoin
      exact absurd hjoin.symm hrest.ne_nil
    | cons v vs =>
      rw [hwords, List.map_cons] at hjoin
      rw [List.map_cons, toList_join_cons_cons, hjoin]
      simp

theorem join_words {s : String} (h : Spaced s.toList) : join " " (words s) = s := by
  have hjoin := join_wordsFrom h []
  rw [List.nil_append] at hjoin
  rw [words, wordsOf, ← String.ofList_toList (s := join _ _), hjoin, String.ofList_toList]

/-! ## The ends of a text -/

theorem dropEnd_eq_rdropWhile (p : Char → Bool) (cs : List Char) :
    dropEnd p cs = cs.rdropWhile p := rfl

theorem dropEnd_of_last {p : Char → Bool} {cs : List Char} (h : ∀ c ∈ cs.getLast?, p c = false) :
    dropEnd p cs = cs := by
  rw [dropEnd_eq_rdropWhile, List.rdropWhile_eq_self_iff]
  intro hne hp
  rw [h _ (List.getLast?_eq_some_getLast hne)] at hp
  cases hp

theorem dropWhile_of_head {p : Char → Bool} {cs : List Char} (h : ∀ c ∈ cs.head?, p c = false) :
    cs.dropWhile p = cs := by
  cases cs with
  | nil => rfl
  | cons c cs => rw [List.dropWhile_cons, if_neg (by simp [h c rfl])]

theorem dropEnd_snoc {p : Char → Bool} {cs : List Char} {c : Char} (hc : p c = true)
    (h : ∀ d ∈ cs.getLast?, p d = false) : dropEnd p (cs ++ [c]) = cs := by
  rw [dropEnd_eq_rdropWhile, List.rdropWhile_concat_pos p cs c hc, ← dropEnd_eq_rdropWhile,
    dropEnd_of_last h]

theorem dropEnd_append {p : Char → Bool} {a b : List Char} (h : dropEnd p b ≠ []) :
    dropEnd p (a ++ b) = a ++ dropEnd p b := by
  unfold dropEnd at h ⊢
  rw [List.reverse_append, List.dropWhile_append, if_neg (by simpa using h), List.reverse_append,
    List.reverse_reverse]

theorem stripWhere_of_ends {p : Char → Bool} {cs : List Char} (hhead : ∀ c ∈ cs.head?, p c = false)
    (hlast : ∀ c ∈ cs.getLast?, p c = false) : stripWhere p cs = cs := by
  rw [stripWhere, dropWhile_of_head hhead, dropEnd_of_last hlast]

theorem trimChars_of_spaced {cs : List Char} (h : Spaced cs) : trimChars cs = cs :=
  stripWhere_of_ends h.head_not_blank h.last_not_blank

theorem stripWhere_of_not_mem {p : Char → Bool} {cs : List Char} (h : ∀ c ∈ cs, p c = false) :
    stripWhere p cs = cs :=
  stripWhere_of_ends (fun c hc => h c (List.mem_of_mem_head? hc))
    fun c hc => h c (List.mem_of_mem_getLast? hc)

theorem stripWhere_cons {p : Char → Bool} {c : Char} (hc : p c = true) (cs : List Char) :
    stripWhere p (c :: cs) = stripWhere p cs := by
  rw [stripWhere, List.dropWhile_cons_of_pos hc, stripWhere]

theorem stripWhere_eq_nil_iff {p : Char → Bool} {cs : List Char} :
    stripWhere p cs = [] ↔ ∀ c ∈ cs, p c = true := by
  simp only [stripWhere, dropEnd, List.reverse_eq_nil_iff, List.dropWhile_eq_nil_iff,
    List.mem_reverse]
  constructor
  · intro h
    -- What is left at the head would begin with a character that is not dropped.
    by_contra hcs
    have hne : cs.dropWhile p ≠ [] := mt List.dropWhile_eq_nil_iff.1 hcs
    have hhead := h _ (List.head_mem hne)
    rw [List.head_dropWhile_not p hne] at hhead
    cases hhead
  · exact fun h c hc => h c ((List.dropWhile_suffix p).mem hc)

theorem trimChars_eq_nil_iff {cs : List Char} :
    trimChars cs = [] ↔ cs.all isBlank = true := by
  rw [trimChars, stripWhere_eq_nil_iff, List.all_eq_true]

end LintScan.Text
