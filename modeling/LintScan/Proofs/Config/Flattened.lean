import LintScan.Proofs.Tool.Flags

/-!
# Settings of a tool on a single line

A setting of a tool is brought onto a single line: its words with single spaces between them, and
then quotes and blanks are taken off both ends, each once.  A space between quotes stops the first
step and is gone after the second one, so a quote behind it stays at the end of the value.

* `IsFlat` — the values that are meant to come out: on a single line, with no quotes around them,
  and such that they stay as they are.
* `BaresQuote` — the lines that begin with such quotes.
* `head_stripped_iff` — exactly these leave a quote at the head; the end is the head of the reversed
  line.
* `toolSetting_flat_iff` — so a setting comes out as it is meant exactly if its line bares no quote
  from either side; `toolSetting_baredQuote` is one that does.
-/

namespace LintScan

namespace Config

open Text

/-! ## Values on a single line -/

/-- A value on a single line: words with single spaces between them, neither a blank nor a quote at
its ends, and nothing left to do. -/
structure IsFlat (value : String) : Prop where
  words : ∃ ws, (∀ w ∈ ws, IsWord w.toList) ∧ value = join " " ws
  head : ∀ c ∈ value.toList.head?, isBlank c = false ∧ c ≠ '"'
  last : ∀ c ∈ value.toList.getLast?, isBlank c = false ∧ c ≠ '"'
  again : flatten value = value

/-- The words of a value on one line, with whatever stands at its ends. -/
def lineOf (value : String) : List Char := (join " " (words value)).toList

/-- A line without the quotes and then without the blanks at its ends. -/
def stripped (line : List Char) : List Char := trimChars (stripWhere (· == '"') line)

theorem flatten_eq (value : String) : flatten value = String.ofList (stripped (lineOf value)) := rfl

variable {line : List Char}

theorem spaced_lineOf (value : String) (h : lineOf value ≠ []) : Spaced (lineOf value) := by
  refine spaced_join (fun hnone => h ?_) fun w hw => (isWord_of_mem_words hw).spaced
  rw [lineOf, hnone]
  rfl

theorem lineOf_of_spaced {value : String} (h : Spaced value.toList) : lineOf value = value.toList :=
  congrArg String.toList (join_words h)

theorem stripped_reverse (line : List Char) : stripped line.reverse = (stripped line).reverse := by
  rw [stripped, stripWhere_reverse, trimChars, stripWhere_reverse, stripped, trimChars]

/-- What is left of a line stands in it, between quotes and then blanks. -/
theorem exists_stripped (line : List Char) : ∃ before space space' behind,
    (∀ c ∈ before, c = '"') ∧ (∀ c ∈ space, isBlank c = true) ∧
    line = before ++ stripWhere (· == '"') line ++ behind ∧
    stripWhere (· == '"') line = space ++ stripped line ++ space' := by
  obtain ⟨before, behind, hbefore, _, hline⟩ := exists_stripWhere (· == '"') line
  obtain ⟨space, space', hspace, _, hrest⟩ :=
    exists_stripWhere isBlank (stripWhere (· == '"') line)
  exact ⟨before, space, space', behind, fun c hc => by simpa using hbefore c hc, hspace, hline,
    hrest⟩

theorem spaced_stripped (h : line ≠ [] → Spaced line) (hne : stripped line ≠ []) :
    Spaced (stripped line) := by
  obtain ⟨before, space, space', behind, _, _, hline, hrest⟩ := exists_stripped line
  have hparts : line = (before ++ space) ++ stripped line ++ (space' ++ behind) := by
    conv => lhs; rw [hline, hrest]
    simp only [List.append_assoc]
  have hspaced : Spaced line := h fun hnil => hne (by rw [hnil]; rfl)
  rw [hparts] at hspaced
  exact hspaced.of_infix hne head_stripWhere last_stripWhere

theorem length_stripped_lt (h : line.head? = some '"') : (stripped line).length < line.length := by
  obtain ⟨rest, rfl⟩ := List.head?_eq_some_iff.1 h
  have hquotes := length_stripWhere_le (· == '"') rest
  have hblanks := length_stripWhere_le isBlank (stripWhere (· == '"') rest)
  rw [stripped, stripWhere_cons (by decide), trimChars, List.length_cons]
  omega

/-- A line stays as it is exactly if there are no quotes at its ends. -/
theorem stripped_eq_self_iff (h : Spaced line) :
    stripped line = line ↔ line.head? ≠ some '"' ∧ line.getLast? ≠ some '"' := by
  constructor
  · intro hself
    refine ⟨fun hhead => ?_, fun hlast => ?_⟩
    · have hlt := length_stripped_lt hhead
      rw [hself] at hlt
      exact Nat.lt_irrefl _ hlt
    · have hlt := length_stripped_lt (List.head?_reverse.trans hlast)
      rw [stripped_reverse, hself] at hlt
      exact Nat.lt_irrefl _ hlt
  · rintro ⟨hhead, hlast⟩
    have hquotes : stripWhere (· == '"') line = line :=
      stripWhere_of_ends (fun c hc => beq_eq_false_iff_ne.2 fun heq => hhead (heq ▸ hc))
        fun c hc => beq_eq_false_iff_ne.2 fun heq => hlast (heq ▸ hc)
    rw [stripped, hquotes, trimChars_of_spaced h]

/-! ## Quotes that are left -/

/-- A line begins with quotes, a space, and a quote again, and more than quotes stand behind that.
Then the second quote comes to the head. -/
def BaresQuote (line : List Char) : Prop :=
  ∃ quotes rest, (∀ c ∈ quotes, c = '"') ∧ line = quotes ++ ' ' :: '"' :: rest ∧ ∃ c ∈ rest, c ≠ '"'

theorem BaresQuote.head_stripped (h : BaresQuote line) : (stripped line).head? = some '"' := by
  obtain ⟨quotes, rest, hquotes, rfl, c, hc, hcne⟩ := h
  have hfront : ∀ c ∈ quotes, (c == '"') = true := fun c hc => by simpa using hquotes c hc
  have hrest : dropEnd (· == '"') rest ≠ [] := by
    rw [dropEnd, ne_eq, List.reverse_eq_nil_iff, List.dropWhile_eq_nil_iff]
    intro hall
    exact hcne (by simpa using hall c (List.mem_reverse.2 hc))
  have hstrip : stripWhere (· == '"') (quotes ++ ' ' :: '"' :: rest) =
      ' ' :: '"' :: dropEnd (· == '"') rest := by
    rw [stripWhere, List.dropWhile_append_of_pos hfront]
    exact dropEnd_append (a := [' ', '"']) hrest
  rw [stripped, hstrip, trimChars, stripWhere_cons (by decide), stripWhere,
    dropWhile_of_head (by rintro c ⟨⟩; decide), dropEnd_cons_of_not (by decide)]
  rfl

theorem baresQuote_of_head (h : Spaced line) (hhead : (stripped line).head? = some '"') :
    BaresQuote line := by
  obtain ⟨before, space, space', behind, hbefore, hspace, hline, hrest⟩ := exists_stripped line
  obtain ⟨tail, htail⟩ := List.head?_eq_some_iff.1 hhead
  rw [htail, List.append_assoc, List.cons_append] at hrest
  have hne : space ≠ [] := by
    -- the quotes are gone from the head, so something stands before this one
    rintro rfl
    have hquote : ∀ c ∈ (stripWhere (· == '"') line).head?, (c == '"') = false := head_stripWhere
    rw [hrest] at hquote
    exact absurd (hquote '"' rfl) (by decide)
  have hone : space = [' '] := by
    rw [hline, hrest, ← List.append_assoc before, List.append_assoc _ _ behind] at h
    exact h.blanks_eq hne hspace
  subst hone
  refine ⟨before, tail ++ space' ++ behind, hbefore, ?_, ?_⟩
  · rw [hline, hrest]
    simp only [List.append_assoc, List.cons_append, List.nil_append]
  · -- the quotes are gone from the end as well, so this one is not the last character
    have hend : ∀ c ∈ (stripWhere (· == '"') line).getLast?, (c == '"') = false := last_stripWhere
    rw [hrest] at hend
    rcases List.eq_nil_or_concat (tail ++ space') with hnil | ⟨front, c, hfront⟩
    · rw [hnil] at hend
      exact absurd (hend '"' rfl) (by decide)
    · have hconcat : [' '] ++ '"' :: front.concat c = ' ' :: '"' :: front ++ [c] := by simp
      rw [hfront, hconcat, List.getLast?_concat] at hend
      rw [hfront]
      exact ⟨c, by simp, by simpa using hend c rfl⟩

/-- A quote comes to the head exactly if the line bares one. -/
theorem head_stripped_iff (h : line ≠ [] → Spaced line) :
    (stripped line).head? = some '"' ↔ BaresQuote line := by
  refine ⟨fun hhead => baresQuote_of_head (h ?_) hhead, BaresQuote.head_stripped⟩
  rintro rfl
  cases hhead

theorem last_stripped_iff (h : line ≠ [] → Spaced line) :
    (stripped line).getLast? = some '"' ↔ BaresQuote line.reverse := by
  rw [← List.head?_reverse, ← stripped_reverse, head_stripped_iff]
  exact fun hne => (h fun hnil => hne (List.reverse_eq_nil_iff.2 hnil)).reverse

/-! ## The value of a setting -/

theorem spaced_flatten {value : String} (h : (flatten value).toList ≠ []) :
    Spaced (flatten value).toList := by
  rw [flatten_eq, String.toList_ofList] at h ⊢
  exact spaced_stripped (spaced_lineOf value) h

/-- Whatever stands at its ends, a value is on a single line. -/
theorem exists_words_flatten (value : String) :
    ∃ ws, (∀ w ∈ ws, IsWord w.toList) ∧ flatten value = join " " ws := by
  refine ⟨words (flatten value), fun w hw => isWord_of_mem_words hw, ?_⟩
  by_cases hnone : (flatten value).toList = []
  · rw [String.toList_eq_nil_iff.1 hnone]
    rfl
  · exact (join_words (spaced_flatten hnone)).symm

theorem flatten_flatten_iff (value : String) :
    flatten (flatten value) = flatten value ↔ (flatten value).toList.head? ≠ some '"' ∧
      (flatten value).toList.getLast? ≠ some '"' := by
  by_cases hnone : (flatten value).toList = []
  · rw [String.toList_eq_nil_iff.1 hnone]
    simp [flatten_eq, lineOf, words, wordsOf, wordsFrom, join, stripped, stripWhere, trimChars,
      dropEnd]
  · have hspaced := spaced_flatten hnone
    rw [← stripped_eq_self_iff hspaced, flatten_eq (flatten value), lineOf_of_spaced hspaced,
      ← String.toList_inj, String.toList_ofList]

/-- A value is as it is meant exactly if no quote is left at its ends. -/
theorem isFlat_flatten_iff (value : String) :
    IsFlat (flatten value) ↔ (flatten value).toList.head? ≠ some '"' ∧
      (flatten value).toList.getLast? ≠ some '"' := by
  refine ⟨fun h => (flatten_flatten_iff value).1 h.again, fun hends => ?_⟩
  have hspaced : ∀ c, c ∈ (flatten value).toList.head? ∨ c ∈ (flatten value).toList.getLast? →
      Spaced (flatten value).toList := by
    intro c hc
    refine spaced_flatten fun hnil => ?_
    rw [hnil] at hc
    simp at hc
  refine ⟨exists_words_flatten value, fun c hc => ⟨?_, fun hquote => hends.1 (hquote ▸ hc)⟩,
    fun c hc => ⟨?_, fun hquote => hends.2 (hquote ▸ hc)⟩, (flatten_flatten_iff value).2 hends⟩
  · exact (hspaced c (.inl hc)).head_not_blank c hc
  · exact (hspaced c (.inr hc)).last_not_blank c hc

/-- **When a setting of a tool comes out as it is meant.** The setting is a text on a single line.
It begins with a quote exactly if its line begins with quotes, a space and another quote that more
than quotes stand behind, and it ends with one exactly if the line does so from the other side. It
is as it is meant exactly if neither is so; and exactly then it stays as it is when it is flattened
once more. -/
theorem toolSetting_flat_iff {c : Config} {plugin level key raw : String} {default : Option String}
    (found : c.pluginSetting .tool plugin level key default = .ok (some raw)) :
    ∃ value, c.toolSetting plugin level key default = .ok (some value) ∧
      (∃ ws, (∀ w ∈ ws, IsWord w.toList) ∧ value = join " " ws) ∧
      (value.toList.head? = some '"' ↔ BaresQuote (lineOf raw)) ∧
      (value.toList.getLast? = some '"' ↔ BaresQuote (lineOf raw).reverse) ∧
      (IsFlat value ↔ ¬ BaresQuote (lineOf raw) ∧ ¬ BaresQuote (lineOf raw).reverse) ∧
      (flatten value = value ↔ ¬ BaresQuote (lineOf raw) ∧ ¬ BaresQuote (lineOf raw).reverse) := by
  have hhead : (flatten raw).toList.head? = some '"' ↔ BaresQuote (lineOf raw) := by
    rw [flatten_eq, String.toList_ofList]
    exact head_stripped_iff (spaced_lineOf raw)
  have hlast : (flatten raw).toList.getLast? = some '"' ↔ BaresQuote (lineOf raw).reverse := by
    rw [flatten_eq, String.toList_ofList]
    exact last_stripped_iff (spaced_lineOf raw)
  refine ⟨flatten raw, ?_, exists_words_flatten raw, hhead, hlast, ?_, ?_⟩
  · rw [toolSetting, found]
    rfl
  · rw [isFlat_flatten_iff, ne_eq, ne_eq, hhead, hlast]
  · rw [flatten_flatten_iff, ne_eq, ne_eq, hhead, hlast]

theorem pluginSetting_flagged (flags : String) :
    (flagged flags).pluginSetting .tool "pylint" "strict" "flags" none = .ok (some flags) := by
  rw [pluginSetting_none]
  exact settingFrom_own [] (get?_flagged flags) (ownSetting_flaggedLevel flags)

/-- Quotes around two flags are taken off. -/
theorem toolSetting_surroundedFlags :
    (flagged "\"--a   --b\"").pluginSetting .tool "pylint" "strict" "flags" none =
      .ok (some "\"--a   --b\"") ∧
    (flagged "\"--a   --b\"").toolSetting "pylint" "strict" "flags" none = .ok (some "--a --b") ∧
    IsFlat "--a --b" := by
  have found := pluginSetting_flagged "\"--a   --b\""
  obtain ⟨value, hvalue, _, hhead, hlast, hflat, _⟩ := toolSetting_flat_iff found
  have hflags : (flagged "\"--a   --b\"").toolSetting "pylint" "strict" "flags" none =
      .ok (some "--a --b") := by
    rw [toolSetting, found]
    exact congrArg (fun v => Except.ok (some v)) (by decide +kernel)
  cases hvalue.symm.trans hflags
  exact ⟨found, hflags, hflat.2 ⟨fun h => absurd (hhead.2 h) (by decide),
    fun h => absurd (hlast.2 h) (by decide)⟩⟩

/-- A quote stands alone, and a quoted word behind it. The first quote goes, the space behind it
goes, and the quote of the word is left at the head, where another round would take it off. -/
theorem toolSetting_baredQuote :
    (flagged "\" \"a\"").pluginSetting .tool "pylint" "strict" "flags" none =
      .ok (some "\" \"a\"") ∧
    (flagged "\" \"a\"").toolSetting "pylint" "strict" "flags" none = .ok (some "\"a") ∧
    flatten "\"a" = "a" ∧ ¬ IsFlat "\"a" := by
  have found := pluginSetting_flagged "\" \"a\""
  have again : flatten "\"a" = "a" := by decide +kernel
  refine ⟨found, ?_, again, fun h => ?_⟩
  · rw [toolSetting, found]
    exact congrArg (fun v => Except.ok (some v)) (by decide +kernel)
  · exact absurd (again.symm.trans h.again) (by decide)

end Config

end LintScan
