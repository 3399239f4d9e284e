import LintScan.Proofs.Tool.Flags

/-!
# Spellings of words

A word can be written in many ways: in quotes of either kind, character by character behind
backslashes, bare, and in any mixture of these. Whatever the mixture is, the reader gives back the
word.

* `Segment` — a stretch of a word in one style, with the text that it stands for.
* `Spelling` — a word as segments next to one another. A word without characters has one as well,
  since quotes may hold nothing.
* `Line` — words with blanks between them and around them.
* `splitFrom_segment` — the reader takes one segment and has added its text to the current word.
* `splitWords_spelled` — so a line gives back its words, and every list of words has a line.
-/

namespace LintScan

open Text (isBlank)

/-! ## Segments -/

/-- A character that means something between double quotes and is kept by a backslash there. -/
def Quoting.isGuarded (c : Char) : Bool := c == '"' || c == '\\' || c == '$' || c == '\x60'

/-- A character as it is written between double quotes. -/
def Quoting.guard (c : Char) : List Char := if isGuarded c then ['\\', c] else [c]

/-- A stretch of a word that is written in one style. -/
inductive Segment where
  | single (text : List Char) (closed : '\'' ∉ text)
  | double (text : List Char)
  | escaped (c : Char)
  | bare (c : Char) (plain : isQuoting c = false) (solid : isBlank c = false)

namespace Segment

/-- What the segment stands for. -/
def text : Segment → List Char
  | single text _ => text
  | double text => text
  | escaped c => [c]
  | bare c _ _ => [c]

/-- The segment as it is written. -/
def written : Segment → List Char
  | single text _ => '\'' :: (text ++ ['\''])
  | double text => '"' :: (text.flatMap Quoting.guard ++ ['"'])
  | escaped c => ['\\', c]
  | bare c _ _ => [c]

end Segment

variable {word : Option (List Char)} {rest : List Char}

theorem contains_escapable (c : Char) : Quoting.escapable.contains c = Quoting.isGuarded c := by
  simp only [Quoting.escapable, Quoting.isGuarded, List.contains_cons, List.contains_nil,
    Bool.or_false, Bool.or_assoc]

/-- Between single quotes every other character is kept. -/
theorem splitFrom_single {v text : List Char} (h : '\'' ∉ text) :
    splitFrom .single (some v) (text ++ '\'' :: rest) =
      splitFrom .bare (some (v ++ text)) rest := by
  induction text generalizing v with
  | nil => rw [List.nil_append, splitFrom, if_pos rfl, List.append_nil]
  | cons c text ih =>
    obtain ⟨hc, htext⟩ := not_or.1 (mt List.mem_cons.2 h)
    rw [List.cons_append, splitFrom, if_neg (Ne.symm hc), ih htext, Option.getD_some,
      List.append_assoc, List.singleton_append]

theorem splitFrom_guard (v : List Char) (c : Char) :
    splitFrom .double (some v) (Quoting.guard c ++ rest) =
      splitFrom .double (some (v ++ [c])) rest := by
  unfold Quoting.guard
  cases hc : Quoting.isGuarded c with
  | true =>
    rw [if_pos rfl]
    show splitFrom .double (some v) ('\\' :: c :: rest) = _
    rw [splitFrom, contains_escapable, hc, if_pos rfl, Option.getD_some]
  | false =>
    -- neither the closing quote nor a backslash
    have hquote : c ≠ '"' := by rintro rfl; exact absurd hc (by decide)
    have hback : c ≠ '\\' := by rintro rfl; exact absurd hc (by decide)
    rw [if_neg Bool.false_ne_true, List.singleton_append,
      splitFrom.eq_5 _ _ _ hquote fun _ _ h => absurd h hback, Option.getD_some]

/-- Between double quotes every guarded text is kept. -/
theorem splitFrom_double (v text : List Char) :
    splitFrom .double (some v) (text.flatMap Quoting.guard ++ '"' :: rest) =
      splitFrom .bare (some (v ++ text)) rest := by
  induction text generalizing v with
  | nil => rw [List.flatMap_nil, List.nil_append, splitFrom, List.append_nil]
  | cons c text ih =>
    rw [List.flatMap_cons, List.append_assoc, splitFrom_guard, ih, List.append_assoc,
      List.singleton_append]

theorem splitFrom_openingSingle :
    splitFrom .bare word ('\'' :: rest) = splitFrom .single (some (word.getD [])) rest := by
  rw [splitFrom.eq_7 _ _ _ fun _ _ h => absurd h (by decide), if_pos rfl]

/-- A segment adds its text to the current word. It begins one even if it has no characters. -/
theorem splitFrom_segment (s : Segment) :
    splitFrom .bare word (s.written ++ rest) =
      splitFrom .bare (some (word.getD [] ++ s.text)) rest := by
  cases s with
  | single text closed =>
    rw [Segment.written, List.cons_append, List.append_assoc, List.singleton_append,
      splitFrom_openingSingle, splitFrom_single closed, Segment.text]
  | double text =>
    rw [Segment.written, List.cons_append, List.append_assoc, List.singleton_append,
      splitFrom_opening, splitFrom_double, Segment.text]
  | escaped c =>
    show splitFrom .bare word ('\\' :: c :: rest) = _
    rw [splitFrom, Segment.text]
  | bare c plain solid =>
    rw [Segment.written, List.singleton_append, splitFrom_char plain solid, Segment.text]

/-! ## Words -/

/-- A word as segments next to one another, at least one. -/
structure Spelling where
  segments : List Segment
  ne_nil : segments ≠ []

namespace Spelling

/-- The word. -/
def text (s : Spelling) : List Char := s.segments.flatMap Segment.text

/-- The word as it is written. -/
def written (s : Spelling) : List Char := s.segments.flatMap Segment.written

/-- The word in double quotes. -/
def inQuotes (text : List Char) : Spelling := ⟨[.double text], List.cons_ne_nil _ _⟩

theorem text_inQuotes (text : List Char) : (inQuotes text).text = text := by
  simp [inQuotes, Spelling.text, Segment.text]

end Spelling

theorem splitFrom_segments (v : List Char) (segments : List Segment) :
    splitFrom .bare (some v) (segments.flatMap Segment.written ++ rest) =
      splitFrom .bare (some (v ++ segments.flatMap Segment.text)) rest := by
  induction segments generalizing v with
  | nil => rw [List.flatMap_nil, List.nil_append, List.flatMap_nil, List.append_nil]
  | cons s segments ih =>
    rw [List.flatMap_cons, List.append_assoc, splitFrom_segment, ih, List.flatMap_cons,
      Option.getD_some, List.append_assoc]

theorem splitFrom_spelling (s : Spelling) :
    splitFrom .bare none (s.written ++ rest) = splitFrom .bare (some s.text) rest := by
  obtain ⟨segments, ne_nil⟩ := s
  obtain ⟨first, more, rfl⟩ := List.exists_cons_of_ne_nil ne_nil
  rw [Spelling.written, List.flatMap_cons, List.append_assoc, splitFrom_segment,
    splitFrom_segments, Spelling.text, List.flatMap_cons, Option.getD_none, List.nil_append]

/-! ## Lines -/

/-- Characters of blank space. -/
abbrev Blanks := { cs : List Char // ∀ c ∈ cs, isBlank c = true }

/-- Words, each with the blanks behind it, and the blanks in front of them all. Only behind the last
word there may be none. -/
structure Line where
  lead : Blanks
  spellings : List (Spelling × Blanks)
  separated : ∀ s ∈ spellings.dropLast, s.2.1 ≠ []

namespace Line

/-- The words of the line. -/
def words (l : Line) : List String := l.spellings.map fun s => String.ofList s.1.text

/-- The line as it is written. -/
def written (l : Line) : String :=
  String.ofList (l.lead.1 ++ l.spellings.flatMap fun s => s.1.written ++ s.2.1)

/-- A line of words in double quotes, with a space behind each. -/
def inQuotes (words : List String) : Line where
  lead := ⟨[], fun _ h => nomatch h⟩
  spellings := words.map fun w =>
    (.inQuotes w.toList, ⟨[' '], fun _ h => by rw [List.mem_singleton.1 h]; decide⟩)
  separated := by
    intro s hs
    obtain ⟨w, _, rfl⟩ := List.mem_map.1 (List.dropLast_subset _ hs)
    exact List.cons_ne_nil _ _

theorem words_inQuotes (words : List String) : (inQuotes words).words = words := by
  simp [inQuotes, Line.words, Spelling.text_inQuotes, Function.comp_def]

end Line

theorem isQuoting_of_isBlank {c : Char} (h : isBlank c = true) : isQuoting c = false := by
  rw [isQuoting_eq_false_iff]
  refine ⟨?_, ?_, ?_⟩ <;> rintro rfl <;> exact absurd h (by decide)

theorem splitFrom_blanks (blanks : Blanks) :
    splitFrom .bare none (blanks.1 ++ rest) = splitFrom .bare none rest := by
  obtain ⟨cs, blank⟩ := blanks
  induction cs with
  | nil => rfl
  | cons c cs ih =>
    have hc := blank c List.mem_cons_self
    rw [List.cons_append, splitFrom_blank (isQuoting_of_isBlank hc) hc]
    exact ih fun d hd => blank d (List.mem_cons_of_mem c hd)

/-- Blanks end the current word. -/
theorem splitFrom_ended (v : List Char) {blanks : Blanks} (h : blanks.1 ≠ []) :
    splitFrom .bare (some v) (blanks.1 ++ rest) = v :: splitFrom .bare none rest := by
  obtain ⟨cs, blank⟩ := blanks
  obtain ⟨c, cs, rfl⟩ := List.exists_cons_of_ne_nil h
  have hc := blank c List.mem_cons_self
  have hcs : splitFrom .bare none (cs ++ rest) = splitFrom .bare none rest :=
    splitFrom_blanks ⟨cs, fun d hd => blank d (List.mem_cons_of_mem c hd)⟩
  rw [List.cons_append, splitFrom_blank (isQuoting_of_isBlank hc) hc, hcs]
  rfl

/-- The spellings of a line are read back one by one. -/
theorem splitFrom_spellings {spellings : List (Spelling × Blanks)}
    (separated : ∀ s ∈ spellings.dropLast, s.2.1 ≠ []) :
    splitFrom .bare none (spellings.flatMap fun s => s.1.written ++ s.2.1) =
      spellings.map (·.1.text) := by
  induction spellings with
  | nil => rw [List.flatMap_nil, splitFrom_nil, List.map_nil, Option.toList_none]
  | cons s spellings ih =>
    rw [List.flatMap_cons, List.append_assoc, splitFrom_spelling, List.map_cons]
    by_cases hblanks : s.2.1 = []
    · -- only the last word has no blanks behind it
      have hlast : spellings = [] := by
        by_contra hmore
        rw [List.dropLast_cons_of_ne_nil hmore] at separated
        exact separated s List.mem_cons_self hblanks
      rw [hblanks, hlast, List.flatMap_nil, List.nil_append, splitFrom_nil, List.map_nil,
        Option.toList_some]
    · rw [splitFrom_ended _ hblanks, ih]
      intro t ht
      cases spellings with
      | nil => cases ht
      | cons u us =>
        rw [List.dropLast_cons_of_ne_nil (List.cons_ne_nil u us)] at separated
        exact separated t (List.mem_cons_of_mem s ht)

/-- **Words are read back from every spelling.** However words are written and separated on a line,
the line gives back just these words, those without characters among them; and every list of words
can be written. -/
theorem splitWords_spelled :
    (∀ l : Line, splitWords l.written = l.words) ∧
    ∀ words : List String, ∃ l : Line, l.words = words := by
  refine ⟨fun l => ?_, fun words => ⟨Line.inQuotes words, Line.words_inQuotes words⟩⟩
  rw [splitWords, Line.written, String.toList_ofList, splitFrom_blanks,
    splitFrom_spellings l.separated, List.map_map]
  rfl

/-- All four styles in one word, and a word of empty quotes. -/
example : splitWords " --m='a b'\"\\$c\"\\ d\t''" = ["--m=a b$c d", ""] := by decide +kernel

end LintScan
