import LintScan.Proofs.Config.Setting
import LintScan.Proofs.Text.Stripped
import LintScan.Tool.Flags

/-!
# What a tool is given as flags

The flags of a tool are found as one text, put on a single line, and cut into words as a shell does
it. The line loses the double quotes at its two ends, which may be those around a word.

* `splitFrom_blank`, `splitFrom_char`, `splitFrom_quoted` — the steps of the reader of words.
* `splitWords_eq_words` — without quotes and backslashes the words are those between blanks.
* `WrittenFlag` — a flag as it is written on a line: bare, or in double quotes.
* `splitFrom_front` — the reader gives back the flags in front of any text.
* `userFlags_eq` — the three steps from the setting to the flags.
* `userFlags_written` — a line that begins with a bare flag gives back its flags; the quotes of a
  line that is a single quoted flag are taken off. `userFlags_surroundedFlags` is such a line.
-/

namespace LintScan

open Text (isBlank Spaced IsWord)

/-! ## The reader of words -/

/-- Quotes and the backslash, which do not stand for themselves. -/
def isQuoting (c : Char) : Bool := c == '"' || c == '\'' || c == '\\'

theorem isQuoting_eq_false_iff {c : Char} :
    isQuoting c = false ↔ c ≠ '"' ∧ c ≠ '\'' ∧ c ≠ '\\' := by
  simp [isQuoting, and_assoc]

variable {word : Option (List Char)} {c : Char} {rest : List Char}

theorem splitFrom_nil (quoting : Quoting) (word : Option (List Char)) :
    splitFrom quoting word [] = word.toList := by
  rw [splitFrom]

theorem splitFrom_blank (hq : isQuoting c = false) (hc : isBlank c = true) :
    splitFrom .bare word (c :: rest) = word.toList ++ splitFrom .bare none rest := by
  obtain ⟨hdouble, hsingle, hback⟩ := isQuoting_eq_false_iff.1 hq
  rw [splitFrom.eq_7 _ _ _ fun _ _ h => absurd h hback, if_neg hsingle, if_neg hdouble,
    if_neg hback, if_pos hc]

theorem splitFrom_char (hq : isQuoting c = false) (hc : isBlank c = false) :
    splitFrom .bare word (c :: rest) = splitFrom .bare (some (word.getD [] ++ [c])) rest := by
  obtain ⟨hdouble, hsingle, hback⟩ := isQuoting_eq_false_iff.1 hq
  rw [splitFrom.eq_7 _ _ _ fun _ _ h => absurd h hback, if_neg hsingle, if_neg hdouble,
    if_neg hback, if_neg (by rw [hc]; exact Bool.false_ne_true)]

theorem splitFrom_chars {v : List Char} (hv : v ≠ [])
    (h : ∀ c ∈ v, isQuoting c = false ∧ isBlank c = false) :
    splitFrom .bare word (v ++ rest) = splitFrom .bare (some (word.getD [] ++ v)) rest := by
  induction v generalizing word with
  | nil => exact absurd rfl hv
  | cons c v ih =>
    obtain ⟨hq, hc⟩ := h c List.mem_cons_self
    rw [List.cons_append, splitFrom_char hq hc]
    by_cases hne : v = []
    · rw [hne, List.nil_append]
    · rw [ih hne fun d hd => h d (List.mem_cons_of_mem c hd), Option.getD_some, List.append_assoc,
        List.singleton_append]

theorem splitFrom_opening :
    splitFrom .bare word ('"' :: rest) = splitFrom .double (some (word.getD [])) rest := by
  rw [splitFrom.eq_7 _ _ _ fun _ _ h => absurd h (by decide), if_neg (by decide), if_pos rfl]

theorem splitFrom_quoted {v text : List Char} (h : ∀ c ∈ text, isQuoting c = false) :
    splitFrom .double (some v) (text ++ rest) = splitFrom .double (some (v ++ text)) rest := by
  induction text generalizing v with
  | nil => rw [List.nil_append, List.append_nil]
  | cons c text ih =>
    obtain ⟨hdouble, _, hback⟩ := isQuoting_eq_false_iff.1 (h c List.mem_cons_self)
    rw [List.cons_append, splitFrom.eq_5 _ _ _ hdouble fun _ _ h => absurd h hback,
      ih fun d hd => h d (List.mem_cons_of_mem c hd), Option.getD_some, List.append_assoc,
      List.singleton_append]

/-- Without quotes and backslashes the words are those between blanks. -/
theorem splitFrom_eq_wordsFrom {cs : List Char} (h : ∀ c ∈ cs, isQuoting c = false)
    (hword : ∀ v ∈ word, v ≠ []) :
    splitFrom .bare word cs = Text.wordsFrom (word.getD []) cs := by
  have hended : word.toList = Text.ended (word.getD []) := by
    cases word with
    | none => rfl
    | some v => rw [Option.getD_some, Text.ended_of_ne (hword v rfl), Option.toList_some]
  induction cs generalizing word with
  | nil => rw [splitFrom_nil, Text.wordsFrom_nil, hended]
  | cons c cs ih =>
    have hq := h c List.mem_cons_self
    have hcs : ∀ d ∈ cs, isQuoting d = false := fun d hd => h d (List.mem_cons_of_mem c hd)
    cases hc : isBlank c with
    | true =>
      rw [splitFrom_blank hq hc, Text.wordsFrom_blank hc, hended,
        ih hcs (fun _ hv => by cases hv) rfl, Option.getD_none]
    | false =>
      have hne : word.getD [] ++ [c] ≠ [] := by simp
      rw [splitFrom_char hq hc, Text.wordsFrom_char hc, ih hcs (fun _ hv => by cases hv; exact hne)
        (by rw [Option.getD_some, Text.ended_of_ne hne, Option.toList_some]), Option.getD_some]

theorem splitWords_eq_words {s : String} (h : ∀ c ∈ s.toList, isQuoting c = false) :
    splitWords s = Text.words s := by
  rw [splitWords, splitFrom_eq_wordsFrom h fun _ hv => by cases hv]
  rfl

/-! ## Flags on a line -/

/-- A flag as it is written on a line. Bare flags have no quotes, backslashes or blanks, and flags
in double quotes have no quotes, backslashes or dollar signs, and blanks only as single spaces
between other characters. -/
inductive WrittenFlag where
  | bare (flag : String) (word : IsWord flag.toList)
      (plain : ∀ c ∈ flag.toList, isQuoting c = false)
  | quoted (flag : String) (spaced : Spaced flag.toList)
      (plain : ∀ c ∈ flag.toList, isQuoting c = false ∧ c ≠ '$')

namespace WrittenFlag

/-- The flag. -/
def flag : WrittenFlag → String
  | bare flag _ _ => flag
  | quoted flag _ _ => flag

/-- The flag as it is written. -/
def written : WrittenFlag → String
  | bare flag _ _ => flag
  | quoted flag _ _ => "\"" ++ flag ++ "\""

/-- Whether the flag stands in double quotes. -/
def isQuoted : WrittenFlag → Bool
  | bare .. => false
  | quoted .. => true

/-- The flags written behind one another with a space between two of them. -/
def line (ws : List WrittenFlag) : String := Text.join " " (ws.map written)

theorem toList_written_quoted (flag : String) (spaced) (plain) :
    (quoted flag spaced plain).written.toList = '"' :: (flag.toList ++ ['"']) := by
  rw [written, String.toList_append, String.toList_append]
  rfl

theorem spaced_written (w : WrittenFlag) : Spaced w.written.toList := by
  have hquote : isBlank '"' = false := by decide
  cases w with
  | bare flag word plain => exact word.spaced
  | quoted flag spaced plain =>
    rw [toList_written_quoted]
    exact .char hquote (spaced.snoc hquote)

theorem splitFrom_written (w : WrittenFlag) (rest : List Char) :
    splitFrom .bare none (w.written.toList ++ rest) =
      splitFrom .bare (some w.flag.toList) rest := by
  cases w with
  | bare flag word plain =>
    exact splitFrom_chars word.1 fun c hc => ⟨plain c hc, word.2 c hc⟩
  | quoted flag spaced plain =>
    rw [toList_written_quoted, List.cons_append, splitFrom_opening, List.append_assoc,
      splitFrom_quoted fun c hc => (plain c hc).1, List.singleton_append, splitFrom]
    rfl

theorem splitFrom_written_self (w : WrittenFlag) :
    splitFrom .bare none w.written.toList = [w.flag.toList] := by
  have h := splitFrom_written w []
  rwa [List.append_nil, splitFrom_nil, Option.toList_some] at h

/-! ### Flags on one line -/

/-- What is written with some flags in front of another one. -/
def front (ws : List WrittenFlag) : List Char := ws.flatMap fun w => w.written.toList ++ [' ']

theorem front_cons (w : WrittenFlag) (ws : List WrittenFlag) :
    front (w :: ws) = w.written.toList ++ ' ' :: front ws := by
  rw [front, List.flatMap_cons, List.append_assoc, ← front, List.singleton_append]

theorem toList_line_concat (init : List WrittenFlag) (last : WrittenFlag) :
    (line (init ++ [last])).toList = front init ++ last.written.toList := by
  induction init with
  | nil => rfl
  | cons w init ih =>
    obtain ⟨v, vs, hrest⟩ := List.exists_cons_of_ne_nil (show init ++ [last] ≠ [] by simp)
    have hline : (line (w :: v :: vs)).toList =
        w.written.toList ++ ' ' :: (line (v :: vs)).toList := Text.toList_join_cons_cons _ _ _
    rw [List.cons_append, hrest, hline, ← hrest, ih, front_cons, List.append_assoc,
      List.cons_append]

theorem spaced_front {init : List WrittenFlag} {cs : List Char} (h : Spaced cs) :
    Spaced (front init ++ cs) := by
  induction init with
  | nil => exact h
  | cons w init ih =>
    rw [front_cons, List.append_assoc, List.cons_append]
    exact w.spaced_written.append ih

/-- The flags in front of a text are read back, whatever the text is. -/
theorem splitFrom_front (init : List WrittenFlag) (cs : List Char) :
    splitFrom .bare none (front init ++ cs) =
      init.map (·.flag.toList) ++ splitFrom .bare none cs := by
  have hspace : isBlank ' ' = true := by decide
  induction init with
  | nil => rfl
  | cons w init ih =>
    rw [front_cons, List.append_assoc, List.cons_append, splitFrom_written,
      splitFrom_blank (by decide) hspace, ih]
    rfl

theorem splitWords_line (ws : List WrittenFlag) : splitWords (line ws) = ws.map flag := by
  rcases List.eq_nil_or_concat ws with rfl | ⟨init, last, rfl⟩
  · rfl
  · rw [List.concat_eq_append, splitWords, toList_line_concat, splitFrom_front,
      splitFrom_written_self]
    simp [Function.comp_def]

/-! ### A line without the quotes at its end -/

/-- The flag as it is written, but for a quote at the end. -/
def unclosed : WrittenFlag → List Char
  | bare flag _ _ => flag.toList
  | quoted flag _ _ => '"' :: flag.toList

theorem not_quote {flag : String} (plain : ∀ c ∈ flag.toList, isQuoting c = false) :
    ∀ c ∈ flag.toList, (c == '"') = false := by
  intro c hc
  simpa using (isQuoting_eq_false_iff.1 (plain c hc)).1

theorem dropEnd_written (w : WrittenFlag) :
    Text.dropEnd (· == '"') w.written.toList = w.unclosed := by
  cases w with
  | bare flag word plain =>
    exact Text.dropEnd_of_last fun c hc => not_quote plain c (List.mem_of_mem_getLast? hc)
  | quoted flag spaced plain =>
    have hplain := not_quote fun c hc => (plain c hc).1
    have hlast : ∀ c ∈ ('"' :: flag.toList).getLast?, (c == '"') = false := by
      obtain ⟨c, cs, hflag⟩ := List.exists_cons_of_ne_nil spaced.ne_nil
      rw [hflag, List.getLast?_cons_cons, ← hflag]
      exact fun d hd => hplain d (List.mem_of_mem_getLast? hd)
    rw [toList_written_quoted, unclosed, ← List.cons_append]
    exact Text.dropEnd_snoc rfl hlast

theorem spaced_unclosed (w : WrittenFlag) : Spaced w.unclosed := by
  have hquote : isBlank '"' = false := by decide
  cases w with
  | bare flag word plain => exact word.spaced
  | quoted flag spaced plain => exact .char hquote spaced

/-- A quote that is not closed ends with the text, so the last one is not missed. -/
theorem splitFrom_unclosed (w : WrittenFlag) :
    splitFrom .bare none w.unclosed = [w.flag.toList] := by
  cases w with
  | bare flag word plain => exact splitFrom_written_self (.bare flag word plain)
  | quoted flag spaced plain =>
    have hread : splitFrom .double (some []) (flag.toList ++ []) =
        splitFrom .double (some ([] ++ flag.toList)) [] :=
      splitFrom_quoted fun c hc => (plain c hc).1
    rw [List.append_nil, List.nil_append, splitFrom_nil] at hread
    rw [unclosed, splitFrom_opening]
    exact hread

theorem exists_toList_line_cons (w : WrittenFlag) (ws : List WrittenFlag) :
    ∃ rest, (line (w :: ws)).toList = w.written.toList ++ rest := by
  cases ws with
  | nil => exact ⟨[], (List.append_nil _).symm⟩
  | cons v vs => exact ⟨_, Text.toList_join_cons_cons _ _ _⟩

/-- The first character of a line that begins with a bare flag is no quote. -/
theorem head_line {ws : List WrittenFlag} (h : ∀ w ∈ ws.head?, w.isQuoted = false) :
    ∀ c ∈ (line ws).toList.head?, (c == '"') = false := by
  intro c hc
  cases ws with
  | nil => cases hc
  | cons w ws =>
    obtain ⟨rest, hline⟩ := exists_toList_line_cons w ws
    rw [hline] at hc
    cases w with
    | quoted flag spaced plain => cases h _ rfl
    | bare flag word plain =>
      apply not_quote plain
      rw [written, List.head?_append_of_ne_nil _ word.1] at hc
      exact List.mem_of_mem_head? hc

theorem flatten_line {init : List WrittenFlag} {last : WrittenFlag}
    (h : ∀ w ∈ (init ++ [last]).head?, w.isQuoted = false) :
    (Config.flatten (line (init ++ [last]))).toList = front init ++ last.unclosed := by
  have hspaced : Spaced (line (init ++ [last])).toList := by
    rw [toList_line_concat]
    exact spaced_front last.spaced_written
  have hdrop : Text.dropEnd (· == '"') last.written.toList ≠ [] := by
    rw [dropEnd_written]
    exact last.spaced_unclosed.ne_nil
  rw [Config.flatten, String.toList_ofList, Text.join_words hspaced, Text.stripWhere,
    Text.dropWhile_of_head (head_line h), toList_line_concat, Text.dropEnd_append hdrop,
    dropEnd_written, Text.trimChars_of_spaced (spaced_front last.spaced_unclosed)]

/-- The quotes of a single flag are taken off as those around the whole line. -/
theorem flatten_quoted {flag : String} {spaced : Spaced flag.toList}
    {plain : ∀ c ∈ flag.toList, isQuoting c = false ∧ c ≠ '$'} :
    Config.flatten (line [quoted flag spaced plain]) = flag := by
  have hwritten := (quoted flag spaced plain).spaced_written
  have hplain := not_quote fun c hc => (plain c hc).1
  have hquotes : Text.stripWhere (· == '"') (quoted flag spaced plain).written.toList =
      flag.toList := by
    rw [toList_written_quoted]
    show Text.stripWhere (· == '"') (['"'] ++ flag.toList ++ ['"']) = _
    exact Text.stripWhere_surrounded (by simp) (by simp)
      (fun c hc => hplain c (List.mem_of_mem_head? hc))
      fun c hc => hplain c (List.mem_of_mem_getLast? hc)
  rw [Config.flatten, line, List.map_singleton, Text.join, Text.join_words hwritten, hquotes,
    Text.trimChars_of_spaced spaced, String.ofList_toList]

end WrittenFlag

/-! ## From the setting to the flags -/

theorem userFlags_eq (c : Config) (tool level : String) :
    c.userFlags tool level = (c.pluginSetting .tool tool level "flags" none).map
      fun found => splitWords (Config.flatten (found.getD "")) := by
  unfold Config.userFlags Config.toolSetting
  cases c.pluginSetting .tool tool level "flags" none with
  | error e => rfl
  | ok found => cases found <;> rfl

theorem userFlags_own {c : Config} {tool level s : String} {l : Level}
    (hl : c.levels.get? level = some l)
    (hown : Config.ownSetting l .tool tool "flags" = some s) :
    c.userFlags tool level = .ok (splitWords (Config.flatten s)) := by
  rw [userFlags_eq, Config.pluginSetting_none, Config.settingFrom_own [] hl hown]
  rfl

open WrittenFlag (flag line)

/-- **What a level gives a tool as flags.** A line of flags is read back as these flags. A level
that has the line as its own setting gives them to the tool if the line begins with a bare flag.
Where the line is a single flag in double quotes, they count as the quotes around the setting: they
are taken off, and the tool is given the words between them. -/
theorem userFlags_written {c : Config} {tool level : String} {l : Level} {ws : List WrittenFlag}
    (hl : c.levels.get? level = some l)
    (hown : Config.ownSetting l .tool tool "flags" = some (line ws)) :
    splitWords (line ws) = ws.map flag ∧
    ((∀ w ∈ ws.head?, w.isQuoted = false) → c.userFlags tool level = .ok (ws.map flag)) ∧
    (∀ w, ws = [w] → w.isQuoted = true → c.userFlags tool level = .ok (Text.words w.flag)) := by
  rw [userFlags_own hl hown]
  refine ⟨WrittenFlag.splitWords_line ws, ?_, ?_⟩
  · intro hbare
    rcases List.eq_nil_or_concat ws with rfl | ⟨init, last, rfl⟩
    · rfl
    · rw [List.concat_eq_append] at hbare ⊢
      rw [splitWords, WrittenFlag.flatten_line hbare, WrittenFlag.splitFrom_front,
        WrittenFlag.splitFrom_unclosed]
      simp [Function.comp_def]
  · rintro w rfl hquoted
    cases w with
    | bare flag word plain => cases hquoted
    | quoted flag spaced plain =>
      rw [WrittenFlag.flatten_quoted, splitWords_eq_words fun c hc => (plain c hc).1]
      rfl

/-- A level that gives a tool its flags. -/
def flaggedLevel (flags : String) : Level :=
  { tool := some (.ofList [("pylint", some (.ofList [("flags", .string flags)]))]) }

/-- A configuration with this level only. -/
def flagged (flags : String) : Config :=
  { levels := .ofList [("strict", flaggedLevel flags)] }

theorem get?_flagged (flags : String) :
    (flagged flags).levels.get? "strict" = some (flaggedLevel flags) := rfl

theorem ownSetting_flaggedLevel (flags : String) :
    Config.ownSetting (flaggedLevel flags) .tool "pylint" "flags" = some flags := rfl

/-- A bare flag with a quoted one behind it. -/
def messageFlags : List WrittenFlag :=
  [.bare "--msg" ⟨by simp, by simp [isBlank]⟩ (by simp [isQuoting]),
    .quoted "a b" (.space (by decide) (.last (by decide))) (by simp [isQuoting])]

/-- Quotes at the end of the line belong to the last flag. -/
theorem userFlags_messageFlags :
    Config.ownSetting (flaggedLevel "--msg \"a b\"") .tool "pylint" "flags" =
      some (line messageFlags) ∧
    (flagged "--msg \"a b\"").userFlags "pylint" "strict" = .ok ["--msg", "a b"] := by
  have hline : line messageFlags = "--msg \"a b\"" := by decide +kernel
  have hown : Config.ownSetting (flaggedLevel "--msg \"a b\"") .tool "pylint" "flags" =
      some (line messageFlags) := by
    rw [ownSetting_flaggedLevel, hline]
  have hbare : ∀ w ∈ messageFlags.head?, w.isQuoted = false := by
    rintro w ⟨⟩
    rfl
  exact ⟨hown, (userFlags_written (get?_flagged _) hown).2.1 hbare⟩

/-- A single flag in quotes. -/
def surroundedFlags : List WrittenFlag :=
  [.quoted "a b" (.space (by decide) (.last (by decide))) (by simp [isQuoting])]

/-- A line that is one quoted flag loses its quotes, and the flag falls apart. So does a quoted flag
at the head of a longer line, where the quote that is left over opens a flag of its own. -/
theorem userFlags_surroundedFlags :
    Config.ownSetting (flaggedLevel "\"a b\"") .tool "pylint" "flags" =
      some (line surroundedFlags) ∧
    surroundedFlags.map flag = ["a b"] ∧ splitWords "\"a b\"" = ["a b"] ∧
    (flagged "\"a b\"").userFlags "pylint" "strict" = .ok ["a", "b"] ∧
    splitWords "\"a b\" c" = ["a b", "c"] ∧
    (flagged "\"a b\" c").userFlags "pylint" "strict" = .ok ["a", "b c"] := by
  have hline : line surroundedFlags = "\"a b\"" := by decide +kernel
  refine ⟨?_, rfl, by decide +kernel, ?_, by decide +kernel, ?_⟩
  · rw [ownSetting_flaggedLevel, hline]
  · rw [userFlags_own (get?_flagged _) (ownSetting_flaggedLevel _)]
    decide +kernel
  · rw [userFlags_own (get?_flagged _) (ownSetting_flaggedLevel _)]
    decide +kernel

end LintScan
