import LintScan.Proofs.Session
import LintScan.Proofs.Text.Pieces
import LintScan.Proofs.Text.Words
import LintScan.Proofs.Tool.Lines
import LintScan.Tool.Builtin

/-!
# The findings of the style checker

The style checker prints each finding on a line that a template makes of it. The form that takes
such a line apart has a path and a message that may hold any characters, so a finding is read back
only if nothing behind its path looks like the part behind a path.

* `PylintRecord.toList_text` — the line that the template makes.
* `walkAll_numberParts`, `beginsHead_of_walkAll` — what stands behind the path is taken as it was
  written, and the form goes on only in front of such a text.
* `PylintFinding.issueOf?_text` — so a finding is read back from its line.
* `ToolPlugin.pylint_issuesOf` — an output has the issues of its findings, in order.
-/

namespace LintScan

open Regex

/-! ## Findings on lines -/

/-- A template with the names between braces replaced, where `name?` is the part of a name that is
already read. -/
def filled (value : String → String) : (name? : Option (List Char)) → List Char → List Char
  | _, [] => []
  | none, c :: cs => if c = '\x7b' then filled value (some []) cs else c :: filled value none cs
  | some name, c :: cs =>
    if c = '\x7d' then (value (String.ofList name)).toList ++ filled value none cs
    else filled value (some (name ++ [c])) cs

theorem filled_nil (value : String → String) (name? : Option (List Char)) :
    filled value name? [] = [] := by
  cases name? <;> rfl

theorem filled_char (value : String → String) {c : Char} (hc : c ≠ '\x7b') (cs : List Char) :
    filled value none (c :: cs) = c :: filled value none cs := by
  rw [filled, if_neg hc]

theorem filled_rest (value : String → String) {name : List Char} (h : '\x7d' ∉ name)
    (start cs : List Char) :
    filled value (some start) (name ++ '\x7d' :: cs) =
      (value (String.ofList (start ++ name))).toList ++ filled value none cs := by
  induction name generalizing start with
  | nil => rw [List.nil_append, List.append_nil, filled, if_pos rfl]
  | cons c name ih =>
    obtain ⟨hc, hname⟩ := not_or.1 (List.mem_cons.not.1 h)
    rw [List.cons_append, filled, if_neg (Ne.symm hc), ih hname, List.append_assoc,
      List.singleton_append]

theorem filled_name (value : String → String) {name : String} (h : '\x7d' ∉ name.toList)
    (cs : List Char) :
    filled value none ('\x7b' :: (name.toList ++ '\x7d' :: cs)) =
      (value name).toList ++ filled value none cs := by
  rw [filled, if_pos rfl, filled_rest value h, List.nil_append, String.ofList_toList]

/-- What a finding of the style checker says. -/
structure PylintRecord where
  path : String
  line : Nat
  id : String
  symbol : String
  object : String
  message : String
  deriving Repr, DecidableEq

namespace PylintRecord

/-- What a name stands for in a template. -/
def field (r : PylintRecord) (name : String) : String :=
  if name = "abspath" then r.path
  else if name = "line" then toString r.line
  else if name = "msg_id" then r.id
  else if name = "symbol" then r.symbol
  else if name = "obj" then r.object
  else if name = "msg" then r.message
  else ""

/-- The line that the template makes of a finding. -/
def text (r : PylintRecord) : String :=
  let template := ToolPlugin.pylintTemplate.toList.drop "--msg-template=".length
  String.ofList (filled r.field none template)

/-- The warning with its symbol. -/
def kind (r : PylintRecord) : String := r.id ++ "(" ++ r.symbol ++ ")"

/-- What stands between the brackets. -/
def head (r : PylintRecord) : List Char := r.kind.toList ++ ',' :: ' ' :: r.object.toList

/-- What stands behind the bracket that opens. -/
def body (r : PylintRecord) : List Char := r.head ++ ']' :: ' ' :: r.message.toList

theorem toList_text (r : PylintRecord) : r.text.toList =
    r.path.toList ++ ':' :: (Nat.toDigits 10 r.line ++ ':' :: ' ' :: '[' :: r.body) := by
  have htemplate : ToolPlugin.pylintTemplate.toList.drop "--msg-template=".length =
      '\x7b' :: ("abspath".toList ++ '\x7d' :: ':' :: '\x7b' :: ("line".toList ++ '\x7d' :: ':' ::
        ' ' :: '[' :: '\x7b' :: ("msg_id".toList ++ '\x7d' :: '(' :: '\x7b' :: ("symbol".toList ++
        '\x7d' :: ')' :: ',' :: ' ' :: '\x7b' :: ("obj".toList ++ '\x7d' :: ']' :: ' ' ::
        '\x7b' :: ("msg".toList ++ '\x7d' :: [])))))) := rfl
  rw [text, htemplate, String.toList_ofList]
  simp (disch := decide) only [filled_name, filled_char, filled_nil]
  simp [field, body, head, kind]

theorem notMem_head (r : PylintRecord) {c : Char} (hid : c ∉ r.id.toList)
    (hsymbol : c ∉ r.symbol.toList) (hobject : c ∉ r.object.toList)
    (hsign : c ≠ '(' ∧ c ≠ ')' ∧ c ≠ ',' ∧ c ≠ ' ') : c ∉ r.head := by
  simp [head, kind, hid, hsymbol, hobject, hsign]

/-- The issue that a finding is. A blank object is left out of the message. -/
def issue (references : Mapping) (r : PylintRecord) : Issue where
  filename := r.path
  lineNumber := r.line
  tool := "pylint"
  issueType := r.kind
  severity := 5
  message := if Text.isBlankText r.object then r.message
    else Text.trim r.object ++ ": " ++ r.message
  certReference := references.get? r.id

end PylintRecord

/-- A text begins like the part of a finding behind its path: a number between colons, a blank and
a bracket. -/
def BeginsHead (cs : List Char) : Prop :=
  ∃ number blank rest, number ≠ [] ∧ (∀ d ∈ number, CharSet.digit.has d = true) ∧
    Text.isBlank blank = true ∧ cs = ':' :: (number ++ ':' :: blank :: '[' :: rest)

/-- A finding that can be told from the line it is written on. Its texts have no line feed, and no
text behind the path begins like the part behind a path. -/
structure PylintFinding extends PylintRecord where
  path_ne : path ≠ ""
  message_ne : message ≠ ""
  line_lt : line < Decimal.valuesOf 63
  id_plain : '(' ∉ id.toList ∧ ',' ∉ id.toList ∧ ']' ∉ id.toList
  symbol_plain : ',' ∉ symbol.toList ∧ ']' ∉ symbol.toList
  object_plain : ']' ∉ object.toList
  oneLine : ∀ s ∈ [path, id, symbol, object, message], '\n' ∉ s.toList
  noHead : ∀ rest, rest <:+ toPylintRecord.body → ¬ BeginsHead rest

namespace PylintFinding

variable (f : PylintFinding)

theorem comma_notMem_kind : ',' ∉ f.kind.toList := by
  intro h
  simp only [PylintRecord.kind, String.toList_append, List.mem_append] at h
  rcases h with ((h | h) | h) | h
  · exact f.id_plain.2.1 h
  · exact absurd h (by decide)
  · exact f.symbol_plain.1 h
  · exact absurd h (by decide)

theorem bracket_notMem_head : ']' ∉ f.head :=
  f.notMem_head f.id_plain.2.2 f.symbol_plain.2 f.object_plain (by decide)

theorem feed_notMem_path : '\n' ∉ f.path.toList :=
  f.oneLine f.path (by simp)

theorem feed_notMem_message : '\n' ∉ f.message.toList :=
  f.oneLine f.message (by simp)

theorem feed_notMem_head : '\n' ∉ f.head :=
  f.notMem_head (f.oneLine f.id (by simp)) (f.oneLine f.symbol (by simp))
    (f.oneLine f.object (by simp)) (by decide)

end PylintFinding

/-! ## The form of a line -/

namespace LineFormat

variable {b : Option Char} {cs number : List Char} {groups r : Captures}

/-- The parts of the form from the bracket that closes. -/
def tailParts : List Regex :=
  [.char (.single ']'), blank, .group 4 (text true), .look .textEnd]

/-- The parts of the form from the colon in front of the number. -/
def numberParts : List Regex :=
  [.char (.single ':'), .group 2 digits, .char (.single ':'), blank, .char (.single '['),
    .group 3 (text false)] ++ tailParts

theorem captures?_pylint (references : Mapping) (s : String) :
    (pylintLines references).form.captures? s =
      walkAll (.group 1 (text true) :: numberParts) ⟨none, s.toList⟩ [] := rfl

theorem walkAll_tailParts {message : List Char} (hne : message ≠ []) (hline : '\n' ∉ message) :
    walkAll tailParts ⟨b, ']' :: ' ' :: message⟩ groups = some ((4, message) :: groups) := by
  rw [tailParts, walkAll_cons, walk_lit_cons, walkAll_cons, walk_blank]
  exact walkAll_rest hne hline

/-- The tail matches only at a bracket. -/
theorem walkAll_tailParts_eq_none {c : Char} (hc : c ≠ ']') :
    walkAll tailParts ⟨b, c :: cs⟩ groups = none := by
  refine Option.eq_none_iff_forall_ne_some.2 fun r hr => ?_
  rw [tailParts, walkAll_cons, walk_lit_eq_some_iff] at hr
  obtain ⟨rest, heq, -⟩ := hr
  exact hc (List.cons.inj heq).1

/-- In front of a number, a head without a closing bracket and a message, the form takes just
these. -/
theorem walkAll_numberParts {n : Nat} {head message : List Char} (hhead : head ≠ [])
    (hbracket : ']' ∉ head) (hheadLine : '\n' ∉ head) (hmessage : message ≠ [])
    (hmessageLine : '\n' ∉ message) :
    walkAll numberParts
        ⟨b, ':' :: (Nat.toDigits 10 n ++ ':' :: ' ' :: '[' :: (head ++ ']' :: ' ' :: message))⟩
        groups =
      some ((4, message) :: (3, head) :: (2, Nat.toDigits 10 n) :: groups) := by
  rw [numberParts, List.cons_append, walkAll_cons, walk_lit_cons, List.cons_append, walkAll_cons]
  refine walk_digits (CharSet.head_not_digit (by decide)) fun b' => ?_
  rw [List.cons_append, walkAll_cons, walk_lit_cons, List.cons_append, walkAll_cons, walk_blank,
    List.cons_append, walkAll_cons, walk_lit_cons, List.cons_append, walkAll_cons]
  refine walk_group_lazy hhead (has_text hheadLine)
    (fun b' => walkAll_tailParts hmessage hmessageLine) fun b' front back _ hback heq => ?_
  -- A shorter head is followed by a character of the head, which is no bracket.
  obtain ⟨c, back, rfl⟩ := List.exists_cons_of_ne_nil hback
  exact walkAll_tailParts_eq_none fun hc => hbracket (by simp [heq, hc])

/-- Where the form goes on behind a path, the text begins like the part behind a path. -/
theorem beginsHead_of_walkAll (h : walkAll numberParts ⟨b, cs⟩ groups = some r) :
    BeginsHead cs := by
  rw [numberParts, List.cons_append, walkAll_cons, walk_lit_eq_some_iff] at h
  obtain ⟨rest₁, rfl, h⟩ := h
  rw [List.cons_append, walkAll_cons] at h
  obtain ⟨b₁, number, rest₂, hne, hdigits, rfl, hrest⟩ := exists_run_of_walk_group h
  clear h
  rw [List.cons_append, walkAll_cons, walk_lit_eq_some_iff] at hrest
  obtain ⟨rest₃, rfl, h⟩ := hrest
  rw [List.cons_append, walkAll_cons, blank, walk_char_eq_some_iff] at h
  obtain ⟨c, rest₄, rfl, hblank, h⟩ := h
  rw [List.cons_append, walkAll_cons, walk_lit_eq_some_iff] at h
  obtain ⟨rest₅, rfl, -⟩ := h
  exact ⟨number, c, rest₅, hne, hdigits, hblank, rfl⟩

end LineFormat

/-! ## A finding on a line -/

namespace BeginsHead

variable {rest number cs : List Char}

theorem exists_digit (h : BeginsHead cs) :
    ∃ d rest, cs = ':' :: d :: rest ∧ CharSet.digit.has d = true := by
  obtain ⟨number, c, rest, hne, hdigits, -, rfl⟩ := h
  obtain ⟨d, number, rfl⟩ := List.exists_cons_of_ne_nil hne
  exact ⟨d, _, rfl, hdigits d List.mem_cons_self⟩

/-- Such a text does not begin within a number. -/
theorem suffix_of_digits (h : BeginsHead rest)
    (hnumber : ∀ d ∈ number, CharSet.digit.has d = true) (hrest : rest <:+ number ++ cs) :
    rest <:+ cs := by
  obtain ⟨d, more, rfl, -⟩ := h.exists_digit
  exact LineFormat.suffix_of_notMem (fun hcolon => absurd (hnumber ':' hcolon) (by decide)) hrest

/-- Nor does it begin between a number and the text in brackets. -/
theorem suffix_of_bracket (h : BeginsHead rest) (hrest : rest <:+ ':' :: ' ' :: '[' :: cs) :
    rest <:+ cs := by
  obtain ⟨d, more, rfl, hd⟩ := h.exists_digit
  rcases List.suffix_cons_iff.1 hrest with heq | hrest
  · have hspace : d = ' ' := (List.cons.inj (List.cons.inj heq).2).1
    rw [hspace] at hd
    exact absurd hd (by decide)
  · have hfront : ':' ∉ [' ', '['] := by decide
    exact LineFormat.suffix_of_notMem hfront hrest

theorem colon_mem (h : BeginsHead cs) : ':' ∈ cs := by
  obtain ⟨_, _, rfl, -⟩ := h.exists_digit
  exact List.mem_cons_self

end BeginsHead

namespace PylintFinding

/-- A finding can be written on a line. -/
theorem feed_notMem_text (f : PylintFinding) : '\n' ∉ f.text.toList := by
  have hdigits : '\n' ∉ Nat.toDigits 10 f.line := CharSet.notMem_toDigits (by decide)
  simp [PylintRecord.toList_text, PylintRecord.body, f.feed_notMem_path, f.feed_notMem_head,
    f.feed_notMem_message, hdigits]

/-- The form takes a finding apart into the texts it was made of. -/
theorem captures?_text (f : PylintFinding) (references : Mapping) :
    (pylintLines references).form.captures? f.text =
      some [(4, f.message.toList), (3, f.head), (2, Nat.toDigits 10 f.line),
        (1, f.path.toList)] := by
  have hpath : f.path.toList ≠ [] := mt String.toList_eq_nil_iff.1 f.path_ne
  have hmessage : f.message.toList ≠ [] := mt String.toList_eq_nil_iff.1 f.message_ne
  have hhead : f.head ≠ [] := by simp [PylintRecord.head]
  rw [LineFormat.captures?_pylint, f.toList_text, walkAll_cons]
  refine walk_group_greedy hpath (LineFormat.has_text f.feed_notMem_path) (fun b => ?_)
    fun b more rest hmore _ heq => ?_
  · exact LineFormat.walkAll_numberParts hhead f.bracket_notMem_head f.feed_notMem_head hmessage
      f.feed_notMem_message
  · -- A longer path would be followed by another text that looks like the part behind a path.
    refine Option.eq_none_iff_forall_ne_some.2 fun r hr => ?_
    have hbegins := LineFormat.beginsHead_of_walkAll hr
    obtain ⟨c, more, rfl⟩ := List.exists_cons_of_ne_nil hmore
    have hrest : rest <:+ Nat.toDigits 10 f.line ++ ':' :: ' ' :: '[' :: f.body :=
      ⟨more, (List.cons.inj heq).2.symm⟩
    exact f.noHead rest (hbegins.suffix_of_bracket (hbegins.suffix_of_digits
      (fun d => CharSet.has_digit_of_mem_toDigits) hrest)) hbegins

theorem splitHead_head (f : PylintFinding) :
    splitHead (String.ofList f.head) f.message =
      (f.kind, if Text.isBlankText f.object then f.message
        else Text.trim f.object ++ ": " ++ f.message) := by
  have hcut := Text.cutAt?_append f.comma_notMem_kind (' ' :: f.object.toList)
  have htrim : Text.trimChars (' ' :: f.object.toList) = Text.trimChars f.object.toList :=
    Text.stripWhere_cons (by decide) _
  have hblank : (Text.trimChars f.object.toList).isEmpty = Text.isBlankText f.object := by
    rw [Bool.eq_iff_iff, List.isEmpty_iff, Text.trimChars_eq_nil_iff, Text.isBlankText]
  rw [splitHead, String.toList_ofList, PylintRecord.head, hcut]
  simp only [htrim, hblank, String.ofList_toList, Text.trim]

theorem warningOf_kind (f : PylintFinding) : warningOf f.kind = f.id := by
  have hkind : f.kind.toList = f.id.toList ++ '(' :: (f.symbol.toList ++ [')']) := by
    simp [PylintRecord.kind]
  have hid : ∀ c ∈ f.id.toList, (c != '(') = true := fun c hc =>
    bne_iff_ne.2 fun heq => f.id_plain.1 (heq ▸ hc)
  rw [warningOf, hkind, List.takeWhile_append_of_pos hid, List.takeWhile_cons_of_neg (by simp),
    List.append_nil, String.ofList_toList]

/-- A finding is read back from its line. -/
theorem issueOf?_text (f : PylintFinding) (references : Mapping) :
    (pylintLines references).issueOf? f.text = some (f.issue references) := by
  have hnumber : LineFormat.number? [(4, f.message.toList), (3, f.head),
      (2, Nat.toDigits 10 f.line), (1, f.path.toList)] 2 = some (f.line : Int) :=
    LineFormat.number?_toDigits rfl f.line_lt
  rw [LineFormat.issueOf?, f.captures?_text, Option.bind_some]
  simp [pylintLines, hnumber, Captures.get?, f.splitHead_head, f.warningOf_kind,
    PylintRecord.issue, List.lookup_cons]

end PylintFinding

/-! ## An output -/

namespace ToolPlugin

/-- The lines of an output of the style checker. -/
abbrev PylintLine := OutputLine (pylintLines .empty).form PylintFinding

/-- The style checker has one issue for each finding in an output, in order, whatever other lines
stand between them and wherever the output is cut between lines. -/
theorem pylint_issuesOf (ctx : PluginContext) (p : Package) (s : SessionState)
    {groups : List (List PylintLine)} {chunks : List String}
    (h : OutputLine.Output (fun f => f.text) groups chunks) :
    ((pylint.issuesOf ctx chunks p).runFrom s).1 =
      .ok ((groups.flatten.filterMap OutputLine.finding?).map fun f =>
        f.issue (ctx.resources.mapping s.host ctx.settings "pylint").1) := by
  have hissues := LineFormat.issuesOf_written
    (f := pylintLines (ctx.resources.mapping s.host ctx.settings "pylint").1)
    (fun f => f.issueOf?_text _) h
  exact congrArg Except.ok hissues

/-- A finding about a file in a directory whose name looks like a finding. -/
def lookalikeFinding : PylintFinding where
  path := "/src/x:3: [E1(e), ] y/a.py"
  line := 1
  id := "C0114"
  symbol := "missing-module-docstring"
  object := " "
  message := "Missing module docstring"
  path_ne := by decide
  message_ne := by decide
  line_lt := by decide
  id_plain := by decide
  symbol_plain := by decide
  object_plain := by decide
  oneLine := by decide
  noHead := fun _ hrest h => absurd (hrest.mem h.colon_mem) (by decide)

/-- A finding about an object, for which there is a reference. -/
def variableFinding : PylintFinding where
  path := "/src/a.py"
  line := 7
  id := "W0612"
  symbol := "unused-variable"
  object := "main "
  message := "Unused variable 'x'"
  path_ne := by decide
  message_ne := by decide
  line_lt := by decide
  id_plain := by decide
  symbol_plain := by decide
  object_plain := by decide
  oneLine := by decide
  noHead := fun _ hrest h => absurd (hrest.mem h.colon_mem) (by decide)

/-- A machine with a mapping file for the style checker. -/
def mappingHost : Host where
  files := ⟨[(["rsc"], .directory), (["rsc", "plugin_mapping"], .directory),
    (["rsc", "plugin_mapping", "pylint.txt"],
      .file (Text.Utf8.encode "W0612:EXP12-C\n") 0o644)]⟩
  workingDirectory := []
  searchPath := none
  noColor := true
  logFilter := none
  resourceRoot := ⟨"/"⟩
  programs := fun _ => none

/-- Two findings between two other lines. -/
def mixedLines : List (List PylintLine) :=
  [[.other "************* Module a" (by decide), .finding lookalikeFinding],
    [.finding variableFinding, .other "no finding" (by decide)]]

/-- They may stand in two chunks with different line endings. -/
theorem pylint_issuesOf_mixed :
    ((pylint.issuesOf ⟨{}, {}, { defaultPath := ⟨"/"⟩ }⟩
        ["************* Module a\n" ++ lookalikeFinding.text ++ "\r\n",
          variableFinding.text ++ "\r\nno finding"]
        (.ofPath ⟨"/w"⟩)).runFrom { host := mappingHost }).1 =
      .ok [lookalikeFinding.issue .empty,
        { variableFinding.issue .empty with certReference := some "EXP12-C" }] := by
  have hfirst : ("************* Module a\n" ++ lookalikeFinding.text ++ "\r\n").toList =
      "************* Module a".toList ++
        '\n' :: (lookalikeFinding.text.toList ++ ['\r', '\n']) := by simp
  have hsecond : (variableFinding.text ++ "\r\nno finding").toList =
      variableFinding.text.toList ++ '\r' :: '\n' :: "no finding".toList := by simp
  have hwrites : OutputLine.Output (fun f => f.text) mixedLines
      ["************* Module a\n" ++ lookalikeFinding.text ++ "\r\n",
        variableFinding.text ++ "\r\nno finding"] := by
    refine .cons ?_ (.cons ?_ .nil)
    · rw [hfirst]
      exact .feed (by decide) (by decide)
        (.returnFeed lookalikeFinding.feed_notMem_text .nothing)
    · rw [hsecond]
      exact .returnFeed variableFinding.feed_notMem_text (.last (by decide) (by decide))
  rw [pylint_issuesOf _ _ _ hwrites]
  decide +kernel

end ToolPlugin

end LintScan
