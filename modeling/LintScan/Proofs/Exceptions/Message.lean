import LintScan.Proofs.Exceptions.Filter
import LintScan.Proofs.Regex.Wrapped

/-!
# Which messages a rule is about

The pattern of a message rule is meant for the beginning of a message. It is written between `^(?:`
and `)` before it is read, so the parentheses are part of what is read.

* `RegexRule.Concerns` — the issues that a rule is about, whatever their messages.
* `messageStage_drops_beginnings` — a rule drops those whose messages begin with a match, as long as
  its pattern does not reach for the parenthesis behind it.
* `messageStage_reachesParenthesis` — patterns that do: one closes the parentheses itself, the other
  ends within a comment.
-/

namespace LintScan

/-- The issues that a message rule is about: those of its tools, and in the files of its patterns if
it has any. -/
def RegexRule.Concerns (r : RegexRule) (tool : String) (i : Issue) : Prop :=
  r.tools.has tool = true ∧ (r.globs = none ∨ ∃ globs, r.globs = some globs ∧
    ∃ g ∈ globs, ∃ p, FilePattern.ofString? g = some p ∧ p.accepts i.filename = true)

namespace RegexRule

variable {r : RegexRule}

theorem drops_iff_concerns {tool : String} {i : Issue} :
    r.drops tool i = true ↔ r.Concerns tool i ∧
      ∃ regex, r.compile = .ok regex ∧ regex.matchesIn i.message = true := by
  rw [drops_iff]
  exact ⟨fun ⟨htool, hmatch, hglobs⟩ => ⟨⟨htool, hglobs⟩, hmatch⟩,
    fun ⟨⟨htool, hglobs⟩, hmatch⟩ => ⟨htool, hmatch, hglobs⟩⟩

/-- A rule that is refused is skipped with a warning. -/
theorem messageRule_of_error {e : Regex.PatternError} (h : r.compile = .error e) (m : IssueMap) :
    messageRule r m = (m, [r.warning e]) := by
  rw [messageRule, h]

theorem drops_of_error {e : Regex.PatternError} (h : r.compile = .error e) (tool : String)
    (i : Issue) : r.drops tool i = false := by
  rw [drops, h]

theorem exists_compile_error {e : Regex.PatternError} (h : Regex.ofPattern r.regex = .error e)
    (hclosed : e = .groupNotOpened → ∃ e', r.compile = .error e') :
    ∃ e', r.compile = .error e' := by
  by_cases he : e = .groupNotOpened
  · exact hclosed he
  · exact Regex.ofPattern_atHead_of_error r.regex h he

/-- A rule with a valid pattern drops the issues it is about whose messages begin with a match. -/
theorem drops_iff_begins {regex : Regex} (h : Regex.ofPattern r.regex = .ok regex) {tool : String}
    {i : Issue} :
    r.drops tool i = true ↔ Regex.Enclosable r.regex ∧ r.Concerns tool i ∧
      ∃ q, regex.Spans i.message.toList.toArray 0 q := by
  rcases Regex.ofPattern_atHead r.regex h with ⟨henclosable, hread⟩ | ⟨hunfit, e, hread⟩
  · have hcompile : r.compile = .ok (.seq (.look .textStart) regex) := hread
    rw [drops_iff_concerns, hcompile, ← Regex.matchesIn_anchored]
    simp [henclosable]
  · have hcompile : r.compile = .error e := hread
    simp [drops_of_error hcompile, hunfit]

end RegexRule

/-- **A message rule is about beginnings.** An issue stays if no rule drops it. A rule whose pattern
is refused drops nothing, unless the pattern closes the parentheses it is put in and is accepted
there. A rule with a valid pattern drops exactly the issues it is about whose messages begin with a
match, if the pattern can stand in parentheses behind an anchor, and nothing if it cannot. -/
theorem messageStage_drops_beginnings (rules : List RegexRule) (m : IssueMap) :
    ((messageStage rules m).1 = m.filterEach fun tool i => !rules.any (·.drops tool i)) ∧
    ∀ r ∈ rules,
      (∀ e, Regex.ofPattern r.regex = .error e →
        (e = .groupNotOpened → ∃ e', r.compile = .error e') →
        (∃ e', ∀ m', messageRule r m' = (m', [r.warning e'])) ∧
          ∀ tool i, r.drops tool i = false) ∧
      ∀ regex, Regex.ofPattern r.regex = .ok regex → ∀ tool i,
        (r.drops tool i = true ↔ Regex.Enclosable r.regex ∧ r.Concerns tool i ∧
          ∃ q, regex.Spans i.message.toList.toArray 0 q) := by
  refine ⟨issues_messageStage rules m, fun r _ => ⟨fun e he hclosed => ?_, ?_⟩⟩
  · obtain ⟨e', hcompile⟩ := RegexRule.exists_compile_error he hclosed
    exact ⟨⟨e', RegexRule.messageRule_of_error hcompile⟩, RegexRule.drops_of_error hcompile⟩
  · exact fun regex hvalid tool i => RegexRule.drops_iff_begins hvalid

/-- An issue that is known by its message. -/
def saying (message : String) : Issue := ⟨"/a.py", 1, "pylint", "T", 3, message, none⟩

/-- The issues of one tool with some messages. -/
def said (messages : List String) : IssueMap :=
  SortedTable.ofList [("pylint", messages.map saying)]

/-- A rule for all tools and files. -/
def forAllMessages (pattern : String) : RegexRule := ⟨.all, pattern, none⟩

/-- Of a choice, each branch is meant for the beginning of a message. A pattern that opens a group
and does not close it drops nothing. -/
theorem messageStage_anchoredChoice :
    (forAllMessages "a|b").drops "pylint" (saying "b y") = true ∧
      (forAllMessages "a|b").drops "pylint" (saying "x b") = false ∧
      (forAllMessages "(b").drops "pylint" (saying "b y") = false := by
  have hvalid : Regex.ofPattern "a|b" =
      .ok (.alt (.char (.single 'a')) (.char (.single 'b'))) := rfl
  have hinvalid : Regex.ofPattern "(b" = .error .groupOpen := rfl
  have hnode : Regex.nodeOf "a|b" =
      .ok ⟨.alt (.char (.single 'a')) (.char (.single 'b')), 1⟩ := rfl
  have henclosable : Regex.Enclosable "a|b" := by
    refine ⟨rfl, fun node h => ?_, fun node h => ?_⟩
    all_goals
      obtain rfl := Except.ok.inj (hnode.symm.trans h)
      decide
  have hrules := (messageStage_drops_beginnings [forAllMessages "a|b", forAllMessages "(b"]
    (said ["b y", "x b"])).2
  have hdrops (i : Issue) := (hrules _ List.mem_cons_self).2 _ hvalid "pylint" i
  have hskipped := (hrules _ (List.mem_cons_of_mem _ List.mem_cons_self)).1 _ hinvalid nofun
  refine ⟨?_, ?_, hskipped.2 "pylint" (saying "b y")⟩
  · exact (hdrops _).2 ⟨henclosable, ⟨rfl, .inl rfl⟩, 1, .inr ⟨rfl, 'b', rfl, rfl⟩⟩
  · rw [Bool.eq_false_iff, ne_eq, hdrops]
    rintro ⟨_, _, q, ⟨_, c, hc, hset⟩ | ⟨_, c, hc, hset⟩⟩
    all_goals
      obtain rfl : 'x' = c := Option.some.inj hc
      exact absurd hset (by decide)

/-- One pattern closes the parentheses itself: it is not valid, but the rule drops what holds a `b`
anywhere. The other is valid, but the parenthesis behind it is part of its comment: the rule is
skipped, and an issue stays whose message begins with a match. -/
theorem messageStage_reachesParenthesis :
    (Regex.ofPattern "a)|(?:b" = .error .groupNotOpened ∧
      (messageStage [forAllMessages "a)|(?:b"] (said ["xb"])).1.all = []) ∧
    ∃ regex, Regex.ofPattern "(?x)drop # old" = .ok regex ∧
      (∃ q, regex.Spans "drop it".toList.toArray 0 q) ∧
      (messageStage [forAllMessages "(?x)drop # old"] (said ["drop it"])).1.all =
        [saying "drop it"] := by
  refine ⟨⟨rfl, by decide +kernel⟩, _, rfl, Regex.matchesIn_anchored.1 ?_, ?_⟩
  · decide +kernel
  · decide +kernel

end LintScan
