import LintScan.Regex.CharSet

/-!
# Regular expressions

* `Anchor` — a condition on a position in a text.
* `Regex` — the expressions.
* `Regex.size` — an estimate of how many states an automaton for the expression needs; patterns
  above `sizeLimit` are refused.
-/

namespace LintScan

/-- A condition on a position of a text. -/
inductive Anchor where
  | textStart
  | textEnd
  | lineStart
  | lineEnd
  | lineStartReturn
  | lineEndReturn
  | wordEdge (ascii : Bool)
  | noWordEdge (ascii : Bool)
  | wordStart (ascii : Bool)
  | wordEnd (ascii : Bool)
  | wordStartHalf (ascii : Bool)
  | wordEndHalf (ascii : Bool)
  deriving Repr, DecidableEq

/-- A regular expression. An iteration is taken at least `min` times and at most `max` times, as
often as possible if it is greedy and as seldom as possible if it is not. -/
inductive Regex where
  | empty
  | char (set : Regex.CharSet)
  | look (anchor : Anchor)
  | seq (r s : Regex)
  | alt (r s : Regex)
  | iter (r : Regex) (min : Nat) (max : Option Nat) (greedy : Bool)
  | group (index : Nat) (r : Regex)
  deriving Repr

/-- Whether a character counts as a word character. -/
def Anchor.isWord (ascii : Bool) (c : Char) : Bool :=
  if ascii then Regex.CharSet.asciiWord.has c else Regex.CharSet.word.has c

/-- Whether the position between the characters `before` and `after` meets the condition. -/
def Anchor.holds (a : Anchor) (before after : Option Char) : Bool :=
  let word (ascii : Bool) (c : Option Char) : Bool := c.any (Anchor.isWord ascii)
  match a with
  | textStart => before.isNone
  | textEnd => after.isNone
  | lineStart => before.isNone || before == some '\n'
  | lineEnd => after.isNone || after == some '\n'
  | lineStartReturn =>
    before.isNone || before == some '\n' || (before == some '\r' && after != some '\n')
  | lineEndReturn =>
    after.isNone || after == some '\r' || (after == some '\n' && before != some '\r')
  | wordEdge ascii => word ascii before != word ascii after
  | noWordEdge ascii => word ascii before == word ascii after
  | wordStart ascii => !word ascii before && word ascii after
  | wordEnd ascii => word ascii before && !word ascii after
  | wordStartHalf ascii => !word ascii before
  | wordEndHalf ascii => !word ascii after

namespace Regex

/-- The expression for a fixed text. -/
def ofChars : List Char → Regex
  | [] => .empty
  | [c] => .char (.single c)
  | c :: rest => .seq (.char (.single c)) (ofChars rest)

/-- The expressions one after the other. -/
def seqs : List Regex → Regex
  | [] => .empty
  | [r] => r
  | r :: rest => .seq r (seqs rest)

/-- The choice between the expressions, the first ones preferred. -/
def alts : List Regex → Regex
  | [] => .empty
  | [r] => r
  | r :: rest => .alt r (alts rest)

/-- An estimate of the number of automaton states. The matching library bounds the bytes of the
automaton that it builds, which depend on how it shares and encodes states. -/
def size : Regex → Nat
  | empty => 1
  | char set => 1 + set.weight
  | look _ => 1
  | seq r s => r.size + s.size
  | alt r s => r.size + s.size + 1
  | iter r min none _ => (min.max 1) * r.size + 1
  | iter r min (some max) _ => min * r.size + (max - min) * (r.size + 1)
  | group _ r => r.size + 2

/-- The size above which a pattern is refused. As sizes are estimates, the library may decide
otherwise on a pattern whose size is near the limit. -/
def sizeLimit : Nat := 320000

end Regex

end LintScan
