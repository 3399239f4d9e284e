import LintScan.Text.Blank
import LintScan.Unicode.Case

/-!
# Sets of characters

* `CharSet` — a set of characters, built from ranges and tables by the set operations.
* `CharSet.has` — membership, evaluated on the expression itself.
* `CharSet.weight` — how many ranges the expression was built from.
-/

namespace LintScan.Regex

open LintScan.Unicode

/-- A set of characters. -/
inductive CharSet where
  | none
  | range (lo hi : Char)
  | spans (table : List Span)
  | blank
  | word
  | union (s t : CharSet)
  | inter (s t : CharSet)
  | diff (s t : CharSet)
  | compl (s : CharSet)
  | anyCase (ascii : Bool) (s : CharSet)
  deriving Repr

namespace CharSet

/-- The characters that count as the same when case is ignored, among ASCII letters only or among
all characters. -/
def variants (ascii : Bool) (c : Char) : List Char :=
  if ascii then
    if c.isUpper then [c, c.toLower] else if c.isLower then [c, c.toUpper] else [c]
  else caseVariants c

/-- Whether the set holds a character. -/
def has : CharSet → Char → Bool
  | none, _ => false
  | range lo hi, c => lo ≤ c && c ≤ hi
  | spans table, c => covers table c.toNat
  | blank, c => Text.isBlank c
  | word, c => isWordChar c
  | union s t, c => s.has c || t.has c
  | inter s t, c => s.has c && t.has c
  | diff s t, c => s.has c && !t.has c
  | compl s, c => !s.has c
  | anyCase ascii s, c => (variants ascii c).any s.has

/-- The number of ranges that the set is built from. -/
def weight : CharSet → Nat
  | none => 0
  | range _ _ => 1
  | spans table => table.length
  | blank => 10
  | word => 700
  | union s t => s.weight + t.weight
  | inter s t => s.weight + t.weight
  | diff s t => s.weight + t.weight
  | compl s => s.weight + 1
  | anyCase _ s => 2 * s.weight

/-- The set of one character. -/
def single (c : Char) : CharSet := range c c

/-- The set that holds the characters of all sets of a list. -/
def unions (sets : List CharSet) : CharSet := sets.foldr union none

/-- The symmetric difference. -/
def symDiff (s t : CharSet) : CharSet := diff (union s t) (inter s t)

/-- Every character. -/
def full : CharSet := compl none

/-- Decimal digits. -/
def digit : CharSet := spans decimalNumberSpans

/-- ASCII digits. -/
def asciiDigit : CharSet := range '0' '9'

/-- ASCII blanks. -/
def asciiBlank : CharSet := union (range '\t' '\r') (single ' ')

/-- ASCII letters. -/
def asciiAlpha : CharSet := union (range 'a' 'z') (range 'A' 'Z')

/-- ASCII letters, digits and the underscore. -/
def asciiWord : CharSet := union asciiAlpha (union asciiDigit (single '_'))

end CharSet

end LintScan.Regex
