/-!
# Blank characters

* `isBlank` — the characters with the White_Space property.
* `trimChars` / `trim` — a text without the blanks at its two ends.
* `wordsOf` / `words` — the maximal runs of characters that are not blank.
-/

namespace LintScan.Text

/-- The characters with the White_Space property. -/
def isBlank (c : Char) : Bool :=
  let n := c.toNat
  (0x9 ≤ n && n ≤ 0xd) || n == 0x20 || n == 0x85 || n == 0xa0 || n == 0x1680
    || (0x2000 ≤ n && n ≤ 0x200a) || n == 0x2028 || n == 0x2029 || n == 0x202f || n == 0x205f
    || n == 0x3000

/-- `cs` without the characters at its end that satisfy `p`. -/
def dropEnd (p : Char → Bool) (cs : List Char) : List Char :=
  (cs.reverse.dropWhile p).reverse

/-- `cs` without the characters at both ends that satisfy `p`. -/
def stripWhere (p : Char → Bool) (cs : List Char) : List Char :=
  dropEnd p (cs.dropWhile p)

/-- `cs` without the blanks at both ends. -/
def trimChars (cs : List Char) : List Char := stripWhere isBlank cs

/-- `s` without the blanks at both ends. -/
def trim (s : String) : String := String.ofList (trimChars s.toList)

/-- `s` without the blanks at its end. -/
def trimEnd (s : String) : String := String.ofList (dropEnd isBlank s.toList)

/-- The words of `cs`, where `word` is the part of the first word that is already read. -/
def wordsFrom (word : List Char) : List Char → List (List Char)
  | [] => if word.isEmpty then [] else [word]
  | c :: rest =>
    if isBlank c then
      if word.isEmpty then wordsFrom [] rest else word :: wordsFrom [] rest
    else wordsFrom (word ++ [c]) rest

/-- The maximal runs of characters that are not blank, in order. -/
def wordsOf (cs : List Char) : List (List Char) := wordsFrom [] cs

/-- The maximal runs of characters that are not blank, in order. -/
def words (s : String) : List String := (wordsOf s.toList).map String.ofList

/-- A text that holds blanks at most. -/
def isBlankText (s : String) : Bool := s.toList.all isBlank

end LintScan.Text
