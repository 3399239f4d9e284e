/-!
# Places in a YAML text

* `Problem` — why a text is not a YAML document.
* `Cursor` — the text still to be read, with the line and column of its head.
* `Cursor.skip`, `Cursor.skipBreak` — the steps over a character and over a line break.
-/

namespace LintScan.Yaml

/-- Why a text is not a single YAML document. -/
inductive Problem where
  | badCharacter
  | badToken
  | keyWithoutValue
  | misplacedEntry
  | misplacedKey
  | misplacedValue
  | badDirective
  | badVersion
  | repeatedDirective
  | badAnchor
  | unknownAnchor
  | badTag
  | unknownTagHandle
  | badBlockHeader
  | tabIndent
  | unclosedQuote
  | markerInQuote
  | badEscape
  | badPlain
  | expectedDocument
  | expectedEntry
  | expectedKey
  | expectedNode
  | expectedFlowEnd
  | secondDocument
  | numberRange
  | repeatedKey
  | badScalar
  | badShape
  | tooDeep
  deriving Repr, DecidableEq

/-- What is wrong with the text. -/
def Problem.message : Problem → String
  | badCharacter => "control characters are not allowed"
  | badToken => "found character that cannot start any token"
  | keyWithoutValue => "could not find expected ':'"
  | misplacedEntry => "block sequence entries are not allowed in this context"
  | misplacedKey => "mapping keys are not allowed in this context"
  | misplacedValue => "mapping values are not allowed in this context"
  | badDirective => "found a malformed directive"
  | badVersion => "found incompatible YAML document"
  | repeatedDirective => "found duplicate directive"
  | badAnchor => "did not find expected alphabetic or numeric character"
  | unknownAnchor => "unknown anchor"
  | badTag => "found a malformed tag"
  | unknownTagHandle => "found undefined tag handle"
  | badBlockHeader => "did not find expected comment or line break"
  | tabIndent => "found a tab character where an indentation space is expected"
  | unclosedQuote => "found unexpected end of stream"
  | markerInQuote => "found unexpected document indicator"
  | badEscape => "found unknown escape character"
  | badPlain => "found unexpected ':'"
  | expectedDocument => "did not find expected <document start>"
  | expectedEntry => "did not find expected '-' indicator"
  | expectedKey => "did not find expected key"
  | expectedNode => "did not find expected node content"
  | expectedFlowEnd => "did not find expected ',' or closing bracket"
  | secondDocument => "more than one document is not supported"
  | numberRange => "number is out of range"
  | repeatedKey => "duplicate entry in mapping"
  | badScalar => "invalid scalar for its tag"
  | badShape => "value has an unexpected type"
  | tooDeep => "recursion limit exceeded"

/-- A place in a text. -/
structure Cursor where
  rest : List Char
  index : Nat := 0
  line : Nat := 0
  column : Nat := 0
  deriving Repr

/-- Characters that end a line. -/
def isBreak (c : Char) : Bool :=
  c == '\n' || c == '\r' || c == '\u0085' || c == '\u2028' || c == '\u2029'

/-- A space or a tab. -/
def isSpaceTab (c : Char) : Bool := c == ' ' || c == '\t'

/-- The end of the text, a space, a tab or a line break. -/
def isGap : Option Char → Bool
  | none => true
  | some c => isSpaceTab c || isBreak c

/-- The end of the text or a line break. -/
def isLineEnd : Option Char → Bool
  | none => true
  | some c => isBreak c

/-- Letters, digits, `_` and `-`. -/
def isNameChar (c : Char) : Bool := c.isAlphanum || c == '_' || c == '-'

namespace Cursor

/-- The character at the cursor. -/
def peek (c : Cursor) : Option Char := c.rest.head?

/-- The character `n` places behind the cursor. -/
def peekAt (c : Cursor) (n : Nat) : Option Char := c.rest[n]?

/-- Whether `ch` stands at the cursor. -/
def sees (c : Cursor) (ch : Char) : Bool := c.peek == some ch

/-- The cursor behind one character that is no line break. -/
def skip (c : Cursor) : Cursor :=
  { c with rest := c.rest.tail, index := c.index + 1, column := c.column + 1 }

/-- The cursor behind `n` characters of the same line. -/
def skipN (c : Cursor) (n : Nat) : Cursor :=
  { c with rest := c.rest.drop n, index := c.index + n, column := c.column + n }

/-- The cursor behind a line break, and the text that the break counts for. -/
def readBreak (c : Cursor) : String × Cursor :=
  match c.rest with
  | '\r' :: '\n' :: rest => ("\n", ⟨rest, c.index + 2, c.line + 1, 0⟩)
  | b :: rest =>
    if b == '\u2028' || b == '\u2029' then (b.toString, ⟨rest, c.index + 1, c.line + 1, 0⟩)
    else if isBreak b then ("\n", ⟨rest, c.index + 1, c.line + 1, 0⟩)
    else ("", c)
  | [] => ("", c)

/-- The cursor behind a line break. -/
def skipBreak (c : Cursor) : Cursor := c.readBreak.2

/-- The cursor behind the characters of the line that satisfy `p`. -/
def skipWhile (p : Char → Bool) (c : Cursor) : Cursor :=
  c.skipN (c.rest.takeWhile p).length

/-- The characters of the line that satisfy `p`, and the cursor behind them. -/
def takeWhile (p : Char → Bool) (c : Cursor) : List Char × Cursor :=
  let taken := c.rest.takeWhile p
  (taken, c.skipN taken.length)

/-- The cursor at the end of the line. -/
def skipLine (c : Cursor) : Cursor := c.skipWhile (!isBreak ·)

/-- Whether a line of three times `mark`, followed by a gap, begins at the cursor. -/
def atMarker (mark : Char) (c : Cursor) : Bool :=
  c.column == 0 && c.peek == some mark && c.peekAt 1 == some mark && c.peekAt 2 == some mark
    && isGap (c.peekAt 3)

/-- Whether a document marker begins at the cursor. -/
def atDocumentMarker (c : Cursor) : Bool := c.atMarker '-' || c.atMarker '.'

end Cursor

/-- The characters that a YAML text may hold. -/
def isAllowed (c : Char) : Bool :=
  let n := c.toNat
  n == 9 || n == 10 || n == 13 || (0x20 ≤ n && n ≤ 0x7e) || n == 0x85
    || (0xa0 ≤ n && n ≤ 0xfffd) || 0x10000 ≤ n

/-- The cursor at the head of a text. -/
def Cursor.start (text : List Char) : Except Problem Cursor :=
  if text.all isAllowed then .ok { rest := text } else .error .badCharacter

end LintScan.Yaml
