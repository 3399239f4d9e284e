import LintScan.Yaml.Token.Property
import LintScan.Yaml.Token.Scalar

/-!
# Scanning

The scanner turns a text into tokens. Blocks are marked by indentation: a deeper column opens one
and a shallower column closes it. A scalar, or anything else that may be a key, becomes one when a
`:` follows on the same line; the tokens for the key are then put in front of it.

* `KeySpot` — where a key may have begun.
* `Scanner` — the state of the scan.
* `tokens` — the tokens of a text.
-/

namespace LintScan.Yaml

/-- A place where a key may have begun. It is required where nothing but a key can stand. -/
structure KeySpot where
  position : Nat
  required : Bool
  index : Nat
  line : Nat
  column : Nat
  deriving Repr

/-- The state of a scan. The spots of the enclosing flow collections are kept in `outer`. -/
structure Scanner where
  cursor : Cursor
  tokens : Array Token := #[]
  spot : Option KeySpot := none
  outer : List (Option KeySpot) := []
  indent : Int := -1
  indents : List Int := []
  keyAllowed : Bool := true

namespace Scanner

/-- Whether the scan is inside a flow collection. -/
def inFlow (s : Scanner) : Bool := !s.outer.isEmpty

/-- Adds a token at the end. -/
def emit (s : Scanner) (t : Token) : Scanner := { s with tokens := s.tokens.push t }

/-- Adds a token in front of the token number `i`. -/
def emitAt (s : Scanner) (i : Nat) (t : Token) : Scanner :=
  { s with tokens := s.tokens.insertIdxIfInBounds i t }

/-- Opens a block at a column that is deeper than the current indent. -/
def openBlock (s : Scanner) (column : Nat) (i : Nat) (t : Token) : Scanner :=
  if s.inFlow || (column : Int) ≤ s.indent then s
  else { s.emitAt i t with indents := s.indent :: s.indents, indent := column }

/-- The blocks closed by a column: how many there are, and the indents left. -/
def closedBlocks (column : Int) (indent : Int) : List Int → Nat × Int × List Int
  | [] => (0, indent, [])
  | outer :: rest =>
    if indent ≤ column then (0, indent, outer :: rest)
    else
      let (n, indent, indents) := closedBlocks column outer rest
      (n + 1, indent, indents)

/-- Closes the blocks that are deeper than a column. -/
def closeBlocks (s : Scanner) (column : Int) : Scanner :=
  if s.inFlow then s
  else
    let (n, indent, indents) := closedBlocks column s.indent s.indents
    { s with tokens := s.tokens ++ Array.replicate n .blockEnd, indent, indents }

/-- Whether the spot may still become a key: on the same line and not too far back. -/
def isLive (s : Scanner) (k : KeySpot) : Bool :=
  k.line == s.cursor.line && s.cursor.index ≤ k.index + 1024

/-- Gives up the key spot; a required one may not be given up. -/
def dropSpot (s : Scanner) : Except Problem Scanner :=
  match s.spot with
  | some k => if k.required then .error .keyWithoutValue else .ok { s with spot := none }
  | none => .ok s

/-- Marks the cursor as a place where a key may begin. -/
def markSpot (s : Scanner) : Except Problem Scanner :=
  if !s.keyAllowed then .ok s
  else do
    let s ← s.dropSpot
    let c := s.cursor
    let required := !s.inFlow && s.indent == (c.column : Int)
    let spot : KeySpot := ⟨s.tokens.size, required, c.index, c.line, c.column⟩
    .ok { s with spot := some spot }

/-- Steps over `n` characters and adds a token. -/
def accept (s : Scanner) (n : Nat) (t : Token) : Scanner :=
  { s.emit t with cursor := s.cursor.skipN n }

/-- Steps over blanks, comments and line breaks. A byte order mark may begin a line, and takes up a
column of it. -/
def skipBetween : Nat → Scanner → Scanner
  | 0, s => s
  | fuel + 1, s =>
    let c := if s.cursor.column == 0 && s.cursor.sees '\ufeff' then s.cursor.skip else s.cursor
    let c := c.skipWhile fun ch => ch == ' ' || ((s.inFlow || !s.keyAllowed) && ch == '\t')
    let c := if c.sees '#' then c.skipLine else c
    if c.peek.any isBreak then
      skipBetween fuel
        { s with cursor := c.skipBreak, keyAllowed := if s.inFlow then s.keyAllowed else true }
    else { s with cursor := c }

/-- Reads a document marker. -/
def documentMarker (s : Scanner) (t : Token) : Except Problem Scanner := do
  let s ← (s.closeBlocks (-1)).dropSpot
  .ok ({ s with keyAllowed := false }.accept 3 t)

/-- Opens a flow collection. -/
def openFlow (s : Scanner) (t : Token) : Except Problem Scanner := do
  let s ← s.markSpot
  .ok ({ s with outer := s.spot :: s.outer, spot := none, keyAllowed := true }.accept 1 t)

/-- Closes a flow collection. -/
def closeFlow (s : Scanner) (t : Token) : Except Problem Scanner := do
  let s ← s.dropSpot
  let s := match s.outer with
    | k :: outer => { s with spot := k, outer }
    | [] => s
  .ok ({ s with keyAllowed := false }.accept 1 t)

/-- Reads the comma between items of a flow collection. -/
def flowEntry (s : Scanner) : Except Problem Scanner := do
  let s ← s.dropSpot
  .ok ({ s with keyAllowed := true }.accept 1 .flowEntry)

/-- Reads the hyphen before an item of a block sequence. -/
def blockEntry (s : Scanner) : Except Problem Scanner := do
  let s ← if s.inFlow then .ok s
    else if !s.keyAllowed then .error .misplacedEntry
    else .ok (s.openBlock s.cursor.column s.tokens.size .blockSeqStart)
  let s ← s.dropSpot
  .ok ({ s with keyAllowed := true }.accept 1 .blockEntry)

/-- Reads the question mark before a key. -/
def explicitKey (s : Scanner) : Except Problem Scanner := do
  let s ← if s.inFlow then .ok s
    else if !s.keyAllowed then .error .misplacedKey
    else .ok (s.openBlock s.cursor.column s.tokens.size .blockMapStart)
  let s ← s.dropSpot
  .ok ({ s with keyAllowed := !s.inFlow }.accept 1 .key)

/-- Reads the colon before a value. Behind a live key spot it makes a key of what began there. -/
def valueMark (s : Scanner) : Except Problem Scanner :=
  match s.spot with
  | some k =>
    if s.isLive k then
      let s := (s.emitAt k.position .key).openBlock k.column k.position .blockMapStart
      .ok ({ s with spot := none, keyAllowed := false }.accept 1 .value)
    else if k.required then .error .keyWithoutValue
    else bare { s with spot := none }
  | none => bare s
where
  /-- Reads a colon that no key precedes on its line. -/
  bare (s : Scanner) : Except Problem Scanner :=
    if s.inFlow then .ok ({ s with keyAllowed := false }.accept 1 .value)
    else if !s.keyAllowed then .error .misplacedValue
    else
      let s := s.openBlock s.cursor.column s.tokens.size .blockMapStart
      .ok ({ s with keyAllowed := true }.accept 1 .value)

/-- Reads an anchor or an alias. -/
def name (s : Scanner) (t : String → Token) : Except Problem Scanner := do
  let s ← s.markSpot
  let (text, c) ← readName s.cursor
  .ok { s.emit (t text) with cursor := c, keyAllowed := false }

/-- Reads a tag. -/
def tag (s : Scanner) : Except Problem Scanner := do
  let s ← s.markSpot
  let (t, c) ← readTag s.inFlow s.cursor
  .ok { s.emit t with cursor := c, keyAllowed := false }

/-- Reads a scalar in quotes. -/
def quoted (s : Scanner) (double : Bool) : Except Problem Scanner := do
  let s ← s.markSpot
  let (text, c) ← readQuoted double s.cursor
  .ok { s.emit (.scalar text (if double then .double else .single)) with
    cursor := c, keyAllowed := false }

/-- Reads a scalar without quotes. -/
def plain (s : Scanner) : Except Problem Scanner := do
  let s ← s.markSpot
  let (text, broken, c) ← readPlain s.inFlow s.indent s.cursor
  .ok { s.emit (.scalar text .plain) with cursor := c, keyAllowed := broken }

/-- Reads a block scalar. -/
def block (s : Scanner) (literal : Bool) : Except Problem Scanner := do
  let s ← s.dropSpot
  let (text, c) ← readBlock literal s.indent s.cursor
  .ok { s.emit (.scalar text (if literal then .literal else .folded)) with
    cursor := c, keyAllowed := true }

/-- Reads a directive. -/
def directive (s : Scanner) : Except Problem Scanner := do
  let s ← (s.closeBlocks (-1)).dropSpot
  let (t, c) ← readDirective s.cursor
  .ok { s.emit t with cursor := c, keyAllowed := false }

/-- Whether a plain scalar may begin with `ch` before `next`. -/
def beginsPlain (flow : Bool) (ch : Char) (next : Option Char) : Bool :=
  !(isGap (some ch) || "-?:,[]\x7b\x7d#&*!|>'\"%@".toList.contains ch || ch == Char.ofNat 96)
    || (ch == '-' && !next.any isSpaceTab)
    || (!flow && (ch == '?' || ch == ':') && !isGap next)

/-- Reads the next token; the cursor stands at its first character. -/
def next (s : Scanner) (ch : Char) : Except Problem Scanner :=
  let c := s.cursor
  let after := c.peekAt 1
  if c.column == 0 && ch == '%' then s.directive
  else if c.atMarker '-' then s.documentMarker .documentStart
  else if c.atMarker '.' then s.documentMarker .documentEnd
  else if ch == '[' then s.openFlow .flowSeqStart
  else if ch == '\x7b' then s.openFlow .flowMapStart
  else if ch == ']' then s.closeFlow .flowSeqEnd
  else if ch == '\x7d' then s.closeFlow .flowMapEnd
  else if ch == ',' then s.flowEntry
  else if ch == '-' && isGap after then s.blockEntry
  else if ch == '?' && (s.inFlow || isGap after) then s.explicitKey
  else if ch == ':' && (s.inFlow || isGap after) then s.valueMark
  else if ch == '*' then s.name .alias
  else if ch == '&' then s.name .anchor
  else if ch == '!' then s.tag
  else if ch == '|' && !s.inFlow then s.block true
  else if ch == '>' && !s.inFlow then s.block false
  else if ch == '\'' then s.quoted false
  else if ch == '"' then s.quoted true
  else if beginsPlain s.inFlow ch after then s.plain
  else .error .badToken

/-- Gives up key spots that lie too far back. -/
def expireSpots (s : Scanner) : Except Problem Scanner :=
  match s.spot with
  | some k => if s.isLive k then .ok s else s.dropSpot
  | none => .ok s

/-- Reads tokens to the end of the text. -/
def run : Nat → Scanner → Except Problem Scanner
  | 0, _ => .error .badToken
  | fuel + 1, s => do
    let s ← (s.skipBetween (s.cursor.rest.length + 1)).expireSpots
    let s := s.closeBlocks s.cursor.column
    match s.cursor.peek with
    | none => (s.closeBlocks (-1)).dropSpot
    | some ch => do
      let s ← s.next ch
      s.run fuel

end Scanner

/-- The tokens of a text. -/
def tokens (text : String) : Except Problem (List Token) := do
  let c ← Cursor.start text.toList
  let s ← Scanner.run (c.rest.length + 2) { cursor := c }
  .ok s.tokens.toList

end LintScan.Yaml
