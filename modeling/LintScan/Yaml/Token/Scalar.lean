import LintScan.Yaml.Cursor
import LintScan.Yaml.Token

/-!
# Scalars

* `Gap` — the blanks and line breaks between two parts of a scalar, and the text they fold to.
* `readQuoted`, `readPlain`, `readBlock` — the scalars in quotes, without quotes, and behind `|` or
  `>`.
-/

namespace LintScan.Yaml

/-- The blanks and breaks between two parts of a scalar. -/
structure Gap where
  spaces : String := ""
  first : String := ""
  more : String := ""
  lines : Bool := false

/-- What the gap folds to: one break becomes a space, further breaks remain. -/
def Gap.text (g : Gap) : String :=
  if !g.lines then g.spaces
  else if g.first == "\n" then if g.more.isEmpty then " " else g.more
  else g.first ++ g.more

/-- Reads blanks and breaks. With a bound, a tab left of it at the head of a line is refused. -/
def readGap (bound : Option Int) : Nat → Gap → Cursor → Except Problem (Gap × Cursor)
  | 0, g, c => .ok (g, c)
  | fuel + 1, g, c =>
    match c.peek with
    | none => .ok (g, c)
    | some ch =>
      if isSpaceTab ch then
        if g.lines && ch == '\t' && bound.any (fun b => (c.column : Int) < b) then .error .tabIndent
        else readGap bound fuel
          (if g.lines then g else { g with spaces := g.spaces.push ch }) c.skip
      else if isBreak ch then
        let (text, next) := c.readBreak
        readGap bound fuel
          (if g.lines then { g with more := g.more ++ text }
           else { g with spaces := "", first := text, lines := true }) next
      else .ok (g, c)

/-! ## Quoted scalars -/

/-- The characters that stand behind a backslash for one other character. -/
def simpleEscape? : Char → Option Char
  | '0' => some '\x00'
  | 'a' => some '\x07'
  | 'b' => some '\x08'
  | 't' => some '\t'
  | '\t' => some '\t'
  | 'n' => some '\n'
  | 'v' => some '\x0b'
  | 'f' => some '\x0c'
  | 'r' => some '\r'
  | 'e' => some '\x1b'
  | ' ' => some ' '
  | '"' => some '"'
  | '/' => some '/'
  | '\\' => some '\\'
  | 'N' => some '\u0085'
  | '_' => some '\u00a0'
  | 'L' => some '\u2028'
  | 'P' => some '\u2029'
  | _ => none

/-- The number of hexadecimal digits behind an escape letter. -/
def escapeDigits? : Char → Option Nat
  | 'x' => some 2
  | 'u' => some 4
  | 'U' => some 8
  | _ => none

/-- The value of a hexadecimal digit. -/
def hexDigit? (c : Char) : Option Nat :=
  if '0' ≤ c ∧ c ≤ '9' then some (c.toNat - '0'.toNat)
  else if 'a' ≤ c ∧ c ≤ 'f' then some (c.toNat - 'a'.toNat + 10)
  else if 'A' ≤ c ∧ c ≤ 'F' then some (c.toNat - 'A'.toNat + 10)
  else none

/-- The number that hexadecimal digits spell. -/
def hexNumber? (cs : List Char) : Option Nat :=
  cs.foldl (fun n c => n.bind fun n => (hexDigit? c).map (n * 16 + ·)) (some 0)

/-- Reads the escape sequence at the cursor. -/
def readEscape (c : Cursor) : Except Problem (Char × Cursor) :=
  match c.peekAt 1 with
  | none => .error .badEscape
  | some letter =>
    match simpleEscape? letter with
    | some ch => .ok (ch, c.skipN 2)
    | none =>
      match escapeDigits? letter with
      | none => .error .badEscape
      | some n =>
        let digits := (c.rest.drop 2).take n
        match digits.length == n, hexNumber? digits with
        | true, some v =>
          if v.isValidChar then .ok (Char.ofNat v, c.skipN (2 + n)) else .error .badEscape
        | _, _ => .error .badEscape

/-- Why the reading of a part of a quoted scalar stopped. -/
inductive QuoteStop where
  | gap
  | escapedBreak
  | closed

/-- Reads characters of a quoted scalar up to a gap or the closing quote. -/
def readQuotedRun (double : Bool) : Nat → String → Cursor →
    Except Problem (String × QuoteStop × Cursor)
  | 0, s, c => .ok (s, .gap, c)
  | fuel + 1, s, c =>
    match c.peek with
    | none => .ok (s, .gap, c)
    | some ch =>
      if isSpaceTab ch || isBreak ch then .ok (s, .gap, c)
      else if !double && ch == '\'' then
        if c.peekAt 1 == some '\'' then readQuotedRun double fuel (s.push '\'') (c.skipN 2)
        else .ok (s, .closed, c)
      else if double && ch == '"' then .ok (s, .closed, c)
      else if double && ch == '\\' then
        if (c.peekAt 1).any isBreak then .ok (s, .escapedBreak, c.skip.skipBreak)
        else match readEscape c with
          | .ok (e, next) => readQuotedRun double fuel (s.push e) next
          | .error p => .error p
      else readQuotedRun double fuel (s.push ch) c.skip

/-- Reads the parts of a quoted scalar and the gaps between them. -/
def readQuotedParts (double : Bool) : Nat → String → Cursor → Except Problem (String × Cursor)
  | 0, _, _ => .error .unclosedQuote
  | fuel + 1, s, c =>
    if c.atDocumentMarker then .error .markerInQuote
    else if c.peek.isNone then .error .unclosedQuote
    else do
      let (s, stop, c) ← readQuotedRun double (c.rest.length + 1) s c
      let quote := if double then '"' else '\''
      if c.sees quote && (match stop with | .gap => false | _ => true) then .ok (s, c.skip)
      else
        let g : Gap := match stop with
          | .escapedBreak => { lines := true }
          | _ => {}
        let (g, c) ← readGap none (c.rest.length + 1) g c
        readQuotedParts double fuel (s ++ g.text) c

/-- Reads a scalar in quotes; the cursor stands at the opening quote. -/
def readQuoted (double : Bool) (c : Cursor) : Except Problem (String × Cursor) :=
  readQuotedParts double (c.rest.length + 1) "" c.skip

/-! ## Plain scalars -/

/-- Characters that structure flow collections. -/
def isFlowMark (c : Char) : Bool := c == ',' || c == '[' || c == ']' || c == '\x7b' || c == '\x7d'

/-- Reads characters of a plain scalar up to a gap or an indicator. -/
def readPlainRun (flow : Bool) : Nat → String → Cursor → Except Problem (String × Cursor)
  | 0, s, c => .ok (s, c)
  | fuel + 1, s, c =>
    match c.peek with
    | none => .ok (s, c)
    | some ch =>
      if isSpaceTab ch || isBreak ch then .ok (s, c)
      else if flow && ch == ':' && (c.peekAt 1).any (fun d => isFlowMark d || d == '?') then
        .error .badPlain
      else if (ch == ':' && isGap (c.peekAt 1)) || (flow && isFlowMark ch) then .ok (s, c)
      else readPlainRun flow fuel (s.push ch) c.skip

/-- Reads the parts of a plain scalar. The last component tells whether the scalar was followed by a
line break. -/
def readPlainParts (flow : Bool) (indent : Int) : Nat → String → Gap → Cursor →
    Except Problem (String × Bool × Cursor)
  | 0, s, g, c => .ok (s, g.lines, c)
  | fuel + 1, s, g, c =>
    if c.atDocumentMarker || c.sees '#' then .ok (s, g.lines, c)
    else do
      let (run, next) ← readPlainRun flow (c.rest.length + 1) "" c
      let (s, g) := if run.isEmpty then (s, g) else (s ++ g.text ++ run, {})
      match next.peek with
      | none => .ok (s, g.lines, next)
      | some ch =>
        if !(isSpaceTab ch || isBreak ch) then .ok (s, g.lines, next)
        else
          let (g, after) ← readGap (some indent) (next.rest.length + 1) g next
          if !flow && (after.column : Int) < indent then .ok (s, g.lines, after)
          else readPlainParts flow indent fuel s g after

/-- Reads a plain scalar within a block of the given indent. -/
def readPlain (flow : Bool) (indent : Int) (c : Cursor) :
    Except Problem (String × Bool × Cursor) :=
  readPlainParts flow (indent + 1) (c.rest.length + 1) "" {} c

/-! ## Block scalars -/

/-- What becomes of the line breaks at the end of a block scalar. -/
inductive Chomp where
  | strip
  | clip
  | keep
  deriving Repr, DecidableEq

/-- The chomping mark of a character. -/
def chompMark? : Option Char → Option Chomp
  | some '+' => some .keep
  | some '-' => some .strip
  | _ => none

/-- Reads the marks behind `|` or `>`, in either order. -/
def readBlockMarks (c : Cursor) : Except Problem (Chomp × Nat × Cursor) :=
  let digit? (c : Cursor) : Option Nat := c.peek.bind fun d =>
    if d.isDigit then some (d.toNat - '0'.toNat) else none
  match chompMark? c.peek with
  | some ch =>
    match digit? c.skip with
    | some 0 => .error .badBlockHeader
    | some n => .ok (ch, n, c.skipN 2)
    | none => .ok (ch, 0, c.skip)
  | none =>
    match digit? c with
    | some 0 => .error .badBlockHeader
    | some n =>
      match chompMark? (c.peekAt 1) with
      | some ch => .ok (ch, n, c.skipN 2)
      | none => .ok (.clip, n, c.skip)
    | none => .ok (.clip, 0, c)

/-- Reads indentation and empty lines. `indent` is zero as long as it is unknown; `widest` is the
widest indentation seen. -/
def readBlockBreaks (indent : Nat) : Nat → Nat → String → Cursor →
    Except Problem (Nat × String × Cursor)
  | 0, widest, s, c => .ok (widest, s, c)
  | fuel + 1, widest, s, c =>
    let spaces := (c.rest.takeWhile (· == ' ')).length
    let c := c.skipN (if indent == 0 then spaces else spaces.min (indent - c.column))
    let widest := widest.max c.column
    if (indent == 0 || c.column < indent) && c.sees '\t' then .error .tabIndent
    else if c.peek.any isBreak then
      let (text, next) := c.readBreak
      readBlockBreaks indent fuel widest (s ++ text) next
    else .ok (widest, s, c)

/-- The text of a block scalar while it is read. -/
structure BlockText where
  text : String := ""
  first : String := ""
  more : String := ""
  blank : Bool := false

/-- Adds the breaks before a line that starts with a blank or not. -/
def BlockText.join (b : BlockText) (literal blank : Bool) : String :=
  if !literal && b.first == "\n" && !b.blank && !blank then
    b.text ++ (if b.more.isEmpty then " " else "") ++ b.more
  else b.text ++ b.first ++ b.more

/-- Reads the lines of a block scalar. -/
def readBlockLines (literal : Bool) (indent : Nat) : Nat → BlockText → Cursor →
    Except Problem (BlockText × Cursor)
  | 0, b, c => .ok (b, c)
  | fuel + 1, b, c =>
    if c.column != indent || c.peek.isNone then .ok (b, c)
    else do
      let blank := c.peek.any isSpaceTab
      let text := b.join literal blank
      let (line, c) := c.takeWhile (!isBreak ·)
      let (first, c) := c.readBreak
      let (_, more, c) ← readBlockBreaks indent (c.rest.length + 1) 0 "" c
      readBlockLines literal indent fuel ⟨text ++ String.ofList line, first, more, blank⟩ c

/-- Reads a block scalar within a block of the given indent; the cursor stands at `|` or `>`. -/
def readBlock (literal : Bool) (parent : Int) (c : Cursor) :
    Except Problem (String × Cursor) := do
  let (chomp, increment, c) ← readBlockMarks c.skip
  let c := c.skipWhile isSpaceTab
  let c := if c.sees '#' then c.skipLine else c
  if !isLineEnd c.peek then .error .badBlockHeader
  else
    let c := c.skipBreak
    let given : Nat := if increment == 0 then 0
      else (if parent ≥ 0 then parent + increment else (increment : Int)).toNat
    let (widest, more, c) ← readBlockBreaks given (c.rest.length + 1) 0 "" c
    let indent := if given == 0 then (widest.max (parent + 1).toNat).max 1 else given
    let (b, c) ← readBlockLines literal indent (c.rest.length + 1) { more } c
    let text := match chomp with
      | .strip => b.text
      | .clip => b.text ++ b.first
      | .keep => b.text ++ b.first ++ b.more
    .ok (text, c)

end LintScan.Yaml
