import LintScan.Decimal.Shortest
import LintScan.Yaml.Value.Resolve

/-!
# Writing values in block style

* `Layout` — what a text holds that decides how it may be written.
* `scalarText` — a string plain, in quotes or as a block, whichever reads back as the string.
* `Value.block` — a value over several lines: mappings and sequences by indentation, empty ones in
  brackets.
* `Value.isWritable` — the values that can be written at all.
-/

namespace LintScan.Yaml

/-- What a text holds, character by character. -/
structure Layout where
  indicator : Bool := false
  lines : Bool := false
  special : Bool := false
  leadingGap : Bool := false
  trailingSpace : Bool := false
  trailingBreak : Bool := false
  breakSpace : Bool := false
  spaceBreak : Bool := false

/-- Characters that may be written as they are. -/
def isPrintable (c : Char) : Bool :=
  let n := c.toNat
  n == 0xa || (0x20 ≤ n && n ≤ 0x7e) || (0xa0 ≤ n && n ≤ 0xfffd && n != 0xfeff)

/-- Whether a character may not stand at its place in a plain scalar. `before` is none at the
head. -/
def isIndicatorAt (before : Option Char) (c : Char) (after : Option Char) : Bool :=
  match before with
  | none =>
    "#,[]\x7b\x7d&*!|>'\"%@".toList.contains c || c == Char.ofNat 96
      || ((c == '?' || c == ':' || c == '-') && isGap after)
  | some b => (c == ':' && isGap after) || (c == '#' && isGap (some b))

/-- The layout of the characters behind `before`. -/
def layoutFrom (before : Option Char) (l : Layout) : List Char → Layout
  | [] => l
  | c :: rest =>
    let space := c == ' '
    let brk := isBreak c
    layoutFrom (some c)
      { indicator := l.indicator || isIndicatorAt before c rest.head?
        lines := l.lines || brk
        special := l.special || !isPrintable c
        leadingGap := l.leadingGap || (before.isNone && (space || brk))
        trailingSpace := l.trailingSpace || (rest.isEmpty && space)
        trailingBreak := l.trailingBreak || (rest.isEmpty && brk)
        breakSpace := l.breakSpace || (space && before.any isBreak)
        spaceBreak := l.spaceBreak || (brk && before == some ' ') } rest

/-- The layout of a text. -/
def layoutOf (cs : List Char) : Layout :=
  let marked := cs.take 3 == ['-', '-', '-'] || cs.take 3 == ['.', '.', '.']
  layoutFrom none { indicator := marked } cs

/-- Whether a text may be written without quotes. -/
def Layout.allowsPlain (l : Layout) : Bool :=
  !(l.indicator || l.lines || l.special || l.leadingGap || l.trailingSpace || l.trailingBreak
    || l.breakSpace || l.spaceBreak)

/-- Whether a text may be written in single quotes. -/
def Layout.allowsSingle (l : Layout) : Bool := !(l.special || l.breakSpace || l.spaceBreak)

/-- Whether a text may be written as a literal block. -/
def Layout.allowsBlock (l : Layout) : Bool := !(l.special || l.trailingSpace || l.spaceBreak)

/-- The digits of a number in base sixteen, padded to a width. -/
def hexPadded (width n : Nat) : List Char :=
  let digits := (Nat.toDigits 16 n).map Char.toUpper
  List.replicate (width - digits.length) '0' ++ digits

/-- The escape sequence of a character in double quotes. -/
def escapeChar (c : Char) : List Char :=
  match c.toNat with
  | 0x00 => ['\\', '0']
  | 0x07 => ['\\', 'a']
  | 0x08 => ['\\', 'b']
  | 0x09 => ['\\', 't']
  | 0x0a => ['\\', 'n']
  | 0x0b => ['\\', 'v']
  | 0x0c => ['\\', 'f']
  | 0x0d => ['\\', 'r']
  | 0x1b => ['\\', 'e']
  | 0x22 => ['\\', '"']
  | 0x5c => ['\\', '\\']
  | 0x85 => ['\\', 'N']
  | 0xa0 => ['\\', '_']
  | 0x2028 => ['\\', 'L']
  | 0x2029 => ['\\', 'P']
  | n =>
    if n ≤ 0xff then '\\' :: 'x' :: hexPadded 2 n
    else if n ≤ 0xffff then '\\' :: 'u' :: hexPadded 4 n
    else '\\' :: 'U' :: hexPadded 8 n

/-- A text in double quotes. -/
def doubleQuoted (cs : List Char) : String :=
  let body := cs.flatMap fun c =>
    if !isPrintable c || isBreak c || c == '"' || c == '\\' then escapeChar c else [c]
  String.ofList ('"' :: body ++ ['"'])

/-- Spaces. -/
def spaces (n : Nat) : String := String.ofList (List.replicate n ' ')

/-- A text whose lines are indented, the first one as well with `atStart`; empty lines are not. -/
def indentLines (indent : Nat) (atStart : Bool) : List Char → String
  | [] => ""
  | c :: rest =>
    if isBreak c then c.toString ++ indentLines indent true rest
    else (if atStart then spaces indent else "") ++ c.toString ++ indentLines indent false rest

/-- A text in single quotes; further lines stand at `indent`. -/
def singleQuoted (indent : Nat) (cs : List Char) : String :=
  let body := cs.flatMap fun c => if c == '\'' then ['\'', '\''] else [c]
  indentLines indent false ('\'' :: body ++ ['\''])

/-- The mark of a literal block: whether its first line is indented further, and what becomes of the
breaks at its end. -/
def literalMark (cs : List Char) : String :=
  let hint := if cs.head?.any (fun c => c == ' ' || isBreak c) then "2" else ""
  let chomp := match cs.reverse with
    | [] => "-"
    | [c] => if isBreak c then "+" else "-"
    | c :: d :: _ => if !isBreak c then "-" else if isBreak d then "+" else ""
  "|" ++ hint ++ chomp

/-- A text as a literal block. -/
def literalText (indent : Nat) (cs : List Char) : String :=
  literalMark cs ++ "\n" ++ indentLines indent true cs

/-- Whether a text written plain would be read as something other than a string. -/
def looksTyped (s : String) : Bool :=
  isPaddedDigits s.toList ||
    match resolvePlain s with
    | .ok (.string _) => false
    | _ => true

/-- The text of a string whose further lines stand at `indent`. -/
def scalarText (indent : Nat) (s : String) : String :=
  let cs := s.toList
  let l := layoutOf cs
  if cs.contains '\n' then if l.allowsBlock then literalText indent cs else doubleQuoted cs
  else if !looksTyped s && l.allowsPlain then s
  else if l.allowsSingle then singleQuoted indent cs
  else doubleQuoted cs

/-- The text of a number that is no integer. -/
def realText (x : Float) : String :=
  if x.isNaN then ".nan"
  else if x.isInf then if x < 0 then "-.inf" else ".inf"
  else Decimal.render x

/-- Where a value is written: at a fresh column, behind its key, or behind its tag. -/
inductive Place where
  | head
  | afterKey
  | afterTag
  deriving Repr, DecidableEq

/-- What stands between the place and a collection over several lines. -/
def Place.lineLead (p : Place) (indent : Nat) : String :=
  if p == .head then "" else "\n" ++ spaces indent

/-- What stands between the place and a value in one piece. -/
def Place.inlineLead (p : Place) : String := if p == .head then "" else " "

/-- The column of the keys of a mapping; as a value it stands deeper than its key. -/
def Place.mapIndent (p : Place) (indent : Nat) : Nat :=
  if p == .afterKey then indent + 2 else indent

/-- The column of further lines of a string. -/
def Place.textIndent (p : Place) (indent : Nat) : Nat :=
  if p == .afterKey then indent + 2 else indent.max 2

/-- Texts one under the other, all but the first indented; a text may end its last line itself. -/
def stackLines (indent : Nat) : List String → String
  | [] => ""
  | [text] => text
  | text :: rest =>
    let ended := text.toList.getLast?.any isBreak
    text ++ (if ended then "" else "\n") ++ spaces indent ++ stackLines indent rest

namespace Value

/-- Whether a value may be written on one line in front of a colon: collections have to be empty,
and strings and tags have to be short. `room` is the number of bytes left. -/
def fitsAsKey (room : Nat) : Value → Bool
  | seq items => items.isEmpty
  | map pairs => pairs.isEmpty
  | string s => !(layoutOf s.toList).lines && s.utf8ByteSize ≤ room
  | tagged t v => t.utf8ByteSize + 1 ≤ room && v.fitsAsKey (room - t.utf8ByteSize - 1)
  | _ => true

/-- The greatest number of bytes of a key on one line. -/
def keyRoom : Nat := 128

mutual

/-- The text of a value in a block whose column is `indent`. -/
def blockAt (place : Place) (indent : Nat) : Value → String
  | null => place.inlineLead ++ "null"
  | bool b => place.inlineLead ++ (if b then "true" else "false")
  | int n => place.inlineLead ++ toString n
  | real x => place.inlineLead ++ realText x
  | string s => place.inlineLead ++ scalarText (place.textIndent indent) s
  | seq vs =>
    if vs.isEmpty then place.inlineLead ++ "[]"
    else place.lineLead indent ++ stackLines indent (itemsAt indent vs)
  | map ps =>
    let column := place.mapIndent indent
    if ps.isEmpty then place.inlineLead ++ "\x7b\x7d"
    else place.lineLead column ++ stackLines column (pairsAt column ps)
  | tagged t v =>
    place.inlineLead ++ "!" ++ t ++ blockAt (if place == .head then .afterTag else place) indent v

/-- The texts of the items of a sequence. -/
def itemsAt (indent : Nat) : List Value → List String
  | [] => []
  | v :: vs => ("- " ++ blockAt .head (indent + 2) v) :: itemsAt indent vs

/-- The texts of the pairs of a mapping. A key that does not fit on a line is marked by `?`. -/
def pairsAt (indent : Nat) : List (Value × Value) → List String
  | [] => []
  | (k, v) :: ps =>
    (if k.fitsAsKey keyRoom then blockAt .head indent k ++ ":" ++ blockAt .afterKey indent v
      else stackLines indent
        ["? " ++ blockAt .head (indent + 2) k, ": " ++ blockAt .head (indent + 2) v])
      :: pairsAt indent ps

end

/-- The text of a value in block style. -/
def block (v : Value) : String := blockAt .head 0 v

/-- Whether a value opens only with what it holds: a mapping of one pair may yet turn out to be a
tagged value. -/
def opensLate : Value → Bool
  | tagged _ _ => true
  | map [_] => true
  | _ => false

/-- Whether a mapping is never opened: it opens late, and its key does so in its place. -/
def losesStart : List (Value × Value) → Bool
  | [(k, _)] => k.opensLate
  | _ => false

mutual

/-- Whether a value can be written. What stands behind a tag opens at once, and may not be tagged
again. -/
def isWritable (behindTag : Bool) : Value → Bool
  | seq vs => areWritable vs
  | map ps => (behindTag || !losesStart ps) && arePairsWritable ps
  | tagged _ v => !behindTag && v.isWritable true
  | _ => true

/-- Whether the items of a sequence can be written. -/
def areWritable : List Value → Bool
  | [] => true
  | v :: vs => v.isWritable false && areWritable vs

/-- Whether the pairs of a mapping can be written. -/
def arePairsWritable : List (Value × Value) → Bool
  | [] => true
  | (k, v) :: ps => k.isWritable false && v.isWritable false && arePairsWritable ps

end

end Value

end LintScan.Yaml
