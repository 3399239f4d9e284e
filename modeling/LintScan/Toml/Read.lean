import LintScan.Decimal.Read
import LintScan.Toml.Basic

/-!
# Reading TOML

* `readString`, `readNumber`, `readKey` — the parts of a statement.
* `Toml.readValue` — a value: a string, a number, a date, an array or an inline table.
* `TomlTable.ofText?` — the table of a document, if the document is well formed.
-/

namespace LintScan.Toml

/-- A space or a tab. -/
def isGap (c : Char) : Bool := c == ' ' || c == '\t'

/-- Characters that may not stand in strings and comments. -/
def isControl (c : Char) : Bool := (c.toNat < 0x20 && c != '\t') || c.toNat == 0x7f

/-- The value of a digit in base sixteen. -/
def hexValue? (c : Char) : Option Nat :=
  if '0' ≤ c ∧ c ≤ '9' then some (c.toNat - '0'.toNat)
  else if 'a' ≤ c ∧ c ≤ 'f' then some (c.toNat - 'a'.toNat + 10)
  else if 'A' ≤ c ∧ c ≤ 'F' then some (c.toNat - 'A'.toNat + 10)
  else none

/-- The text behind spaces and tabs. -/
def skipGap (cs : List Char) : List Char := cs.dropWhile isGap

/-- The text behind a line break. -/
def readBreak? : List Char → Option (List Char)
  | '\n' :: rest => some rest
  | '\r' :: '\n' :: rest => some rest
  | _ => none

/-- The text behind a comment, if one begins here and holds no control characters. -/
def skipComment : List Char → Option (List Char)
  | '#' :: rest =>
    let body := rest.takeWhile fun c => c != '\n' && c != '\r'
    if body.any isControl then none else some (rest.drop body.length)
  | cs => some cs

/-- The text behind blanks, comments and line breaks. -/
def skipLines : Nat → List Char → Option (List Char)
  | 0, cs => some cs
  | fuel + 1, cs => do
    let cs ← skipComment (skipGap cs)
    match readBreak? cs with
    | some rest => skipLines fuel rest
    | none => some cs

/-! ## Strings -/

/-- Reads `n` hexadecimal digits. -/
def readHex : Nat → Nat → List Char → Option (Nat × List Char)
  | 0, v, cs => some (v, cs)
  | n + 1, v, c :: cs => do
    let d ← hexValue? c
    readHex n (v * 16 + d) cs
  | _ + 1, _, [] => none

/-- Reads the escape sequence behind a backslash. -/
def readEscape : List Char → Option (Char × List Char)
  | 'b' :: rest => some ('\x08', rest)
  | 't' :: rest => some ('\t', rest)
  | 'n' :: rest => some ('\n', rest)
  | 'f' :: rest => some ('\x0c', rest)
  | 'r' :: rest => some ('\r', rest)
  | '"' :: rest => some ('"', rest)
  | '\\' :: rest => some ('\\', rest)
  | 'u' :: rest => do
    let (n, rest) ← readHex 4 0 rest
    if n.isValidChar then some (Char.ofNat n, rest) else none
  | 'U' :: rest => do
    let (n, rest) ← readHex 8 0 rest
    if n.isValidChar then some (Char.ofNat n, rest) else none
  | _ => none

/-- Reads a string in double quotes on one line. -/
def readBasic : Nat → String → List Char → Option (String × List Char)
  | 0, _, _ => none
  | _ + 1, _, [] => none
  | fuel + 1, s, c :: rest =>
    if c == '"' then some (s, rest)
    else if c == '\\' then do
      let (e, rest) ← readEscape rest
      readBasic fuel (s.push e) rest
    else if isControl c then none
    else readBasic fuel (s.push c) rest

/-- Reads a string in single quotes on one line. -/
def readLiteral : String → List Char → Option (String × List Char)
  | _, [] => none
  | s, c :: rest =>
    if c == '\'' then some (s, rest) else if isControl c then none else readLiteral (s.push c) rest

/-- The quotes at the head of a string of several lines: three of them close it, and one or two more
belong to the string. -/
def closing (q : Char) (cs : List Char) : Option (String × List Char) :=
  let n := (cs.takeWhile (· == q)).length
  if n < 3 then none
  else
    let kept := (n - 3).min 2
    some (String.ofList (List.replicate kept q), cs.drop (kept + 3))

/-- Reads a string of several lines up to its three closing quotes. -/
def readLong (q : Char) : Nat → String → List Char → Option (String × List Char)
  | 0, _, _ => none
  | _ + 1, _, [] => none
  | fuel + 1, s, c :: rest =>
    match closing q (c :: rest) with
    | some (tail, rest) => some (s ++ tail, rest)
    | none =>
      match readBreak? (c :: rest) with
      | some rest => readLong q fuel (s.push '\n') rest
      | none =>
        if q == '"' && c == '\\' then
          match readBreak? (skipGap rest) with
          | some more =>
            readLong q fuel s (more.dropWhile fun d => isGap d || d == '\n' || d == '\r')
          | none => do
            let (e, rest) ← readEscape rest
            readLong q fuel (s.push e) rest
        else if isControl c then none
        else readLong q fuel (s.push c) rest

/-- Reads a string; with `long`, one of several lines as well. -/
def readString (long : Bool) (cs : List Char) : Option (String × List Char) :=
  let afterBreak (rest : List Char) : List Char := (readBreak? rest).getD rest
  match cs with
  | '"' :: '"' :: '"' :: rest =>
    if long then readLong '"' (cs.length + 1) "" (afterBreak rest) else none
  | '\'' :: '\'' :: '\'' :: rest =>
    if long then readLong '\'' (cs.length + 1) "" (afterBreak rest) else none
  | '"' :: rest => readBasic (cs.length + 1) "" rest
  | '\'' :: rest => readLiteral "" rest
  | _ => none

/-! ## Keys -/

/-- Characters of a key without quotes. -/
def isKeyChar (c : Char) : Bool := c.isAlphanum || c == '_' || c == '-'

/-- Reads one part of a key. -/
def readSimpleKey (cs : List Char) : Option (String × List Char) :=
  match cs with
  | '"' :: _ => readString false cs
  | '\'' :: _ => readString false cs
  | _ =>
    let k := cs.takeWhile isKeyChar
    if k.isEmpty then none else some (String.ofList k, cs.drop k.length)

/-- Reads a dotted key. -/
def readKey : Nat → List Char → Option (List String × List Char)
  | 0, _ => none
  | fuel + 1, cs => do
    let (k, rest) ← readSimpleKey (skipGap cs)
    match skipGap rest with
    | '.' :: rest => do
      let (ks, rest) ← readKey fuel rest
      some (k :: ks, rest)
    | rest => some ([k], rest)

/-! ## Numbers and dates -/

/-- The digits of a number without the underscores, which have to stand between digits. -/
def digitsOf? (isDigit : Char → Bool) (afterDigit : Bool) : List Char → Option (List Char)
  | [] => if afterDigit then some [] else none
  | '_' :: rest => if afterDigit then digitsOf? isDigit false rest else none
  | c :: rest => if isDigit c then (digitsOf? isDigit true rest).map (c :: ·) else none

/-- The number that digits spell in a base. -/
def numberOf (base : Nat) (ds : List Char) : Nat :=
  ds.foldl (fun n d => n * base + (hexValue? d).getD 0) 0

/-- An integer of 64 bits. -/
def bounded (n : Int) : Option Toml :=
  if Decimal.fitsEither 64 n then some (.integer n) else none

/-- A decimal integer: no zero stands before other digits. -/
def decimalOf? (negative : Bool) (cs : List Char) : Option Toml := do
  let ds ← digitsOf? Char.isDigit false cs
  if ds.length > 1 && ds.head? == some '0' then none
  else
    let n : Int := numberOf 10 ds
    bounded (if negative then -n else n)

/-- Whether the text is a number with a fraction, an exponent or both. -/
def isFloat (cs : List Char) : Bool :=
  let whole := cs.takeWhile fun c => c.isDigit || c == '_'
  let rest := cs.drop whole.length
  let wholeOk := match digitsOf? Char.isDigit false whole with
    | some ds => ds.length == 1 || ds.head? != some '0'
    | none => false
  let exponentOk (cs : List Char) : Bool :=
    let body := match cs with
      | '+' :: r => r
      | '-' :: r => r
      | r => r
    (digitsOf? Char.isDigit false body).isSome
  wholeOk && match rest with
    | '.' :: more =>
      let frac := more.takeWhile fun c => c.isDigit || c == '_'
      (digitsOf? Char.isDigit false frac).isSome &&
        match more.drop frac.length with
        | [] => true
        | e :: more => (e == 'e' || e == 'E') && exponentOk more
    | e :: more => (e == 'e' || e == 'E') && exponentOk more
    | [] => false

/-- Whether the text has the form, in which `0` stands for a digit. -/
def hasForm (form cs : List Char) : Bool :=
  form.length == cs.length &&
    (form.zip cs).all fun (f, c) => if f == '0' then c.isDigit else f == c

/-- The number that two digits at a place spell. -/
def pairAt (cs : List Char) (i : Nat) : Nat := numberOf 10 ((cs.drop i).take 2)

/-- Whether the text is a day. -/
def isDay (cs : List Char) : Bool :=
  let month := pairAt cs 5
  let year := numberOf 10 (cs.take 4)
  let leap := year % 4 == 0 && (year % 100 != 0 || year % 400 == 0)
  let days := if month == 2 then (if leap then 29 else 28)
    else if [4, 6, 9, 11].contains month then 30 else 31
  hasForm "0000-00-00".toList cs && 1 ≤ month && month ≤ 12
    && 1 ≤ pairAt cs 8 && pairAt cs 8 ≤ days

/-- Whether the text is a time of day, with or without a fraction of a second. -/
def isTime (cs : List Char) : Bool :=
  hasForm "00:00:00".toList (cs.take 8) && pairAt cs 0 ≤ 23 && pairAt cs 3 ≤ 59 && pairAt cs 6 ≤ 60
    && match cs.drop 8 with
      | [] => true
      | '.' :: ds => !ds.isEmpty && ds.all Char.isDigit
      | _ => false

/-- Whether the text is a time of day with an offset. -/
def isZonedTime (cs : List Char) : Bool :=
  let clock := cs.takeWhile fun c => c.isDigit || c == ':' || c == '.'
  isTime clock && match cs.drop clock.length with
    | [] => true
    | ['Z'] => true
    | ['z'] => true
    | sign :: offset =>
      (sign == '+' || sign == '-') && hasForm "00:00".toList offset
        && pairAt offset 0 ≤ 23 && pairAt offset 3 ≤ 59

/-- Whether the text is a date, a time or both. -/
def isDate (cs : List Char) : Bool :=
  isTime cs || isDay cs ||
    (isDay (cs.take 10) && match cs.drop 10 with
      | t :: rest => (t == 'T' || t == 't' || t == ' ') && isZonedTime rest
      | [] => false)

/-- The number or date that a text stands for. -/
def numberOrDate? (cs : List Char) : Option Toml :=
  match cs with
  | '0' :: 'x' :: ds =>
    (digitsOf? (fun c => (hexValue? c).isSome) false ds).bind fun ds => bounded (numberOf 16 ds)
  | '0' :: 'o' :: ds =>
    (digitsOf? (fun c => '0' ≤ c && c ≤ '7') false ds).bind fun ds => bounded (numberOf 8 ds)
  | '0' :: 'b' :: ds =>
    (digitsOf? (fun c => c == '0' || c == '1') false ds).bind fun ds => bounded (numberOf 2 ds)
  | _ =>
    if isDate cs then some (.date (String.ofList cs))
    else
      let (negative, body) := match cs with
        | '-' :: r => (true, r)
        | '+' :: r => (false, r)
        | r => (false, r)
      if body == "inf".toList || body == "nan".toList || isFloat body then
        some (.float (String.ofList cs))
      else decimalOf? negative body

/-- Reads a number or a date. A space inside a date belongs to it if a time follows. -/
def readNumber (cs : List Char) : Option (Toml × List Char) :=
  let isPart (c : Char) : Bool := c.isAlphanum || "_+-.:".toList.contains c
  let word := cs.takeWhile isPart
  let rest := cs.drop word.length
  match rest with
  | ' ' :: more =>
    let time := more.takeWhile isPart
    if isDay word && isDate (word ++ ' ' :: time) then
      some (.date (String.ofList (word ++ ' ' :: time)), more.drop time.length)
    else (numberOrDate? word).map fun v => (v, rest)
  | _ => (numberOrDate? word).map fun v => (v, rest)

/-! ## Values -/

mutual

/-- Reads a value. -/
def readValue : Nat → List Char → Option (Toml × List Char)
  | 0, _ => none
  | fuel + 1, cs =>
    match cs with
    | '"' :: _ => (readString true cs).map fun (s, r) => (.string s, r)
    | '\'' :: _ => (readString true cs).map fun (s, r) => (.string s, r)
    | 't' :: 'r' :: 'u' :: 'e' :: rest => some (.boolean true, rest)
    | 'f' :: 'a' :: 'l' :: 's' :: 'e' :: rest => some (.boolean false, rest)
    | '[' :: rest => (readItems fuel rest).map fun (vs, r) => (.array vs, r)
    | '\x7b' :: rest =>
      match skipGap rest with
      | '\x7d' :: rest => some (.table .inline [], rest)
      | rest => (readPairs fuel [] rest).map fun (t, r) => (.table .inline t, r)
    | _ => readNumber cs

/-- Reads the items of an array up to its closing bracket. -/
def readItems : Nat → List Char → Option (List Toml × List Char)
  | 0, _ => none
  | fuel + 1, cs => do
    match ← skipLines (cs.length + 1) cs with
    | ']' :: rest => some ([], rest)
    | cs => do
      let (v, rest) ← readValue fuel cs
      match ← skipLines (rest.length + 1) rest with
      | ',' :: rest => (readItems fuel rest).map fun (vs, r) => (v :: vs, r)
      | ']' :: rest => some ([v], rest)
      | _ => none

/-- Reads the pairs of an inline table up to its closing brace. -/
def readPairs : Nat → TomlTable → List Char → Option (TomlTable × List Char)
  | 0, _, _ => none
  | fuel + 1, t, cs => do
    let (ks, rest) ← readKey (cs.length + 1) cs
    match rest with
    | '=' :: rest => do
      let (v, rest) ← readValue fuel (skipGap rest)
      let t ← t.define v ks
      match skipGap rest with
      | ',' :: rest => readPairs fuel t rest
      | '\x7d' :: rest => some (t, rest)
      | _ => none
    | _ => none

end

/-! ## Documents -/

/-- Reads the end of a statement: a comment, and a line break or the end of the text. -/
def readEnd (cs : List Char) : Option (List Char) := do
  match ← skipComment (skipGap cs) with
  | [] => some []
  | cs => readBreak? cs

/-- Reads the statements of a document. `path` is the header of the table opened last. -/
def readStatements : Nat → List String → TomlTable → List Char → Option TomlTable
  | 0, _, _, _ => none
  | fuel + 1, path, t, cs => do
    match ← skipLines (cs.length + 1) cs with
    | [] => some t
    | '[' :: '[' :: rest => do
      let (ks, rest) ← readKey (rest.length + 1) rest
      match rest with
      | ']' :: ']' :: rest => do
        let rest ← readEnd rest
        let t ← t.openElement ks
        readStatements fuel ks t rest
      | _ => none
    | '[' :: rest => do
      let (ks, rest) ← readKey (rest.length + 1) rest
      match rest with
      | ']' :: rest => do
        let rest ← readEnd rest
        let t ← t.openTable ks
        readStatements fuel ks t rest
      | _ => none
    | cs => do
      let (ks, rest) ← readKey (cs.length + 1) cs
      match rest with
      | '=' :: rest => do
        let rest := skipGap rest
        let (v, rest) ← readValue (rest.length + 1) rest
        let rest ← readEnd rest
        let t ← t.defineIn path ks v
        readStatements fuel path t rest
      | _ => none

end LintScan.Toml

namespace LintScan

/-- The table of a document, if the document is well formed. A byte order mark in front does not
count. -/
def TomlTable.ofText? (text : String) : Option TomlTable :=
  let cs := match text.toList with
    | '\ufeff' :: rest => rest
    | cs => cs
  Toml.readStatements (cs.length + 1) [] [] cs

end LintScan
