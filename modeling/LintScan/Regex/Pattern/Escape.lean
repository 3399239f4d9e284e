import LintScan.Regex.Pattern.Property

/-!
# Escape sequences

* `escapeChar` — the text that stands for a character alone, whatever else it may mean.
* `Atom` — what one escape sequence stands for.
* `readEscape` — reads the sequence behind a backslash.
-/

namespace LintScan.Regex

/-- What an escape sequence, or a plain character, stands for. A `fixed` literal is written with
exactly two hexadecimal digits. -/
inductive Atom where
  | literal (c : Char) (fixed : Bool)
  | set (s : CharSet)
  | look (a : Anchor)

/-- Characters that mean something in a pattern. -/
def isMeta (c : Char) : Bool := "\\.+*?()|[]\x7b\x7d^$#&-~".toList.contains c

/-- The text that stands for a character alone. -/
def escapeChar (c : Char) : List Char := if isMeta c then ['\\', c] else [c]

/-- Characters that may stand behind a backslash for themselves. -/
def isEscapable (c : Char) : Bool :=
  isMeta c || (c.toNat < 0x80 && !c.isAlphanum && c != '<' && c != '>')

/-- Reads hexadecimal digits up to a closing brace. -/
def readHexBraced (f : Flags) : Nat → List Nat → List Char →
    Except PatternError (List Nat × List Char)
  | 0, _, _ => .error .escape
  | fuel + 1, digits, cs =>
    match f.skip cs with
    | [] => .error .escape
    | '\x7d' :: rest => .ok (digits, f.skip rest)
    | c :: rest =>
      match hexValue? c with
      | some d => readHexBraced f fuel (digits ++ [d]) rest
      | none => .error .escape

/-- Reads exactly `n` hexadecimal digits. -/
def readHexFixed (f : Flags) : Nat → List Nat → List Char →
    Except PatternError (List Nat × List Char)
  | 0, digits, cs => .ok (digits, f.skip cs)
  | n + 1, digits, cs =>
    match f.skip cs with
    | [] => .error .escape
    | c :: rest =>
      match hexValue? c with
      | some d => readHexFixed f n (digits ++ [d]) rest
      | none => .error .escape

/-- Reads a code point in hexadecimal, with `n` digits or in braces. -/
def readHex (f : Flags) (n : Nat) (cs : List Char) : Except PatternError (Atom × List Char) := do
  let (braced, digits, rest) ← match f.skip cs with
    | [] => .error .escape
    | '\x7b' :: rest => do
      let (digits, rest) ← readHexBraced f (rest.length + 1) [] rest
      pure (true, digits, rest)
    | cs => do
      let (digits, rest) ← readHexFixed f n [] cs
      pure (false, digits, rest)
  match digits.isEmpty, (smallNat? 16 digits).bind charOf? with
  | false, some c => .ok (.literal c (!braced && n == 2), rest)
  | _, _ => .error .escape

/-- The text before the first `sep` and the text behind it. -/
def cutAt? (sep : List Char) : List Char → Option (List Char × List Char)
  | [] => none
  | c :: rest =>
    if sep.isPrefixOf (c :: rest) then some ([], (c :: rest).drop sep.length)
    else (cutAt? sep rest).map fun (a, b) => (c :: a, b)

/-- The set named between the braces of a property, and whether it is negated once more. -/
def bracedProperty? (name : List Char) : Option (CharSet × Bool) :=
  match cutAt? ['!', '='] name with
  | some (p, v) => (valueSet? p v).map (·, true)
  | none =>
    match (cutAt? [':'] name).or (cutAt? ['='] name) with
    | some (p, v) => (valueSet? p v).map (·, false)
    | none => (propertySet? name).map (·, false)

/-- Reads the name of a property up to the closing brace. -/
def readBraced (f : Flags) : Nat → List Char → List Char → Option (List Char × List Char)
  | 0, _, _ => none
  | fuel + 1, name, cs =>
    match f.skip cs with
    | [] => none
    | '\x7d' :: rest => some (name, rest)
    | c :: rest => readBraced f fuel (name ++ [c]) rest

/-- Reads a property behind `\p` or `\P`. -/
def readProperty (f : Flags) (negated : Bool) (cs : List Char) :
    Except PatternError (Atom × List Char) := do
  let (found, rest) ← match f.skip cs with
    | [] => .error .escape
    | '\x7b' :: rest =>
      match readBraced f (rest.length + 1) [] rest with
      | none => .error .escape
      | some (name, rest) => .ok (bracedProperty? name, rest)
    | '\\' :: _ => .error .property
    | c :: rest => .ok ((propertySet? [c]).map (·, false), f.skip rest)
  match found with
  | none => .error .property
  | some (s, again) =>
    if !f.unicode then .error .invalidText
    else do
      let s ← f.negate (negated != again) (f.fold s)
      .ok (.set s, rest)

/-- The kinds of word edges named between braces behind `\b`. -/
def namedEdge? (ascii : Bool) (name : String) : Option Anchor :=
  if name == "start" then some (.wordStart ascii)
  else if name == "end" then some (.wordEnd ascii)
  else if name == "start-half" then some (.wordStartHalf ascii)
  else if name == "end-half" then some (.wordEndHalf ascii)
  else none

/-- Reads the letters and hyphens of an edge name. -/
def readEdgeName (f : Flags) : Nat → List Char → List Char → List Char × List Char
  | 0, name, cs => (name, cs)
  | fuel + 1, name, cs =>
    match cs with
    | c :: rest =>
      if c.isAlpha || c == '-' then readEdgeName f fuel (name ++ [c]) (f.skip rest) else (name, cs)
    | [] => (name, [])

/-- Reads what may stand in braces behind `\b`: the name of an edge, or nothing if a repetition
count follows. -/
def readEdge (f : Flags) (cs : List Char) : Except PatternError (Atom × List Char) :=
  let plain := Atom.look (.wordEdge (!f.unicode))
  match cs with
  | '\x7b' :: rest =>
    match f.skip rest with
    | [] => .error .escape
    | c :: rest' =>
      if c.isAlpha || c == '-' then
        let (name, after) := readEdgeName f (rest'.length + 2) [] (c :: rest')
        match after, namedEdge? (!f.unicode) (String.ofList name) with
        | '\x7d' :: after, some a => .ok (.look a, after)
        | _, _ => .error .escape
      else .ok (plain, cs)
  | _ => .ok (plain, cs)

/-- A class of characters named by one letter. -/
def namedClass (f : Flags) (ascii wide : CharSet) (negated : Bool) (rest : List Char) :
    Except PatternError (Atom × List Char) := do
  let s ← f.negate negated (if f.unicode then wide else ascii)
  .ok (.set s, rest)

/-- Reads the escape sequence behind a backslash. -/
def readEscape (f : Flags) : List Char → Except PatternError (Atom × List Char)
  | [] => .error .escape
  | c :: rest =>
    let ascii := !f.unicode
    match c with
    | 'x' => readHex f 2 rest
    | 'u' => readHex f 4 rest
    | 'U' => readHex f 8 rest
    | 'p' => readProperty f false rest
    | 'P' => readProperty f true rest
    | 'd' => namedClass f .asciiDigit .digit false rest
    | 'D' => namedClass f .asciiDigit .digit true rest
    | 's' => namedClass f .asciiBlank .blank false rest
    | 'S' => namedClass f .asciiBlank .blank true rest
    | 'w' => namedClass f .asciiWord .word false rest
    | 'W' => namedClass f .asciiWord .word true rest
    | 'a' => .ok (.literal '\x07' false, rest)
    | 'f' => .ok (.literal '\x0c' false, rest)
    | 't' => .ok (.literal '\t' false, rest)
    | 'n' => .ok (.literal '\n' false, rest)
    | 'r' => .ok (.literal '\r' false, rest)
    | 'v' => .ok (.literal '\x0b' false, rest)
    | 'A' => .ok (.look .textStart, rest)
    | 'z' => .ok (.look .textEnd, rest)
    | 'b' => readEdge f rest
    | 'B' => .ok (.look (.noWordEdge ascii), rest)
    | '<' => .ok (.look (.wordStart ascii), rest)
    | '>' => .ok (.look (.wordEnd ascii), rest)
    | c => if isEscapable c then .ok (.literal c false, rest) else .error .escape

end LintScan.Regex
