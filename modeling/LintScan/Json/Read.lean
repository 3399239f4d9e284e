import LintScan.Decimal.Read
import LintScan.Json.Basic

/-!
# Reading JSON

* `Json.read?` — the value of a text that holds one value and blanks around it.
* `Json.readFor?` — the same, read for the members of some names. What stands below any other
  member has to be well-formed, but its strings need not spell whole characters.
* `readStringBody`, `readNumber` — strings behind their opening quote, and numbers.
-/

namespace LintScan.Json

/-- The blanks between the parts of a JSON text. -/
def isGap (c : Char) : Bool := c == ' ' || c == '\t' || c == '\n' || c == '\r'

/-- The value of a digit in base sixteen. -/
def hexValue? (c : Char) : Option Nat :=
  if '0' ≤ c ∧ c ≤ '9' then some (c.toNat - '0'.toNat)
  else if 'a' ≤ c ∧ c ≤ 'f' then some (c.toNat - 'a'.toNat + 10)
  else if 'A' ≤ c ∧ c ≤ 'F' then some (c.toNat - 'A'.toNat + 10)
  else none

/-- The code unit that four hexadecimal digits spell. -/
def unit? (a b c d : Char) : Option Nat := do
  let a ← hexValue? a
  let b ← hexValue? b
  let c ← hexValue? c
  let d ← hexValue? d
  some (((a * 16 + b) * 16 + c) * 16 + d)

/-- The character that a letter behind a backslash stands for. -/
def simpleEscape? : Char → Option Char
  | '"' => some '"'
  | '\\' => some '\\'
  | '/' => some '/'
  | 'b' => some '\x08'
  | 'f' => some '\x0c'
  | 'n' => some '\n'
  | 'r' => some '\r'
  | 't' => some '\t'
  | _ => none

/-- The character that half of a surrogate pair stands for where it stands alone: none in a strict
text, and otherwise the replacement character. -/
def loneHalf? (strict : Bool) : Option Char := if strict then none else some '\ufffd'

/-- Reads the characters of a string up to the closing quote. Control characters have to be
escaped, and in a strict text halves of a surrogate pair may not stand alone. -/
def readStringBody (strict : Bool) : List Char → Option (List Char × List Char)
  | [] => none
  | '"' :: rest => some ([], rest)
  | '\\' :: 'u' :: a :: b :: c :: d :: '\\' :: 'u' :: e :: f :: g :: h :: rest =>
    match unit? a b c d, unit? e f g h with
    | some hi, some lo =>
      if (0xd800 ≤ hi ∧ hi < 0xdc00) ∧ 0xdc00 ≤ lo ∧ lo < 0xe000 then
        (readStringBody strict rest).map fun (s, r) =>
          (Char.ofNat (0x10000 + (hi - 0xd800) * 0x400 + (lo - 0xdc00)) :: s, r)
      else do
        let first ← if 0xd800 ≤ hi ∧ hi < 0xe000 then loneHalf? strict else some (Char.ofNat hi)
        (readStringBody strict ('\\' :: 'u' :: e :: f :: g :: h :: rest)).map fun (s, r) =>
          (first :: s, r)
    | _, _ => none
  | '\\' :: 'u' :: a :: b :: c :: d :: rest => do
    let n ← unit? a b c d
    let first ← if 0xd800 ≤ n ∧ n < 0xe000 then loneHalf? strict else some (Char.ofNat n)
    (readStringBody strict rest).map fun (s, r) => (first :: s, r)
  | '\\' :: c :: rest =>
    match simpleEscape? c with
    | some e => (readStringBody strict rest).map fun (s, r) => (e :: s, r)
    | none => none
  | c :: rest =>
    if c = '\\' ∨ c.toNat < 0x20 then none
    else (readStringBody strict rest).map fun (s, r) => (c :: s, r)

/-- The digits at the head, at least one, and the rest. -/
def readDigits (cs : List Char) : Option (List Char × List Char) :=
  let ds := cs.takeWhile Char.isDigit
  if ds.isEmpty then none else some (ds, cs.dropWhile Char.isDigit)

/-- Reads the whole part of a number; a zero may not stand before other digits. -/
def readWhole : List Char → Option (List Char × List Char)
  | '0' :: rest => if (rest.head?.any Char.isDigit) then none else some (['0'], rest)
  | cs => readDigits cs

/-- Reads the fraction of a number, if it has one. -/
def readFraction : List Char → Option (List Char × List Char)
  | '.' :: rest => (readDigits rest).map fun (ds, r) => ('.' :: ds, r)
  | cs => some ([], cs)

/-- Reads the exponent of a number, if it has one. -/
def readExponent : List Char → Option (List Char × List Char)
  | c :: rest =>
    if c == 'e' || c == 'E' then
      let (sign, rest) := match rest with
        | '+' :: r => (['+'], r)
        | '-' :: r => (['-'], r)
        | r => ([], r)
      (readDigits rest).map fun (ds, r) => (c :: sign ++ ds, r)
    else some ([], c :: rest)
  | [] => some ([], [])

/-- Reads a number. -/
def readNumber (cs : List Char) : Option (List Char × List Char) := do
  let (sign, cs) := match cs with
    | '-' :: rest => (['-'], rest)
    | cs => ([], cs)
  let (whole, cs) ← readWhole cs
  let (fraction, cs) ← readFraction cs
  let (exponent, cs) ← readExponent cs
  some (sign ++ whole ++ fraction ++ exponent, cs)

mutual

/-- Reads a value, with or without blanks before it. -/
def readValue (wanted : String → Bool) (strict : Bool) : Nat → List Char → Option (Json × List Char)
  | 0, _ => none
  | fuel + 1, cs =>
    match cs.dropWhile isGap with
    | 'n' :: 'u' :: 'l' :: 'l' :: rest => some (.null, rest)
    | 't' :: 'r' :: 'u' :: 'e' :: rest => some (.bool true, rest)
    | 'f' :: 'a' :: 'l' :: 's' :: 'e' :: rest => some (.bool false, rest)
    | '"' :: rest => (readStringBody strict rest).map fun (s, r) => (.string (String.ofList s), r)
    | '[' :: rest =>
      match rest.dropWhile isGap with
      | ']' :: rest => some (.array [], rest)
      | rest => (readItems wanted strict fuel rest).map fun (vs, r) => (.array vs, r)
    | '\x7b' :: rest =>
      match rest.dropWhile isGap with
      | '\x7d' :: rest => some (.object [], rest)
      | rest => (readMembers wanted strict fuel rest).map fun (ms, r) => (.object ms, r)
    | cs => (readNumber cs).map fun (t, r) => (.number (String.ofList t), r)

/-- Reads the items of an array up to its closing bracket. -/
def readItems (wanted : String → Bool) (strict : Bool) :
    Nat → List Char → Option (List Json × List Char)
  | 0, _ => none
  | fuel + 1, cs => do
    let (v, cs) ← readValue wanted strict fuel cs
    match cs.dropWhile isGap with
    | ',' :: rest => (readItems wanted strict fuel rest).map fun (vs, r) => (v :: vs, r)
    | ']' :: rest => some ([v], rest)
    | _ => none

/-- Reads the members of an object up to its closing brace. -/
def readMembers (wanted : String → Bool) (strict : Bool) :
    Nat → List Char → Option (List (String × Json) × List Char)
  | 0, _ => none
  | fuel + 1, cs =>
    match cs.dropWhile isGap with
    | '"' :: rest => do
      let (k, rest) ← readStringBody strict rest
      let name := String.ofList k
      match rest.dropWhile isGap with
      | ':' :: rest => do
        let (v, rest) ← readValue wanted (strict && wanted name) fuel rest
        match rest.dropWhile isGap with
        | ',' :: rest =>
          (readMembers wanted strict fuel rest).map fun (ms, r) => ((name, v) :: ms, r)
        | '\x7d' :: rest => some ([(name, v)], rest)
        | _ => none
      | _ => none
    | _ => none

end

/-- The value of a text that holds one value and blanks around it, read for the members of the
wanted names. -/
def readFor? (wanted : String → Bool) (text : String) : Option Json :=
  let cs := text.toList
  match readValue wanted true (2 * cs.length + 2) cs with
  | some (v, rest) => if rest.all isGap then some v else none
  | none => none

/-- The value of a text that holds one value and blanks around it. -/
def read? (text : String) : Option Json := readFor? (fun _ => true) text

/-- The number that digits spell, if there is nothing but digits. -/
def naturalOf? (ds : List Char) : Option Nat :=
  if ds.all Char.isDigit then
    some (ds.foldl (fun (n : Nat) (d : Char) => n * 10 + (d.toNat - '0'.toNat)) 0)
  else none

/-- The number of a value that is an integer of 64 bits with a sign. A negative zero is none. -/
def int64? : Json → Option Int
  | number text =>
    let n? : Option Int := match text.toList with
      | '-' :: ds => (naturalOf? ds).bind fun n => if n = 0 then none else some (-(n : Int))
      | ds => (naturalOf? ds).map Int.ofNat
    n?.bind fun n => if Decimal.fitsSigned 64 n then some n else none
  | _ => none

end LintScan.Json
