import LintScan.Decimal.Read
import LintScan.Regex.Basic

/-!
# Pattern texts

* `PatternError` — why a pattern is refused.
* `Flags` — the modes that `(?…)` sets and clears.
* `skipIgnored` — in extended mode, blanks and comments stand for nothing.
-/

namespace LintScan.Regex

/-- Why a pattern is refused. -/
inductive PatternError where
  | groupOpen
  | groupNotOpened
  | groupName
  | lookAround
  | flags
  | repetitionMissing
  | repetitionCount
  | escape
  | classOpen
  | classRange
  | property
  | invalidText
  | tooDeep
  | tooLarge
  deriving Repr, DecidableEq

/-- What is wrong with the pattern. -/
def PatternError.message : PatternError → String
  | groupOpen => "regex parse error: unclosed group"
  | groupNotOpened => "regex parse error: unopened group"
  | groupName => "regex parse error: invalid or repeated group name"
  | lookAround => "regex parse error: look-around is not supported"
  | flags => "regex parse error: invalid flags"
  | repetitionMissing => "regex parse error: repetition operator missing expression"
  | repetitionCount => "regex parse error: invalid repetition count"
  | escape => "regex parse error: unrecognized escape sequence"
  | classOpen => "regex parse error: unclosed character class"
  | classRange => "regex parse error: invalid character class range"
  | property => "regex parse error: unknown property"
  | invalidText => "regex parse error: pattern can match ill-formed text"
  | tooDeep => "regex parse error: nesting is too deep"
  | tooLarge => "Compiled regex exceeds size limit"

/-- The modes of matching. -/
structure Flags where
  anyCase : Bool := false
  multiLine : Bool := false
  dotAll : Bool := false
  swapGreed : Bool := false
  unicode : Bool := true
  returns : Bool := false
  extended : Bool := false
  deriving Repr, DecidableEq

/-- Drops blanks and comments; `comment` tells whether the text starts within a comment. -/
def dropIgnored : Bool → List Char → List Char
  | _, [] => []
  | true, c :: rest => dropIgnored (c != '\n') rest
  | false, c :: rest =>
    if Text.isBlank c then dropIgnored false rest
    else if c == '#' then dropIgnored true rest
    else c :: rest

/-- In extended mode, the text behind blanks and comments. -/
def Flags.skip (f : Flags) (cs : List Char) : List Char :=
  if f.extended then dropIgnored false cs else cs

/-- The set, closed under change of case where the flags ask for it. -/
def Flags.fold (f : Flags) (s : CharSet) : CharSet :=
  if f.anyCase then .anyCase (!f.unicode) s else s

/-- The set or its complement. Outside Unicode mode a complement would match parts of characters. -/
def Flags.negate (f : Flags) (negated : Bool) (s : CharSet) : Except PatternError CharSet :=
  if !negated then .ok s
  else if f.unicode then .ok (.compl s)
  else .error .invalidText

/-- A number in the range of a repetition count or a code point. -/
def smallNat? (base : Nat) (digits : List Nat) : Option Nat :=
  let n := digits.foldl (fun n d => n * base + d) 0
  if Decimal.fitsUnsigned 32 n then some n else none

/-- The value of a hexadecimal digit. -/
def hexValue? (c : Char) : Option Nat :=
  if '0' ≤ c ∧ c ≤ '9' then some (c.toNat - '0'.toNat)
  else if 'a' ≤ c ∧ c ≤ 'f' then some (c.toNat - 'a'.toNat + 10)
  else if 'A' ≤ c ∧ c ≤ 'F' then some (c.toNat - 'A'.toNat + 10)
  else none

/-- The character with a code point. -/
def charOf? (n : Nat) : Option Char := if n.isValidChar then some (Char.ofNat n) else none

end LintScan.Regex
