/-!
# Reading decimals

* `fitsUnsigned`, `fitsSigned`, `fitsEither` — whether a word of some bits can hold a number.
* `readUnsigned?` — an unsigned number in a base.
* `readFloat?` — a decimal with an optional fraction and exponent, rounded to the nearest
  representable number, if that is finite.
-/

namespace LintScan.Decimal

/-! ## Widths of numbers -/

/-- How many values a word of `bits` bits has. -/
def valuesOf (bits : Nat) : Nat := Nat.pow 2 bits

/-- Whether a word without a sign can hold a number. -/
def fitsUnsigned (bits n : Nat) : Bool := n < valuesOf bits

/-- Whether a word with a sign can hold a number. -/
def fitsSigned (bits : Nat) (n : Int) : Bool :=
  -(valuesOf (bits - 1) : Int) ≤ n ∧ n < (valuesOf (bits - 1) : Int)

/-- Whether a word can hold a number, with a sign or without. -/
def fitsEither (bits : Nat) (n : Int) : Bool :=
  fitsSigned bits n || (0 ≤ n && fitsUnsigned bits n.toNat)

example : fitsSigned 8 (-128) = true ∧ fitsSigned 8 128 = false := by decide

example : fitsEither 8 255 = true ∧ fitsEither 8 256 = false ∧ fitsEither 8 (-129) = false := by
  decide

/-! ## Numbers in a base -/

/-- The value of a digit in bases up to sixteen. -/
def digitValue? (base : Nat) (c : Char) : Option Nat :=
  let v :=
    if '0' ≤ c ∧ c ≤ '9' then c.toNat - '0'.toNat
    else if 'a' ≤ c ∧ c ≤ 'f' then c.toNat - 'a'.toNat + 10
    else if 'A' ≤ c ∧ c ≤ 'F' then c.toNat - 'A'.toNat + 10
    else base
  if v < base then some v else none

/-- The number that one or more digits spell. -/
def readUnsigned? (base : Nat) : List Char → Option Nat
  | [] => none
  | cs => cs.foldl (fun n c => n.bind fun n => (digitValue? base c).map (n * base + ·)) (some 0)

/-- A signed number in a base; either sign may stand in front. -/
def readSigned? (base : Nat) : List Char → Option Int
  | '-' :: cs => (readUnsigned? base cs).map fun n => -(n : Int)
  | '+' :: cs => (readUnsigned? base cs).map Int.ofNat
  | cs => (readUnsigned? base cs).map Int.ofNat

/-- The exponent behind `e`, or zero where none is written. -/
def readExponent? : List Char → Option Int
  | [] => some 0
  | c :: cs => if c == 'e' || c == 'E' then readSigned? 10 cs else none

/-- The number `digits · 10 ^ exponent`, if it is in range. Far beyond the range on either side the
power itself is not computed. -/
def nearest? (digits : Nat) (exponent : Int) : Option Float :=
  let top : Int := (toString digits).length + exponent
  if digits == 0 || top < -400 then some 0.0
  else if top > 400 then none
  else
    let x := Float.ofScientific digits (exponent < 0) exponent.natAbs
    if x.isFinite then some x else none

/-- A decimal without its sign. -/
def readMagnitude? (cs : List Char) : Option Float :=
  let whole := cs.takeWhile Char.isDigit
  let (frac, rest) := match cs.dropWhile Char.isDigit with
    | '.' :: rest => (rest.takeWhile Char.isDigit, rest.dropWhile Char.isDigit)
    | rest => ([], rest)
  match readUnsigned? 10 (whole ++ frac), readExponent? rest with
  | some digits, some e => nearest? digits (e - frac.length)
  | _, _ => none

/-- A finite number written as a decimal. -/
def readFloat? : List Char → Option Float
  | '-' :: cs => (readMagnitude? cs).map fun x => -x
  | '+' :: cs => readMagnitude? cs
  | cs => readMagnitude? cs

end LintScan.Decimal
