import LintScan.Decimal.Read

/-!
# Shortest decimals

* `Binary` — a finite number as `mantissa · 2 ^ exponent`.
* `shortest` — the decimal with the fewest digits that lies closer to the number than to its
  neighbours, and of those the nearest one.
* `render` — its text: positional while the point lies near the digits, and with an exponent
  otherwise.

All comparisons are exact, in natural numbers.
-/

namespace LintScan.Decimal

/-- The number `mantissa · 2 ^ exponent`. `tight` tells that the gap below it is half the gap above
it. -/
structure Binary where
  mantissa : Nat
  exponent : Int
  tight : Bool
  deriving Repr

/-- The absolute value of a finite number. -/
def Binary.ofFloat (x : Float) : Binary :=
  let bits := x.toBits.toNat
  let e : Nat := bits / valuesOf 52 % 2048
  let f : Nat := bits % valuesOf 52
  if e == 0 then ⟨f, -1074, false⟩ else ⟨f + valuesOf 52, (e : Int) - 1075, f == 0 && e > 1⟩

/-- A positive fraction. -/
structure Ratio where
  num : Nat
  den : Nat

/-- The fraction `n · 2 ^ e`. -/
def Ratio.scaled (n : Nat) (e : Int) : Ratio :=
  if e ≥ 0 then ⟨n * Nat.pow 2 e.toNat, 1⟩ else ⟨n, Nat.pow 2 (-e).toNat⟩

/-- The fraction `n · 10 ^ e`. -/
def Ratio.decimal (n : Nat) (e : Int) : Ratio :=
  if e ≥ 0 then ⟨n * Nat.pow 10 e.toNat, 1⟩ else ⟨n, Nat.pow 10 (-e).toNat⟩

/-- Comparison of fractions. -/
def Ratio.cmp (r s : Ratio) : Ordering := compare (r.num * s.den) (s.num * r.den)

/-- The distance between two fractions. -/
def Ratio.dist (r s : Ratio) : Ratio :=
  let a := r.num * s.den
  let b := s.num * r.den
  ⟨(a - b) + (b - a), r.den * s.den⟩

/-- The least `j` with `den ≤ num · 10 ^ j`. -/
def leastShift (num den : Nat) : Nat → Nat → Nat
  | 0, j => j
  | fuel + 1, j => if den ≤ num * Nat.pow 10 j then j else leastShift num den fuel (j + 1)

/-- The exponent of the leading decimal digit of a fraction. -/
def Ratio.magnitude (r : Ratio) : Int :=
  if r.den ≤ r.num then ((toString (r.num / r.den)).length : Int) - 1
  else -(leastShift r.num r.den 400 0 : Int)

/-- Whether the fraction rounds to the number, given its nearest values on either side. -/
def Binary.owns (b : Binary) (r : Ratio) : Bool :=
  let low := Ratio.scaled (4 * b.mantissa - (if b.tight then 1 else 2)) (b.exponent - 2)
  let high := Ratio.scaled (4 * b.mantissa + 2) (b.exponent - 2)
  match low.cmp r, r.cmp high with
  | .lt, .lt => true
  | .eq, _ => b.mantissa % 2 == 0
  | _, .eq => b.mantissa % 2 == 0
  | _, _ => false

/-- Searches the decimals of `n` digits, then of more, for one that rounds to the number. -/
def search (b : Binary) (value : Ratio) (top : Int) : Nat → Nat → Nat × Int
  | 0, _ => (0, 0)
  | fuel + 1, n =>
    let k := top - n + 1
    let unit := Ratio.decimal 1 k
    let below := value.num * unit.den / (value.den * unit.num)
    let down := Ratio.decimal below k
    let up := Ratio.decimal (below + 1) k
    match below != 0 && b.owns down, b.owns up with
    | true, true => match (value.dist down).cmp (value.dist up) with
      | .gt => (below + 1, k)
      | .lt => (below, k)
      | .eq => (if below % 2 == 0 then below else below + 1, k)
    | true, false => (below, k)
    | false, true => (below + 1, k)
    | false, false => search b value top fuel (n + 1)

/-- The same decimal without zeros at the end of its digits. -/
def dropZeros : Nat → Nat × Int → Nat × Int
  | 0, d => d
  | fuel + 1, (d, k) => if d != 0 && d % 10 == 0 then dropZeros fuel (d / 10, k + 1) else (d, k)

/-- The digits and the exponent of the shortest decimal for a positive number. -/
def shortest (b : Binary) : Nat × Int :=
  let value := Ratio.scaled b.mantissa b.exponent
  dropZeros 18 (search b value value.magnitude 18 1)

/-- The text of a finite number. With the point at most sixteen places behind the first digit or
four zeros before it, the text is positional and has a fraction; otherwise it has an exponent. -/
def render (x : Float) : String :=
  let sign := if x.toBits.toNat / valuesOf 63 == 1 then "-" else ""
  let b := Binary.ofFloat x
  if b.mantissa == 0 then sign ++ "0.0"
  else
    let (d, k) := shortest b
    let digits := (toString d).toList
    let n : Int := digits.length
    let point := n + k
    let zeros (m : Int) : List Char := List.replicate m.toNat '0'
    let body : List Char :=
      if 0 ≤ k ∧ point ≤ 16 then digits ++ zeros k ++ ['.', '0']
      else if 0 < point ∧ point ≤ 16 then
        digits.take point.toNat ++ ['.'] ++ digits.drop point.toNat
      else if -5 < point ∧ point ≤ 0 then ['0', '.'] ++ zeros (-point) ++ digits
      else
        let exponent := 'e' :: (toString (point - 1)).toList
        match digits with
        | [c] => c :: exponent
        | c :: rest => c :: '.' :: rest ++ exponent
        | [] => exponent
    sign ++ String.ofList body

end LintScan.Decimal
