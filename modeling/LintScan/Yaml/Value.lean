/-!
# YAML values

* `Value` — what a document says, with scalars resolved to their types.
* `Value.alike` — equality of values, by which a mapping refuses to hold a key twice.
* `Value.untagged` — the value under its local tags.
-/

namespace LintScan.Yaml

/-- A value of a document. -/
inductive Value where
  | null
  | bool (b : Bool)
  | int (n : Int)
  | real (x : Float)
  | string (s : String)
  | seq (items : List Value)
  | map (pairs : List (Value × Value))
  | tagged (tag : String) (v : Value)
  deriving Repr

namespace Value

/-- Equality of two numbers; a NaN equals itself. -/
def sameReal (x y : Float) : Bool := (x.isNaN && y.isNaN) || x == y

mutual

/-- Equality of values. -/
def alike : Value → Value → Bool
  | null, null => true
  | bool a, bool b => a == b
  | int a, int b => a == b
  | real a, real b => sameReal a b
  | string a, string b => a == b
  | seq a, seq b => alikeAll a b
  | map a, map b => alikePairs a b
  | tagged t a, tagged u b => t == u && alike a b
  | _, _ => false

/-- Equality of the items of two sequences. -/
def alikeAll : List Value → List Value → Bool
  | [], [] => true
  | a :: as, b :: bs => alike a b && alikeAll as bs
  | _, _ => false

/-- Equality of the pairs of two mappings. -/
def alikePairs : List (Value × Value) → List (Value × Value) → Bool
  | [], [] => true
  | (k, v) :: as, (l, w) :: bs => alike k l && alike v w && alikePairs as bs
  | _, _ => false

end

/-- The value under its local tags. -/
def untagged : Value → Value
  | tagged _ v => v.untagged
  | v => v

end Value

end LintScan.Yaml
