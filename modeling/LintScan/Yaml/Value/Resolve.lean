import LintScan.Decimal.Read
import LintScan.Yaml.Cursor
import LintScan.Yaml.Token
import LintScan.Yaml.Value

/-!
# Resolving scalars

A plain scalar is null, a Boolean, a number or, if nothing else fits, a string. A scalar in quotes
or in a block is a string. Core tags name the type to read; local tags stay on the value.

* `isNullText`, `boolOf?`, `countOf?`, `realOf?` — the texts of the types.
* `Value.ofNode` — the value of a node. A mapping may not hold a key twice, and collections may
  nest only to a fixed depth.
-/

namespace LintScan.Yaml

/-- The texts that stand for null. -/
def isNullText (s : String) : Bool := ["", "~", "null", "Null", "NULL"].contains s

/-- The truth value of a text. -/
def boolOf? (s : String) : Option Bool :=
  if ["true", "True", "TRUE"].contains s then some true
  else if ["false", "False", "FALSE"].contains s then some false
  else none

/-- Several digits of which the first is zero: no number. -/
def isPaddedDigits (cs : List Char) : Bool :=
  let body := match cs with
    | '-' :: rest => rest
    | '+' :: rest => rest
    | _ => cs
  match body with
  | '0' :: d :: rest => (d :: rest).all Char.isDigit
  | _ => false

/-- The base of a number and its digits. -/
def baseOf : List Char → Option (Nat × List Char)
  | '0' :: 'x' :: rest => some (16, rest)
  | '0' :: 'o' :: rest => some (8, rest)
  | '0' :: 'b' :: rest => some (2, rest)
  | _ => none

/-- The unsigned integer of a text; a plus sign may stand in front. -/
def naturalOf? (cs : List Char) : Option Nat :=
  let body := match cs with
    | '+' :: rest => rest
    | _ => cs
  match (baseOf body).bind fun (base, digits) => Decimal.readUnsigned? base digits with
  | some n => some n
  | none => if isPaddedDigits cs then none else Decimal.readUnsigned? 10 body

/-- The integer of a text that begins with a minus sign. -/
def negativeOf? (cs : List Char) : Option Int :=
  match cs with
  | '-' :: body =>
    match (baseOf body).bind fun (base, digits) => Decimal.readUnsigned? base digits with
    | some n => some (-(n : Int))
    | none =>
      if isPaddedDigits cs then none
      else (Decimal.readUnsigned? 10 body).map fun n => -(n : Int)
  | _ => none

/-- The number of a text that counts something. -/
def countOf? (s : String) : Option Nat :=
  (naturalOf? s.toList).bind fun n => if Decimal.fitsUnsigned 64 n then some n else none

/-- The number of a text that is no integer. -/
def realOf? (s : String) : Option Float :=
  let cs := s.toList
  let body := match cs with
    | '+' :: rest => rest
    | _ => cs
  if cs.take 1 == ['+'] && (body.take 1 == ['+'] || body.take 1 == ['-']) then none
  else if [".inf", ".Inf", ".INF"].contains (String.ofList body) then some (1.0 / 0.0)
  else if ["-.inf", "-.Inf", "-.INF"].contains s then some (-1.0 / 0.0)
  else if [".nan", ".NaN", ".NAN"].contains s then some (0.0 / 0.0)
  else Decimal.readFloat? body

/-- The integer of a text. Integers of more than 64 bits are out of range, and those of more than
128 bits are no integers. -/
def integerOf? (s : String) : Option (Except Problem Value) :=
  let cs := s.toList
  let natural := (naturalOf? cs).bind fun n =>
    if Decimal.fitsUnsigned 128 n then some (n : Int) else none
  let negative := (negativeOf? cs).bind fun n =>
    if Decimal.fitsSigned 128 n then some n else none
  (natural.or negative).map fun n =>
    if Decimal.fitsEither 64 n then .ok (.int n) else .error .numberRange

/-- The value of a plain scalar. -/
def resolvePlain (s : String) : Except Problem Value :=
  if isNullText s then .ok .null
  else match boolOf? s with
    | some b => .ok (.bool b)
    | none =>
      match integerOf? s with
      | some r => r
      | none =>
        match if isPaddedDigits s.toList then none else realOf? s with
        | some x => .ok (.real x)
        | none => .ok (.string s)

/-- The name of a local tag. -/
def localTag? (tag : Option String) : Option String :=
  match tag.map String.toList with
  | some ('!' :: rest) => some (String.ofList rest)
  | _ => none

/-- The core tag of a type. -/
def coreTag (type : String) : Option String := some ("tag:yaml.org,2002:" ++ type)

/-- The value of a scalar that has no local tag. -/
def resolveScalar (tag : Option String) (style : ScalarStyle) (s : String) :
    Except Problem Value :=
  if tag == none then if style == .plain then resolvePlain s else .ok (.string s)
  else if tag == coreTag "bool" then
    match boolOf? s with
    | some b => .ok (.bool b)
    | none => .error .badScalar
  else if tag == coreTag "int" then (integerOf? s).getD (.error .badScalar)
  else if tag == coreTag "float" then
    match realOf? s with
    | some x => .ok (.real x)
    | none => .error .badScalar
  else if tag == coreTag "null" then
    if s.isEmpty || !isNullText s then .error .badScalar else .ok .null
  else .ok (.string s)

/-- How deep collections may nest. -/
def nestingLimit : Nat := 128

/-- The value under its local tag, if it has one. A local tag has a name. -/
def withLocalTag (tag : Option String) (v : Value) : Except Problem Value :=
  match localTag? tag with
  | some t => if t.isEmpty then .error .badTag else .ok (.tagged t v)
  | none => .ok v

namespace Value

mutual

/-- The value of a node, where collections may nest `depth` times. -/
def ofNodeAt (depth : Nat) : Node → Except Problem Value
  | .scalar tag style s =>
    if (localTag? tag).isSome then do
      let v ← if style == .plain then resolvePlain s else .ok (.string s)
      withLocalTag tag v
    else resolveScalar tag style s
  | .seq tag items =>
    if depth = 0 then .error .tooDeep
    else do
      let vs ← ofNodes (depth - 1) items
      withLocalTag tag (.seq vs)
  | .map tag pairs =>
    if depth = 0 then .error .tooDeep
    else do
      let vs ← ofPairs (depth - 1) pairs
      if repeats vs then .error .repeatedKey else withLocalTag tag (.map vs)

/-- The values of the items of a sequence. -/
def ofNodes (depth : Nat) : List Node → Except Problem (List Value)
  | [] => .ok []
  | n :: ns => do
    let v ← ofNodeAt depth n
    let vs ← ofNodes depth ns
    .ok (v :: vs)

/-- The values of the pairs of a mapping. -/
def ofPairs (depth : Nat) : List (Node × Node) → Except Problem (List (Value × Value))
  | [] => .ok []
  | (k, n) :: ns => do
    let k ← ofNodeAt depth k
    let v ← ofNodeAt depth n
    let vs ← ofPairs depth ns
    .ok ((k, v) :: vs)

/-- Whether a key stands twice. -/
def repeats : List (Value × Value) → Bool
  | [] => false
  | (k, _) :: rest => rest.any (fun (l, _) => alike k l) || repeats rest

end

/-- The value of a node. -/
def ofNode (n : Node) : Except Problem Value := ofNodeAt nestingLimit n

end Value

end LintScan.Yaml
