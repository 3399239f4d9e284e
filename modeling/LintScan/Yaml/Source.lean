import LintScan.Yaml.Node.Compose
import LintScan.Yaml.Token.Scan
import LintScan.Yaml.Value.Resolve

/-!
# Reading documents

A typed document is read either from the nodes of a text, where a scalar is text until a type is
asked for, or from a value, where it has its type already.

* `readNode`, `readValue` — the node and the value of a text.
* `Source` — the questions that a typed document asks of its raw form.
* `Source.nodes`, `Source.values` — the answers of nodes and of values.
* `Source.list`, `Source.optional`, `Source.strings` — the readers that every document shares.
-/

namespace LintScan.Yaml

/-- The node of a text; nothing if the text holds no document. -/
def readNode (text : String) : Except Problem (Option Node) := do
  let ts ← tokens text
  document? ts

/-- The value of a text; a text that holds no document is null. -/
def readValue (text : String) : Except Problem Value := do
  match ← readNode text with
  | some n => Value.ofNode n
  | none => .ok .null

/-- What a raw form is when nothing is asked of it. -/
inductive Shape (α : Type) where
  | null
  | seq (items : List α)
  | map (pairs : List (α × α))
  | other

/-- The questions that a typed document asks of its raw form. -/
structure Source (α : Type) where
  /-- Whether an optional value is absent. -/
  isAbsent : α → Bool
  /-- The text where text is expected. -/
  string? : α → Option String
  /-- The truth value where one is expected. -/
  bool? : α → Option Bool
  /-- The number where a count is expected. -/
  count? : α → Option Nat
  /-- The items where a sequence is expected. -/
  seq? : α → Option (List α)
  /-- The pairs where a mapping is expected. -/
  map? : α → Option (List (α × α))
  /-- What the raw form is by itself. -/
  shape : α → Shape α
  /-- The value of the raw form. -/
  value : α → Except Problem Value

/-- Whether a node is an empty plain scalar. -/
def Node.isBare : Node → Bool
  | .scalar _ .plain "" => true
  | _ => false

/-- Nodes answer by their text. -/
def Source.nodes : Source Node where
  isAbsent
    | .scalar tag .plain s => (tag.isNone || tag == coreTag "null") && isNullText s
    | _ => false
  string?
    | .scalar _ _ s => some s
    | _ => none
  bool?
    | .scalar _ .plain s => boolOf? s
    | _ => none
  count?
    | .scalar _ .plain s => countOf? s
    | _ => none
  seq? n := match n with
    | .seq _ items => some items
    | n => if n.isBare then some [] else none
  map? n := match n with
    | .map _ pairs => some pairs
    | n => if n.isBare then some [] else none
  shape n :=
    if (localTag? n.tag).isSome then .other
    else match n with
      | .seq _ items => .seq items
      | .map _ pairs => .map pairs
      | .scalar tag style s =>
        match resolveScalar tag style s with
        | .ok .null => .null
        | _ => .other
  value := Value.ofNode

/-- Values answer by their type. -/
def Source.values : Source Value where
  isAbsent
    | .null => true
    | _ => false
  string? v := match v.untagged with
    | .string s => some s
    | _ => none
  bool? v := match v.untagged with
    | .bool b => some b
    | _ => none
  count? v := match v.untagged with
    | .int n => if 0 ≤ n then some n.toNat else none
    | _ => none
  seq? v := match v.untagged with
    | .seq items => some items
    | .null => some []
    | _ => none
  map? v := match v.untagged with
    | .map pairs => some pairs
    | .null => some []
    | _ => none
  shape
    | .null => .null
    | .seq items => .seq items
    | .map pairs => .map pairs
    | _ => .other
  value := .ok

namespace Source

variable {α β : Type}

/-- The answer, or the wrong shape as the problem. -/
def expect (x : Option β) : Except Problem β :=
  match x with
  | some b => .ok b
  | none => .error .badShape

/-- A string. -/
def string (s : Source α) (a : α) : Except Problem String := expect (s.string? a)

/-- A truth value. -/
def bool (s : Source α) (a : α) : Except Problem Bool := expect (s.bool? a)

/-- A count. -/
def count (s : Source α) (a : α) : Except Problem Nat := expect (s.count? a)

/-- A value that may be absent. -/
def optional (s : Source α) (read : α → Except Problem β) (a : α) : Except Problem (Option β) :=
  if s.isAbsent a then .ok none else (read a).map some

/-- A list of values. -/
def list (s : Source α) (read : α → Except Problem β) (a : α) : Except Problem (List β) := do
  let items ← expect (s.seq? a)
  items.mapM read

/-- A list of strings. -/
def strings (s : Source α) (a : α) : Except Problem (List String) := s.list s.string a

/-- The pairs of a mapping with their keys read as strings. -/
def readPairs (s : Source α) (read : α → Except Problem β) (pairs : List (α × α)) :
    Except Problem (List (String × β)) :=
  pairs.mapM fun (k, v) => do
    let k ← s.string k
    let v ← read v
    .ok (k, v)

/-- The fields of a record. Each of the known ones may be given once; others are passed over. -/
def fields (s : Source α) (known : List String) (a : α) :
    Except Problem (List (String × α)) := do
  let pairs ← expect (s.map? a)
  let named ← s.readPairs .ok pairs
  let kept := named.filter fun (k, _) => known.contains k
  if (kept.map (·.1)).Nodup then .ok kept else .error .repeatedKey

/-- A field that may be missing or absent. -/
def optionalField (s : Source α) (fs : List (String × α)) (name : String)
    (read : α → Except Problem β) : Except Problem (Option β) :=
  match fs.lookup name with
  | some a => s.optional read a
  | none => .ok none

/-- A field that has to be given. -/
def field (fs : List (String × α)) (name : String) (read : α → Except Problem β) :
    Except Problem β :=
  match fs.lookup name with
  | some a => read a
  | none => .error .badShape

/-- A string, or a list of strings, as it stands by itself. -/
def stringOrList (s : Source α) (a : α) : Except Problem (String ⊕ List String) := do
  match ← s.value a with
  | .string t => .ok (.inl t)
  | .seq items => .inr <$> items.mapM fun
    | .string t => .ok t
    | _ => .error .badShape
  | _ => .error .badShape

end Source

end LintScan.Yaml
