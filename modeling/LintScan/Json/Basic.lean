/-!
# JSON

* `Json` — a JSON value. A number is kept as it is written, and an object as its members in order.
* `Json.write` — the value on one line without blanks.
* `quote` — a string in quotes: the quote, the backslash and control characters are escaped.
-/

namespace LintScan

/-- A JSON value. -/
inductive Json where
  | null
  | bool (b : Bool)
  | number (text : String)
  | string (s : String)
  | array (items : List Json)
  | object (members : List (String × Json))
  deriving Repr, Inhabited

namespace Json

/-- An integer. -/
def int (n : Int) : Json := .number (toString n)

/-- A string, or null where there is none. -/
def ofString? (s : Option String) : Json :=
  match s with
  | some s => .string s
  | none => .null

/-- A digit in base sixteen. -/
def hexDigit (n : Nat) : Char :=
  if n < 10 then Char.ofNat ('0'.toNat + n) else Char.ofNat ('a'.toNat + (n - 10))

/-- A character inside quotes. -/
def escape (c : Char) : List Char :=
  if c = '"' then ['\\', '"']
  else if c = '\\' then ['\\', '\\']
  else if c = '\x08' then ['\\', 'b']
  else if c = '\t' then ['\\', 't']
  else if c = '\n' then ['\\', 'n']
  else if c = '\x0c' then ['\\', 'f']
  else if c = '\r' then ['\\', 'r']
  else if c.toNat < 0x20 then
    ['\\', 'u', '0', '0', hexDigit (c.toNat / 16), hexDigit (c.toNat % 16)]
  else [c]

/-- A string in quotes. -/
def quote (s : String) : String := String.ofList ('"' :: s.toList.flatMap escape ++ ['"'])

mutual

/-- The value on one line without blanks. -/
def write : Json → String
  | null => "null"
  | bool b => if b then "true" else "false"
  | number text => text
  | string s => quote s
  | array items => "[" ++ writeItems true items ++ "]"
  | object members => "\x7b" ++ writeMembers true members ++ "\x7d"

/-- The items of an array. -/
def writeItems (first : Bool) : List Json → String
  | [] => ""
  | v :: vs => (if first then "" else ",") ++ write v ++ writeItems false vs

/-- The members of an object. -/
def writeMembers (first : Bool) : List (String × Json) → String
  | [] => ""
  | (k, v) :: ms =>
    (if first then "" else ",") ++ quote k ++ ":" ++ write v ++ writeMembers false ms

end

end Json

end LintScan
