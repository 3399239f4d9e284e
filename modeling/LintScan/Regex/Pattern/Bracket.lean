import LintScan.Regex.Pattern.Escape

/-!
# Bracketed classes

A class lists characters, ranges, named classes and further classes in brackets, and joins such
lists by the operators for intersection, difference and symmetric difference, which bind equally
and to the left.

* `readBracketed` — reads the class behind its opening bracket and says how deep it nests.
-/

namespace LintScan.Regex

/-- An operator between two lists of members. -/
inductive SetOp where
  | inter
  | diff
  | symDiff
  deriving Repr, DecidableEq

/-- A set and the depth of the expression that it was written as. -/
structure Member where
  set : CharSet
  depth : Nat

/-- What encloses the list of members that is being read: a class with the members before it, or an
operator with its left side. -/
inductive ClassFrame where
  | opened (outer : List Member) (negated : Bool)
  | operator (op : SetOp) (left : Member)

/-- The set that an operator makes. -/
def SetOp.apply (op : SetOp) (f : Flags) (s t : CharSet) : CharSet :=
  match op with
  | inter => .inter (f.fold s) (f.fold t)
  | diff => .diff (f.fold s) (f.fold t)
  | symDiff => .symDiff (f.fold s) (f.fold t)

/-- The members of a list, last first, taken together. -/
def Member.ofList : List Member → Member
  | [] => ⟨.none, 0⟩
  | [m] => m
  | ms => ⟨.unions (ms.reverse.map (·.set)), (ms.foldl (fun d m => d.max m.depth) 0) + 1⟩

/-- The ASCII classes that may be named between `[:` and `:]`. -/
def asciiClass? (name : String) : Option CharSet :=
  match name with
  | "alnum" => some (.union .asciiAlpha .asciiDigit)
  | "alpha" => some .asciiAlpha
  | "ascii" => some (.range '\x00' '\x7f')
  | "blank" => some (.union (.single '\t') (.single ' '))
  | "cntrl" => some (.union (.range '\x00' '\x1f') (.single '\x7f'))
  | "digit" => some .asciiDigit
  | "graph" => some (.range '!' '~')
  | "lower" => some (.range 'a' 'z')
  | "print" => some (.range ' ' '~')
  | "punct" => some (.unions [.range '!' '/', .range ':' '@', .range '[' (Char.ofNat 96),
      .range '\x7b' '~'])
  | "space" => some .asciiBlank
  | "upper" => some (.range 'A' 'Z')
  | "word" => some .asciiWord
  | "xdigit" => some (.unions [.asciiDigit, .range 'A' 'F', .range 'a' 'f'])
  | _ => none

/-- Reads a named ASCII class behind `[:`; anything else is no such class. -/
def readAsciiClass? (cs : List Char) : Option (Bool × CharSet × List Char) :=
  let (negated, body) := match cs with
    | '^' :: rest => (true, rest)
    | _ => (false, cs)
  match body.dropWhile (· != ':') with
  | ':' :: ']' :: rest =>
    (asciiClass? (String.ofList (body.takeWhile (· != ':')))).map fun s => (negated, s, rest)
  | _ => none

/-- Reads one item of a class: a character or an escape sequence. -/
def readItem (f : Flags) : List Char → Except PatternError (Atom × List Char)
  | [] => .error .classOpen
  | '\\' :: rest => readEscape f rest
  | c :: rest => .ok (.literal c false, rest)

/-- The character that an item lists, where Unicode mode or ASCII allows it. -/
def literalOf (f : Flags) (c : Char) : Except PatternError Char :=
  if f.unicode || c.toNat < 0x80 then .ok c else .error .invalidText

/-- Whether the character at the head stands before `-` or `]`. -/
def endsRange (f : Flags) (rest : List Char) : Bool :=
  match f.skip rest with
  | ']' :: _ => true
  | '-' :: _ => true
  | _ => false

/-- Reads a single item or a range of characters. -/
def readRange (f : Flags) (cs : List Char) : Except PatternError (CharSet × List Char) := do
  let (first, rest) ← readItem f cs
  let single : Except PatternError CharSet := match first with
    | .literal c _ => do let c ← literalOf f c; .ok (.single c)
    | .set s => .ok s
    | .look _ => .error .escape
  match f.skip rest with
  | [] => .error .classOpen
  | '-' :: behind =>
    if endsRange f behind then do
      let s ← single
      .ok (s, f.skip rest)
    else
      match f.skip behind with
      | [] => .error .classOpen
      | more => do
        let (last, rest) ← readItem f more
        match first, last with
        | .literal lo _, .literal hi _ => do
          let lo ← literalOf f lo
          let hi ← literalOf f hi
          if lo ≤ hi then .ok (.range lo hi, rest) else .error .classRange
        | _, _ => .error .classRange
  | rest => do
    let s ← single
    .ok (s, rest)

/-- Reads `^`, hyphens and a closing bracket that stand at the head of a class for themselves. -/
def readOpening (f : Flags) (cs : List Char) : Bool × List Member × List Char :=
  let (negated, cs) := match f.skip cs with
    | '^' :: rest => (true, f.skip rest)
    | cs => (false, cs)
  let (hyphens, cs) := dropHyphens cs.length [] cs
  match hyphens, cs with
  | [], ']' :: rest => (negated, [⟨.single ']', 0⟩], f.skip rest)
  | _, _ => (negated, hyphens, cs)
where
  /-- Takes the hyphens at the head. -/
  dropHyphens : Nat → List Member → List Char → List Member × List Char
    | 0, ms, cs => (ms, cs)
    | fuel + 1, ms, cs =>
      match cs with
      | '-' :: rest => dropHyphens fuel (⟨.single '-', 0⟩ :: ms) (f.skip rest)
      | _ => (ms, cs)

/-- Joins the members read last to the operator that waits for its right side. -/
def closeOperator (f : Flags) (members : List Member) (frames : List ClassFrame) :
    Member × List ClassFrame :=
  let right := Member.ofList members
  match frames with
  | .operator op left :: rest =>
    (⟨op.apply f left.set right.set, left.depth.max right.depth + 1⟩, rest)
  | frames => (right, frames)

/-- Reads the members of a class up to the bracket that closes it. -/
def readMembers (f : Flags) : Nat → List Member → List ClassFrame → List Char →
    Except PatternError (Member × List Char)
  | 0, _, _, _ => .error .classOpen
  | fuel + 1, members, frames, cs =>
    let operator (op : SetOp) (rest : List Char) :=
      let (left, frames) := closeOperator f members frames
      readMembers f fuel [] (.operator op left :: frames) rest
    let range (cs : List Char) := do
      let (s, rest) ← readRange f cs
      readMembers f fuel (⟨s, 0⟩ :: members) frames rest
    let nested (rest : List Char) :=
      let (negated, first, rest) := readOpening f rest
      readMembers f fuel first (.opened members negated :: frames) rest
    match f.skip cs with
    | [] => .error .classOpen
    | '[' :: rest =>
      match rest with
      | ':' :: named =>
        match readAsciiClass? named with
        | some (negated, s, rest) => do
          let s ← f.negate negated (f.fold s)
          readMembers f fuel (⟨s, 0⟩ :: members) frames rest
        | none => nested rest
      | _ => nested rest
    | ']' :: rest =>
      let (m, frames) := closeOperator f members frames
      match frames with
      | .opened outer negated :: frames => do
        let s ← f.negate negated (f.fold m.set)
        let whole : Member := ⟨s, m.depth + 1⟩
        match frames with
        | [] => .ok (whole, rest)
        | _ => readMembers f fuel (whole :: outer) frames rest
      | _ => .error .classOpen
    | '&' :: '&' :: rest => operator .inter rest
    | '-' :: '-' :: rest => operator .diff rest
    | '~' :: '~' :: rest => operator .symDiff rest
    | cs => range cs

/-- Reads the class behind its opening bracket. -/
def readBracketed (f : Flags) (cs : List Char) : Except PatternError (Member × List Char) :=
  let (negated, first, rest) := readOpening f cs
  readMembers f (cs.length + 2) first [.opened [] negated] rest

end LintScan.Regex
