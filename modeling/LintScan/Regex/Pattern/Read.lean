import LintScan.Regex.Pattern.Bracket

/-!
# Reading a pattern

* `Reader` — the state of the one pass over a pattern: the items of the current concatenation, the
  finished branches of the current group, and the groups that enclose it.
* `Regex.ofPattern` — the expression that a pattern text stands for.
-/

namespace LintScan.Regex

/-- An expression and the depth of its nesting. -/
structure Node where
  regex : Regex
  depth : Nat

/-- An item of a concatenation. -/
inductive Item where
  | flags
  | node (n : Node)

/-- An open group: what was read before it, and how it is closed. -/
structure GroupFrame where
  items : List Item
  branches : List Node
  flags : Flags
  index : Option Nat

/-- The state of reading. Items and branches are kept last first. -/
structure Reader where
  flags : Flags
  items : List Item
  branches : List Node
  frames : List GroupFrame
  names : List String
  groups : Nat

/-- The concatenation of the items, last first. -/
def concatenation (items : List Item) : Node :=
  let nodes := items.reverse.filterMap fun
    | .flags => none
    | .node n => some n
  let depth := nodes.foldl (fun d n => d.max n.depth) 0
  ⟨seqs (nodes.map (·.regex)), if items.length < 2 then depth else depth + 1⟩

/-- The choice between the branches, last first. -/
def choice : List Node → Node
  | [n] => n
  | ns => ⟨alts (ns.reverse.map (·.regex)), ns.foldl (fun d n => d.max n.depth) 0 + 1⟩

/-- Everything read since the innermost open group began. -/
def Reader.current (st : Reader) : Node :=
  choice (concatenation st.items :: st.branches)

/-- The state with one more item. -/
def Reader.push (st : Reader) (r : Regex) (depth : Nat) : Reader :=
  { st with items := .node ⟨r, depth⟩ :: st.items }

/-- The expression for one character, with its other cases if case is ignored. -/
def Flags.literal (f : Flags) (c : Char) : Regex :=
  if f.unicode || c.toNat < 0x80 then .char (f.fold (.single c)) else .char (.single c)

/-- The expression that an atom stands for. -/
def Flags.atom (f : Flags) : Atom → Except PatternError Regex
  | .literal c fixed =>
    if fixed && !f.unicode && c.toNat ≥ 0x80 then .error .invalidText else .ok (f.literal c)
  | .set s => .ok (.char s)
  | .look a => .ok (.look a)

/-- The expression for the dot. -/
def Flags.dot (f : Flags) : Except PatternError Regex :=
  if !f.unicode then .error .invalidText
  else if f.dotAll then .ok (.char .full)
  else if f.returns then .ok (.char (.compl (.union (.single '\n') (.single '\r'))))
  else .ok (.char (.compl (.single '\n')))

/-- The condition for `^`. -/
def Flags.caret (f : Flags) : Anchor :=
  if !f.multiLine then .textStart else if f.returns then .lineStartReturn else .lineStart

/-- The condition for `$`. -/
def Flags.dollar (f : Flags) : Anchor :=
  if !f.multiLine then .textEnd else if f.returns then .lineEndReturn else .lineEnd

/-- Sets or clears one mode. -/
def Flags.set? (f : Flags) (on : Bool) : Char → Option Flags
  | 'i' => some { f with anyCase := on }
  | 'm' => some { f with multiLine := on }
  | 's' => some { f with dotAll := on }
  | 'U' => some { f with swapGreed := on }
  | 'u' => some { f with unicode := on }
  | 'R' => some { f with returns := on }
  | 'x' => some { f with extended := on }
  | _ => none

/-- Reads the modes of a group up to `)` or `:`. Each mode and the minus may occur once, and the
minus not at the end. -/
def readFlags (f : Flags) (seen : List Char) : List Char →
    Except PatternError (Flags × List Char × Char × List Char)
  | [] => .error .flags
  | c :: rest =>
    if c == ')' || c == ':' then
      if seen.head? == some '-' then .error .flags else .ok (f, seen, c, rest)
    else if seen.contains c then .error .flags
    else if c == '-' then readFlags f (c :: seen) rest
    else match f.set? (!seen.contains '-') c with
      | some f => readFlags f (c :: seen) rest
      | none => .error .flags

/-- Whether a character may stand in the name of a group. -/
def isNameChar (first : Bool) (c : Char) : Bool :=
  c == '_' || Unicode.isAlphabetic c
    || (!first && (c == '.' || c == '[' || c == ']' || Unicode.hasAny Unicode.numbers c))

/-- Reads the name of a group up to the closing angle. -/
def readName (name : List Char) : List Char → Except PatternError (List Char × List Char)
  | [] => .error .groupName
  | c :: rest =>
    if c == '>' then if name.isEmpty then .error .groupName else .ok (name, rest)
    else if isNameChar name.isEmpty c then readName (name ++ [c]) rest
    else .error .groupName

/-- Opens a group. -/
def Reader.openGroup (st : Reader) (flags : Flags) (captured : Bool) : Reader :=
  { st with
    frames := ⟨st.items, st.branches, st.flags, if captured then some (st.groups + 1) else none⟩
      :: st.frames
    items := [], branches := [], flags := flags
    groups := if captured then st.groups + 1 else st.groups }

/-- Opens a group that has a name. -/
def Reader.openNamed (st : Reader) (cs : List Char) : Except PatternError (Reader × List Char) := do
  let (name, rest) ← readName [] cs
  let name := String.ofList name
  if st.names.contains name then .error .groupName
  else .ok ({ st.openGroup st.flags true with names := name :: st.names }, rest)

/-- Reads what follows an opening parenthesis. -/
def Reader.readGroup (st : Reader) (cs : List Char) : Except PatternError (Reader × List Char) :=
  match st.flags.skip cs with
  | '?' :: '=' :: _ => .error .lookAround
  | '?' :: '!' :: _ => .error .lookAround
  | '?' :: '<' :: '=' :: _ => .error .lookAround
  | '?' :: '<' :: '!' :: _ => .error .lookAround
  | '?' :: 'P' :: '<' :: rest => st.openNamed rest
  | '?' :: '<' :: rest => st.openNamed rest
  | '?' :: rest => do
    let (flags, seen, close, rest) ← readFlags st.flags [] rest
    if close == ':' then .ok (st.openGroup flags false, rest)
    else if seen.isEmpty then .error .repetitionMissing
    else .ok ({ st with flags, items := .flags :: st.items }, rest)
  | rest => .ok (st.openGroup st.flags true, rest)

/-- Closes the innermost group. -/
def Reader.closeGroup (st : Reader) : Except PatternError Reader :=
  match st.frames with
  | [] => .error .groupNotOpened
  | frame :: frames =>
    let body := st.current
    let regex := match frame.index with
      | some i => .group i body.regex
      | none => body.regex
    .ok { st with
      flags := frame.flags, branches := frame.branches, frames
      items := .node ⟨regex, body.depth + 1⟩ :: frame.items }

/-- Repeats the last item. -/
def Reader.repeatLast (st : Reader) (min : Nat) (max : Option Nat) (lazy : Bool) :
    Except PatternError Reader :=
  match st.items with
  | .node n :: items =>
    .ok { st with
      items := .node ⟨.iter n.regex min max (lazy == st.flags.swapGreed), n.depth + 1⟩ :: items }
  | _ => .error .repetitionMissing

/-- Reads the question mark that makes a repetition lazy. -/
def readLazy : List Char → Bool × List Char
  | '?' :: rest => (true, rest)
  | cs => (false, cs)

/-- Reads the digits of a count. -/
def readDigits (f : Flags) : Nat → List Nat → List Char → List Nat × List Char
  | 0, ds, cs => (ds, cs)
  | fuel + 1, ds, cs =>
    match cs with
    | c :: rest =>
      if c.isDigit then readDigits f fuel (ds ++ [c.toNat - '0'.toNat]) (f.skip rest) else (ds, cs)
    | [] => (ds, [])

/-- Reads a count with blanks around it. -/
def readCount (f : Flags) (cs : List Char) : Option Nat × List Char :=
  let (ds, rest) := readDigits f cs.length [] (cs.dropWhile Text.isBlank)
  (if ds.isEmpty then none else smallNat? 10 ds, f.skip (rest.dropWhile Text.isBlank))

/-- Reads the count of a repetition behind its opening brace. -/
def readBounds (f : Flags) (cs : List Char) :
    Except PatternError ((Nat × Option Nat) × List Char) :=
  let (first, rest) := readCount f (f.skip cs)
  match first, rest with
  | some min, '\x7d' :: rest => .ok ((min, some min), rest)
  | some min, ',' :: rest =>
    match f.skip rest with
    | '\x7d' :: rest => .ok ((min, none), rest)
    | rest =>
      match readCount f rest with
      | (some max, '\x7d' :: rest) =>
        if min ≤ max then .ok ((min, some max), rest) else .error .repetitionCount
      | _ => .error .repetitionCount
  | _, _ => .error .repetitionCount

/-- Repeats the last item by one of the marks `?`, `*`, `+`. -/
def Reader.mark (st : Reader) (min : Nat) (max : Option Nat) (rest : List Char) :
    Except PatternError (Reader × List Char) := do
  let (lazy, rest) := readLazy rest
  let st ← st.repeatLast min max lazy
  .ok (st, rest)

/-- Reads the next item of a pattern that is not at its end. -/
def Reader.step (st : Reader) (c : Char) (rest : List Char) :
    Except PatternError (Reader × List Char) :=
  let f := st.flags
  match c with
  | '(' => st.readGroup rest
  | ')' => do
    let st ← st.closeGroup
    .ok (st, rest)
  | '|' =>
    .ok ({ st with items := [], branches := concatenation st.items :: st.branches }, rest)
  | '[' => do
    let (m, rest) ← readBracketed f rest
    .ok (st.push (.char m.set) m.depth, rest)
  | '?' => st.mark 0 (some 1) rest
  | '*' => st.mark 0 none rest
  | '+' => st.mark 1 none rest
  | '\x7b' => do
    let ((min, max), rest) ← readBounds f rest
    let (lazy, rest) := readLazy (f.skip rest)
    let st ← st.repeatLast min max lazy
    .ok (st, rest)
  | '\\' => do
    let (a, rest) ← readEscape f rest
    let r ← f.atom a
    .ok (st.push r 0, rest)
  | '.' => do
    let r ← f.dot
    .ok (st.push r 0, rest)
  | '^' => .ok (st.push (.look f.caret) 0, rest)
  | '$' => .ok (st.push (.look f.dollar) 0, rest)
  | c => .ok (st.push (f.literal c) 0, rest)

/-- Reads to the end of a pattern. -/
def Reader.run : Nat → Reader → List Char → Except PatternError Node
  | 0, _, _ => .error .tooLarge
  | fuel + 1, st, cs =>
    match st.flags.skip cs with
    | [] => if st.frames.isEmpty then .ok st.current else .error .groupOpen
    | c :: rest => do
      let (st, rest) ← st.step c rest
      st.run fuel rest

/-- How deep the parts of a pattern may nest. -/
def depthLimit : Nat := 250

/-- The expression that a pattern stands for. -/
def ofPattern (pattern : String) : Except PatternError Regex := do
  let cs := pattern.toList
  let node ← Reader.run (cs.length + 1) ⟨{}, [], [], [], [], 0⟩ cs
  if node.depth > depthLimit then .error .tooDeep
  else if node.regex.size > sizeLimit then .error .tooLarge
  else .ok node.regex

end LintScan.Regex
