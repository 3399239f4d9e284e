import LintScan.Yaml.Cursor
import LintScan.Yaml.Token

/-!
# From tokens to nodes

The tokens are read by one function per kind of collection. Each takes the tokens behind the opening
token of its collection and gives the finished collection with the tokens behind it.

* `Composer` — the tokens still to be read and the nodes that were given a name.
* `document?` — the only document of a token list, or nothing if the list holds none.
-/

namespace LintScan.Yaml

/-- The state of composing: tokens to read, named nodes, and the meaning of tag handles. -/
structure Composer where
  tokens : List Token
  anchors : List (String × Node) := []
  handles : List (String × String) := []

namespace Composer

/-- The next token. -/
def peek (s : Composer) : Option Token := s.tokens.head?

/-- The state behind the next token. -/
def skip (s : Composer) : Composer := { s with tokens := s.tokens.tail }

/-- Whether the next token is one of the given ones. -/
def sees (s : Composer) (ts : List Token) : Bool := s.peek.any ts.contains

/-- The full text of a tag. -/
def resolveTag (s : Composer) (handle suffix : String) : Except Problem String :=
  if handle.isEmpty then .ok suffix
  else match s.handles.lookup handle with
    | some lead => .ok (lead ++ suffix)
    | none =>
      if handle == "!" then .ok ("!" ++ suffix)
      else if handle == "!!" then .ok ("tag:yaml.org,2002:" ++ suffix)
      else .error .unknownTagHandle

/-- Reads the anchor and the tag of a node, in either order. -/
def properties (s : Composer) : Except Problem (Option String × Option String × Composer) :=
  match s.tokens with
  | .anchor a :: .tag h x :: rest => do
    let t ← s.resolveTag h x
    .ok (some a, some t, { s with tokens := rest })
  | .tag h x :: .anchor a :: rest => do
    let t ← s.resolveTag h x
    .ok (some a, some t, { s with tokens := rest })
  | .anchor a :: rest => .ok (some a, none, { s with tokens := rest })
  | .tag h x :: rest => do
    let t ← s.resolveTag h x
    .ok (none, some t, { s with tokens := rest })
  | _ => .ok (none, none, s)

/-- The state in which the node has the name. -/
def record (s : Composer) (anchor : Option String) (n : Node) : Composer :=
  match anchor with
  | some a => { s with anchors := (a, n) :: s.anchors }
  | none => s

/-- On a written scalar the tag `!` alone asks for no type. -/
def ownTag : Option String → Option String
  | some "!" => none
  | t => t

mutual

/-- Reads a node. Block collections are allowed with `block`, and a sequence that is not indented
with `flush`. -/
def node (block flush : Bool) : Nat → Composer → Except Problem (Node × Composer)
  | 0, _ => .error .tooDeep
  | fuel + 1, s =>
    match s.peek with
    | some (.alias a) =>
      match s.anchors.lookup a with
      | some n => .ok (n, s.skip)
      | none => .error .unknownAnchor
    | _ => do
      let (anchor, tag, s) ← s.properties
      let (n, s) ←
        match s.peek with
        | some (.scalar text style) => .ok (Node.scalar (ownTag tag) style text, s.skip)
        | some .flowSeqStart => do
          let (items, s) ← flowSeq true fuel s.skip
          .ok (Node.seq tag items, s)
        | some .flowMapStart => do
          let (pairs, s) ← flowMap true fuel s.skip
          .ok (Node.map tag pairs, s)
        | some .blockEntry =>
          if flush then do
            let (items, s) ← flushSeq fuel s
            .ok (Node.seq tag items, s)
          else emptyNode anchor tag s
        | some .blockSeqStart =>
          if block then do
            let (items, s) ← blockSeq fuel s.skip
            .ok (Node.seq tag items, s)
          else emptyNode anchor tag s
        | some .blockMapStart =>
          if block then do
            let (pairs, s) ← blockMap fuel s.skip
            .ok (Node.map tag pairs, s)
          else emptyNode anchor tag s
        | _ => emptyNode anchor tag s
      .ok (n, s.record anchor n)

/-- An anchor or a tag alone makes an empty scalar; without either a node is missing. -/
def emptyNode (anchor tag : Option String) (s : Composer) : Except Problem (Node × Composer) :=
  if anchor.isSome || tag.isSome then .ok (.scalar tag .plain "", s)
  else .error .expectedNode

/-- Reads the items of an indented block sequence. -/
def blockSeq : Nat → Composer → Except Problem (List Node × Composer)
  | 0, _ => .error .tooDeep
  | fuel + 1, s =>
    match s.peek with
    | some .blockEntry => do
      let s := s.skip
      let (n, s) ← if s.sees [.blockEntry, .blockEnd] then .ok (Node.empty, s)
        else node true false fuel s
      let (items, s) ← blockSeq fuel s
      .ok (n :: items, s)
    | some .blockEnd => .ok ([], s.skip)
    | _ => .error .expectedEntry

/-- Reads the items of a block sequence that is not indented. -/
def flushSeq : Nat → Composer → Except Problem (List Node × Composer)
  | 0, _ => .error .tooDeep
  | fuel + 1, s =>
    match s.peek with
    | some .blockEntry => do
      let s := s.skip
      let (n, s) ← if s.sees [.blockEntry, .key, .value, .blockEnd] then .ok (Node.empty, s)
        else node true false fuel s
      let (items, s) ← flushSeq fuel s
      .ok (n :: items, s)
    | _ => .ok ([], s)

/-- Reads the pairs of a block mapping. -/
def blockMap : Nat → Composer → Except Problem (List (Node × Node) × Composer)
  | 0, _ => .error .tooDeep
  | fuel + 1, s =>
    match s.peek with
    | some .key => do
      let s := s.skip
      let (k, s) ← if s.sees [.key, .value, .blockEnd] then .ok (Node.empty, s)
        else node true true fuel s
      let (v, s) ← blockValue fuel s
      let (pairs, s) ← blockMap fuel s
      .ok ((k, v) :: pairs, s)
    | some .blockEnd => .ok ([], s.skip)
    | _ => .error .expectedKey

/-- Reads the value of a pair of a block mapping. -/
def blockValue : Nat → Composer → Except Problem (Node × Composer)
  | 0, _ => .error .tooDeep
  | fuel + 1, s =>
    if s.sees [.value] then
      let s := s.skip
      if s.sees [.key, .value, .blockEnd] then .ok (Node.empty, s) else node true true fuel s
    else .ok (Node.empty, s)

/-- Reads the items of a flow sequence. An item with a `?` is a mapping of one pair. -/
def flowSeq (first : Bool) : Nat → Composer → Except Problem (List Node × Composer)
  | 0, _ => .error .tooDeep
  | fuel + 1, s =>
    if s.sees [.flowSeqEnd] then .ok ([], s.skip)
    else do
      let s ← if first then .ok s
        else if s.sees [.flowEntry] then .ok s.skip
        else .error .expectedFlowEnd
      if s.sees [.flowSeqEnd] then .ok ([], s.skip)
      else do
        let (n, s) ← if s.sees [.key] then flowPair fuel s.skip else node false false fuel s
        let (items, s) ← flowSeq false fuel s
        .ok (n :: items, s)

/-- Reads a mapping of one pair inside a flow sequence. -/
def flowPair : Nat → Composer → Except Problem (Node × Composer)
  | 0, _ => .error .tooDeep
  | fuel + 1, s => do
    let (k, s) ← if s.sees [.value, .flowEntry, .flowSeqEnd] then .ok (Node.empty, s.skip)
      else node false false fuel s
    let (v, s) ←
      if s.sees [.value] then
        let s := s.skip
        if s.sees [.flowEntry, .flowSeqEnd] then .ok (Node.empty, s)
        else node false false fuel s
      else .ok (Node.empty, s)
    .ok (.map none [(k, v)], s)

/-- Reads the pairs of a flow mapping. -/
def flowMap (first : Bool) : Nat → Composer → Except Problem (List (Node × Node) × Composer)
  | 0, _ => .error .tooDeep
  | fuel + 1, s =>
    if s.sees [.flowMapEnd] then .ok ([], s.skip)
    else do
      let s ← if first then .ok s
        else if s.sees [.flowEntry] then .ok s.skip
        else .error .expectedFlowEnd
      if s.sees [.flowMapEnd] then .ok ([], s.skip)
      else do
        let (k, v, s) ←
          if s.sees [.key] then do
            let s := s.skip
            let (k, s) ← if s.sees [.value, .flowEntry, .flowMapEnd] then .ok (Node.empty, s)
              else node false false fuel s
            let (v, s) ←
              if s.sees [.value] then
                let s := s.skip
                if s.sees [.flowEntry, .flowMapEnd] then .ok (Node.empty, s)
                else node false false fuel s
              else .ok (Node.empty, s)
            .ok (k, v, s)
          else do
            let (k, s) ← node false false fuel s
            .ok (k, Node.empty, s)
        let (pairs, s) ← flowMap false fuel s
        .ok ((k, v) :: pairs, s)

end

/-- Reads the directives before a document. -/
def directives (versions : Nat) (handles : List (String × String)) :
    List Token → Except Problem (Bool × List (String × String) × List Token)
  | .version major minor :: rest =>
    if versions > 0 then .error .repeatedDirective
    else if major == 1 && (minor == 1 || minor == 2) then directives 1 handles rest
    else .error .badVersion
  | .tagDirective h lead :: rest =>
    if (handles.lookup h).isSome then .error .repeatedDirective
    else directives versions ((h, lead) :: handles) rest
  | ts => .ok (versions > 0 || !handles.isEmpty, handles, ts)

/-- Reads the content of a document, which may be missing. -/
def content (fuel : Nat) (s : Composer) : Except Problem (Node × Composer) :=
  match s.peek with
  | none => .ok (Node.empty, s)
  | some .documentStart => .ok (Node.empty, s)
  | some .documentEnd => .ok (Node.empty, s)
  | some (.version _ _) => .ok (Node.empty, s)
  | some (.tagDirective _ _) => .ok (Node.empty, s)
  | some _ => node true false fuel s

end Composer

/-- The only document of a token list; nothing if the list holds no document at all. -/
def document? (ts : List Token) : Except Problem (Option Node) := do
  let fuel := 4 * ts.length + 4
  let (found, handles, rest) ← Composer.directives 0 [] ts
  let (n, s) ←
    match rest with
    | [] => if found then .error .expectedDocument else return none
    | .documentStart :: rest => Composer.content fuel { tokens := rest, handles }
    | .documentEnd :: _ =>
      if found then .error .expectedDocument else Composer.node true false fuel { tokens := rest }
    | _ =>
      if found then .error .expectedDocument
      else Composer.node true false fuel { tokens := rest }
  match s.tokens.dropWhile (· == .documentEnd) with
  | [] => .ok (some n)
  | _ => .error .secondDocument

end LintScan.Yaml
