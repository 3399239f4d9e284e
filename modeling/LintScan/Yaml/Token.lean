/-!
# YAML tokens and nodes

* `ScalarStyle` — how a scalar is written.
* `Token` — the units that the scanner finds, with the starts and ends of blocks made explicit.
* `Node` — a document as a tree: scalars with the text and style they are written in, sequences and
  mappings in order. Aliases are replaced by the nodes they stand for.
-/

namespace LintScan.Yaml

/-- How a scalar is written. -/
inductive ScalarStyle where
  | plain
  | single
  | double
  | literal
  | folded
  deriving Repr, DecidableEq

/-- A unit of a YAML text. -/
inductive Token where
  | version (major minor : Nat)
  | tagDirective (handle lead : String)
  | documentStart
  | documentEnd
  | blockSeqStart
  | blockMapStart
  | blockEnd
  | flowSeqStart
  | flowSeqEnd
  | flowMapStart
  | flowMapEnd
  | blockEntry
  | flowEntry
  | key
  | value
  | alias (name : String)
  | anchor (name : String)
  | tag (handle suffix : String)
  | scalar (text : String) (style : ScalarStyle)
  deriving Repr, DecidableEq

/-- A node of a document, with its tag if it has one. -/
inductive Node where
  | scalar (tag : Option String) (style : ScalarStyle) (text : String)
  | seq (tag : Option String) (items : List Node)
  | map (tag : Option String) (pairs : List (Node × Node))
  deriving Repr

/-- The node that stands where nothing is written. -/
def Node.empty : Node := .scalar none .plain ""

/-- The tag of a node. -/
def Node.tag : Node → Option String
  | scalar t _ _ => t
  | seq t _ => t
  | map t _ => t

end LintScan.Yaml
