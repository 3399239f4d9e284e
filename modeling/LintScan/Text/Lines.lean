/-!
# Lines

* `linesOf` / `lines` — the lines of a text that ends its lines with a line feed; a carriage return
  just before the line feed belongs to the ending.
* `sourceLinesOf` / `sourceLines` — the lines of a source file, where a lone carriage return ends a
  line as well.
-/

namespace LintScan.Text

/-- `line` without one carriage return at its end. -/
def dropReturn (line : List Char) : List Char :=
  match line.reverse with
  | '\r' :: rest => rest.reverse
  | _ => line

/-- The lines of `cs`, where `line` is the part of the first line that is already read. -/
def linesFrom (line : List Char) : List Char → List (List Char)
  | [] => if line.isEmpty then [] else [line]
  | '\n' :: rest => dropReturn line :: linesFrom [] rest
  | c :: rest => linesFrom (line ++ [c]) rest

/-- The lines of a text, each ended by a line feed or a carriage return and a line feed. -/
def linesOf (cs : List Char) : List (List Char) := linesFrom [] cs

/-- The lines of a text, each ended by a line feed or a carriage return and a line feed. -/
def lines (s : String) : List String := (linesOf s.toList).map String.ofList

/-- The source lines of `cs`, where `line` is the part of the first line that is already read. -/
def sourceLinesFrom (line : List Char) : List Char → List (List Char)
  | [] => if line.isEmpty then [] else [line]
  | '\r' :: '\n' :: rest => line :: sourceLinesFrom [] rest
  | '\r' :: rest => line :: sourceLinesFrom [] rest
  | '\n' :: rest => line :: sourceLinesFrom [] rest
  | c :: rest => sourceLinesFrom (line ++ [c]) rest

/-- The lines of a source file: a line feed, a carriage return, or the two together end a line. -/
def sourceLinesOf (cs : List Char) : List (List Char) := sourceLinesFrom [] cs

/-- The lines of a source file. -/
def sourceLines (s : String) : List String := (sourceLinesOf s.toList).map String.ofList

end LintScan.Text
