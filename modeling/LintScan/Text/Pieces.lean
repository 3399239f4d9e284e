/-!
# Pieces of a text

* `splitAtEach` — the pieces between the occurrences of a separator, empty ones included.
* `cutAt?` — the two parts around the first occurrence of a separator.
* `afterLead?` — the rest of a text that begins with a given text.
* `occursIn` — whether a text holds another one.
-/

namespace LintScan.Text

/-- The pieces between the occurrences of `sep`; there is one more piece than occurrences. -/
def splitAtEach (sep : Char) : List Char → List (List Char)
  | [] => [[]]
  | c :: rest =>
    if c = sep then [] :: splitAtEach sep rest
    else match splitAtEach sep rest with
      | [] => [[c]]
      | piece :: pieces => (c :: piece) :: pieces

/-- The parts before and behind the first occurrence of `sep`. -/
def cutAt? (sep : Char) : List Char → Option (List Char × List Char)
  | [] => none
  | c :: rest =>
    if c = sep then some ([], rest)
    else (cutAt? sep rest).map fun (head, tail) => (c :: head, tail)

/-- The rest of `cs` behind `lead`, if `cs` begins with it. -/
def afterLead? : List Char → List Char → Option (List Char)
  | [], cs => some cs
  | _ :: _, [] => none
  | l :: lead, c :: cs => if l = c then afterLead? lead cs else none

/-- Whether `cs` begins with `lead`. -/
def beginsWith (lead cs : List Char) : Bool := (afterLead? lead cs).isSome

/-- Whether `cs` ends with `tail`. -/
def endsWith (tail cs : List Char) : Bool := beginsWith tail.reverse cs.reverse

/-- Whether `part` occurs in `cs`. -/
def occursInChars (part : List Char) : List Char → Bool
  | [] => beginsWith part []
  | c :: rest => beginsWith part (c :: rest) || occursInChars part rest

/-- Whether `part` occurs in `s`. -/
def occursIn (part s : String) : Bool := occursInChars part.toList s.toList

/-- The texts joined by `sep`. -/
def join (sep : String) : List String → String
  | [] => ""
  | [s] => s
  | s :: t :: rest => s ++ sep ++ join sep (t :: rest)

end LintScan.Text
