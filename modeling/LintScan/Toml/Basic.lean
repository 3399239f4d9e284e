/-!
# TOML

* `Toml` — a TOML value. Of a table it is kept how it came about, since that decides what may be
  added to it later.
* `TomlTable.get?` — the value of a key.
* `TomlTable.define`, `openTable`, `openElement` — what the three kinds of statements of a document
  do.
-/

namespace LintScan

/-- How a table came about: by the header of a table inside it, by its own header, by a dotted key,
or by braces. -/
inductive TableOrigin where
  | implied
  | header
  | dotted
  | inline
  deriving Repr, DecidableEq

/-- A TOML value. Dates and floating point numbers are kept as text. -/
inductive Toml where
  | string (s : String)
  | integer (n : Int)
  | float (text : String)
  | boolean (b : Bool)
  | date (text : String)
  | array (items : List Toml)
  | table (origin : TableOrigin) (entries : List (String × Toml))
  | elements (tables : List (List (String × Toml)))
  deriving Repr

/-- The entries of a table in order. -/
abbrev TomlTable := List (String × Toml)

namespace TomlTable

/-- The value of a key. -/
def get? (t : TomlTable) (k : String) : Option Toml := List.lookup k t

/-- The table with the value of a key set. -/
def set (t : TomlTable) (k : String) (v : Toml) : TomlTable :=
  if (t.get? k).isSome then List.map (fun e => if e.1 == k then (k, v) else e) t else t ++ [(k, v)]

/-- Replaces the last item of a list. -/
def updateLast {α : Type} (f : α → Option α) : List α → Option (List α)
  | [] => none
  | [a] => (f a).map ([·])
  | a :: as => (updateLast f as).map (a :: ·)

/-- Defines a dotted key. Tables on the way are made, and may be entered if no header made them. -/
def define (v : Toml) : List String → TomlTable → Option TomlTable
  | [], _ => none
  | [k], t => if (t.get? k).isSome then none else some (t.set k v)
  | k :: ks, t =>
    match t.get? k with
    | none => (define v ks []).map fun inner => t.set k (.table .dotted inner)
    | some (.table .dotted inner) => (define v ks inner).map fun i => t.set k (.table .dotted i)
    | some (.table .implied inner) => (define v ks inner).map fun i => t.set k (.table .implied i)
    | some _ => none

/-- Changes the table that a header names, entering the tables and the last elements on the way. -/
def within (last : String → TomlTable → Option TomlTable) :
    List String → TomlTable → Option TomlTable
  | [], _ => none
  | [k], t => last k t
  | k :: ks, t =>
    match t.get? k with
    | none => (within last ks []).map fun inner => t.set k (.table .implied inner)
    | some (.table .inline _) => none
    | some (.table origin inner) => (within last ks inner).map fun i => t.set k (.table origin i)
    | some (.elements tables) =>
      (updateLast (within last ks) tables).map fun ts => t.set k (.elements ts)
    | some _ => none

/-- Opens the table of a header. A table has one header at most. -/
def openTable (path : List String) (t : TomlTable) : Option TomlTable :=
  within (fun k t => match t.get? k with
    | none => some (t.set k (.table .header []))
    | some (.table .implied inner) => some (t.set k (.table .header inner))
    | some _ => none) path t

/-- Opens a new element of the array of tables of a header. -/
def openElement (path : List String) (t : TomlTable) : Option TomlTable :=
  within (fun k t => match t.get? k with
    | none => some (t.set k (.elements [[]]))
    | some (.elements tables) => some (t.set k (.elements (tables ++ [[]])))
    | some _ => none) path t

/-- Defines a dotted key in the table opened last, which the header `path` names. -/
def defineIn (path keys : List String) (v : Toml) (t : TomlTable) : Option TomlTable :=
  match path with
  | [] => define v keys t
  | path => within (fun k t => match t.get? k with
      | some (.table origin inner) => (define v keys inner).map fun i => t.set k (.table origin i)
      | some (.elements tables) =>
        (updateLast (define v keys) tables).map fun ts => t.set k (.elements ts)
      | _ => none) path t

end TomlTable

end LintScan
