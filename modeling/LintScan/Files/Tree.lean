import LintScan.Files.Path
import LintScan.Text.Utf8

/-!
# File trees

* `FileTree` — the files, directories and links of a machine, each under its place: the names that
  lead to it from the root.
* `FileTree.locate` — the place that a path leads to, through links and steps up.
* `FileTree.read`, `write`, `makeDirectories`, `below` — the operations on a tree.
* `FileError` — why an operation fails.
-/

namespace LintScan

/-- Why an operation on files or programs fails. -/
inductive FileError where
  | notFound
  | permissionDenied
  | alreadyExists
  | notDirectory
  | isDirectory
  | tooManyLinks
  | invalidText
  | notProgram
  | other (text : String)
  deriving Repr, DecidableEq

/-- The text of the cause. -/
def FileError.message : FileError → String
  | notFound => "No such file or directory (os error 2)"
  | permissionDenied => "Permission denied (os error 13)"
  | alreadyExists => "File exists (os error 17)"
  | notDirectory => "Not a directory (os error 20)"
  | isDirectory => "Is a directory (os error 21)"
  | tooManyLinks => "Too many levels of symbolic links (os error 40)"
  | notProgram => "Exec format error (os error 8)"
  | invalidText => "stream did not contain valid UTF-8"
  | other text => text

/-- The names that lead to an entry from the root. -/
abbrev Place := List String

/-- What stands at a place. -/
inductive Entry where
  | file (bytes : List UInt8) (mode : Nat)
  | directory
  | link (target : Path)
  deriving Repr, DecidableEq

/-- Whether the entry is a file. -/
def Entry.isFile : Entry → Bool
  | file _ _ => true
  | _ => false

/-- Whether the entry is a directory. -/
def Entry.isDirectory : Entry → Bool
  | directory => true
  | _ => false

/-- Whether the entry is a file that may be run by someone. -/
def Entry.isExecutable : Entry → Bool
  | file _ mode => mode &&& 0o111 != 0
  | _ => false

/-- The entries of a machine. The root is a directory and has no entry of its own. The tree holds
what can be listed: a directory that cannot be read has nothing below it, which is settled when the
tree is read from the disk, in `Surroundings.namesIn`, so no operation on a tree meets one. -/
structure FileTree where
  entries : List (Place × Entry) := []
  deriving Repr, Inhabited

namespace FileTree

/-- The entry at a place. -/
def entry? (t : FileTree) (place : Place) : Option Entry :=
  if place = [] then some .directory else t.entries.lookup place

/-- The steps of a path: its pieces, and a last `.` if it ends in a slash and so has to lead to a
directory. -/
def stepsOf (p : Path) : List String :=
  let pieces := (Text.splitAtEach '/' p.text.toList).filter (!·.isEmpty)
  let steps := pieces.map String.ofList
  if p.text.toList.getLast? == some '/' then steps ++ ["."] else steps

/-- Follows steps from the directory `at_` up to the first link, from where `jump` leads on. A last
link is followed only with `followLast`. -/
def followSteps (t : FileTree) (followLast : Bool)
    (jump : Place → List String → Except FileError Place) :
    Place → List String → Except FileError Place
  | at_, [] => .ok at_
  | at_, s :: rest =>
    match t.entry? at_ with
    | some .directory =>
      if s == "." then followSteps t followLast jump at_ rest
      else if s == ".." then followSteps t followLast jump at_.dropLast rest
      else
        let next := at_ ++ [s]
        match t.entry? next with
        | some (.link target) =>
          if rest.isEmpty && !followLast then .ok next
          else jump (if target.isAbsolute then [] else at_) (stepsOf target ++ rest)
        | some _ => followSteps t followLast jump next rest
        | none => if rest.isEmpty then .ok next else .error .notFound
    | some _ => .error .notDirectory
    | none => .error .notFound

/-- Follows steps from a directory, through at most so many links. -/
def follow (t : FileTree) (followLast : Bool) : Nat → Place → List String → Except FileError Place
  | 0 => t.followSteps followLast fun _ _ => .error .tooManyLinks
  | links + 1 => t.followSteps followLast (t.follow followLast links)

/-- How many links a path may lead through. -/
def linkLimit : Nat := 40

/-- The place that a path leads to from a directory; the place itself need not exist. -/
def locate (t : FileTree) (cwd : Place) (followLast : Bool) (p : Path) : Except FileError Place :=
  if p.text.isEmpty then .error .notFound
  else
    t.follow followLast linkLimit (if p.isAbsolute then [] else cwd) (stepsOf p)

/-- The place and the entry that a path leads to. -/
def find (t : FileTree) (cwd : Place) (p : Path) : Except FileError (Place × Entry) := do
  let place ← t.locate cwd true p
  match t.entry? place with
  | some e => .ok (place, e)
  | none => .error .notFound

/-- Whether something stands at a path. -/
def exists? (t : FileTree) (cwd : Place) (p : Path) : Bool :=
  match t.find cwd p with
  | .ok _ => true
  | .error _ => false

/-- Whether a path leads to a directory. -/
def isDirectory (t : FileTree) (cwd : Place) (p : Path) : Bool :=
  match t.find cwd p with
  | .ok (_, .directory) => true
  | _ => false

/-- Whether a path leads to a file. -/
def isFile (t : FileTree) (cwd : Place) (p : Path) : Bool :=
  match t.find cwd p with
  | .ok (_, .file _ _) => true
  | _ => false

/-- Whether a path leads to a file that may be run. -/
def isExecutable (t : FileTree) (cwd : Place) (p : Path) : Bool :=
  match t.find cwd p with
  | .ok (_, e) => e.isExecutable
  | .error _ => false

/-- The contents of a file. -/
def read (t : FileTree) (cwd : Place) (p : Path) : Except FileError (List UInt8) := do
  match ← t.find cwd p with
  | (_, .file bytes _) => .ok bytes
  | (_, .directory) => .error .isDirectory
  | (_, .link _) => .error .tooManyLinks

/-- The contents of a text file. -/
def readText (t : FileTree) (cwd : Place) (p : Path) : Except FileError String := do
  match Text.Utf8.decode? (← t.read cwd p) with
  | some s => .ok s
  | none => .error .invalidText

/-- The tree with an entry set. -/
def set (t : FileTree) (place : Place) (e : Entry) : FileTree :=
  ⟨t.entries.filter (·.1 != place) ++ [(place, e)]⟩

/-- The tree with an entry set and directories at every place before it that has none. -/
def setDeep (t : FileTree) (place : Place) (e : Entry) : FileTree :=
  let above := (List.range place.length).map place.take
  let t := above.foldl (fun t p => if (t.entry? p).isSome then t else t.set p .directory) t
  t.set place e

/-- The tree with the contents of a file written. A new file may be read and written, not run. -/
def write (t : FileTree) (cwd : Place) (p : Path) (bytes : List UInt8) :
    Except FileError FileTree := do
  let place ← t.locate cwd true p
  match t.entry? place with
  | some (.file _ mode) => .ok (t.set place (.file bytes mode))
  | some .directory => .error .isDirectory
  | some (.link _) => .error .tooManyLinks
  | none =>
    match t.entry? place.dropLast with
    | some .directory => .ok (t.set place (.file bytes 0o644))
    | some _ => .error .notDirectory
    | none => .error .notFound

/-- The path without slashes at its end; the root keeps its slash. -/
def withoutLastSlashes (p : Path) : Path :=
  let kept := (p.text.toList.reverse.dropWhile (· == '/')).reverse
  if kept.isEmpty then p else ⟨String.ofList kept⟩

/-- The tree with a new directory. The path may end in slashes. -/
def makeDirectory (t : FileTree) (cwd : Place) (p : Path) : Except FileError FileTree := do
  let place ← t.locate cwd false (withoutLastSlashes p)
  match t.entry? place, t.entry? place.dropLast with
  | some _, _ => .error .alreadyExists
  | none, some .directory => .ok (t.set place .directory)
  | none, some _ => .error .notDirectory
  | none, none => .error .notFound

/-- The tree with a new directory and those missing above it. A directory that exists is fine. -/
def makeDirectoriesWithin (cwd : Place) : Nat → FileTree → Path → Except FileError FileTree
  | 0, _, _ => .error .notFound
  | fuel + 1, t, p =>
    if p.text.isEmpty then .ok t
    else
      match t.makeDirectory cwd p with
      | .ok t => .ok t
      | .error .notFound =>
        match p.parent? with
        | none => .error .notFound
        | some above => do
          let t ← makeDirectoriesWithin cwd fuel t above
          match t.makeDirectory cwd p with
          | .ok t => .ok t
          | .error e => if t.isDirectory cwd p then .ok t else .error e
      | .error e => if t.isDirectory cwd p then .ok t else .error e

/-- The tree with a new directory and those missing above it. -/
def makeDirectories (t : FileTree) (cwd : Place) (p : Path) : Except FileError FileTree :=
  makeDirectoriesWithin cwd (p.text.length + 1) t p

/-- The entries that another tree does not have. -/
def changesSince (t before : FileTree) : List (Place × Entry) :=
  t.entries.filter fun (place, e) => before.entry? place != some e

/-- An entry below a directory, with the names that lead to it from there. -/
structure Below where
  names : List String
  entry : Entry

/-- The entries below a place, each directory before what it holds and names in order. -/
def below (t : FileTree) (place : Place) : List Below :=
  let inside := t.entries.filterMap fun (p, e) =>
    if place.isPrefixOf p && place.length < p.length then some ⟨p.drop place.length, e⟩ else none
  inside.mergeSort fun a b => !decide (b.names < a.names)

end FileTree

end LintScan
