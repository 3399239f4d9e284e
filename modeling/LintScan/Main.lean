import LintScan.Command.Run
import LintScan.Resources.Bundled

/-!
# The program

Reads the files within the reach of a command, carries the command out, and leaves behind what its
session leaves: changed files, the printed text, the log, the complaints and the exit code.

All files are read as documents that nobody may run and no directory is searched for programs. So no
program is started, and a plugin that needs one reports that it is missing.
-/

namespace LintScan.Surroundings

/-! ## Places -/

/-- The path of a place. -/
def pathOf (place : Place) : String := "/" ++ Text.join "/" place

/-- The place of an absolute path, where a step up leaves a directory. -/
def placeOf (path : String) : Place :=
  (Path.parts ⟨path⟩).foldl
    (fun place part =>
      match part with
      | .name s => place ++ [s]
      | .up => place.dropLast
      | _ => place)
    []

/-- The places above a place, from the root on. -/
def above (place : Place) : List Place := (List.range place.length).map place.take

/-- The directory of the documents that come with the program. It stands for no real one. -/
def bundledPlace : Place := ["lintherd"]

/-- The tree with the documents that come with the program. -/
def withBundled (t : FileTree) : FileTree :=
  Bundled.files.foldl
    (fun t (name, text) =>
      t.setDeep (bundledPlace ++ ["rsc", name]) (.file (Text.Utf8.encode text) 0o644))
    t

/-! ## Reading -/

/-- The entry at a place, or nothing if it cannot be read. A link to a file stands for the file, and
a link to a directory for itself, so that no walk goes around in it. -/
def entryAt (place : Place) : IO (Option Entry) := do
  let file := (← IO.currentDir) / pathOf place
  let document := do return some (.file (← IO.FS.readBinFile file).toList 0o644)
  try
    match (← file.symlinkMetadata).type with
    | .dir => return some .directory
    | .file => document
    | .symlink =>
      if ← file.isDir then return some (.link ⟨(← IO.FS.realPath file).toString⟩)
      else document
    | .other => return none
  catch _ => return none

/-- The names in a directory; none if it cannot be read. -/
def namesIn (place : Place) : IO (List String) := do
  let file := (← IO.currentDir) / pathOf place
  try
    return (← file.readDir).toList.map (·.fileName)
  catch _ => return []

/-- The entry at a place and all below it. -/
partial def entriesFrom (place : Place) : IO (List (Place × Entry)) := do
  match ← entryAt place with
  | none => return []
  | some .directory =>
    let inside ← (← namesIn place).mapM fun n => entriesFrom (place ++ [n])
    return (place, .directory) :: inside.flatten
  | some e => return [(place, e)]

/-- The place without links of an absolute path; the place as it is written if nothing stands
there. -/
def realPlaceOf (path : String) : IO Place := do
  try
    return placeOf (← IO.FS.realPath path).toString
  catch _ => return placeOf path

/-- The entries on the way to a path and below what it leads to. -/
def entriesFor (p : Path) : IO (List (Place × Entry)) := do
  let file := ((← IO.currentDir) / p.text).toString
  let written := placeOf file
  let real ← realPlaceOf file
  let way ← (above written ++ above real).mapM fun place => do
    return (← entryAt place).toList.map fun e => (place, e)
  return way.flatten ++ (← entriesFrom written) ++ (← entriesFrom real)

/-- The machine with the files for some paths. -/
def hostFor (paths : List Path) : IO Host := do
  let entries ← paths.mapM entriesFor
  return {
    files := withBundled ⟨entries.flatten.eraseDupsBy fun a b => a.1 == b.1⟩
    workingDirectory := placeOf (← IO.currentDir).toString
    searchPath := none
    noColor := (← IO.getEnv "NO_COLOR").isSome
    logFilter := ← IO.getEnv "RUST_LOG"
    resourceRoot := ⟨pathOf bundledPlace⟩
    programs := fun _ => none }

/-- The machine within the reach of a command. -/
def hostOf (c : Command) : IO Host := do
  hostFor (c.reach (← hostFor (⟨"."⟩ :: c.settingsPaths)))

/-! ## Writing -/

/-- Brings an entry to a real place. -/
def leave : Place × Entry → IO Unit
  | (place, .directory) => IO.FS.createDirAll (pathOf place)
  | (place, .file bytes _) => IO.FS.writeBinFile (pathOf place) ⟨bytes.toArray⟩
  | (_, .link _) => pure ()

/-- Carries out the arguments of a command line and gives the exit code. -/
def run (arguments : List String) : IO UInt32 := do
  let host ← match Command.ofArguments arguments with
    | .ok .version | .error _ => hostFor []
    | .ok c => hostOf c
  let (code, state) := (runArguments arguments).run { host }
  for change in state.host.files.changesSince host.files do
    leave change
  IO.print state.journal.printed
  for entry in state.journal.shownLog do
    IO.eprintln entry.line
  for line in state.journal.complaints do
    IO.eprintln line
  return code.toUInt32

end LintScan.Surroundings

/-- Carries out the arguments of the command line. -/
def main (arguments : List String) : IO UInt32 := LintScan.Surroundings.run arguments
