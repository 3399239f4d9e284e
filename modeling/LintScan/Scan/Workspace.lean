import LintScan.Scan.Run

/-!
# Scanning a workspace

* `Host.findPackages` — the packages below a directory: the directories with a marker file. The
  search leaves out hidden directories and what lies inside a package.
* `Runner.runWorkspace` — scans each of them; what happens to one does not keep the others from
  being scanned.
-/

namespace LintScan

/-- The files that make a directory a package. -/
def packageMarkers : List String :=
  ["package.xml", "setup.py", "pyproject.toml", "CMakeLists.txt", "Cargo.toml"]

/-- Whether the last of some names begins with a dot. -/
def isHidden (names : List String) : Bool :=
  match names.getLast? with
  | some name => Text.beginsWith ['.'] name.toList
  | none => false

/-- The directories that hold a package, among directories in order, each before those inside it. A
hidden directory and a package are left out with everything inside. -/
def outermost (holdsPackage : List String → Bool) : List (List String) → List (List String)
  | [] => []
  | dir :: rest =>
    let outside := rest.dropWhile dir.isPrefixOf
    if isHidden dir then outermost holdsPackage outside
    else if holdsPackage dir then dir :: outermost holdsPackage outside
    else outermost holdsPackage rest
termination_by dirs => dirs.length
decreasing_by
  all_goals
    simp only [List.length_cons]
    have := (List.dropWhile_sublist (l := rest) dir.isPrefixOf).length_le
    omega

namespace Host

/-- The directories below a path in the order of their names, as names from there. -/
def directoriesBelow (h : Host) (root : Path) : List (List String) :=
  match h.files.find h.workingDirectory root with
  | .ok (place, .directory) => ((h.files.below place).filter (·.entry.isDirectory)).map (·.names)
  | _ => []

/-- The path that some names lead to. -/
def pathBelow (root : Path) (names : List String) : Path :=
  names.foldl (fun p name => p.join ⟨name⟩) root

/-- Whether the directory at a path has a marker file. -/
def holdsMarker (h : Host) (dir : Path) : Bool :=
  packageMarkers.any fun m => h.hasFile (dir.join ⟨m⟩)

/-- The packages below a directory, in order. Entries that cannot be read are passed over; they are
not in the tree of files, see `Surroundings.namesIn`, so the search has no case for them. -/
def findPackages (h : Host) (root : Path) : List Path :=
  (outermost (fun names => h.holdsMarker (pathBelow root names)) (h.directoriesBelow root)).map
    (pathBelow root)

end Host

/-- The outcome of the scan of one package. -/
structure PackageOutcome where
  path : Path
  result : Except RunError ScanResult

namespace Runner

/-- The packages of a workspace that are not to be ignored. -/
def workspacePackages (r : Runner) (h : Host) (root : Path) : List Path :=
  (h.findPackages root).filter fun p =>
    match p.fileName? with
    | some name => !r.exceptions.ignores name
    | none => true

/-- Scans every package of a workspace. -/
def runWorkspace (r : Runner) (root : Path) : Attempt RunError (List PackageOutcome) := do
  let h ← Session.host
  if !h.hasDirectory root then throw (.packageNotFound root)
  (r.workspacePackages h root).mapM fun path => do
    let result ← Attempt.outcome (r.run path none)
    return { path, result }

end Runner

end LintScan
