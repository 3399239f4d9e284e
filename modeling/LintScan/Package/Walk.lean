import LintScan.Package.Basic
import LintScan.Session.Host
import LintScan.Unicode.Case

/-!
# Walking a package

* `Host.regularFiles` — the regular files below a path. Links are not followed, except for a path
  that is itself a link to a directory.
* `Package.walk` — records the files of a package. A second walk changes nothing, so all discovery
  plugins see the same files.
-/

namespace LintScan

/-- The paths of the regular files below a path, in the order of their names. A path that leads to a
file stands for itself. -/
def Host.regularFiles (h : Host) (root : Path) : List Path :=
  match h.files.locate h.workingDirectory false root with
  | .error _ => []
  | .ok place =>
    match h.files.entry? place with
    | some (.file _ _) => [root]
    | some .directory => inside place
    | some (.link _) =>
      match h.files.find h.workingDirectory root with
      | .ok (target, .directory) => inside target
      | _ => []
    | none => []
where
  inside (place : Place) : List Path :=
    ((h.files.below place).filter (·.entry.isFile)).map fun b =>
      b.names.foldl (fun p name => p.join ⟨name⟩) root

namespace Package

/-- The program that tells what kind of contents a file has. -/
def sniffer : String := "file"

/-- What the sniffing program says of a file, in lower case; nothing if it fails. -/
def sniff (path : Path) : Session String := do
  match ← Session.start sniffer [path.text] with
  | .ok run =>
    match run.ending with
    | .code 0 => return Unicode.lowercase (Text.Utf8.decodeLossy run.output)
    | .code n =>
      Session.warn ("Failed to run 'file' command. Returncode = " ++ toString n)
      return ""
    | .signal =>
      Session.warn "Failed to run 'file' command. Returncode = -1"
      return ""
  | .error e =>
    Session.warn ("OSError on file command for " ++ path.text ++ ": " ++ e.message)
    return ""

/-- The record of a file. -/
def examine (sniffs : Bool) (path : Path) : Session PackageFile := do
  let h ← Session.host
  let full := h.absolute path
  let description ← if sniffs then sniff full else pure ""
  return { name := Unicode.lowercase (path.fileName?.getD path.text), path := full, description }

/-- The package with its files known. -/
def walk (p : Package) : Session Package := do
  if p.walked then return p
  let h ← Session.host
  let records ← (h.regularFiles p.path).mapM (examine (h.commandExists sniffer))
  return { p with files := some (.ofList (records.map fun r => (r.path.names, r))) }

end Package

end LintScan
