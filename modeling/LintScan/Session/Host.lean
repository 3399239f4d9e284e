import LintScan.Files.Tree
import LintScan.Level.Basic
import LintScan.Session.Log

/-!
# The machine a scan runs on

* `Host` — files, environment and programs.
* `Journal` — what a session leaves behind besides its results: the log, the printed text, the
  complaints to the user, and the programs and plugins that ran.
* `Session` — a computation over both.
-/

namespace LintScan

/-- How a program ends. -/
inductive ProgramEnd where
  | code (n : Int)
  | signal
  deriving Repr, DecidableEq

/-- What a program prints and how it ends. -/
structure ProgramRun where
  output : List UInt8
  errors : List UInt8
  ending : ProgramEnd
  deriving Repr

/-- A program is a function of the files and its arguments; a failure means that it cannot be
started. -/
abbrev Program := FileTree → List String → Except FileError ProgramRun

/-- A machine. `programs` says what the executable files do. -/
structure Host where
  files : FileTree
  workingDirectory : Place
  searchPath : Option String
  noColor : Bool
  logFilter : Option String
  resourceRoot : Path
  programs : Place → Option Program

/-- A program that was started. -/
structure Started where
  program : Place
  arguments : List String
  deriving Repr, DecidableEq

/-- A plugin that was run for a package. -/
structure Timing where
  package : String
  plugin : String
  kind : PluginKind
  deriving Repr, DecidableEq

/-- What a session leaves behind, in order of time, and how deep the user wants to see into its
log. -/
structure Journal where
  logDepth : LogDepth := .warn
  log : List LogEntry := []
  printed : String := ""
  complaints : List String := []
  started : List Started := []
  timings : List Timing := []
  deriving Repr

/-- The state of a session. -/
structure SessionState where
  host : Host
  journal : Journal := {}

/-- A computation that reads and changes a machine and keeps a journal. -/
abbrev Session := StateM SessionState

/-- The log as deep as the user wants to see it. -/
def Journal.shownLog (j : Journal) : List LogEntry := j.log.filter (·.isShownAt j.logDepth)

namespace Host

/-- The absolute path of the working directory. -/
def workingPath (h : Host) : Path := ⟨"/" ++ Text.join "/" h.workingDirectory⟩

/-- Whether a path begins with two slashes and no third, which may mean another root. -/
def startsTwice (p : Path) : Bool :=
  match p.text.toList with
  | '/' :: '/' :: '/' :: _ => false
  | '/' :: '/' :: _ => true
  | _ => false

/-- The path from the root. Dots go away, steps up stay, and so do two slashes at the head. -/
def absolute (h : Host) (p : Path) : Path :=
  let parts := p.parts.filter (· != .here)
  let full :=
    if startsTwice p then ⟨"/" ++ (Path.ofParts parts).text⟩
    else if p.isAbsolute then Path.ofParts parts
    else parts.foldl (fun q part => q.join ⟨part.text⟩) h.workingPath
  if p.text.toList.getLast? == some '/' && full.text != "/" then full.join ⟨""⟩ else full

/-- Whether something stands at a path. -/
def hasPath (h : Host) (p : Path) : Bool := h.files.exists? h.workingDirectory p

/-- Whether a path leads to a directory. -/
def hasDirectory (h : Host) (p : Path) : Bool := h.files.isDirectory h.workingDirectory p

/-- Whether a path leads to a file. -/
def hasFile (h : Host) (p : Path) : Bool := h.files.isFile h.workingDirectory p

/-- The contents of a file. -/
def read (h : Host) (p : Path) : Except FileError (List UInt8) := h.files.read h.workingDirectory p

/-- The contents of a text file. -/
def readText (h : Host) (p : Path) : Except FileError String :=
  h.files.readText h.workingDirectory p

/-- The directories of a search path. -/
def directoriesOf (searchPath : String) : List Path :=
  (Text.splitAtEach ':' searchPath.toList).map fun d => ⟨String.ofList d⟩

/-- Whether a name leads to an executable file: as a path if it has several parts, and through the
search path otherwise. -/
def commandExists (h : Host) (name : String) : Bool :=
  let p : Path := ⟨name⟩
  if p.parts.length > 1 then h.files.isExecutable h.workingDirectory p
  else match h.searchPath with
    | none => false
    | some dirs =>
      (directoriesOf dirs).any fun d => h.files.isExecutable h.workingDirectory (d.join p)

/-- The place of a program that may be started under a path. -/
def programAt (h : Host) (p : Path) : Except FileError Place := do
  let (place, e) ← h.files.find h.workingDirectory p
  if e.isExecutable then .ok place else .error .permissionDenied

/-- Searches the directories for a program. A file that may not be run is reported only if no later
directory has the program. -/
def searchProgram (h : Host) (name : Path) (denied : Bool) : List Path → Except FileError Place
  | [] => .error (if denied then .permissionDenied else .notFound)
  | d :: rest =>
    match h.programAt (d.join name) with
    | .ok place => .ok place
    | .error .permissionDenied => h.searchProgram name true rest
    | .error _ => h.searchProgram name denied rest

/-- The directories that are searched where no search path is set. -/
def standardPath : String := "/bin:/usr/bin"

/-- The place of the program with a name. A name with a slash is a path. -/
def findProgram (h : Host) (name : String) : Except FileError Place :=
  if name.isEmpty then .error .notFound
  else if name.toList.contains '/' then h.programAt ⟨name⟩
  else h.searchProgram ⟨name⟩ false (directoriesOf (h.searchPath.getD standardPath))

/-- The interpreter that the first line of a script names. -/
def interpreter? (bytes : List UInt8) : Option Path :=
  match Text.Utf8.decodeLossyChars bytes with
  | '#' :: '!' :: rest =>
    let line := (rest.takeWhile (· != '\n')).dropWhile (fun c => c == ' ' || c == '\t')
    some ⟨String.ofList (line.takeWhile fun c => c != ' ' && c != '\t')⟩
  | _ => none

/-- Runs the program at a place. An executable file that names no interpreter, or one that is
missing, cannot be started; a script that is not known to do anything prints nothing. -/
def runProgram (h : Host) (place : Place) (args : List String) : Except FileError ProgramRun :=
  match h.programs place with
  | some program => program h.files args
  | none =>
    match h.files.entry? place with
    | some (.file bytes _) =>
      match interpreter? bytes with
      | some p => if h.hasFile p then .ok ⟨[], [], .code 0⟩ else .error .notFound
      | none => .error .notProgram
    | _ => .error .permissionDenied

end Host

namespace Session

/-- The machine. -/
def host : Session Host := do return (← get).host

/-- Adds an entry to the log. -/
def log (level : LogLevel) (text : String) : Session Unit :=
  modify fun s => { s with journal.log := s.journal.log ++ [⟨level, text⟩] }

/-- Logs a warning. -/
def warn (text : String) : Session Unit := log .warning text

/-- Adds entries to the log. -/
def logAll (es : List LogEntry) : Session Unit :=
  modify fun s => { s with journal.log := s.journal.log ++ es }

/-- Settles how deep the user wants to see into the log. -/
def setLogDepth (depth : LogDepth) : Session Unit :=
  modify fun s => { s with journal.logDepth := depth }

/-- Prints a line. -/
def printLine (line : String) : Session Unit :=
  modify fun s => { s with journal.printed := s.journal.printed ++ line ++ "\n" }

/-- Prints a line for the user beside the regular output. -/
def complain (line : String) : Session Unit :=
  modify fun s => { s with journal.complaints := s.journal.complaints ++ [line] }

/-- Notes that a plugin was run. -/
def note (t : Timing) : Session Unit :=
  modify fun s => { s with journal.timings := s.journal.timings ++ [t] }

/-- Starts a program and waits for its end. -/
def start (name : String) (args : List String) : Session (Except FileError ProgramRun) := do
  let h ← host
  match h.findProgram name with
  | .error e => return .error e
  | .ok place =>
    match h.runProgram place args with
    | .error e => return .error e
    | .ok run =>
      modify fun s => { s with journal.started := s.journal.started ++ [⟨place, args⟩] }
      return .ok run

/-- Changes the files, unless the change fails. -/
def changeFiles (change : FileTree → Place → Except FileError FileTree) :
    Session (Except FileError Unit) := do
  let h ← host
  match change h.files h.workingDirectory with
  | .error e => return .error e
  | .ok files =>
    modify fun s => { s with host.files := files }
    return .ok ()

/-- Writes a file. -/
def writeFile (p : Path) (bytes : List UInt8) : Session (Except FileError Unit) :=
  changeFiles fun t cwd => t.write cwd p bytes

/-- Makes a directory and those missing above it. -/
def makeDirectories (p : Path) : Session (Except FileError Unit) :=
  changeFiles fun t cwd => t.makeDirectories cwd p

end Session

end LintScan
