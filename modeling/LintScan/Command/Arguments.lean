import LintScan.Decimal.Read
import LintScan.Settings.Basic
import LintScan.Text.Pieces

/-!
# Command lines

* `Command` — what the user asks for.
* `Command.ofArguments` — reads the arguments behind the name of the program.
* `UsageError` — why arguments are no command, or which text they ask for instead of one.

An option that takes a value waits for it until the next option or positional argument, and is only
then looked at; so of two faults the one that is met first is reported.
-/

namespace LintScan

/-- Why arguments are no command, or which text they ask for. -/
inductive UsageError where
  | noArguments
  | help
  | version
  | unknownCommand (name : String)
  | unknownArgument (argument : String)
  | missingPath
  | missingValue (option : String)
  | invalidCount (option value : String)
  | repeated (option : String)
  | unexpectedValue (option : String)
  deriving Repr, DecidableEq

/-- The text of the error. -/
def UsageError.message : UsageError → String
  | noArguments => "a command is needed"
  | help => "help is wanted"
  | version => "the version is wanted"
  | unknownCommand name => "there is no command '" ++ name ++ "'"
  | unknownArgument argument => "unexpected argument '" ++ argument ++ "'"
  | missingPath => "a path is needed"
  | missingValue option => "'--" ++ option ++ "' needs a value"
  | invalidCount option value => "invalid value '" ++ value ++ "' for '--" ++ option ++ "'"
  | repeated option => "'--" ++ option ++ "' cannot be used several times"
  | unexpectedValue option => "'--" ++ option ++ "' takes no value"

/-- What the user asks for. -/
inductive Command where
  | version
  | levels (config userConfig : Option String) (userPaths : Option (List String))
  | scan (workspace : Bool) (overrides : Overrides)
  deriving Repr, DecidableEq

/-- What stands behind the name of an option: nothing, a text, a count, or, each time the option is
given, some more texts with commas between them. -/
inductive OptionKind where
  | switch
  | text
  | count
  | texts
  deriving Repr, DecidableEq

/-- The options of a command, and whether it takes a path. -/
structure CommandForm where
  options : List (String × OptionKind)
  takesPath : Bool

/-- What has been given so far. `waiting` is the last option that takes a value, with its value once
that is given. -/
structure Given where
  path : Option String := none
  options : List (String × String) := []
  waiting : Option (String × Option String) := none
  deriving Repr

/-- A count of at most 64 bits; a plus sign may stand in front. -/
def countArgument? (s : String) : Option Nat := do
  let digits := match s.toList with
    | '+' :: rest => rest
    | cs => cs
  let n ← Decimal.readUnsigned? 10 digits
  if Decimal.fitsUnsigned 64 n then some n else none

namespace Given

/-- The value of an option. -/
def value? (g : Given) (option : String) : Option String := g.options.lookup option

/-- The values of an option that may be given several times. -/
def values (g : Given) (option : String) : List String :=
  (g.options.filter (·.1 == option)).map (·.2)

/-- Takes an option with its value. Only texts may be given again. -/
def take (g : Given) (form : CommandForm) (option value : String) : Except UsageError Given :=
  let kind := form.options.lookup option
  if (g.value? option).isSome && kind != some .texts then .error (.repeated option)
  else if kind == some .count && (countArgument? value).isNone then
    .error (.invalidCount option value)
  else .ok { g with options := g.options ++ [(option, value)] }

/-- Takes the option that waits, if there is one. -/
def settle (g : Given) (form : CommandForm) : Except UsageError Given :=
  match g.waiting with
  | none => .ok g
  | some (option, none) => .error (.missingValue option)
  | some (option, some value) => { g with waiting := none }.take form option value

/-- Takes an argument that is no option: the value that an option waits for, or the path. -/
def plain (g : Given) (form : CommandForm) (asValue : Bool) (argument : String) :
    Except UsageError Given :=
  match asValue, g.waiting with
  | true, some (option, none) => .ok { g with waiting := some (option, some argument) }
  | _, _ =>
    if form.takesPath && g.path.isNone then do
      let g ← g.settle form
      .ok { g with path := some argument }
    else .error (.unknownArgument argument)

/-- Takes an option with the text behind its equals sign, if there is one. -/
def long (g : Given) (form : CommandForm) (argument name : String) (attached : Option String) :
    Except UsageError Given :=
  match form.options.lookup name, attached with
  | some .switch, some _ => .error (.unexpectedValue name)
  | some .switch, none => do
    let g ← g.settle form
    g.take form name ""
  | some _, some value => do
    let g ← g.settle form
    g.take form name value
  | some _, none => do
    let g ← g.settle form
    .ok { g with waiting := some (name, none) }
  | none, some _ =>
    .error (if name = "help" then .unexpectedValue name else .unknownArgument argument)
  | none, none =>
    if name = "help" then do
      let _ ← g.settle form
      .error .help
    else .error (.unknownArgument argument)

/-- Takes an option of one letter; there is only the one that asks for help. -/
def short (g : Given) (form : CommandForm) (argument : String) (letter : Char) :
    Except UsageError Given :=
  if letter = 'h' then do
    let _ ← g.settle form
    .error .help
  else .error (.unknownArgument argument)

end Given

/-- What an argument is by its form. -/
inductive ArgumentShape where
  | stop
  | long (name : String) (attached : Option String)
  | short (letter : Char)
  | plain
  deriving Repr, DecidableEq

/-- The form of an argument. A single dash is no option. -/
def ArgumentShape.of (argument : String) : ArgumentShape :=
  match argument.toList with
  | ['-', '-'] => stop
  | '-' :: '-' :: body =>
    match Text.cutAt? '=' body with
    | some (name, value) => long (String.ofList name) (some (String.ofList value))
    | none => long (String.ofList body) none
  | '-' :: letter :: _ => short letter
  | _ => plain

/-- Takes the arguments of a command. Behind a double dash nothing is an option or its value. -/
def Given.takeAll (form : CommandForm) (g : Given) (stopped : Bool) :
    List String → Except UsageError Given
  | [] => g.settle form
  | argument :: rest =>
    if stopped then do
      let g ← g.plain form false argument
      takeAll form g true rest
    else
      match ArgumentShape.of argument with
      | .stop => takeAll form g true rest
      | .long name attached => do
        let g ← g.long form argument name attached
        takeAll form g false rest
      | .short letter => do
        let g ← g.short form argument letter
        takeAll form g false rest
      | .plain => do
        let g ← g.plain form true argument
        takeAll form g false rest

namespace Command

/-- The names of the commands. -/
def names : List String := ["version", "scan", "levels"]

/-- The form of the command that shows the version. -/
def versionForm : CommandForm := ⟨[], false⟩

/-- The form of the command that lists the levels. -/
def levelsForm : CommandForm :=
  ⟨[("config", .text), ("user-config", .text), ("user-paths", .texts)], false⟩

/-- The form of the command that scans. -/
def scanForm : CommandForm :=
  ⟨[("output-directory", .text), ("profile", .text), ("config", .text), ("user-config", .text),
    ("exceptions", .text), ("level", .text), ("user-paths", .text), ("force-tool-list", .text),
    ("workspace", .switch), ("check", .switch), ("timings", .switch), ("log-level", .text),
    ("max-procs", .count), ("mapping-file-suffix", .text)], true⟩

/-- The pieces of a text between its commas, as they are. -/
def rawPieces (s : String) : List String := (Text.splitAtEach ',' s.toList).map String.ofList

/-- The command that lists levels. -/
def levelsOf (g : Given) : Command :=
  let paths := g.values "user-paths"
  .levels (g.value? "config") (g.value? "user-config")
    (if paths.isEmpty then none else some (paths.flatMap rawPieces))

/-- A switch, if it is given. -/
def switch? (g : Given) (option : String) : Option Bool := (g.value? option).map fun _ => true

/-- The command that scans a path. -/
def scanOf (g : Given) (path : String) : Command :=
  .scan (g.value? "workspace").isSome {
    root := some path
    profile := g.value? "profile"
    config := g.value? "config"
    userConfig := g.value? "user-config"
    exceptions := g.value? "exceptions"
    outputDirectory := g.value? "output-directory"
    level := g.value? "level"
    userPaths := (g.value? "user-paths").map Text.splitList
    logLevel := g.value? "log-level"
    maxProcs := (g.value? "max-procs").bind countArgument?
    mappingFileSuffix := g.value? "mapping-file-suffix"
    check := switch? g "check"
    timings := switch? g "timings"
    forceToolList := (g.value? "force-tool-list").map Text.splitList }

/-- What the command of a name makes of the arguments behind the name. -/
def ofName (name : String) (arguments : List String) : Except UsageError Command := do
  if name = "scan" then
    let g ← Given.takeAll scanForm {} false arguments
    match g.path with
    | some path => .ok (scanOf g path)
    | none => .error .missingPath
  else if name = "levels" then
    let g ← Given.takeAll levelsForm {} false arguments
    .ok (levelsOf g)
  else
    let _ ← Given.takeAll versionForm {} false arguments
    .ok .version

/-- What a request for help asks about: one command, or none. -/
def helpOn : List String → UsageError
  | [] => .help
  | [name] => if ("help" :: names).contains name then .help else .unknownCommand name
  | name :: next :: _ =>
    .unknownCommand (if ("help" :: names).contains name then next else name)

/-- Reads the arguments behind the name of the program. -/
def ofArguments : List String → Except UsageError Command
  | [] => .error .noArguments
  | argument :: rest =>
    if names.contains argument then ofName argument rest
    else if argument = "help" then .error (helpOn rest)
    else
      match ArgumentShape.of argument, rest with
      | .stop, [] => .error .noArguments
      | .stop, next :: _ =>
        .error (if ("help" :: names).contains next then .unknownArgument next
          else .unknownCommand next)
      | .long "help" none, _ => .error .help
      | .long "version" none, _ => .error .version
      | .long "help" (some _), _ => .error (.unexpectedValue "help")
      | .long "version" (some _), _ => .error (.unexpectedValue "version")
      | .long _ _, _ => .error (.unknownArgument argument)
      | .short 'h', _ => .error .help
      | .short 'V', _ => .error .version
      | .short _, _ => .error (.unknownArgument argument)
      | .plain, _ => .error (.unknownCommand argument)

end Command

end LintScan
