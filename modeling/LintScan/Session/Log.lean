/-!
# The log of a session

* `LogDepth` — how much of a log is shown.
* `LogEntry` — an entry, with how grave it is.
* `LogEntry.isShownAt` — a depth shows the entries that are at least as grave as it says.
-/

namespace LintScan

/-- How much is logged. -/
inductive LogDepth where
  | off
  | error
  | warn
  | info
  | debug
  | trace
  deriving Repr, DecidableEq

namespace LogDepth

/-- The depths from the least to the greatest. -/
def all : List LogDepth := [off, error, warn, info, debug, trace]

/-- The place of a depth. -/
def rank (d : LogDepth) : Nat := all.idxOf d

/-- The greater of two depths. -/
def max (a b : LogDepth) : LogDepth := if a.rank < b.rank then b else a

/-- The name of a depth. -/
def name : LogDepth → String
  | off => "off"
  | error => "error"
  | warn => "warn"
  | info => "info"
  | debug => "debug"
  | trace => "trace"

end LogDepth

/-- How grave a log entry is. -/
inductive LogLevel where
  | warning
  | failure
  deriving Repr, DecidableEq

/-- An entry of the log. -/
structure LogEntry where
  level : LogLevel
  text : String
  deriving Repr, DecidableEq

/-- The least depth that shows entries of a level. -/
def LogLevel.depth : LogLevel → LogDepth
  | warning => .warn
  | failure => .error

/-- The name of a level in a log. -/
def LogLevel.name : LogLevel → String
  | warning => "WARN"
  | failure => "ERROR"

namespace LogEntry

/-- Whether an entry is shown at a depth. -/
def isShownAt (e : LogEntry) (depth : LogDepth) : Bool := e.level.depth.rank ≤ depth.rank

/-- The line of an entry. -/
def line (e : LogEntry) : String := e.level.name ++ " " ++ e.text

end LogEntry

end LintScan
