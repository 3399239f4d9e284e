import LintScan.Tool.Basic

/-!
# Running a tool

* `commandArgs` — fixed flags, then the user's flags, then the files.
* `runTool` — runs a program; any end but with one of the expected codes is a failure.
-/

namespace LintScan

/-- What a tool printed and the code it ended with. -/
structure ToolOutput where
  code : Int
  output : String
  errors : String
  deriving Repr, DecidableEq

/-- Everything the tool printed, errors last. -/
def ToolOutput.combined (o : ToolOutput) : String := o.output ++ o.errors

/-- The arguments of a tool. -/
def commandArgs (flags userFlags : List String) (files : List Path) : List String :=
  flags ++ userFlags ++ files.map (·.text)

/-- Runs the program of a tool. -/
def runTool (tool binary : String) (args : List String) (expected : Int → Bool) :
    Attempt ToolError ToolOutput := do
  match ← (Session.start binary args : Session _) with
  | .error e =>
    Session.warn ("Couldn't find " ++ binary ++ " executable! (" ++ e.message ++ ")")
    throw (.missingBinary binary e)
  | .ok run =>
    match run.ending with
    | .signal =>
      Session.warn (tool ++ " terminated by signal")
      throw (.signal tool)
    | .code code =>
      let o : ToolOutput :=
        ⟨code, Text.Utf8.decodeLossy run.output, Text.Utf8.decodeLossy run.errors⟩
      if expected code then return o
      else
        Session.warn (tool ++ " failed! Returncode = " ++ toString code)
        Session.warn (tool ++ " exception: " ++ o.combined)
        throw (.exitCode tool code)

end LintScan
