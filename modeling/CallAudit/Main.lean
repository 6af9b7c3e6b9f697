import CallAudit.CommandLine.Bundle

/-!
# The command line

The arguments are those of the command, and the standard input is a bundle of the files and trees
that it works on.
-/

namespace CallAudit

def settingVariables : List String :=
  ["FORBIDDEN_FUNCTION_FUNCS", "FORBIDDEN_FUNCTION_CHARSET", "FORBIDDEN_FUNCTION_LOG_LEVEL",
    "FORBIDDEN_FUNCTION_JOBS"]

/-- The lines of a stream up to its end. -/
partial def readAll (stream : IO.FS.Stream) (soFar : String) : IO String := do
  let line ← stream.getLine
  if line.isEmpty then pure soFar else readAll stream (soFar ++ line)

def environment : IO Environment := do
  let found ← settingVariables.mapM fun name ↦ do
    let value? ← IO.getEnv name
    pure (value?.map fun value ↦ (Text.ofString name, Text.ofString value))
  pure (found.filterMap id)

def putText (stream : IO.FS.Stream) (t : Text) : IO Unit :=
  stream.putStr ((t.escapeSurrogates.toString?.getD "") ++ "\n")

def putEvent (out err : IO.FS.Stream) : Event → IO Unit
  | .print .out content => content.lines.forM (putText out)
  | .print .err content => content.lines.forM (putText err)
  | .log entry => putText err entry.message

end CallAudit

open CallAudit in
/-- Runs a command and prints its outcome; the log goes to the messages. -/
def main (args : List String) : IO UInt32 := do
  let out ← IO.getStdout
  let err ← IO.getStderr
  let input ← readAll (← IO.getStdin) ""
  match Bundle.parse? (Text.ofString input) with
  | none =>
    putText err "the input is no bundle"
    pure 1
  | some bundle =>
    let workplace := bundle.workplace (← environment)
    let outcome := Outcome.ofArguments workplace (args.map Text.ofString)
    outcome.events.forM (putEvent out err)
    match outcome.result with
    | .error stop => putText err stop.message
    | .ok _ => pure ()
    pure (UInt32.ofNat outcome.status)
