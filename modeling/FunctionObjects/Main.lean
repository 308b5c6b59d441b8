import FunctionObjects.CommandLine.Listing

/-!
# The command

Creates functions from one function expression, which the arguments describe, and lists them.
-/

open FunctionObjects.CommandLine

/-- Run the command: the listing goes to the output, a report to the error output. -/
def main (args : List String) : IO UInt32 := do
  let outcome := run args
  match outcome with
  | .listed lines => lines.forM IO.println
  | .refused _ | .misused _ => pure ()
  outcome.report?.forM IO.eprintln
  return outcome.status
