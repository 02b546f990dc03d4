import ResourceRouting.TemplateTool

/-!
# The command line

Runs the template tool on the arguments of the program.
-/

/-- Runs the template tool. -/
def main (arguments : List String) : IO UInt32 := do
  let outcome := ResourceRouting.TemplateTool.run (arguments.map String.toList)
  (← IO.getStdout).putStr (String.ofList outcome.output)
  (← IO.getStderr).putStr outcome.complaint
  return UInt32.ofNat outcome.exitCode
