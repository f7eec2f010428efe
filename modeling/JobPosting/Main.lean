import JobPosting.CommandLine.Output

/-!
# The command line

Deduces what URLs say about the job postings they point at. Colours are on when `CLICOLOR_FORCE` asks for them.
-/

open JobPosting

/-- Prints what the arguments ask for, and gives the exit code. -/
def main (arguments : List String) : IO UInt32 := do
  let force ← IO.getEnv "CLICOLOR_FORCE"
  let (code, text) := Output.run (force.any (· ≠ "0")) (arguments.map String.toList)
  if code = 0 then (← IO.getStdout).putStr (String.ofList text)
  else (← IO.getStderr).putStr (String.ofList Output.usage)
  return UInt32.ofNat code
