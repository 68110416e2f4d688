import IdentityOperator.CommandLine.Start

/-!
The program: it reads its command line, writes what that leads to and ends with its exit code.
-/

open IdentityOperator.CommandLine

def main (arguments : List String) : IO UInt32 := do
  let outcome := start (← IO.getEnv "PROFILE") arguments
  for line in outcome.output do
    IO.println line.render
  if let some complaint := outcome.complaint then
    IO.eprintln complaint
  return outcome.exitCode
