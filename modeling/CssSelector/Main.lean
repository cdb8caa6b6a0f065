import CssSelector.CommandLine.Program
import CssSelector.CommandLine.Standard

set_option autoImplicit false

open CssSelector.CommandLine

def main (arguments : List String) : IO UInt32 := do
  let output ← IO.getStdout
  let errors ← IO.getStderr
  let report := Program.run (Toolkit.on (← output.isTty) (← errors.isTty)) arguments
  output.putStr report.output
  errors.putStr report.errorOutput
  return UInt32.ofNat report.exitCode
