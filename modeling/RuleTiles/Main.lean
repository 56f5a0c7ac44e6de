/-
**The program.**

Reads the level file, runs the command line on it and prints the outcome.
-/

import RuleTiles.CommandLine.Arguments

set_option relaxedAutoImplicit false
set_option autoImplicit false

namespace RuleTiles.CommandLine

/-- How the program is called. -/
def usage : String :=
  "usage: <MAP> [--moves MOVES] [--solve] [--max-moves N] [--seed N] [--random-steps N] " ++
    "[--log-level LEVEL]"

/-- The bytes of a file, if it can be read. -/
def fileBytes? (path : String) : IO (Option ByteArray) := do
  try return some (← IO.FS.readBinFile path) catch _ => return none

end RuleTiles.CommandLine

open RuleTiles

/-- Runs the command line. -/
def main (arguments : List String) : IO UInt32 := do
  match CommandLine.Request.ofArguments? arguments with
  | none =>
    IO.eprintln CommandLine.usage
    return 2
  | some (path, options) =>
    let outcome := CommandLine.run options (← CommandLine.fileBytes? path)
    IO.print outcome.output
    if let some line := outcome.errorLine then IO.eprintln line
    return .ofNat outcome.exitCode
