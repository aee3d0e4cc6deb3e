import ThemeSetup.Response
import ThemeSetup.World

/-!
# What the tools print, and how they end

Lines for a reader start with the name of the tool. A response for a machine is printed whole or
not at all.
-/

namespace ThemeSetup.Tool

/-- How a tool ends when it does not fail. -/
inductive Conclusion where
  /-- With an exit code. -/
  | exit (code : UInt8)
  /-- By giving up without a word to the user. -/
  | crash
  deriving DecidableEq, Repr

/-- A line of text on standard output, after the name of the tool. -/
def say (tool message : String) : Step :=
  .output (Bytes.ofString (tool ++ ": " ++ message ++ "\n"))

/-- Prints a response, or fails without printing anything. -/
def printResponse (response : Response) : Job Unit :=
  match response.print with
  | .ok text => Job.step (.output (Bytes.ofString text))
  | .error failure => Job.fail failure

end ThemeSetup.Tool
