import ThemeSetup.Launch
import ThemeSetup.Plugin

/-!
# The root of the host application

A helper prints the directory in which the host keeps its local data. The line endings at the end
of what it prints are not part of the path; all else is, blanks included. A path of blanks alone is
no answer.
-/

namespace ThemeSetup.HostRoot

/-- Whether a character ends a line. -/
def isLineEnd (c : Char) : Bool :=
  c = '\r' || c = '\n'

/-- The path that the helper's output names, if it names one. -/
def parse? (output : List Char) : Option (List Char) :=
  let line := Text.trimEnd isLineEnd output
  if line.all Text.isBlank then none else some line

/-- Asks the helper in a directory for the host's root. -/
def ask (helpers : Path) (platform : Platform) : Job Path := do
  let program := platform.programIn helpers Plugin.hostRootStem
  let answer ← Launch.captured Plugin.hostRootStem ⟨program, []⟩
  if !answer.ending.isSuccess then
    Job.fail (.of (.hostRootFailed program answer.ending.code? answer.errors))
  else
    match parse? answer.output with
    | none => Job.fail (.of (.hostRootEmpty program))
    | some line =>
      let root : Path := ⟨Bytes.ofChars line⟩
      Job.log ⟨.debug, "cttheme_tools::ctpath", "ctpath resolved host root",
        [("root", .bare root.display)]⟩
      return root

end ThemeSetup.HostRoot
