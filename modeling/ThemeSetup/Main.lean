import ThemeSetup.Tool.Run

/-!
# The command line

The first argument names the tool, the others are the tool's own. The run starts from
`FileSystem.initial` and knows no program, so it answers as on a machine where nothing is built yet:
plans, help texts and messages are the real ones, and nothing outside the process changes.
-/

namespace ThemeSetup

/-- The tool of a name. -/
def Tool.named? (name : String) : Option Tool :=
  [Tool.installer, Tool.packer].find? fun tool => tool.grammar.tool == name

/-- The exit code of a process that ends as concluded; a crash has a code of its own. -/
def Tool.Conclusion.exitCode : Tool.Conclusion → UInt32
  | .exit code => code.toUInt32
  | .crash => 101

/-- Writes what a run says and gives its exit code. -/
def runTool (tool : Tool) (arguments : List String) : IO UInt32 := do
  let setting ← IO.getEnv Plugin.logVariable
  let time ← IO.monoMsNow
  let surroundings : Tool.Surroundings :=
    ⟨setting.map Bytes.ofString, .linux, toString time ++ "ms"⟩
  let world : World := ⟨FileSystem.initial, fun _ => none⟩
  let finished := tool.run (arguments.map Bytes.ofString) surroundings world
  (← IO.getStdout).write ⟨finished.output.toArray⟩
  (← IO.getStderr).write ⟨finished.errors.toArray⟩
  return finished.conclusion.exitCode

end ThemeSetup

open ThemeSetup in
/-- Runs the tool that the first argument names. -/
def main (arguments : List String) : IO UInt32 :=
  match arguments with
  | [] => do
    IO.eprintln "usage: theme-setup (cttheme-copy | theme-plpack) [ARGUMENT]..."
    return 2
  | name :: rest =>
    match Tool.named? name with
    | some tool => runTool tool rest
    | none => do
      IO.eprintln ("unknown tool: " ++ name)
      return 2
