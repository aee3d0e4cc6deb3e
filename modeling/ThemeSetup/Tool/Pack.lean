import ThemeSetup.Tool.Options
import ThemeSetup.Tool.Output

/-!
# The tool that packs the plugin

The tool starts the packing program and passes on its exit code. Without JSON, what the program
prints is all that is printed; with JSON it goes to standard error, and one response is printed. A
dry run prints the call instead of making it.
-/

namespace ThemeSetup.Tool

open CommandLine (Settings)

/-- The data of a response about packing; `program` is the path of the program as text. -/
def packData (call : Call) (program : String) (platform : Platform) (dryRun : Bool) : Json :=
  .object
    [("args", Json.strings (Package.argumentTexts call)), ("dry_run", .bool dryRun),
     ("platform", .string platform.name), ("program", .string program)]

/-- Packs the plugin as a command line asks. The data of the response are made first, in every mode,
and a program whose path is not UTF-8 has none: then the tool crashes. -/
def pack (settings : Settings) (current : Platform) : Job Conclusion := do
  let tool := CommandLine.packer.tool
  match packageRequest settings with
  | .error failure => Job.fail failure
  | .ok request =>
    let platform := platformOf settings current
    let call := Package.plan request platform
    match call.program.text? with
    | none => return .crash
    | some program =>
      let response := Response.success tool (packData call program platform settings.dryRun)
      if settings.dryRun then
        if settings.json then printResponse response
        else Job.step (say tool (Package.line call))
        return .exit 0
      else
        let code ← Package.run call settings.json
        if settings.json then printResponse (response.withChild Plugin.packerStem code)
        return .exit code

end ThemeSetup.Tool
