import ThemeSetup.Install.Run
import ThemeSetup.Tool.Options
import ThemeSetup.Tool.Output

/-!
# The tool that installs the plugin

Without JSON, a line for each item is printed as soon as its fate is known, and a dry run ends with
one more. With JSON, one response is printed at the end.
-/

namespace ThemeSetup.Tool

open CommandLine (Settings)

/-- The steps with a line for each item after its fate is known. -/
def announce (tool : String) (steps : List Step) : List Step :=
  steps.flatMap fun
    | .deliver delivery => [.deliver delivery, say tool delivery.message]
    | step => [step]

/-- A job whose deliveries are announced. -/
def announced {α : Type} (tool : String) (job : Job α) : Job α :=
  fun world =>
    let outcome := job world
    { outcome with steps := announce tool outcome.steps }

/-- Installs the plugin on a medium as a command line asks. -/
def install (medium : Medium) (settings : Settings) (current : Platform) : Job Conclusion := do
  let tool := CommandLine.installer.tool
  match installRequest settings with
  | .error failure => Job.fail failure
  | .ok request =>
    let platform := platformOf settings current
    Job.log ⟨.info, "cttheme_tools::cli::commands::copy", "installing theme",
      [("platform", .bare platform.name), ("library", .quoted platform.libraryName)]⟩
    let work := Install.runOn medium request platform settings.dryRun
    let report ← if settings.json then work else announced tool work
    if settings.json then
      printResponse ((Response.success tool report.toJson?).withWarnings report.warnings)
    else if report.dryRun then
      Job.step (say tool ("dry run, nothing written under " ++ report.layout.root.display))
    return .exit 0

end ThemeSetup.Tool
