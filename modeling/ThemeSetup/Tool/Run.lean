import ThemeSetup.Log.Filter
import ThemeSetup.Tool.Install
import ThemeSetup.Tool.Pack

/-!
# A run of a tool

`Tool.runOn` takes a command line and a world to the end of the process, on a medium: how it ends,
what is on its two streams, the files that are left and what was done. `Tool.run` does so on one
that breaks no copy off. The log is part of what was done as data; the filter decides only what of
it is written to standard error.
-/

namespace ThemeSetup

/-- The tools. -/
inductive Tool where
  /-- Installs the plugin. -/
  | installer
  /-- Packs the plugin. -/
  | packer
  deriving DecidableEq, Repr

namespace Tool

/-- The options and texts of a tool. -/
def grammar : Tool → CommandLine.Grammar
  | .installer => CommandLine.installer
  | .packer => CommandLine.packer

/-- What a tool does for settings. -/
def body (tool : Tool) (medium : Medium) (settings : CommandLine.Settings) (current : Platform) :
    Job Conclusion :=
  match tool with
  | .installer => install medium settings current
  | .packer => pack settings current

/-- The lines on standard error that go with a notice: what the helper wrote, and a hint. -/
def noticeLines (notice : Notice) : List Step :=
  let text (key : String) := (notice.details.bind (·.field? key)).bind Json.string?
  (match text "stderr" with
    | none | some "" => []
    | some errors => [.errors (Bytes.ofString ("  stderr: " ++ errors ++ "\n"))]) ++
  (match text "hint" with
    | none => []
    | some hint => [.errors (Bytes.ofString ("hint: " ++ hint ++ "\n"))])

/-- What a tool does about a failure: it tells the log, then the user. -/
def failureSteps (tool : String) (json : Bool) (failure : Failure) : List Step :=
  .log ⟨.debug, "cttheme_tools::cli::dispatch", tool ++ " failed",
      [("error", .bare failure.trace)]⟩ ::
    if json then
      match (Response.ofFailure tool failure).print with
      | .ok text => [.output (Bytes.ofString text)]
      | .error _ => []
    else say tool failure.report.message :: noticeLines failure.report

/-- How a run ends and what it did. -/
structure Completion where
  conclusion : Conclusion
  files : FileSystem
  steps : List Step

/-- Does what settings ask for. A failure is reported, and the exit code is 1. -/
def perform (tool : Tool) (medium : Medium) (settings : CommandLine.Settings) (current : Platform)
    (world : World) : Completion :=
  let outcome := tool.body medium settings current world
  match outcome.result with
  | .ok conclusion => ⟨conclusion, outcome.files, outcome.steps⟩
  | .error failure =>
    ⟨.exit 1, outcome.files,
      outcome.steps ++ failureSteps tool.grammar.tool settings.json failure⟩

/-- How the log is written. -/
structure LogStyle where
  filter : Log.Filter
  /-- Whether lines name the part of the program. -/
  showTarget : Bool
  /-- The time that lines start with. -/
  time : String

/-- What a step writes to standard error. -/
def LogStyle.errorsOf (style : LogStyle) : Step → Bytes
  | .log event =>
    if style.filter.allows event then Bytes.ofString (event.line style.time style.showTarget)
    else []
  | .errors octets => octets
  | _ => []

/-- The end of a process. -/
structure Finished where
  conclusion : Conclusion
  output : Bytes
  errors : Bytes
  files : FileSystem
  steps : List Step

/-- What a run finds beside its world. -/
structure Surroundings where
  /-- What the log variable holds, if it is set. -/
  logSetting : Option Bytes
  /-- The platform at hand. -/
  platform : Platform
  /-- The time that log lines start with. -/
  time : String

/-- Answers a command line instead of doing what it asks for. -/
def refuse (tool : Tool) (refusal : CommandLine.Refusal) (files : FileSystem) : Finished :=
  let text := Bytes.ofString (refusal.message tool.grammar)
  if refusal.isAnswer then ⟨.exit refusal.exitCode, text, [], files, []⟩
  else ⟨.exit refusal.exitCode, [], text, files, []⟩

/-- Runs a tool with arguments on a medium. -/
def runOn (tool : Tool) (medium : Medium) (arguments : List Bytes) (surroundings : Surroundings)
    (world : World) : Finished :=
  match tool.grammar.parse arguments with
  | .error refusal => tool.refuse refusal world.files
  | .ok settings =>
    match Log.Filter.choose surroundings.logSetting settings.verbose with
    | .error _ => ⟨.crash, [], [], world.files, []⟩
    | .ok filter =>
      let style : LogStyle := ⟨filter, decide (1 < settings.verbose), surroundings.time⟩
      let completion := tool.perform medium settings surroundings.platform world
      ⟨completion.conclusion, Step.outputOf completion.steps,
        completion.steps.flatMap style.errorsOf, completion.files, completion.steps⟩

/-- Runs a tool with arguments. -/
def run (tool : Tool) (arguments : List Bytes) (surroundings : Surroundings) (world : World) :
    Finished :=
  tool.runOn .sound arguments surroundings world

end Tool

end ThemeSetup
