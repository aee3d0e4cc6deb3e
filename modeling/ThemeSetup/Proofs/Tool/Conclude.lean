import ThemeSetup.Proofs.Job
import ThemeSetup.Tool.Run

/-!
# How the tools end

Both tools end in the same way when they do not fail: with JSON they print a response, without it a
line if there is something to say, and then comes the exit code (`conclude`). `install_eq`,
`pack_dry` and `pack_run` take the tools apart into their work and this end.
-/

namespace ThemeSetup.Tool

open CommandLine (Settings)

/-- The end of a tool that does not fail. -/
def conclude (tool : String) (json : Bool) (response : Response) (message? : Option String)
    (code : UInt8) : Job Conclusion := do
  if json then printResponse response
  else match message? with
    | some message => Job.step (say tool message)
    | none => pure ()
  return .exit code

section
variable {tool : String} {response : Response} {message? : Option String} {code : UInt8}

/-- Without JSON a line is printed, if there is one. -/
theorem conclude_plain (world : World) : conclude tool false response message? code world =
    ⟨.ok (.exit code), world.files, (message?.map (say tool)).toList⟩ := by
  cases message? <;> rfl

/-- With JSON the response is printed. -/
theorem conclude_printed {text : String} (h : response.print = .ok text) (world : World) :
    conclude tool true response message? code world =
      ⟨.ok (.exit code), world.files, [.output (Bytes.ofString text)]⟩ := by
  have hprint : printResponse response = Job.step (.output (Bytes.ofString text)) := by
    rw [printResponse, h]
  simp only [conclude, hprint]
  rfl

/-- A response that cannot be printed is a failure, and nothing is printed. -/
theorem conclude_unprinted {failure : Failure} (h : response.print = .error failure)
    (world : World) :
    conclude tool true response message? code world = ⟨.error failure, world.files, []⟩ := by
  have hprint : printResponse response = Job.fail failure := by
    rw [printResponse, h]
  simp only [conclude, hprint]
  rfl

end

/-! ## The installer -/

/-- The response of an installation. -/
def installResponse (report : Install.Report) : Response :=
  (Response.success CommandLine.installer.tool report.toJson?).withWarnings report.warnings

/-- What is said of a dry run. -/
def dryMessage? (report : Install.Report) : Option String :=
  if report.dryRun then
    some ("dry run, nothing written under " ++ report.layout.root.display)
  else none

/-- What the installer does before it ends: it installs, and announces what it delivers unless it
answers with JSON. -/
def installWork (medium : Medium) (settings : Settings) (current : Platform)
    (request : Install.Request) : Job Install.Report := do
  Job.log ⟨.info, "cttheme_tools::cli::commands::copy", "installing theme",
    [("platform", .bare (platformOf settings current).name),
     ("library", .quoted (platformOf settings current).libraryName)]⟩
  let work := Install.runOn medium request (platformOf settings current) settings.dryRun
  if settings.json then work else announced CommandLine.installer.tool work

variable {medium : Medium} {settings : Settings} {current : Platform}

/-- The installer does its work and ends. -/
theorem install_eq {request : Install.Request} (h : installRequest settings = .ok request) :
    install medium settings current = (do
      let report ← installWork medium settings current request
      conclude CommandLine.installer.tool settings.json (installResponse report)
        (dryMessage? report) 0) := by
  simp only [install, h, installWork, Job.bind_assoc]
  cases settings.json with
  | true => rfl
  | false =>
    refine congrArg (Job.bind _) (funext fun _ => congrArg (Job.bind _) (funext fun report => ?_))
    simp only [dryMessage?]
    cases report.dryRun <;> rfl

/-- The installation decides the result of the work and the files that it leaves. -/
theorem installWork_result (medium : Medium) (settings : Settings) (current : Platform)
    (request : Install.Request) (world : World) :
    let work := Install.runOn medium request (platformOf settings current) settings.dryRun world
    (installWork medium settings current request world).result = work.result ∧
      (installWork medium settings current request world).files = work.files := by
  unfold installWork
  generalize Install.runOn medium request (platformOf settings current) settings.dryRun = work
  rw [Job.log_bind]
  dsimp only
  split <;> exact ⟨rfl, rfl⟩

/-! ## The packer -/

variable {request : Package.Request} {program : String}

/-- The response about a call of the packing program. -/
def packResponse (settings : Settings) (current : Platform) (call : Call) (program : String) :
    Response :=
  Response.success CommandLine.packer.tool
    (packData call program (platformOf settings current) settings.dryRun)

/-- The packer crashes if the path of the packing program is no text. -/
theorem pack_crash (h : packageRequest settings = .ok request)
    (htext : (Package.plan request (platformOf settings current)).program.text? = none) :
    pack settings current = pure .crash := by
  simp only [pack, h, htext]

/-- A dry run of the packer shows the call. -/
theorem pack_dry (h : packageRequest settings = .ok request)
    (htext : (Package.plan request (platformOf settings current)).program.text? = some program)
    (hdry : settings.dryRun = true) :
    pack settings current =
      let call := Package.plan request (platformOf settings current)
      conclude CommandLine.packer.tool settings.json (packResponse settings current call program)
        (some (Package.line call)) 0 := by
  simp only [pack, h, htext, packResponse, hdry]
  cases settings.json <;> rfl

/-- The packer makes the call, and passes on the exit code. -/
theorem pack_run (h : packageRequest settings = .ok request)
    (htext : (Package.plan request (platformOf settings current)).program.text? = some program)
    (hdry : settings.dryRun = false) :
    pack settings current = (do
      let call := Package.plan request (platformOf settings current)
      let code ← Package.run call settings.json
      conclude CommandLine.packer.tool settings.json
        ((packResponse settings current call program).withChild Plugin.packerStem code) none
        code) := by
  simp only [pack, h, htext, packResponse, hdry]
  cases settings.json <;> rfl

/-! ## Runs -/

/-- Surroundings where the verbose flags decide about the log. -/
def plainSurroundings : Surroundings :=
  ⟨none, .linux, ""⟩

/-- Surroundings where the log variable holds a text. -/
def surroundingsWith (setting : String) : Surroundings :=
  ⟨some (Bytes.ofString setting), .linux, ""⟩

/-- The log library answers what the log variable holds as it is documented to do: with a filter, or
with an error after which the verbose flags decide. (It gives up on some texts whose parts it would
cut inside a character, see `Log.cut`.) -/
def Surroundings.LogAnswers (surroundings : Surroundings) : Prop :=
  ∀ verbose, ∃ filter, Log.Filter.choose surroundings.logSetting verbose = .ok filter

/-- Where the log variable is not set the verbose flags decide. -/
theorem Surroundings.LogAnswers.of_unset {surroundings : Surroundings}
    (h : surroundings.logSetting = none) : surroundings.LogAnswers := by
  intro verbose
  rw [h]
  exact ⟨_, rfl⟩

section
variable {tool : Tool} {arguments : List Bytes} {surroundings : Surroundings}

/-- What a run does for settings that are read, with a filter for its log. -/
theorem run_filtered (hparse : tool.grammar.parse arguments = .ok settings)
    {filter : Log.Filter}
    (hfilter : Log.Filter.choose surroundings.logSetting settings.verbose = .ok filter)
    (world : World) :
    tool.runOn medium arguments surroundings world =
      let style : LogStyle := ⟨filter, decide (1 < settings.verbose), surroundings.time⟩
      let completion := tool.perform medium settings surroundings.platform world
      ⟨completion.conclusion, Step.outputOf completion.steps,
        completion.steps.flatMap style.errorsOf, completion.files, completion.steps⟩ := by
  simp only [runOn, hparse, hfilter]

/-- A run without a filter for its log crashes and does nothing. -/
theorem run_unfiltered (hparse : tool.grammar.parse arguments = .ok settings)
    {error : Log.FilterError}
    (hfilter : Log.Filter.choose surroundings.logSetting settings.verbose = .error error)
    (world : World) :
    tool.runOn medium arguments surroundings world = ⟨.crash, [], [], world.files, []⟩ := by
  simp only [runOn, hparse, hfilter]

/-- A text that is cut inside a character leaves no filter for the log: a run crashes. -/
theorem run_misaligned (hparse : tool.grammar.parse arguments = .ok settings) (world : World) :
    tool.run arguments (surroundingsWith "\u00a0a=info") world =
      ⟨.crash, [], [], world.files, []⟩ :=
  have hfilter : Log.Filter.choose (surroundingsWith "\u00a0a=info").logSetting settings.verbose =
    .error .misaligned := rfl
  run_unfiltered hparse hfilter world

end

end ThemeSetup.Tool
