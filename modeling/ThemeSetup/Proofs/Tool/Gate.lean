import ThemeSetup.Proofs.Tool.Envelope

/-!
# What a tool checks before it starts a program

A tool looks for its required paths in order (`Tool.requirements`). The first one that is missing or
empty ends the run with an error that names its option, and nothing is started or written
(`Refuses`). Where all of them are there a run starts at most one program: the helper or the packing
program, in the directory that was given for it (`Reaches`). The path of a program always has a
slash in it, since a required path is not empty, so no program is looked for among those of the
system. All this is so of a run exactly if there is a filter for its log, or nothing to refuse
(`gated_iff`): a run without a filter starts nothing, but it does not tell the user of a path either
(`not_gated`).
-/

namespace ThemeSetup.Tool

open CommandLine (Settings)

/-- The paths that a tool cannot do without, in the order in which it looks for them. -/
def requirements : Tool → List Requirement
  | .installer =>
    [⟨"ct", "ctpath path is empty"⟩, ⟨"local", "local path is empty"⟩,
     ⟨"lib", "library path is empty"⟩]
  | .packer =>
    [⟨"output", "Output path is empty"⟩, ⟨"local", "Local path is empty"⟩,
     ⟨"bin", "Binary path is empty"⟩, ⟨"lib", "Library path is empty"⟩]

/-- Whether the option of a required path is missing or empty. -/
def Requirement.isUnmet (requirement : Requirement) (settings : Settings) : Bool :=
  ((settings.path? requirement.long).getD []).isEmpty

/-- The first required path that is missing or empty. -/
def firstUnmet (tool : Tool) (settings : Settings) : Option Requirement :=
  tool.requirements.find? (·.isUnmet settings)

/-- The failure of a required path that is missing or empty. -/
def Requirement.failure (requirement : Requirement) : Failure :=
  .of (.emptyArgument ("--" ++ requirement.long) requirement.message)

/-- It has a cause of the tools' own. -/
theorem Requirement.failure_unnoticed (requirement : Requirement) :
    requirement.failure.Unnoticed := by
  unfold failure
  exact nofun

/-! ## The gate -/

section
variable {requirement : Requirement} {settings : Settings}

/-- A required path that is missing or empty is a failure. -/
theorem Requirement.read_unmet (h : requirement.isUnmet settings = true) :
    requirement.read settings = .error requirement.failure := by
  unfold isUnmet at h
  unfold read
  match hvalue : settings.path? requirement.long with
  | none => rfl
  | some [] => rfl
  | some (first :: rest) =>
    rw [hvalue] at h
    cases h

/-- A required path that is there is read. -/
theorem Requirement.read_met (h : requirement.isUnmet settings = false) :
    ∃ path, requirement.read settings = .ok path := by
  unfold isUnmet at h
  unfold read
  match hvalue : settings.path? requirement.long with
  | none =>
    rw [hvalue] at h
    cases h
  | some [] =>
    rw [hvalue] at h
    cases h
  | some (first :: rest) => exact ⟨_, rfl⟩

/-- What is read fails with the first of these required paths that is missing or empty, and is there
if none of them is. -/
def Requires {α : Type} (settings : Settings) (requirements : List Requirement)
    (result : Except Failure α) : Prop :=
  match requirements.find? (·.isUnmet settings) with
  | some requirement => result = .error requirement.failure
  | none => ∃ a, result = .ok a

/-- A required path that is read first is the first that can be missing. -/
theorem Requires.bind {α : Type} {rest : List Requirement} {next : Path → Except Failure α}
    (h : ∀ path, Requires settings rest (next path)) :
    Requires settings (requirement :: rest) (requirement.read settings >>= next) := by
  unfold Requires
  rw [List.find?_cons]
  cases hunmet : requirement.isUnmet settings with
  | true =>
    rw [requirement.read_unmet hunmet]
    rfl
  | false =>
    obtain ⟨path, hpath⟩ := requirement.read_met hunmet
    rw [hpath]
    exact h path

/-- The request of an installer requires its paths. -/
theorem installRequest_requires (settings : Settings) :
    Requires settings installer.requirements (installRequest settings) :=
  .bind fun helpers => .bind fun sources => .bind fun libraries =>
    ⟨(⟨helpers, sources, libraries⟩ : Install.Request), rfl⟩

/-- The request of a packer requires its paths. -/
theorem packageRequest_requires (settings : Settings) :
    Requires settings packer.requirements (packageRequest settings) :=
  .bind fun archive => .bind fun sources => .bind fun programs => .bind fun libraries =>
    ⟨(⟨archive, sources, programs, libraries⟩ : Package.Request), rfl⟩

/-- A tool fails for the first required path that is missing or empty, and does nothing else. -/
theorem body_unmet {tool : Tool} (h : tool.firstUnmet settings = some requirement)
    (medium : Medium) (current : Platform) :
    tool.body medium settings current = Job.fail requirement.failure := by
  cases tool with
  | installer =>
    have hrequires := installRequest_requires settings
    rw [Requires, ← firstUnmet, h] at hrequires
    simp only [body, install, hrequires]
  | packer =>
    have hrequires := packageRequest_requires settings
    rw [Requires, ← firstUnmet, h] at hrequires
    simp only [body, pack, hrequires]

end

/-- The error in a document about a required path that is missing or empty. -/
def emptyArgument (requirement : Requirement) : Json :=
  .object
    [("code", .string "E_EMPTY_ARGUMENT"), ("message", .string requirement.message),
     ("details", .object
       [("argument", .string ("--" ++ requirement.long)),
        ("hint", .string ("pass a non-empty path with " ++ ("--" ++ requirement.long)))])]

/-- The error of a required path in its JSON form. -/
theorem toJson_emptyArgument (requirement : Requirement) :
    requirement.failure.report.toJson = emptyArgument requirement := by
  have hreport : requirement.failure.report = ⟨"E_EMPTY_ARGUMENT", requirement.message,
      some (.object [("argument", .string ("--" ++ requirement.long)),
        ("hint", .string ("pass a non-empty path with " ++ ("--" ++ requirement.long)))])⟩ :=
    rfl
  simp only [hreport, Notice.toJson]
  rw [Json.sortKeys_pair (by decide) (by decide)]
  rfl

/-- A run refuses settings for a required path that is missing or empty: it tells the user of this
path, and does nothing. -/
structure Refuses (tool : Tool) (requirement : Requirement) (json : Bool) (world : World)
    (finished : Finished) : Prop where
  conclusion : finished.conclusion = .exit 1
  attempts : Step.attempts finished.steps = []
  files : finished.files = world.files
  plain : json = false →
    finished.output =
        Bytes.ofString (tool.grammar.tool ++ ": " ++ requirement.message ++ "\n") ∧
      Step.errorsOf finished.steps = Bytes.ofString
        ("hint: " ++ ("pass a non-empty path with " ++ ("--" ++ requirement.long)) ++ "\n")
  machine : json = true → Tells finished.output 1 [emptyArgument requirement]

section
variable {tool : Tool} {medium : Medium} {arguments : List Bytes} {settings : Settings}
  {surroundings : Surroundings}
  {filter : Log.Filter} {requirement : Requirement}

/-- A run refuses settings for the first required path that is missing or empty. -/
theorem refuses_unmet (hparse : tool.grammar.parse arguments = .ok settings)
    (hfilter : Log.Filter.choose surroundings.logSetting settings.verbose = .ok filter)
    (h : tool.firstUnmet settings = some requirement) (world : World) :
    Refuses tool requirement settings.json world
      (tool.runOn medium arguments surroundings world) := by
  have hperform : tool.perform medium settings surroundings.platform world = ⟨.exit 1, world.files,
      failureSteps tool.grammar.tool settings.json requirement.failure⟩ := by
    rw [perform, body_unmet h]
    rfl
  rw [run_filtered hparse hfilter]
  dsimp only
  rw [hperform]
  refine ⟨rfl, ?_, rfl, fun hjson => ?_, fun hjson => ?_⟩
  · exact filterMap_failureSteps ⟨fun _ => rfl, fun _ => rfl, fun _ => rfl⟩ _ _ _
  · obtain ⟨event, hsteps⟩ : ∃ event, failureSteps tool.grammar.tool false requirement.failure =
        [.log event, say tool.grammar.tool requirement.message, .errors (Bytes.ofString
          ("hint: " ++ ("pass a non-empty path with " ++ ("--" ++ requirement.long)) ++ "\n"))] :=
      ⟨_, rfl⟩
    rw [hjson, hsteps]
    exact ⟨by simp [Step.outputOf, say], by simp [Step.errorsOf, say]⟩
  · rw [hjson, Step.outputOf_eq, writes_failureSteps]
    have hwhole := isWhole_failureDocument tool.grammar.tool requirement.failure_unnoticed
    refine ⟨_, .of_printed hwhole (List.append_nil _), rfl, ?_⟩
    rw [← toJson_emptyArgument]
    rfl

end

/-! ## The program that is started -/

/-- The option for the directory of the program that a tool starts. -/
def programOption : Tool → String
  | .installer => "ct"
  | .packer => "bin"

/-- The stem of the program that a tool starts. -/
def programStem : Tool → String
  | .installer => "ctpath"
  | .packer => "plpack"

/-- A call is the one that settings ask for: its program has its name on the platform, below the
directory that was given, and a helper has no arguments. -/
structure Reaches (tool : Tool) (settings : Settings) (platform : Platform) (call : Call) :
    Prop where
  program : ∃ directory, settings.path? tool.programOption = some directory ∧
    call.program.bytes = directory ++ (if directory.getLast? = some Path.slash then []
        else [Path.slash]) ++
      Bytes.ofString (tool.programStem ++ if platform = .windows then ".exe" else "")
  /-- A path with a slash is not looked for among the programs of the system. -/
  slash : Path.slash ∈ call.program.bytes
  arguments : tool = .installer → call.arguments = []

/-- The name of the program that a tool starts. -/
theorem programName_stem (tool : Tool) (platform : Platform) :
    platform.programName tool.programStem =
      tool.programStem ++ if platform = .windows then ".exe" else "" := by
  cases tool <;> cases platform <;> decide

/-- The program in the directory that was given is the one that settings ask for. -/
theorem Reaches.of_holds {tool : Tool} {settings : Settings} {directory : Path}
    (h : Holds settings tool.programOption directory) (platform : Platform) {arguments : List Bytes}
    (harguments : tool = .installer → arguments = []) :
    Reaches tool settings platform ⟨platform.programIn directory tool.programStem, arguments⟩ := by
  have hname : Path.IsName (Bytes.ofString (platform.programName tool.programStem)) := by
    cases tool <;> cases platform <;> decide
  refine ⟨⟨directory.bytes, h.value, ?_⟩, Path.slash_mem_join h.nonempty hname, harguments⟩
  rw [← programName_stem]
  exact Path.bytes_join_of_ne_nil h.nonempty hname

/-- An installation attempts to start the helper, and nothing else. -/
theorem attempts_install (medium : Medium) (request : Install.Request) (platform : Platform)
    (dryRun : Bool) (world : World) :
    Step.attempts (Install.runOn medium request platform dryRun world).steps =
      [world.attempted (HostRoot.call request.helpers platform)] :=
  (Install.runOn_seen (fun _ => rfl) (fun _ => rfl) request platform dryRun world).trans <|
    (HostRoot.ask_seen (fun _ => rfl) request.helpers platform world).trans <|
      Launch.start_attempts _ _ _ world

/-- The attempt of a call. -/
theorem attempts_callDeeds (call : Call) (world : World) :
    (callDeeds call world).attempts = [world.attempted call] := by
  rw [callDeeds, World.attempted]
  cases world.load call <;> rfl

/-- The attempts of a run to start a program: at most one, for this call, and none if nothing is to
be started. An installer that does not crash makes one. -/
structure Attempts (tool : Tool) (dryRun : Bool) (world : World) (call : Call)
    (conclusion : Conclusion) (attempts : List Call) : Prop where
  one : attempts = [] ∨ attempts = [world.attempted call]
  installer : tool = .installer → conclusion ≠ .crash → attempts = [world.attempted call]
  dry : tool = .packer → dryRun = true → attempts = []
  served : ∀ loaded, world.load call = .ok loaded → loaded.Serves call.program

/-- The deeds of a tool whose required paths are there: it attempts to start the program that the
settings ask for at most. -/
theorem perform_attempts {tool : Tool} {settings : Settings} (h : tool.firstUnmet settings = none)
    (medium : Medium) (current : Platform) (world : World) :
    ∃ call, Reaches tool settings (platformOf settings current) call ∧
      Attempts tool settings.dryRun world call
        (tool.perform medium settings current world).conclusion
        (tool.perform medium settings current world).deeds.attempts := by
  cases tool with
  | installer =>
    have hrequires := installRequest_requires settings
    rw [Requires, ← firstUnmet, h] at hrequires
    obtain ⟨request, hrequest⟩ := hrequires
    have hattempts : (installer.perform medium settings current world).deeds.attempts =
        [world.attempted (HostRoot.call request.helpers (platformOf settings current))] := by
      rw [install_deeds hrequest]
      exact attempts_install ..
    exact ⟨HostRoot.call request.helpers (platformOf settings current),
      .of_holds (installRequest_eq_ok.1 hrequest).1 _ fun _ => rfl, .inr hattempts,
      fun _ _ => hattempts, nofun, fun _ => World.serves_of_load⟩
  | packer =>
    have hrequires := packageRequest_requires settings
    rw [Requires, ← firstUnmet, h] at hrequires
    obtain ⟨request, hrequest⟩ := hrequires
    refine ⟨Package.plan request (platformOf settings current),
      .of_holds (packageRequest_eq_ok.1 hrequest).2.2.1 _ nofun, ?_, nofun, fun _ hdry => ?_,
      fun _ => World.serves_of_load⟩
    all_goals rw [pack_deeds hrequest, packDeeds]
    · split
      · exact .inl rfl
      split
      · exact .inl rfl
      · exact .inr (attempts_callDeeds _ world)
    · rw [hdry, if_pos rfl]
      split <;> rfl

/-- A tool whose required paths are there, in a run that crashes before it attempts anything. -/
theorem crash_attempts {tool : Tool} {settings : Settings} (h : tool.firstUnmet settings = none)
    (current : Platform) (world : World) :
    ∃ call, Reaches tool settings (platformOf settings current) call ∧
      Attempts tool settings.dryRun world call .crash [] := by
  obtain ⟨call, hreaches, hattempts⟩ := perform_attempts h .sound current world
  exact ⟨call, hreaches, .inl rfl, fun _ hcrash => absurd rfl hcrash, fun _ _ => rfl,
    hattempts.served⟩

/-- A run with a required path that is missing or empty tells the user of the first such path, and
does nothing. Any other run attempts to start one program at most, which is below the directory that
was given for it; a dry run of the packer attempts nothing. -/
structure Gated (tool : Tool) (settings : Settings) (current : Platform) (world : World)
    (finished : Finished) : Prop where
  unmet : ∀ requirement, tool.firstUnmet settings = some requirement →
    Refuses tool requirement settings.json world finished
  met : tool.firstUnmet settings = none →
    ∃ call, Reaches tool settings (platformOf settings current) call ∧
      Attempts tool settings.dryRun world call finished.conclusion (Step.attempts finished.steps)

/-- On every medium a run of any command line that is read is gated exactly if there is a filter for
its log, or no required path is missing or empty. -/
theorem gated_iff (tool : Tool) (medium : Medium) {arguments : List Bytes} {settings : Settings}
    (hparse : tool.grammar.parse arguments = .ok settings) (surroundings : Surroundings)
    (world : World) :
    Gated tool settings surroundings.platform world
        (tool.runOn medium arguments surroundings world) ↔
      (∃ filter, Log.Filter.choose surroundings.logSetting settings.verbose = .ok filter) ∨
        tool.firstUnmet settings = none := by
  cases hfilter : Log.Filter.choose surroundings.logSetting settings.verbose with
  | error error =>
    rw [run_unfiltered hparse hfilter]
    constructor
    · intro h
      cases hunmet : tool.firstUnmet settings with
      | none => exact .inr rfl
      | some requirement => exact absurd (h.unmet requirement hunmet).conclusion nofun
    · rintro (⟨filter, ⟨⟩⟩ | hmet)
      refine ⟨fun requirement hunmet => ?_, fun hmet => crash_attempts hmet _ world⟩
      rw [hmet] at hunmet
      cases hunmet
  | ok filter =>
    refine iff_of_true ⟨fun requirement h => refuses_unmet hparse hfilter h world, fun h => ?_⟩
      (.inl ⟨filter, rfl⟩)
    rw [run_filtered hparse hfilter]
    exact perform_attempts h medium surroundings.platform world

/-- A command line that packs with two empty paths, the second of which is not the first one that is
looked for. -/
def emptyPackLine : List Bytes :=
  ["--json", "--bin=", "--output=o", "--local=", "--lib=i"].map Bytes.ofString

/-- What it sets. -/
def emptyPackSettings : Settings where
  paths :=
    [("bin", []), ("output", Bytes.ofString "o"), ("local", []), ("lib", Bytes.ofString "i")]
  platform := none
  dryRun := false
  json := true
  verbose := 0

/-- Of two empty paths the user is told about the one that is looked for first. -/
theorem gated_iff_empty :
    let world := packWorld (Bytes.ofString "bin") 0
    let finished := packer.run emptyPackLine plainSurroundings world
    packer.grammar.parse emptyPackLine = .ok emptyPackSettings ∧
      packer.firstUnmet emptyPackSettings = some ⟨"local", "Local path is empty"⟩ ∧
      Gated packer emptyPackSettings .linux world finished ∧
      Refuses packer ⟨"local", "Local path is empty"⟩ true world finished := by
  intro world finished
  have hparse : packer.grammar.parse emptyPackLine = .ok emptyPackSettings := rfl
  have hunmet : packer.firstUnmet emptyPackSettings =
      some ⟨"local", "Local path is empty"⟩ := by decide
  have hgated := (gated_iff packer .sound hparse plainSurroundings world).2 (.inl ⟨_, rfl⟩)
  exact ⟨hparse, hunmet, hgated, hgated.unmet _ hunmet⟩

/-- A run with an empty path need not tell the user of it: where there is no filter for the log it
crashes. -/
theorem not_gated : ¬ ∀ (tool : Tool) (arguments : List Bytes) (settings : Settings),
    tool.grammar.parse arguments = .ok settings →
    ∀ (surroundings : Surroundings) (world : World),
      Gated tool settings surroundings.platform world (tool.run arguments surroundings world) := by
  intro h
  let world := packWorld (Bytes.ofString "bin") 0
  have hparse : packer.grammar.parse emptyPackLine = .ok emptyPackSettings := rfl
  have hunmet : packer.firstUnmet emptyPackSettings =
      some ⟨"local", "Local path is empty"⟩ := by decide
  have hgated := h packer emptyPackLine emptyPackSettings hparse
    (surroundingsWith "\u00a0a=info") world
  have hconclusion := (hgated.unmet _ hunmet).conclusion
  rw [run_misaligned hparse] at hconclusion
  cases hconclusion

end ThemeSetup.Tool
