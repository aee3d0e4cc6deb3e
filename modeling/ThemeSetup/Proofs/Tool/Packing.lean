import ThemeSetup.Proofs.Path
import ThemeSetup.Proofs.Tool.Deeds
import ThemeSetup.Proofs.Tool.Options

/-!
# Which paths the packer takes

The packer passes the octets of its paths on as they are, so a command line with all four of them
should make it start the packing program, or print the plan of doing so (`Packs`). But the response
is made first, with the path of the program as text, and a directory of programs that is not UTF-8
makes the packer crash in every mode (`not_packs`); for all other command lines it does what it
should where the log can be written (`packs_iff`). The medium has no part in this
(`packer_runOn`): the packer copies nothing itself.
-/

namespace ThemeSetup

/-- The exit code that is passed on when a program ends: its own, or 1 after a signal. -/
def Ending.passedOn : Ending → UInt8
  | .exited code => code
  | .killed => 1

/-- Every exit code of a program fits into an exit code. -/
theorem exitByte_code? (ending : Ending) : exitByte ending.code? = ending.passedOn := by
  cases ending with
  | killed => rfl
  | exited code =>
    have hrange : (0 : Int) ≤ code.toNat ∧ (code.toNat : Int) ≤ 255 := by
      have := code.toNat_lt
      omega
    rw [Ending.code?, exitByte, if_pos hrange, Int.toNat_natCast, Ending.passedOn]
    exact UInt8.ofNat_toNat

namespace Package

variable (request : Request) (platform : Platform)

/-- The packing program is in the directory of programs, under its name on the platform. -/
theorem program_plan : (plan request platform).program = request.programs.join
    (.ofString (if platform = .windows then "plpack.exe" else "plpack")) := by
  cases platform <;> rfl

/-- The path of the packing program is UTF-8 exactly if its directory is. -/
theorem isSome_text?_program :
    (plan request platform).program.text?.isSome = request.programs.text?.isSome := by
  have hname : Path.IsName (Bytes.ofString (platform.programName Plugin.packerStem)) := by
    cases platform <;> decide
  exact Path.isSome_text?_join _ hname (by cases platform <;> rfl)

end Package

namespace Tool

open CommandLine (Settings)

/-- An exit code is no crash. -/
theorem Conclusion.exit_ne_crash (code : UInt8) : Conclusion.exit code ≠ .crash :=
  nofun

/-- The plan of a call is printed: for a reader on a line, with JSON in a document. -/
def PlanPrinted (json : Bool) (call : Call) (platform : Platform) (output : Bytes) : Prop :=
  if json then
    ∃ document : Json, output = Bytes.ofString (document.pretty ++ "\n") ∧
      document.field? "data" = some (packData call call.program.display platform true)
  else output = Bytes.ofString ("theme-plpack: " ++ Package.line call ++ "\n")

/-- A run does what packing is: it prints the plan of the call and ends well, or makes the call and
ends as the program does. -/
structure Packs (settings : Settings) (platform : Platform) (call : Call) (world : World)
    (finished : Finished) : Prop where
  survives : finished.conclusion ≠ .crash
  dry : settings.dryRun = true → finished.conclusion = .exit 0 ∧
    Step.attempts finished.steps = [] ∧ PlanPrinted settings.json call platform finished.output
  refused : settings.dryRun = false → ∀ error, world.load call = .error error →
    finished.conclusion = .exit 1 ∧ Step.attempts finished.steps = [call]
  started : settings.dryRun = false → ∀ loaded, world.load call = .ok loaded →
    finished.conclusion = .exit (world.reply loaded call).ending.passedOn ∧
      Step.attempts finished.steps = [loaded.call call] ∧ loaded.Serves call.program

variable {medium : Medium} {settings : Settings} {current : Platform} {request : Package.Request}
  {program : String}

/-- The medium has no part in packing. -/
theorem packer_runOn (medium : Medium) : packer.runOn medium = packer.run :=
  rfl

/-- A dry run of the packer does nothing but print the plan. -/
theorem perform_dry (h : packageRequest settings = .ok request)
    (htext : (Package.plan request (platformOf settings current)).program.text? = some program)
    (hdry : settings.dryRun = true) (world : World) :
    let call := Package.plan request (platformOf settings current)
    ∃ octets,
      packer.perform medium settings current world = ⟨.exit 0, world.files, [.output octets]⟩ ∧
      PlanPrinted settings.json call (platformOf settings current) octets := by
  intro call
  have hprogram : call.program.display = program := Utf8.lossy_of_decode? htext
  have hbody : packer.body medium settings current world =
      conclude CommandLine.packer.tool settings.json (packResponse settings current call program)
        (some (Package.line call)) 0 world :=
    congrFun (pack_dry h htext hdry) world
  unfold perform PlanPrinted
  dsimp only
  rw [hbody]
  cases settings.json with
  | false =>
    rw [conclude_plain]
    exact ⟨_, rfl, rfl⟩
  | true =>
    have hresponse : (packResponse settings current call program).toJson? = some _ := rfl
    rw [conclude_printed (by rw [print_eq, hresponse])]
    refine ⟨_, rfl, _, rfl, ?_⟩
    rw [hprogram, ← hdry]
    rfl

section
variable {arguments : List Bytes} {surroundings : Surroundings} {filter : Log.Filter}

/-- Where the path of the program is text and there is a filter for the log, the deeds of the packer
are those of the call, or none in a dry run. -/
theorem packed_deeds (hparse : packer.grammar.parse arguments = .ok settings)
    (hrequest : packageRequest settings = .ok request)
    (hfilter : Log.Filter.choose surroundings.logSetting settings.verbose = .ok filter)
    (htext : (Package.plan request (platformOf settings surroundings.platform)).program.text? =
      some program) (world : World) :
    (packer.run arguments surroundings world).deeds =
      if settings.dryRun then ⟨.exit 0, world.files, [], []⟩
      else callDeeds (Package.plan request (platformOf settings surroundings.platform)) world := by
  rw [run, run_deeds hparse, hfilter]
  dsimp only
  rw [pack_deeds hrequest, packDeeds, htext]
  rfl

/-- Where the path of the program is text and there is a filter for the log the packer packs. -/
theorem packs_of_text (hparse : packer.grammar.parse arguments = .ok settings)
    (hrequest : packageRequest settings = .ok request)
    (hfilter : Log.Filter.choose surroundings.logSetting settings.verbose = .ok filter)
    (htext : (Package.plan request (platformOf settings surroundings.platform)).program.text? =
      some program) (world : World) :
    let platform := platformOf settings surroundings.platform
    Packs settings platform (Package.plan request platform) world
      (packer.run arguments surroundings world) := by
  intro platform
  have hdeeds := packed_deeds hparse hrequest hfilter htext world
  have hconclusion := congrArg Deeds.conclusion hdeeds
  have hattempts := congrArg Deeds.attempts hdeeds
  simp only [Finished.deeds, Deeds.of] at hconclusion hattempts
  refine ⟨?_, fun hdry => ?_, fun hdry error hload => ?_, fun hdry loaded hload => ?_⟩
  · rw [hconclusion, callDeeds]
    cases settings.dryRun with
    | true => exact Conclusion.exit_ne_crash _
    | false =>
      cases world.load (Package.plan request platform) <;> exact Conclusion.exit_ne_crash _
  · rw [hconclusion, hattempts, hdry]
    refine ⟨rfl, rfl, ?_⟩
    obtain ⟨octets, hperform, hprinted⟩ := perform_dry hrequest htext hdry world
    rw [run, run_filtered hparse hfilter]
    dsimp only
    rw [hperform, show Step.outputOf [.output octets] = octets from List.append_nil _]
    exact hprinted
  · rw [hconclusion, hattempts, hdry, callDeeds, hload]
    exact ⟨rfl, rfl⟩
  · rw [hconclusion, hattempts, hdry, callDeeds, hload, ← exitByte_code?]
    exact ⟨rfl, rfl, World.serves_of_load hload⟩

end

/-- Four paths make the packer pack exactly if the directory of programs is UTF-8 and there is a
filter for the log. -/
theorem packs_iff {arguments : List Bytes}
    (hparse : packer.grammar.parse arguments = .ok settings)
    (harchive : Holds settings "output" request.archive)
    (hsources : Holds settings "local" request.sources)
    (hprograms : Holds settings "bin" request.programs)
    (hlibraries : Holds settings "lib" request.libraries)
    (surroundings : Surroundings) (world : World) :
    let platform := platformOf settings surroundings.platform
    let call := Package.plan request platform
    call.program = request.programs.join
        (.ofString (if platform = .windows then "plpack.exe" else "plpack")) ∧
      (Packs settings platform call world (packer.run arguments surroundings world) ↔
        request.programs.text?.isSome = true ∧
          ∃ filter, Log.Filter.choose surroundings.logSetting settings.verbose = .ok filter) := by
  intro platform call
  refine ⟨Package.program_plan request platform, ?_⟩
  have hrequest := packageRequest_eq_ok.2 ⟨harchive, hsources, hprograms, hlibraries⟩
  cases hfilter : Log.Filter.choose surroundings.logSetting settings.verbose with
  | error error =>
    rw [run, run_unfiltered hparse hfilter]
    exact iff_of_false (fun h => h.survives rfl) (by simp)
  | ok filter =>
    rw [← Package.isSome_text?_program request platform]
    cases htext : (Package.plan request platform).program.text? with
    | none =>
      refine iff_of_false (fun h => h.survives ?_) (by simp)
      rw [run, run_filtered hparse hfilter]
      exact pack_crashes hrequest htext world
    | some program =>
      exact iff_of_true (packs_of_text hparse hrequest hfilter htext world) ⟨rfl, filter, rfl⟩

/-! ## A directory whose name is no text -/

/-- A command line that packs with the program in a directory. -/
def packLine (programs : Bytes) : List Bytes :=
  [Bytes.ofString "--output=o", Bytes.ofString "--local=l", Bytes.ofString "--bin=" ++ programs,
   Bytes.ofString "--lib=i"]

/-- What it sets. -/
def packSettings (programs : Bytes) : Settings where
  paths :=
    [("output", Bytes.ofString "o"), ("local", Bytes.ofString "l"), ("bin", programs),
     ("lib", Bytes.ofString "i")]
  platform := none
  dryRun := false
  json := false
  verbose := 0

/-- What it asks for. -/
def packRequest (programs : Bytes) : Package.Request :=
  ⟨.ofString "o", .ofString "l", ⟨programs⟩, .ofString "i"⟩

/-- A world with a packing program in that directory, which ends with an exit code. -/
def packWorld (programs : Bytes) (code : UInt8) : World where
  files :=
    { entries :=
        [([], .directory none),
         ([programs], .directory none),
         ([programs, Bytes.ofString "plpack"], .file 0o755 (Bytes.ofString "packer"))]
      home := [] }
  programs := fun content =>
    if content = Bytes.ofString "packer" then
      some (.scripted [] (Bytes.ofString "packed\n") [] (.exited code))
    else none

/-- A program in a directory whose name is text is started, and its exit code is passed on. -/
theorem packs_iff_text :
    let programs := Bytes.ofString "bin"
    let settings := packSettings programs
    let request := packRequest programs
    packer.grammar.parse (packLine programs) = .ok settings ∧
      Holds settings "output" request.archive ∧ Holds settings "local" request.sources ∧
      Holds settings "bin" request.programs ∧ Holds settings "lib" request.libraries ∧
      (packer.run (packLine programs) plainSurroundings (packWorld programs 42)).conclusion =
        .exit 42 ∧
      Packs settings .linux (Package.plan request .linux) (packWorld programs 42)
        (packer.run (packLine programs) plainSurroundings (packWorld programs 42)) := by
  intro programs settings request
  have hparse : packer.grammar.parse (packLine programs) = .ok settings := rfl
  have harchive : Holds settings "output" request.archive := ⟨rfl, nofun⟩
  have hsources : Holds settings "local" request.sources := ⟨rfl, nofun⟩
  have hprograms : Holds settings "bin" request.programs := ⟨rfl, nofun⟩
  have hlibraries : Holds settings "lib" request.libraries := ⟨rfl, nofun⟩
  refine ⟨hparse, harchive, hsources, hprograms, hlibraries, by decide +kernel, ?_⟩
  exact (packs_iff hparse harchive hsources hprograms hlibraries plainSurroundings
    (packWorld programs 42)).2.2 ⟨by decide, _, rfl⟩

/-- With four paths of any octets the packer need not pack: it crashes where the name of the
directory of programs is no text. -/
theorem not_packs : ¬ ∀ (arguments : List Bytes) (settings : Settings) (request : Package.Request),
    packer.grammar.parse arguments = .ok settings →
    Holds settings "output" request.archive → Holds settings "local" request.sources →
    Holds settings "bin" request.programs → Holds settings "lib" request.libraries →
    ∀ (surroundings : Surroundings) (world : World),
      let platform := platformOf settings surroundings.platform
      Packs settings platform (Package.plan request platform) world
        (packer.run arguments surroundings world) := by
  intro h
  have hpacks := h (packLine [0xFF]) (packSettings [0xFF]) (packRequest [0xFF]) rfl ⟨rfl, nofun⟩
    ⟨rfl, nofun⟩ ⟨rfl, nofun⟩ ⟨rfl, nofun⟩ plainSurroundings (packWorld [0xFF] 0)
  exact hpacks.survives (by decide +kernel)

end Tool

end ThemeSetup
