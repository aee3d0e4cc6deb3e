import ThemeSetup.Proofs.CommandLine.DryRun
import ThemeSetup.Proofs.Json.Mentions
import ThemeSetup.Proofs.Tool.Gate
import ThemeSetup.Proofs.Tool.PassedOn

/-!
# The plan of the packer

A dry run of the packer prints what the run without the flag for it does: the data of its document
hold the path of the packing program as it is, and the text of each argument (`Describes`). Where
the packing program is started the data of the two documents differ in that flag alone (`run_plan`).
Where it cannot be started the run without the flag fails, and its document has no data; and where
the log library does not answer, no run shows anything (`not_run_plan`).
-/

namespace ThemeSetup.Tool

open CommandLine (Settings dryRunFlag)

/-- Data tell of a call: they hold the path of its program as text, and the text of each of its nine
arguments, which for UTF-8 is the argument itself. -/
structure Describes (data : Json) (call : Call) : Prop where
  program : ∃ program, data.field? "program" = some (.string program) ∧
    Bytes.ofString program = call.program.bytes
  arguments : data.field? "args" = some (Json.strings (call.arguments.map Utf8.lossy))
  nine : call.arguments.length = 9
  exact : ∀ argument ∈ call.arguments, (Utf8.decode? argument).isSome = true →
    Bytes.ofString (Utf8.lossy argument) = argument

/-- The output is one document and no other, with these data. -/
def Presents (output : Bytes) (data : Json) : Prop :=
  ∃ document : Json, Json.Carries output document ∧ document.field? "data" = some data

/-- A dry run plans a call: it ends well, does nothing, and prints these data, which tell of the
call. -/
structure Plans (json : Bool) (call : Call) (world : World) (data : Json) (finished : Finished) :
    Prop where
  conclusion : finished.conclusion = .exit 0
  attempts : Step.attempts finished.steps = []
  files : finished.files = world.files
  machine : json = true → Presents finished.output data
  describes : Describes data call

/-- A run makes a call: it attempts nothing else, and prints these data if the program is started,
and none if it is not. -/
structure Executes (json : Bool) (call : Call) (world : World) (data : Json) (finished : Finished) :
    Prop where
  attempts : Step.attempts finished.steps = [world.attempted call]
  started : ∀ loaded, world.load call = .ok loaded →
    loaded.Serves call.program ∧ (json = true → Presents finished.output data)
  refused : ∀ error, world.load call = .error error → json = true →
    Presents finished.output .null

section
variable {settings : Settings} {surroundings : Surroundings} {request : Package.Request}
  {program : String} {arguments : List Bytes} {filter : Log.Filter}
  (hparse : packer.grammar.parse arguments = .ok settings)
  (hrequest : packageRequest settings = .ok request)
  (hfilter : Log.Filter.choose surroundings.logSetting settings.verbose = .ok filter)
  (htext : (Package.plan request (platformOf settings surroundings.platform)).program.text? =
    some program)
include hparse hrequest hfilter htext

omit hparse hrequest hfilter in
/-- The data of the packer tell of the call. -/
theorem describes_packData (dryRun : Bool) :
    let platform := platformOf settings surroundings.platform
    let call := Package.plan request platform
    Describes (packData call program platform dryRun) call where
  program := ⟨program, rfl, Utf8.ofString_of_decode? htext⟩
  arguments := rfl
  nine := rfl
  exact argument _ hargument := by
    obtain ⟨text, hdecoded⟩ := Option.isSome_iff_exists.1 hargument
    rw [Utf8.lossy_of_decode? hdecoded]
    exact Utf8.ofString_of_decode? hdecoded

/-- A dry run plans the call. -/
theorem plans_of_dry (hdry : settings.dryRun = true) (world : World) :
    let platform := platformOf settings surroundings.platform
    let call := Package.plan request platform
    Plans settings.json call world (packData call program platform true)
      (packer.run arguments surroundings world) := by
  intro platform call
  have hdeeds := packed_deeds hparse hrequest hfilter htext world
  rw [hdry, if_pos rfl] at hdeeds
  refine ⟨congrArg Deeds.conclusion hdeeds, congrArg Deeds.attempts hdeeds,
    congrArg Deeds.files hdeeds, fun hjson => ?_, describes_packData htext true⟩
  have hcarries :=
    ((pack_responds_dry .sound hjson hrequest htext hdry).run hjson hparse hfilter world).2
  refine ⟨_, hcarries, ?_⟩
  rw [← hdry]
  rfl

/-- A run that is not dry makes the call. -/
theorem executes_of_real (hdry : settings.dryRun = false) (world : World) :
    let platform := platformOf settings surroundings.platform
    let call := Package.plan request platform
    Executes settings.json call world (packData call program platform false)
      (packer.run arguments surroundings world) := by
  intro platform call
  have hdeeds := packed_deeds hparse hrequest hfilter htext world
  rw [hdry, if_neg Bool.false_ne_true] at hdeeds
  refine ⟨(congrArg Deeds.attempts hdeeds).trans (attempts_callDeeds call world),
    fun loaded hload => ⟨World.serves_of_load hload, fun hjson => ?_⟩, fun error hload hjson => ?_⟩
  · have hcarries :=
      ((pack_responds_run .sound hjson hrequest htext hdry).run hjson hparse hfilter world).2
    rw [((Package.run_ran call true world).started loaded hload).1] at hcarries
    refine ⟨_, hcarries, ?_⟩
    rw [← hdry]
    exact (field?_answer_child _ _ _).1
  · exact ⟨_, carries_of_refused hparse hrequest hdry hfilter htext hjson hload, rfl⟩

end

/-- A dry run of the packer plans the call that the command line without the flag for it makes. The
data of the two documents differ in that flag alone where the packing program is started, and there
are none in the second where it is not. -/
theorem run_plan {arguments : List Bytes} {settings : Settings} {request : Package.Request}
    (hparse : packer.grammar.parse arguments = .ok settings) (hdry : settings.dryRun = true)
    (harchive : Holds settings "output" request.archive)
    (hsources : Holds settings "local" request.sources)
    (hprograms : Holds settings "bin" request.programs)
    (hlibraries : Holds settings "lib" request.libraries)
    (hprogramsText : request.programs.text?.isSome = true)
    {surroundings : Surroundings} (hlog : surroundings.LogAnswers) (world : World) :
    let call := Package.plan request (platformOf settings surroundings.platform)
    ∃ front back : List (String × Json),
      let data (dryRun : Bool) := Json.object (front ++ ("dry_run", .bool dryRun) :: back)
      Plans settings.json call world (data true) (packer.run arguments surroundings world) ∧
        packer.grammar.parse (arguments.erase dryRunFlag) = .ok settings.real ∧
        ∀ line, packer.grammar.parse line = .ok settings.real →
          Executes settings.json call world (data false) (packer.run line surroundings world) := by
  intro call
  have hrequest := packageRequest_eq_ok.2 ⟨harchive, hsources, hprograms, hlibraries⟩
  have hreal : packageRequest settings.real = .ok request := hrequest
  obtain ⟨filter, hfilter⟩ := hlog settings.verbose
  obtain ⟨program, htext⟩ : ∃ program, call.program.text? = some program :=
    Option.isSome_iff_exists.1 ((Package.isSome_text?_program request _).trans hprogramsText)
  exact ⟨[("args", Json.strings (Package.argumentTexts call))],
    [("platform", .string (platformOf settings surroundings.platform).name),
      ("program", .string program)],
    plans_of_dry hparse hrequest hfilter htext hdry world,
    packer.parse_erase hparse hdry,
    fun line hline => executes_of_real hline hreal hfilter htext rfl world⟩

/-! ## With a packing program and without -/

/-- The settings of a dry run with JSON that packs with the program in a directory. -/
def planSettings (programs : Bytes) : Settings :=
  { packSettings programs with json := true, dryRun := true }

/-- The command line that sets them. -/
def planLine (programs : Bytes) : List Bytes :=
  jsonFlag :: packLine programs ++ [dryRunFlag]

/-- Where there is a packing program the data of the two runs differ in the flag alone. -/
theorem run_plan_child :
    let programs := Bytes.ofString "bin"
    let settings := planSettings programs
    let request := packRequest programs
    let world := packWorld programs 42
    let planned := packer.run (planLine programs) plainSurroundings world
    let actual := packer.run ((planLine programs).erase dryRunFlag) plainSurroundings world
    packer.grammar.parse (planLine programs) = .ok settings ∧ settings.dryRun = true ∧
      Holds settings "output" request.archive ∧ Holds settings "local" request.sources ∧
      Holds settings "bin" request.programs ∧ Holds settings "lib" request.libraries ∧
      request.programs.text?.isSome = true ∧ plainSurroundings.LogAnswers ∧
      planned.conclusion = .exit 0 ∧ Step.attempts planned.steps = [] ∧
      Step.attempts actual.steps = [Package.plan request .linux] ∧
      ∃ front back : List (String × Json),
        Presents planned.output (.object (front ++ ("dry_run", .bool true) :: back)) ∧
        Presents actual.output (.object (front ++ ("dry_run", .bool false) :: back)) := by
  intro programs settings request world planned actual
  have hparse : packer.grammar.parse (planLine programs) = .ok settings := rfl
  have harchive : Holds settings "output" request.archive := ⟨rfl, nofun⟩
  have hsources : Holds settings "local" request.sources := ⟨rfl, nofun⟩
  have hprograms : Holds settings "bin" request.programs := ⟨rfl, nofun⟩
  have hlibraries : Holds settings "lib" request.libraries := ⟨rfl, nofun⟩
  have hlog : plainSurroundings.LogAnswers := .of_unset rfl
  have hload : world.load (Package.plan request .linux) =
      .ok ⟨.scripted [] (Bytes.ofString "packed\n") [] (.exited 42),
        (Package.plan request .linux).program, []⟩ := rfl
  have hattempted : world.attempted (Package.plan request .linux) =
      Package.plan request .linux := by
    rw [World.attempted, hload]
    rfl
  obtain ⟨front, back, hplans, hreal, hexecutes⟩ := run_plan hparse rfl harchive hsources hprograms
    hlibraries (by decide) hlog world
  have hactual := hexecutes _ hreal
  exact ⟨hparse, rfl, harchive, hsources, hprograms, hlibraries, by decide, hlog,
    hplans.conclusion, hplans.attempts, hactual.attempts.trans (congrArg (fun call => [call])
      hattempted), front, back, hplans.machine rfl,
    (hactual.started _ hload).2 rfl⟩

/-- A world with nothing in it. -/
def bareWorld : World where
  files := { entries := [([], .directory none)], home := [] }
  programs := fun _ => none

/-- A dry run need not end well: where the log library does not answer it crashes. And where the
library answers, the data of the run without the flag need not be those of the dry run: where there
is no packing program there are none. -/
theorem not_run_plan :
    (¬ ∀ (arguments : List Bytes) (settings : Settings) (request : Package.Request),
      packer.grammar.parse arguments = .ok settings → settings.dryRun = true →
      Holds settings "output" request.archive → Holds settings "local" request.sources →
      Holds settings "bin" request.programs → Holds settings "lib" request.libraries →
      request.programs.text?.isSome = true → ∀ (surroundings : Surroundings) (world : World),
        (packer.run arguments surroundings world).conclusion = .exit 0) ∧
    ¬ ∀ (arguments : List Bytes) (settings : Settings) (request : Package.Request),
      packer.grammar.parse arguments = .ok settings →
      settings.dryRun = true → settings.json = true → Holds settings "output" request.archive →
      Holds settings "local" request.sources → Holds settings "bin" request.programs →
      Holds settings "lib" request.libraries → request.programs.text?.isSome = true →
      ∀ (surroundings : Surroundings), surroundings.LogAnswers →
      ∀ (world : World) (line : List Bytes),
        packer.grammar.parse line = .ok settings.real → ∃ front back : List (String × Json),
          Json.Shown (packer.run arguments surroundings world).output "data"
            (.object (front ++ ("dry_run", .bool true) :: back)) ∧
          Json.Shown (packer.run line surroundings world).output "data"
            (.object (front ++ ("dry_run", .bool false) :: back)) := by
  let programs := Bytes.ofString "bin"
  constructor
  · intro h
    have hparse : packer.grammar.parse (planLine programs) = .ok (planSettings programs) := rfl
    have hconclusion := h (planLine programs) (planSettings programs) (packRequest programs) hparse
      rfl ⟨rfl, nofun⟩ ⟨rfl, nofun⟩ ⟨rfl, nofun⟩ ⟨rfl, nofun⟩ (by decide)
      (surroundingsWith "\u00a0a=info") bareWorld
    rw [run_misaligned hparse] at hconclusion
    cases hconclusion
  · intro h
    have hparse : packer.grammar.parse (jsonFlag :: packLine programs) =
        .ok (planSettings programs).real := rfl
    have hload : bareWorld.load (Package.plan (packRequest programs) .linux) =
        .error (.os .noEntry) := rfl
    have htext : (Package.plan (packRequest programs) .linux).program.text? =
        some "bin/plpack" := rfl
    have hfilter : Log.Filter.choose plainSurroundings.logSetting 0 = .ok _ := rfl
    have hcarries := carries_of_refused hparse rfl rfl hfilter htext rfl hload
    obtain ⟨front, back, -, hshown⟩ := h (planLine programs) _ (packRequest programs) rfl rfl rfl
      ⟨rfl, nofun⟩ ⟨rfl, nofun⟩ ⟨rfl, nofun⟩ ⟨rfl, nofun⟩ (by decide) plainSurroundings
      (.of_unset rfl) bareWorld (jsonFlag :: packLine programs) hparse
    rw [hcarries.printed] at hshown
    have hmentions : Json.Mentions "dry_run"
        (.object (front ++ ("dry_run", .bool false) :: back)) :=
      .key (List.mem_append_right front List.mem_cons_self)
    exact absurd (hshown.quoted hmentions) (by decide +kernel)

end ThemeSetup.Tool
