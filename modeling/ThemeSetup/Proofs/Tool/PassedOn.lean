import ThemeSetup.Proofs.Tool.Envelope

/-!
# What the packer passes on

A run of the packer ends as the packing program does: with its exit code, or with 1 if there is none
to pass on. So it ends well exactly if the packing program was started and ended well (`Relays`).
What the program writes goes where it wrote it; with JSON all of it goes to standard error, and the
document tells of the exit code. All this is so of a run exactly if there is a filter for its log
(`relays_iff`): without one it crashes, and the exit code is none of these (`not_relays`).
-/

namespace ThemeSetup

/-- The octet that is passed on for an exit code: the code itself where it is an octet, and 1 where
it is not or where there is none. So 0 stands for success alone. -/
structure PassesCode (code : Option Int) (octet : UInt8) : Prop where
  fits : ∀ n, code = some n → 0 ≤ n ∧ n ≤ 255 → (octet.toNat : Int) = n
  beyond : (∀ n, code = some n → ¬ (0 ≤ n ∧ n ≤ 255)) → octet = 1
  zero : octet = 0 ↔ code = some 0

/-- The octet of a number that is one has this number. -/
theorem toNat_toUInt8 {n : Int} (h : 0 ≤ n ∧ n ≤ 255) : (n.toNat.toUInt8.toNat : Int) = n := by
  have hmod : n.toNat.toUInt8.toNat = n.toNat % 256 := UInt8.toNat_ofNat'
  omega

/-- What is passed on for an exit code. -/
theorem exitByte_passesCode (code : Option Int) : PassesCode code (exitByte code) := by
  cases code with
  | none => exact ⟨nofun, fun _ => rfl, iff_of_false (by decide) nofun⟩
  | some n =>
    by_cases hrange : 0 ≤ n ∧ n ≤ 255
    · have hnat := toNat_toUInt8 hrange
      rw [exitByte, if_pos hrange]
      refine ⟨?_, fun h => absurd hrange (h n rfl), ?_⟩
      · rintro _ ⟨⟩ -
        exact hnat
      · rw [← UInt8.toNat_inj, Option.some.injEq, UInt8.toNat_zero]
        omega
    · rw [exitByte, if_neg hrange]
      refine ⟨?_, fun _ => rfl, iff_of_false (by decide) ?_⟩
      · rintro _ ⟨⟩ h
        exact absurd h hrange
      · rintro ⟨⟩
        exact hrange (by decide)

/-- A program ended well exactly if 0 is passed on. -/
theorem Ending.passedOn_eq_zero (ending : Ending) : ending.passedOn = 0 ↔ ending = .exited 0 := by
  cases ending with
  | killed => decide
  | exited code => exact ⟨fun h => congrArg _ h, fun h => Ending.exited.inj h⟩

/-- A packing program that cannot be started is reported under another code than one that ended. -/
theorem Launch.failure_code (program : Path) (error : IoError) :
    (Launch.failure Plugin.packerStem program error).report.toJson.field? "code" ≠
      some (.string "E_TOOL_FAILED") := by
  have hcode : ∀ notice : Notice, notice.toJson.field? "code" = some (.string notice.code) :=
    fun _ => rfl
  rw [hcode]
  unfold Launch.failure
  split
  · exact show some (Json.string "E_TOOL_NOT_FOUND") ≠ _ by simp
  · exact show some (Json.string "E_UNEXPECTED") ≠ _ by simp

namespace Tool

open CommandLine (Settings)

/-- The error in a document about a packing program that ended with an exit code. -/
def toolFailed (code : UInt8) : Json :=
  .object
    [("code", .string "E_TOOL_FAILED"),
     ("message", .string ("plpack exited with code " ++ toString code.toNat)),
     ("details", .object [("exit_code", .int code.toNat), ("tool", .string "plpack")])]

/-- Two streams that go to one place, in one of the orders in which their octets can arrive
there. -/
inductive Mingles : Bytes → Bytes → Bytes → Prop
  | nil : Mingles [] [] []
  | first {octet : UInt8} {one other together : Bytes} (h : Mingles one other together) :
      Mingles (octet :: one) other (octet :: together)
  | second {octet : UInt8} {one other together : Bytes} (h : Mingles one other together) :
      Mingles one (octet :: other) (octet :: together)

/-- One stream may be over before the other begins. -/
theorem Mingles.append (one other : Bytes) : Mingles one other (one ++ other) := by
  induction one with
  | cons _ _ ih => exact .first ih
  | nil =>
    induction other with
    | nil => exact .nil
    | cons _ _ ih => exact .second ih

/-- A run starts the packing program with this call, and passes on what it replies. -/
structure PassesOn (json : Bool) (call : Call) (reply : Reply) (finished : Finished) : Prop where
  conclusion : finished.conclusion = .exit reply.ending.passedOn
  calls : Step.calls finished.steps = [call]
  /-- Without JSON both streams of the program go through as they are. -/
  plain : json = false →
    finished.output = reply.output ∧ Step.errorsOf finished.steps = reply.errors
  /-- With JSON both go to standard error, and the document names the exit code, as an error unless
  it is 0. -/
  machine : json = true → Mingles reply.output reply.errors (Step.errorsOf finished.steps) ∧
    Tells finished.output reply.ending.passedOn
      (if reply.ending.passedOn = 0 then [] else [toolFailed reply.ending.passedOn])
  /-- On standard error all of this is in a row, and nothing but the log is beside it. -/
  errors : Step.errorsOf finished.steps <:+: finished.errors

/-- A run fails without a packing program: with JSON there is one error, which is not the one of a
program that ended. -/
structure Unstarted (json : Bool) (finished : Finished) : Prop where
  conclusion : finished.conclusion = .exit 1
  calls : Step.calls finished.steps = []
  machine : json = true → ∃ error : Json, Tells finished.output 1 [error] ∧
    error.field? "code" ≠ some (.string "E_TOOL_FAILED")

/-- The error of a packing program in its JSON form. -/
theorem toJson_childError (code : UInt8) :
    (Response.childError Plugin.packerStem code).toJson = toolFailed code :=
  Response.toJson_childError _ code

section
variable {settings : Settings} {surroundings : Surroundings} {request : Package.Request}
  {program : String}

/-- What the document of a packer says whose packing program has ended. -/
theorem field?_answer_child (current : Platform) (call : Call) (code : UInt8) :
    let document := answer CommandLine.packer.tool (fun code =>
      (packResponse settings current call program).withChild Plugin.packerStem code) (.ok code)
    document.field? "data" =
        some (packData call program (platformOf settings current) settings.dryRun) ∧
      document.field? "exit_code" = some (.int code.toNat) ∧
      document.field? "errors" = some (.array (if code = 0 then [] else [toolFailed code])) := by
  simp only [answer, Response.withChild]
  split
  · exact ⟨rfl, rfl, rfl⟩
  · rw [← toJson_childError]
    exact ⟨rfl, rfl, rfl⟩

/-- The steps of a packer whose packing program is started: what the program writes is passed on,
with JSON a document is printed at the end, and besides the log is told. -/
def packingSteps (json : Bool) (call : Call) (reply : Reply) (note : Log.Event)
    (notes : List Log.Event) (document : Bytes) : List Step :=
  [.log note, .spawn call true, if json then .errors reply.output else .output reply.output,
    .errors reply.errors] ++ notes.map .log ++ if json then [.output document] else []

section
variable (json : Bool) (call : Call) (reply : Reply) (note : Log.Event) (notes : List Log.Event)
  (document : Bytes)

/-- What the steps of a packer write to standard output. -/
theorem outputOf_packingSteps :
    Step.outputOf (packingSteps json call reply note notes document) =
      if json then document else reply.output := by
  cases json <;> simp [packingSteps, Step.outputOf, List.flatMap_map]

/-- What the steps of a packer write to standard error beside the log. -/
theorem errorsOf_packingSteps :
    Step.errorsOf (packingSteps json call reply note notes document) =
      if json then reply.output ++ reply.errors else reply.errors := by
  cases json <;> simp [packingSteps, Step.errorsOf, List.flatMap_map]

/-- The steps of a packer start one program. -/
theorem calls_packingSteps :
    Step.calls (packingSteps json call reply note notes document) = [call] := by
  cases json <;> simp [packingSteps, Step.calls, List.filterMap_append, List.filterMap_map]

/-- What the steps of a packer write to standard error is in a row, whatever is shown of the log. -/
theorem errorsOf_packingSteps_infix (style : LogStyle) :
    Step.errorsOf (packingSteps json call reply note notes document) <:+:
      (packingSteps json call reply note notes document).flatMap style.errorsOf := by
  rw [errorsOf_packingSteps]
  refine ⟨style.errorsOf (.log note), (notes.map .log).flatMap style.errorsOf, ?_⟩
  cases json <;> simp [packingSteps, LogStyle.errorsOf, List.flatMap_append]

end

/-- A packer whose packing program is started takes these steps. -/
theorem perform_steps {current : Platform} (hrequest : packageRequest settings = .ok request)
    (htext : (Package.plan request (platformOf settings current)).program.text? = some program)
    (hdry : settings.dryRun = false) {world : World} {loaded : Loaded}
    (hload : world.load (Package.plan request (platformOf settings current)) = .ok loaded) :
    let call := Package.plan request (platformOf settings current)
    ∃ note notes document, (packer.perform .sound settings current world).steps =
      packingSteps settings.json (loaded.call call) (world.reply loaded call) note notes
        document := by
  intro call
  obtain ⟨note, notes, hsteps⟩ := Package.run_steps call settings.json world hload
  obtain ⟨hresult, -⟩ := (Package.run_ran call settings.json world).started loaded hload
  have hbody := congrFun (pack_run hrequest htext hdry) world
  rw [Job.bind_ok hresult] at hbody
  unfold perform
  dsimp only [body]
  rw [hbody]
  cases hjson : settings.json with
  | false =>
    rw [hjson] at hsteps
    rw [conclude_plain]
    exact ⟨note, notes, [], congrArg (· ++ []) hsteps⟩
  | true =>
    rw [hjson] at hsteps
    have hwritable : ((packResponse settings current call program).withChild Plugin.packerStem
        (exitByte (world.reply loaded call).ending.code?)).toJson?.isSome = true :=
      isSome_toJson?_packResponse ..
    obtain ⟨document, hdocument⟩ := Option.isSome_iff_exists.1 hwritable
    rw [conclude_printed (by rw [print_eq, hdocument])]
    exact ⟨note, notes, _, congrArg (· ++ [_]) hsteps⟩

variable {arguments : List Bytes} {filter : Log.Filter}
  (hparse : packer.grammar.parse arguments = .ok settings)
  (hrequest : packageRequest settings = .ok request) (hdry : settings.dryRun = false)
  (hfilter : Log.Filter.choose surroundings.logSetting settings.verbose = .ok filter)
  (htext : (Package.plan request (platformOf settings surroundings.platform)).program.text? =
    some program)
include hparse hrequest hdry hfilter htext

/-- A run whose packing program is started passes on what it replies. -/
theorem passesOn_of_started {world : World} {loaded : Loaded}
    (hload : world.load (Package.plan request (platformOf settings surroundings.platform)) =
      .ok loaded) :
    let call := Package.plan request (platformOf settings surroundings.platform)
    PassesOn settings.json (loaded.call call) (world.reply loaded call)
      (packer.run arguments surroundings world) := by
  intro call
  obtain ⟨hconclusion, -⟩ :=
    (packs_of_text hparse hrequest hfilter htext world).started hdry loaded hload
  obtain ⟨hresult, -⟩ := (Package.run_ran call true world).started loaded hload
  obtain ⟨note, notes, document, hsteps⟩ := perform_steps hrequest htext hdry hload
  have hrun : packer.run arguments surroundings world = _ := run_filtered hparse hfilter world
  refine ⟨hconclusion, ?_, fun hjson => ?_, fun hjson => ?_, ?_⟩
  · rw [hrun]
    dsimp only
    rw [hsteps, calls_packingSteps]
  · rw [hrun]
    dsimp only
    rw [hsteps, outputOf_packingSteps, errorsOf_packingSteps, hjson]
    exact ⟨rfl, rfl⟩
  · obtain ⟨-, hcarries⟩ :=
      (pack_responds_run .sound hjson hrequest htext hdry).run hjson hparse hfilter world
    rw [hresult, exitByte_code?] at hcarries
    refine ⟨?_, _, hcarries, (field?_answer_child _ _ _).2⟩
    rw [hrun]
    dsimp only
    rw [hsteps, errorsOf_packingSteps, hjson]
    exact .append _ _
  · rw [hrun]
    dsimp only
    rw [hsteps]
    exact errorsOf_packingSteps_infix ..

/-- With JSON a run whose packing program cannot be started prints the document of that failure. -/
theorem carries_of_refused (hjson : settings.json = true) {world : World} {error : IoError}
    (hload : world.load (Package.plan request (platformOf settings surroundings.platform)) =
      .error error) :
    let call := Package.plan request (platformOf settings surroundings.platform)
    Json.Carries (packer.run arguments surroundings world).output
      (Response.failureDocument CommandLine.packer.tool
        (Launch.failure Plugin.packerStem call.program error)) := by
  intro call
  obtain ⟨hresult, -⟩ := (Package.run_ran call true world).refused error hload
  obtain ⟨-, hcarries⟩ :=
    (pack_responds_run .sound hjson hrequest htext hdry).run hjson hparse hfilter world
  rw [hresult] at hcarries
  exact hcarries

/-- A run whose packing program cannot be started fails. -/
theorem unstarted_of_refused {world : World} {error : IoError}
    (hload : world.load (Package.plan request (platformOf settings surroundings.platform)) =
      .error error) :
    Unstarted settings.json (packer.run arguments surroundings world) := by
  have hdeeds := packed_deeds hparse hrequest hfilter htext world
  rw [hdry, if_neg Bool.false_ne_true, callDeeds, hload] at hdeeds
  refine ⟨congrArg Deeds.conclusion hdeeds, congrArg Deeds.calls hdeeds, fun hjson => ?_⟩
  exact ⟨_, ⟨_, carries_of_refused hparse hrequest hdry hfilter htext hjson hload, rfl, rfl⟩,
    Launch.failure_code _ error⟩

end

/-- A run of the packer ends as the packing program does, and passes on what it writes. It fails if
the program cannot be started, so it ends well exactly if the program was started and ended well. -/
structure Relays (json : Bool) (call : Call) (world : World) (finished : Finished) : Prop where
  refused : ∀ error, world.load call = .error error → Unstarted json finished
  started : ∀ loaded, world.load call = .ok loaded →
    PassesOn json (loaded.call call) (world.reply loaded call) finished
  success : finished.conclusion = .exit 0 ↔
    ∃ loaded, world.load call = .ok loaded ∧ (world.reply loaded call).ending = .exited 0

/-- A run that relays ends with an exit code. -/
theorem Relays.survives {json : Bool} {call : Call} {world : World} {finished : Finished}
    (h : Relays json call world finished) : finished.conclusion ≠ .crash := by
  cases hload : world.load call with
  | error error =>
    rw [(h.refused error hload).conclusion]
    exact Conclusion.exit_ne_crash _
  | ok loaded =>
    rw [(h.started loaded hload).conclusion]
    exact Conclusion.exit_ne_crash _

/-- A run relays if it fails where the program cannot be started and passes on what it replies
where it is. -/
theorem Relays.of_parts {json : Bool} {call : Call} {world : World} {finished : Finished}
    (hrefused : ∀ error, world.load call = .error error → Unstarted json finished)
    (hstarted : ∀ loaded, world.load call = .ok loaded →
      PassesOn json (loaded.call call) (world.reply loaded call) finished) :
    Relays json call world finished := by
  refine ⟨hrefused, hstarted, ?_⟩
  cases hload : world.load call with
  | error error =>
    rw [(hrefused error hload).conclusion]
    exact iff_of_false (by decide) (by simp)
  | ok loaded =>
    rw [(hstarted loaded hload).conclusion, Conclusion.exit.injEq, Ending.passedOn_eq_zero]
    constructor
    · exact fun hending => ⟨loaded, rfl, hending⟩
    · rintro ⟨_, ⟨⟩, hending⟩
      exact hending

/-- A run of the packer whose program has a path that is text relays what becomes of the call
exactly if there is a filter for its log. What is passed on for an exit code is the code itself
where it is an octet, and 1 where it is not or where there is none. -/
theorem relays_iff {arguments : List Bytes} {settings : Settings} {request : Package.Request}
    (hparse : packer.grammar.parse arguments = .ok settings) (hdry : settings.dryRun = false)
    (harchive : Holds settings "output" request.archive)
    (hsources : Holds settings "local" request.sources)
    (hprograms : Holds settings "bin" request.programs)
    (hlibraries : Holds settings "lib" request.libraries)
    (hprogramsText : request.programs.text?.isSome = true)
    (surroundings : Surroundings) (world : World) :
    let call := Package.plan request (platformOf settings surroundings.platform)
    (Relays settings.json call world (packer.run arguments surroundings world) ↔
      ∃ filter, Log.Filter.choose surroundings.logSetting settings.verbose = .ok filter) ∧
    ∀ code, PassesCode code (exitByte code) := by
  intro call
  refine ⟨?_, exitByte_passesCode⟩
  have hrequest := packageRequest_eq_ok.2 ⟨harchive, hsources, hprograms, hlibraries⟩
  obtain ⟨program, htext⟩ : ∃ program, call.program.text? = some program :=
    Option.isSome_iff_exists.1 ((Package.isSome_text?_program request _).trans hprogramsText)
  cases hfilter : Log.Filter.choose surroundings.logSetting settings.verbose with
  | error error =>
    rw [run, run_unfiltered hparse hfilter]
    exact iff_of_false (fun h => h.survives rfl) (by simp)
  | ok filter =>
    refine iff_of_true (.of_parts (fun error hload => ?_) fun loaded hload => ?_) ⟨filter, rfl⟩
    · exact unstarted_of_refused hparse hrequest hdry hfilter htext hload
    · exact passesOn_of_started hparse hrequest hdry hfilter htext hload

/-- With JSON a packing program that ends with 42 makes the packer end with 42 too; what the program
writes is on standard error, and the document names the code in its error. -/
theorem relays_iff_child :
    let programs := Bytes.ofString "bin"
    let settings := (packSettings programs).withJson
    let request := packRequest programs
    let line := jsonFlag :: packLine programs
    let world := packWorld programs 42
    let finished := packer.run line plainSurroundings world
    packer.grammar.parse line = .ok settings ∧ settings.dryRun = false ∧
      Holds settings "output" request.archive ∧ Holds settings "local" request.sources ∧
      Holds settings "bin" request.programs ∧ Holds settings "lib" request.libraries ∧
      request.programs.text?.isSome = true ∧
      Relays true (Package.plan request .linux) world finished ∧
      finished.conclusion = .exit 42 ∧
      Mingles (Bytes.ofString "packed\n") [] (Step.errorsOf finished.steps) ∧
      Tells finished.output 42 [toolFailed 42] := by
  intro programs settings request line world finished
  have hparse : packer.grammar.parse line = .ok settings := rfl
  have harchive : Holds settings "output" request.archive := ⟨rfl, nofun⟩
  have hsources : Holds settings "local" request.sources := ⟨rfl, nofun⟩
  have hprograms : Holds settings "bin" request.programs := ⟨rfl, nofun⟩
  have hlibraries : Holds settings "lib" request.libraries := ⟨rfl, nofun⟩
  have hload : world.load (Package.plan request .linux) =
      .ok ⟨.scripted [] (Bytes.ofString "packed\n") [] (.exited 42),
        (Package.plan request .linux).program, []⟩ := rfl
  have hrelays := (relays_iff hparse rfl harchive hsources hprograms hlibraries (by decide)
    plainSurroundings world).1.2 ⟨_, rfl⟩
  obtain ⟨hconclusion, -, -, hmachine, -⟩ := hrelays.started _ hload
  obtain ⟨herrors, htells⟩ := hmachine rfl
  exact ⟨hparse, rfl, harchive, hsources, hprograms, hlibraries, by decide, hrelays, hconclusion,
    herrors, htells⟩

/-- A run of the packer need not relay what becomes of its call: where there is no filter for the
log it crashes, and starts nothing. -/
theorem not_relays : ¬ ∀ (arguments : List Bytes) (settings : Settings)
    (request : Package.Request), packer.grammar.parse arguments = .ok settings →
    settings.dryRun = false → Holds settings "output" request.archive →
    Holds settings "local" request.sources → Holds settings "bin" request.programs →
    Holds settings "lib" request.libraries → request.programs.text?.isSome = true →
    ∀ (surroundings : Surroundings) (world : World),
      Relays settings.json (Package.plan request (platformOf settings surroundings.platform)) world
        (packer.run arguments surroundings world) := by
  intro h
  let programs := Bytes.ofString "bin"
  have hparse : packer.grammar.parse (packLine programs) = .ok (packSettings programs) := rfl
  have hrelays := h (packLine programs) (packSettings programs) (packRequest programs) hparse rfl
    ⟨rfl, nofun⟩ ⟨rfl, nofun⟩ ⟨rfl, nofun⟩ ⟨rfl, nofun⟩ (by decide)
    (surroundingsWith "\u00a0a=info") (packWorld programs 3)
  rw [run_misaligned hparse] at hrelays
  exact hrelays.survives rfl

end Tool

end ThemeSetup
