import ThemeSetup.Proofs.Package
import ThemeSetup.Proofs.Tool.Conclude

/-!
# What the tools do

Apart from what goes to its own streams, a run is known by its `Deeds`: how it ends, the files that
it leaves, and the programs that it tries to start and does start. `install_deeds` and `pack_deeds`
give the deeds of the two tools. JSON has no part in those of the packer; in those of the installer
it decides the exit code where a report cannot be written.
-/

namespace ThemeSetup

/-- An observer of steps that sees nothing of the log and of the streams. -/
structure Step.Offstage {ι : Type} (observe : Step → Option ι) : Prop where
  log : ∀ event, observe (.log event) = none
  output : ∀ octets, observe (.output octets) = none
  errors : ∀ octets, observe (.errors octets) = none

/-- An observer of steps that sees nothing but attempts to start a program. -/
def Step.OfSpawns {ι : Type} (observe : Step → Option ι) : Prop :=
  ∀ step, (∀ call started, step ≠ .spawn call started) → observe step = none

/-- Attempts to start a program are neither log nor stream. -/
theorem Step.OfSpawns.offstage {ι : Type} {observe : Step → Option ι} (h : OfSpawns observe) :
    Offstage observe :=
  ⟨fun _ => h _ nofun, fun _ => h _ nofun, fun _ => h _ nofun⟩

namespace Tool

open CommandLine (Settings)

/-- What a run does outside its own streams. -/
structure Deeds where
  conclusion : Conclusion
  files : FileSystem
  /-- The programs that it tries to start, in order. -/
  attempts : List Call
  /-- The programs that it starts, in order. -/
  calls : List Call

/-- The deeds of a run that concludes so, leaves these files and takes these steps. -/
def Deeds.of (conclusion : Conclusion) (files : FileSystem) (steps : List Step) : Deeds :=
  ⟨conclusion, files, Step.attempts steps, Step.calls steps⟩

/-- What a completed run did. -/
def Completion.deeds (completion : Completion) : Deeds :=
  .of completion.conclusion completion.files completion.steps

/-- What a finished run did. -/
def Finished.deeds (finished : Finished) : Deeds :=
  .of finished.conclusion finished.files finished.steps

section
variable {ι : Type} {observe : Step → Option ι}

/-- Two lists of steps that every observer of spawns sees alike are the same deeds. -/
theorem Deeds.of_congr {conclusion : Conclusion} {files : FileSystem} {steps steps' : List Step}
    (h : ∀ {ι : Type} (observe : Step → Option ι), Step.OfSpawns observe →
      steps.filterMap observe = steps'.filterMap observe) :
    Deeds.of conclusion files steps = .of conclusion files steps' := by
  have hattempts : Step.attempts steps = Step.attempts steps' := by
    refine h _ fun step hstep => ?_
    cases step with
    | spawn call started => exact absurd rfl (hstep call started)
    | _ => rfl
  have hcalls : Step.calls steps = Step.calls steps' := by
    refine h _ fun step hstep => ?_
    cases step with
    | spawn call started => exact absurd rfl (hstep call started)
    | _ => rfl
  rw [Deeds.of, hattempts, hcalls]
  rfl

/-- Announcing deliveries is seen on the streams alone. -/
theorem filterMap_announce (h : Step.Offstage observe) (tool : String) (steps : List Step) :
    (announce tool steps).filterMap observe = steps.filterMap observe := by
  induction steps with
  | nil => rfl
  | cons step rest ih =>
    have hcons : (step :: rest).filterMap observe =
        [step].filterMap observe ++ rest.filterMap observe :=
      List.filterMap_append (l := [step])
    rw [announce, List.flatMap_cons, List.filterMap_append, ← announce, ih, hcons]
    cases step with
    | deliver delivery =>
      have hsaid : [say tool delivery.message].filterMap observe = [] :=
        List.filterMap_cons_none (h.output _)
      refine congrArg (· ++ _) ((List.filterMap_append (l := [Step.deliver delivery])).trans ?_)
      rw [hsaid, List.append_nil]
    | _ => rfl

/-- The lines that go with a notice are seen on the streams alone. -/
theorem filterMap_noticeLines (h : Step.Offstage observe) (notice : Notice) :
    (noticeLines notice).filterMap observe = [] := by
  unfold noticeLines
  rw [List.filterMap_append, List.append_eq_nil_iff]
  constructor
  · split
    · rfl
    · rfl
    · exact List.filterMap_cons_none (h.errors _)
  · split
    · rfl
    · exact List.filterMap_cons_none (h.errors _)

/-- Telling of a failure is seen in the log and on the streams alone. -/
theorem filterMap_failureSteps (h : Step.Offstage observe) (tool : String) (json : Bool)
    (failure : Failure) : (failureSteps tool json failure).filterMap observe = [] := by
  rw [failureSteps, List.filterMap_cons_none (h.log _)]
  split
  · split
    · exact List.filterMap_cons_none (h.output _)
    · rfl
  · rw [say, List.filterMap_cons_none (h.output _), filterMap_noticeLines h]

/-- The end of a tool is seen on the streams alone. -/
theorem conclude_unseen (h : Step.Offstage observe) (tool : String) (json : Bool)
    (response : Response) (message? : Option String) (code : UInt8) :
    Job.Unseen observe (conclude tool json response message? code) := by
  intro world
  cases json with
  | false =>
    rw [conclude_plain]
    cases message? with
    | none => rfl
    | some message => exact List.filterMap_cons_none (h.output _)
  | true =>
    cases hprint : response.print with
    | error failure =>
      rw [conclude_unprinted hprint]
      rfl
    | ok text =>
      rw [conclude_printed hprint]
      exact List.filterMap_cons_none (h.output _)

end

/-- The end of a tool changes no file. -/
theorem conclude_keepsFiles (tool : String) (json : Bool) (response : Response)
    (message? : Option String) (code : UInt8) :
    Job.KeepsFiles (conclude tool json response message? code) := by
  intro world
  cases json with
  | false => rw [conclude_plain]
  | true =>
    cases hprint : response.print with
    | error failure => rw [conclude_unprinted hprint]
    | ok text => rw [conclude_printed hprint]

/-- How a run ends whose work has this result: a failure is reported, and the exit code is 1. -/
def Conclusion.ofResult : Except Failure Conclusion → Conclusion
  | .ok conclusion => conclusion
  | .error _ => .exit 1

/-- Who sees neither the log nor the streams sees of a run what its work does. -/
theorem filterMap_perform {ι : Type} {observe : Step → Option ι} (h : Step.Offstage observe)
    (tool : Tool) (medium : Medium) (settings : Settings) (current : Platform) (world : World) :
    (tool.perform medium settings current world).steps.filterMap observe =
      (tool.body medium settings current world).steps.filterMap observe := by
  cases hresult : (tool.body medium settings current world).result with
  | ok conclusion => simp only [perform, hresult]
  | error failure =>
    simp only [perform, hresult]
    rw [List.filterMap_append, filterMap_failureSteps h, List.append_nil]

/-- Reporting a failure adds nothing to the deeds of a run. -/
theorem perform_deeds (tool : Tool) (medium : Medium) (settings : Settings) (current : Platform)
    (world : World) :
    let work := tool.body medium settings current world
    (tool.perform medium settings current world).deeds =
      .of (.ofResult work.result) work.files work.steps := by
  intro work
  have hends : (tool.perform medium settings current world).conclusion = .ofResult work.result ∧
      (tool.perform medium settings current world).files = work.files := by
    cases hresult : (tool.body medium settings current world).result <;>
      simp only [work, perform, hresult, Conclusion.ofResult, and_self]
  rw [Completion.deeds, hends.1, hends.2]
  exact Deeds.of_congr fun observe h =>
    filterMap_perform h.offstage tool medium settings current world

/-- A response is printed if it can be written, and is a failure otherwise. -/
theorem print_eq (response : Response) : response.print =
    match response.toJson? with
    | some json => .ok (json.pretty ++ "\n")
    | none => .error (.of .pathNotText) :=
  rfl

/-- How the end of a tool concludes: with JSON a response that cannot be written is a failure. -/
theorem ofResult_conclude (tool : String) (json : Bool) (response : Response)
    (message? : Option String) (code : UInt8) (world : World) :
    Conclusion.ofResult (conclude tool json response message? code world).result =
      if json && !response.toJson?.isSome then .exit 1 else .exit code := by
  cases json with
  | false =>
    rw [conclude_plain]
    rfl
  | true =>
    cases hjson : response.toJson? with
    | none =>
      rw [conclude_unprinted (by rw [print_eq, hjson])]
      rfl
    | some document =>
      rw [conclude_printed (by rw [print_eq, hjson])]
      rfl

/-- How a tool ends after work with this result. With JSON a response that cannot be written is a
failure. -/
def Conclusion.after {α : Type} (json : Bool) (isWritable : α → Bool) (code : α → UInt8) :
    Except Failure α → Conclusion
  | .ok a => if json && !isWritable a then .exit 1 else .exit (code a)
  | .error _ => .exit 1

/-- A tool does not crash after its work. -/
theorem Conclusion.after_ne_crash {α : Type} (json : Bool) (isWritable : α → Bool)
    (code : α → UInt8) (result : Except Failure α) :
    after json isWritable code result ≠ .crash := by
  unfold after
  split
  · split <;> exact nofun
  · exact nofun

/-- The deeds of some work and the end of a tool are those of the work. -/
theorem deeds_bind_conclude {α : Type} (job : Job α) (tool : String) (json : Bool)
    (response : α → Response) (message? : α → Option String) (code : α → UInt8) (world : World) :
    let whole := (job >>= fun a => conclude tool json (response a) (message? a) (code a)) world
    Deeds.of (.ofResult whole.result) whole.files whole.steps =
      .of (.after json (fun a => (response a).toJson?.isSome) code (job world).result)
        (job world).files (job world).steps := by
  intro whole
  have hfiles : whole.files = (job world).files :=
    Job.files_bind (fun _ => conclude_keepsFiles _ _ _ _ _) world
  have hconclusion : Conclusion.ofResult whole.result =
      .after json (fun a => (response a).toJson?.isSome) code (job world).result := by
    cases hresult : (job world).result with
    | error failure =>
      simp only [whole]
      rw [Job.bind_error hresult]
      rfl
    | ok a =>
      simp only [whole]
      rw [Job.bind_ok hresult]
      exact ofResult_conclude ..
  rw [hfiles, hconclusion]
  exact Deeds.of_congr fun observe h =>
    Job.Unseen.steps_bind (fun _ => conclude_unseen h.offstage _ _ _ _ _) world

variable {medium : Medium} {settings : Settings} {current : Platform}

/-- The deeds of a run for settings that are read: without a filter for the log it crashes. -/
theorem run_deeds {tool : Tool} {arguments : List Bytes}
    (hparse : tool.grammar.parse arguments = .ok settings) (surroundings : Surroundings)
    (world : World) :
    (tool.runOn medium arguments surroundings world).deeds =
      match Log.Filter.choose surroundings.logSetting settings.verbose with
      | .ok _ => (tool.perform medium settings surroundings.platform world).deeds
      | .error _ => .of .crash world.files [] := by
  cases hfilter : Log.Filter.choose surroundings.logSetting settings.verbose with
  | ok filter =>
    rw [run_filtered hparse hfilter]
    rfl
  | error error =>
    rw [run_unfiltered hparse hfilter]
    rfl

/-! ## The installer -/

/-- The installer refuses settings that are no request, and does nothing. -/
theorem install_refused {failure : Failure} (h : installRequest settings = .error failure)
    (world : World) :
    (installer.perform medium settings current world).deeds = .of (.exit 1) world.files [] := by
  have hbody : installer.body medium settings current world =
      ⟨.error failure, world.files, []⟩ := by
    simp only [body, install, h]
    rfl
  rw [perform_deeds, hbody]
  rfl

/-- The response of an installation can be written exactly if its report can. -/
theorem isSome_toJson?_installResponse (report : Install.Report) :
    (installResponse report).toJson?.isSome = report.toJson?.isSome := by
  have hdata : (installResponse report).data = report.toJson? := rfl
  rw [Response.toJson?, hdata]
  cases report.toJson? <;> rfl

/-- Who sees neither the log nor the streams sees of the installer what the installation does. -/
theorem filterMap_installWork {ι : Type} {observe : Step → Option ι} (h : Step.Offstage observe)
    (medium : Medium) (settings : Settings) (current : Platform) (request : Install.Request)
    (world : World) :
    (installWork medium settings current request world).steps.filterMap observe =
      (Install.runOn medium request (platformOf settings current) settings.dryRun
        world).steps.filterMap observe := by
  rw [installWork, Job.log_bind, List.filterMap_cons_none (h.log _)]
  split
  · rfl
  · exact filterMap_announce h _ _

/-- The deeds of the installer are those of the installation. -/
theorem install_deeds {request : Install.Request} (h : installRequest settings = .ok request)
    (world : World) :
    let work := Install.runOn medium request (platformOf settings current) settings.dryRun world
    (installer.perform medium settings current world).deeds =
      .of (.after settings.json (fun report => report.toJson?.isSome) (fun _ => 0) work.result)
        work.files work.steps := by
  intro work
  obtain ⟨hresult, hfiles⟩ := installWork_result medium settings current request world
  rw [perform_deeds]
  simp only [body, install_eq h]
  rw [deeds_bind_conclude, hresult, hfiles]
  simp only [isSome_toJson?_installResponse]
  exact Deeds.of_congr fun observe h => filterMap_installWork h.offstage _ _ _ _ _

/-- An observer that sees nothing of the log and of the streams sees the installer do what the
installation does. -/
theorem filterMap_installer {ι : Type} {observe : Step → Option ι}
    (hoffstage : Step.Offstage observe) {request : Install.Request}
    (h : installRequest settings = .ok request) (world : World) :
    (installer.perform medium settings current world).steps.filterMap observe =
      (Install.runOn medium request (platformOf settings current) settings.dryRun
        world).steps.filterMap observe := by
  refine (filterMap_perform hoffstage installer medium settings current world).trans ?_
  rw [show installer.body medium settings current = _ from install_eq h,
    Job.Unseen.steps_bind (fun _ => conclude_unseen hoffstage _ _ _ _ _)]
  exact filterMap_installWork hoffstage medium settings current request world

/-- What the installer delivers is what the installation delivers. -/
theorem install_deliveries {request : Install.Request} (h : installRequest settings = .ok request)
    (world : World) :
    Step.deliveries (installer.perform medium settings current world).steps =
      Step.deliveries
        (Install.runOn medium request (platformOf settings current) settings.dryRun world).steps :=
  filterMap_installer ⟨fun _ => rfl, fun _ => rfl, fun _ => rfl⟩ h world

/-! ## The packer -/

variable {request : Package.Request}

/-- The packer refuses settings that are no request, and does nothing. -/
theorem pack_refused {failure : Failure} (h : packageRequest settings = .error failure)
    (world : World) :
    (packer.perform medium settings current world).deeds = .of (.exit 1) world.files [] := by
  have hbody : packer.body medium settings current world = ⟨.error failure, world.files, []⟩ := by
    simp only [body, pack, h]
    rfl
  rw [perform_deeds, hbody]
  rfl

/-- The deeds of a call: the exit code of its program is passed on, and a program that cannot be
started is a failure. -/
def callDeeds (call : Call) (world : World) : Deeds :=
  match world.load call with
  | .error _ => ⟨.exit 1, world.files, [call], []⟩
  | .ok loaded =>
    ⟨.exit (exitByte (world.reply loaded call).ending.code?), world.filesAfter call,
      [loaded.call call], [loaded.call call]⟩

/-- The deeds of the packer: it crashes if the path of the packing program is no text, a dry run
does nothing, and any other makes the call. -/
def packDeeds (dryRun : Bool) (call : Call) (world : World) : Deeds :=
  if call.program.text?.isNone then ⟨.crash, world.files, [], []⟩
  else if dryRun then ⟨.exit 0, world.files, [], []⟩
  else callDeeds call world

/-- The responses of the packer can be written, whatever the exit code. -/
theorem isSome_toJson?_packResponse (call : Call) (program : String) (code : UInt8) :
    ((packResponse settings current call program).withChild Plugin.packerStem code).toJson?.isSome =
      true := by
  unfold Response.withChild
  split <;> rfl

/-- A tool whose response can be written ends with its exit code. -/
theorem Conclusion.after_writable {α : Type} (json : Bool) {isWritable : α → Bool}
    (h : ∀ a, isWritable a = true) (code : α → UInt8) (a : α) :
    Conclusion.after json isWritable code (.ok a) = .exit (code a) := by
  rw [after, h]
  cases json <;> rfl

/-- The deeds of the packer, with JSON and without. -/
theorem pack_deeds (h : packageRequest settings = .ok request) (world : World) :
    (packer.perform medium settings current world).deeds =
      packDeeds settings.dryRun (Package.plan request (platformOf settings current)) world := by
  rw [perform_deeds]
  simp only [body]
  cases htext : (Package.plan request (platformOf settings current)).program.text? with
  | none =>
    rw [pack_crash h htext, packDeeds, htext]
    rfl
  | some program =>
    rw [packDeeds, htext, Option.isNone_some, if_neg Bool.false_ne_true]
    cases hdry : settings.dryRun with
    | true =>
      rw [pack_dry h htext hdry]
      dsimp only
      rw [← Job.pure_bind () (fun _ => conclude _ _ _ _ _), deeds_bind_conclude]
      exact congrArg (Deeds.of · _ _) (Conclusion.after_writable _ (fun _ => rfl) _ ())
    | false =>
      rw [pack_run h htext hdry]
      dsimp only
      rw [deeds_bind_conclude]
      obtain ⟨hfiles, hrefused, hstarted⟩ := Package.run_ran
        (Package.plan request (platformOf settings current)) settings.json world
      rw [hfiles, if_neg Bool.false_ne_true, callDeeds]
      cases hload : world.load (Package.plan request (platformOf settings current)) with
      | error error =>
        obtain ⟨hresult, hattempts, hcalls, -⟩ := hrefused error hload
        rw [hresult, Deeds.of, hattempts, hcalls, World.filesAfter, hload]
        rfl
      | ok loaded =>
        obtain ⟨hresult, hattempts, hcalls, -⟩ := hstarted loaded hload
        rw [hresult, Conclusion.after_writable _ (isSome_toJson?_packResponse _ _), Deeds.of,
          hattempts, hcalls]

/-- The packer crashes if the path of the packing program is no text. -/
theorem pack_crashes (h : packageRequest settings = .ok request)
    (htext : (Package.plan request (platformOf settings current)).program.text? = none)
    (world : World) : (packer.perform medium settings current world).conclusion = .crash := by
  have hdeeds : (packer.perform medium settings current world).deeds = _ := pack_deeds h world
  rw [packDeeds, htext] at hdeeds
  exact congrArg Deeds.conclusion hdeeds

end Tool

end ThemeSetup
