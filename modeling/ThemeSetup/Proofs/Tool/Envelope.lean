import ThemeSetup.Proofs.CommandLine.Json
import ThemeSetup.Proofs.Install.Faithful
import ThemeSetup.Proofs.Response.Whole
import ThemeSetup.Proofs.Tool.Packing

/-!
# What goes to standard output with JSON

With JSON a tool works in silence and then prints one document (`perform_answer`): its response, or
the response of the failure if the work failed or the response cannot be written. So there is one
document on standard output and nothing else, and it is true of the exit code (`run_answers`); what
the packing program writes has no part in it. The document holds no fractions, so it can be told
from the output.
-/

namespace ThemeSetup.Tool

open CommandLine (Settings)

/-! ## The document -/

/-- The output is one document and no other, with this exit code and these errors. -/
def Tells (output : Bytes) (code : UInt8) (errors : List Json) : Prop :=
  ∃ document : Json, Json.Carries output document ∧
    document.field? "exit_code" = some (.int code.toNat) ∧
    document.field? "errors" = some (.array errors)

section
variable {α : Type}

/-- The document that a tool prints when its work has this result. -/
def answer (command : String) (response : α → Response) : Except Failure α → Json
  | .ok a => (response a).toJson?.getD (Response.failureDocument command (.of .pathNotText))
  | .error failure => Response.failureDocument command failure

/-- The document is true of how the tool ends, where its responses are true. -/
theorem answer_envelope {command : String} {response : α → Response} {code : α → UInt8}
    (h : ∀ a, (response a).Truthful command (code a)) (result : Except Failure α) :
    ∃ exit, Conclusion.after true (fun a => (response a).toJson?.isSome) code result = .exit exit ∧
      Envelope command exit (answer command response result) := by
  have hfailure (failure : Failure) :
      Envelope command 1 (Response.failureDocument command failure) :=
    (Response.truthful_ofFailure command failure).envelope
      (Response.toJson?_ofFailure command failure)
  cases result with
  | error failure => exact ⟨1, rfl, hfailure failure⟩
  | ok a =>
    cases hjson : (response a).toJson? with
    | none =>
      refine ⟨1, ?_, ?_⟩
      · simp only [Conclusion.after, hjson]
        rfl
      · simp only [answer, hjson]
        exact hfailure _
    | some document =>
      refine ⟨code a, ?_, ?_⟩
      · simp only [Conclusion.after, hjson]
        rfl
      · simp only [answer, hjson]
        exact (h a).envelope hjson

/-- The document of a failure with a cause of the tools' own holds no fractions. -/
theorem isWhole_failureDocument (command : String) {failure : Failure} (h : failure.Unnoticed) :
    (Response.failureDocument command failure).isWhole = true :=
  (Response.Whole.ofFailure command h).isWhole (Response.toJson?_ofFailure command failure)

/-- The document holds no fractions, where the responses hold none and the work fails with causes of
the tools' own. -/
theorem isWhole_answer (command : String) {response : α → Response}
    (h : ∀ a, (response a).Whole) {result : Except Failure α}
    (hfailure : ∀ failure, result = .error failure → failure.Unnoticed) :
    (answer command response result).isWhole = true := by
  cases result with
  | error failure => exact isWhole_failureDocument command (hfailure failure rfl)
  | ok a =>
    rw [answer]
    cases hjson : (response a).toJson? with
    | none => exact isWhole_failureDocument command nofun
    | some document => exact (h a).isWhole hjson

/-- What a tool writes about a failure with JSON. -/
theorem writes_failureSteps (command : String) (failure : Failure) :
    Step.writes (failureSteps command true failure) =
      [Bytes.ofString ((Response.failureDocument command failure).pretty ++ "\n")] :=
  rfl

/-- A tool that works in silence and then responds with JSON, in a way that is true and without
fractions. -/
structure Responds (medium : Medium) (tool : Tool) (settings : Settings) (current : Platform)
    (work : Job α) (response : α → Response) (message? : α → Option String) (code : α → UInt8) :
    Prop where
  body : tool.body medium settings current = work >>= fun a =>
    conclude tool.grammar.tool true (response a) (message? a) (code a)
  silent : Job.Unseen Step.output? work
  fails : Job.FailsWith Failure.Unnoticed work
  truthful : ∀ a, (response a).Truthful tool.grammar.tool (code a)
  whole : ∀ a, (response a).Whole

variable {medium : Medium} {tool : Tool} {settings : Settings} {current : Platform} {work : Job α}
  {response : α → Response} {message? : α → Option String} {code : α → UInt8}

/-- A tool that responds prints one document. -/
theorem perform_answer (hjson : settings.json = true)
    (h : Responds medium tool settings current work response message? code) (world : World) :
    (tool.perform medium settings current world).conclusion =
        .after true (fun a => (response a).toJson?.isSome) code (work world).result ∧
      Step.writes (tool.perform medium settings current world).steps =
        [Bytes.ofString
          ((answer tool.grammar.tool response (work world).result).pretty ++ "\n")] := by
  obtain ⟨hbody, hsilent, -⟩ := h
  constructor
  · have hdeeds := perform_deeds tool medium settings current world
    rw [hbody] at hdeeds
    exact congrArg Deeds.conclusion (hdeeds.trans (deeds_bind_conclude ..))
  · unfold perform
    rw [hbody, hjson]
    cases hresult : (work world).result with
    | error failure =>
      rw [Job.bind_error hresult]
      dsimp only
      rw [Step.writes, List.filterMap_append, hsilent world]
      exact writes_failureSteps _ failure
    | ok a =>
      rw [Job.bind_ok hresult]
      cases hdocument : (response a).toJson? with
      | none =>
        rw [conclude_unprinted (by rw [print_eq, hdocument])]
        dsimp only
        rw [Step.writes, List.filterMap_append, List.append_nil, hsilent world, answer, hdocument]
        exact writes_failureSteps _ _
      | some document =>
        rw [conclude_printed (by rw [print_eq, hdocument])]
        dsimp only
        rw [Step.writes, List.filterMap_append, hsilent world, answer, hdocument]
        rfl

/-- The document of a tool that responds holds no fractions. -/
theorem Responds.isWhole (h : Responds medium tool settings current work response message? code)
    (world : World) :
    (answer tool.grammar.tool response (work world).result).isWhole = true :=
  isWhole_answer _ h.whole (h.fails world)

/-- A run of a tool that responds puts one document on standard output. -/
theorem Responds.run (hjson : settings.json = true) {surroundings : Surroundings}
    (h : Responds medium tool settings surroundings.platform work response message? code)
    {arguments : List Bytes} (hparse : tool.grammar.parse arguments = .ok settings)
    {filter : Log.Filter}
    (hfilter : Log.Filter.choose surroundings.logSetting settings.verbose = .ok filter)
    (world : World) :
    (tool.runOn medium arguments surroundings world).conclusion =
        .after true (fun a => (response a).toJson?.isSome) code (work world).result ∧
      Json.Carries (tool.runOn medium arguments surroundings world).output
        (answer tool.grammar.tool response (work world).result) := by
  obtain ⟨hconclusion, hwrites⟩ := perform_answer hjson h world
  rw [run_filtered hparse hfilter]
  refine ⟨hconclusion, .of_printed (h.isWhole world) ((Step.outputOf_eq _).trans ?_)⟩
  rw [hwrites]
  exact List.append_nil _

/-- A run answers with a document that is true of how it ends and holds no fractions. -/
structure Answers (command : String) (completion : Completion) (code : UInt8) (document : Json) :
    Prop where
  conclusion : completion.conclusion = .exit code
  /-- Nothing else goes to standard output, of the tool or of a program that it starts. -/
  writes : Step.writes completion.steps = [Bytes.ofString (document.pretty ++ "\n")]
  envelope : Envelope command code document
  whole : document.isWhole = true

/-- A tool that responds answers. -/
theorem Responds.answers (hjson : settings.json = true)
    (h : Responds medium tool settings current work response message? code) (world : World) :
    ∃ code document,
      Answers tool.grammar.tool (tool.perform medium settings current world) code document := by
  obtain ⟨hconclusion, hwrites⟩ := perform_answer hjson h world
  obtain ⟨exit, hexit, henvelope⟩ := answer_envelope h.truthful (work world).result
  exact ⟨exit, _, hconclusion.trans hexit, hwrites, henvelope, h.isWhole world⟩

/-- A tool that responds answers in the same way where its work comes to the same. -/
theorem Responds.writes_congr (hjson : settings.json = true)
    (h : Responds medium tool settings current work response message? code) {world other : World}
    (hsame : (work other).result = (work world).result) :
    Step.writes (tool.perform medium settings current other).steps =
      Step.writes (tool.perform medium settings current world).steps := by
  rw [(perform_answer hjson h other).2, (perform_answer hjson h world).2, hsame]

/-- A tool that fails at once with a cause of its own responds. -/
theorem Responds.of_fail {failure : Failure}
    (h : tool.body medium settings current = Job.fail failure) (hown : failure.Unnoticed) :
    Responds medium tool settings current (Job.fail failure : Job Unit)
      (fun _ => Response.success tool.grammar.tool none) (fun _ => none) (fun _ => 0) :=
  ⟨h, .fail _, .fail hown, fun _ => Response.truthful_success _ none [],
    fun _ => .success _ nofun⟩

end

/-! ## The two tools -/

section
variable {medium : Medium} {settings : Settings} {current : Platform}

/-- The installer responds to a request. -/
theorem install_responds (hjson : settings.json = true) {request : Install.Request}
    (hrequest : installRequest settings = .ok request) :
    Responds medium installer settings current (installWork medium settings current request)
      installResponse dryMessage? (fun _ => 0) where
  body := (install_eq hrequest).trans (by rw [hjson]; rfl)
  silent := by
    rw [installWork, hjson]
    exact .bind (.step rfl) fun _ =>
      Install.runOn_unseen (fun _ => rfl) (fun _ => rfl) (fun _ _ => rfl) _ _ _
  fails world failure h :=
    Install.runOn_unnoticed medium request _ _ world failure
      ((installWork_result medium settings current request world).1.symm.trans h)
  truthful report := Response.truthful_success _ report.toJson? report.warnings
  whole report := .withWarnings (.success _ fun _ => Install.isWhole_toJson?_report) _

/-- The installer answers. -/
theorem install_answers (hjson : settings.json = true) (medium : Medium) (current : Platform)
    (world : World) :
    ∃ code document, Answers CommandLine.installer.tool
      (installer.perform medium settings current world) code document := by
  cases hrequest : installRequest settings with
  | error failure =>
    have hbody : installer.body medium settings current = Job.fail failure := by
      simp only [body, install, hrequest]
    exact (Responds.of_fail hbody (installRequest_unnoticed hrequest)).answers hjson world
  | ok request => exact (install_responds hjson hrequest).answers hjson world

variable {request : Package.Request} {program : String}

/-- The response of the packer holds no fractions. -/
theorem whole_packResponse (settings : Settings) (current : Platform) (call : Call)
    (program : String) : (packResponse settings current call program).Whole :=
  .success _ fun _ hdata => by
    cases hdata
    simp only [packData, Json.isWhole, Json.fieldsAreWhole, Response.isWhole_strings, Bool.and_self]

/-- The packer responds in a dry run. -/
theorem pack_responds_dry (medium : Medium) (hjson : settings.json = true)
    (hrequest : packageRequest settings = .ok request)
    (htext : (Package.plan request (platformOf settings current)).program.text? = some program)
    (hdry : settings.dryRun = true) :
    let call := Package.plan request (platformOf settings current)
    Responds medium packer settings current (pure () : Job Unit)
      (fun _ => packResponse settings current call program) (fun _ => some (Package.line call))
      (fun _ => 0) where
  body := (pack_dry hrequest htext hdry).trans (by rw [hjson, Job.pure_bind]; rfl)
  silent := .pure ()
  fails := .pure ()
  truthful _ := Response.truthful_success _ _ []
  whole _ := whole_packResponse _ _ _ _

/-- The packer responds when the packing program has ended. -/
theorem pack_responds_run (medium : Medium) (hjson : settings.json = true)
    (hrequest : packageRequest settings = .ok request)
    (htext : (Package.plan request (platformOf settings current)).program.text? = some program)
    (hdry : settings.dryRun = false) :
    let call := Package.plan request (platformOf settings current)
    Responds medium packer settings current (Package.run call true)
      (fun code => (packResponse settings current call program).withChild Plugin.packerStem code)
      (fun _ => none) id where
  body := (pack_run hrequest htext hdry).trans (by rw [hjson]; rfl)
  silent := Package.run_silent _
  fails := Package.run_unnoticed _ _
  truthful code := Response.truthful_withChild _ _ _ code
  whole code := (whole_packResponse _ _ _ _).withChild _ code

/-- The packer answers unless it crashes, and in the same way if the packing program writes
nothing. -/
theorem pack_answers (hjson : settings.json = true) {world : World}
    (hcrash : (packer.perform medium settings current world).conclusion ≠ .crash) :
    (∃ code document, Answers CommandLine.packer.tool
      (packer.perform medium settings current world) code document) ∧
    Step.writes (packer.perform medium settings current world.muted).steps =
      Step.writes (packer.perform medium settings current world).steps := by
  cases hrequest : packageRequest settings with
  | error failure =>
    have hbody : packer.body medium settings current = Job.fail failure := by
      simp only [body, pack, hrequest]
    have hresponds := Responds.of_fail hbody (packageRequest_unnoticed hrequest)
    exact ⟨hresponds.answers hjson world, hresponds.writes_congr hjson rfl⟩
  | ok request =>
    cases htext : (Package.plan request (platformOf settings current)).program.text? with
    | none => exact absurd (pack_crashes hrequest htext world) hcrash
    | some program =>
      cases hdry : settings.dryRun with
      | true =>
        have hresponds := pack_responds_dry medium hjson hrequest htext hdry
        exact ⟨hresponds.answers hjson world, hresponds.writes_congr hjson rfl⟩
      | false =>
        have hresponds := pack_responds_run medium hjson hrequest htext hdry
        exact ⟨hresponds.answers hjson world,
          hresponds.writes_congr hjson (Package.run_muted _ true world)⟩

/-- A tool answers unless it crashes, the packer in the same way if the packing program writes
nothing. -/
theorem perform_answers (tool : Tool) (hjson : settings.json = true) {world : World}
    (hcrash : (tool.perform medium settings current world).conclusion ≠ .crash) :
    (∃ code document,
      Answers tool.grammar.tool (tool.perform medium settings current world) code document) ∧
    (tool = .packer → Step.writes (tool.perform medium settings current world.muted).steps =
      Step.writes (tool.perform medium settings current world).steps) := by
  cases tool with
  | installer => exact ⟨install_answers hjson medium current world, nofun⟩
  | packer =>
    obtain ⟨hanswers, hmuted⟩ := pack_answers hjson hcrash
    exact ⟨hanswers, fun _ => hmuted⟩

end

/-! ## The whole run -/

/-- On every medium a run with JSON that does not crash puts one document on standard output, and
nothing else does the tool or a program write there. The document can be told from the output, names
the tool and is true of the exit code. In a run of the packer it is the same whatever the packing
program writes. -/
theorem run_answers (tool : Tool) (medium : Medium) {arguments : List Bytes} {settings : Settings}
    (hparse : tool.grammar.parse arguments = .ok settings) (hjson : settings.json = true)
    (surroundings : Surroundings) (world : World)
    (hcrash : (tool.runOn medium arguments surroundings world).conclusion ≠ .crash) :
    let finished := tool.runOn medium arguments surroundings world
    ∃ (code : UInt8) (document : Json), finished.conclusion = .exit code ∧
      Json.Carries finished.output document ∧
      Step.writes finished.steps = [finished.output] ∧
      Envelope tool.grammar.tool code document ∧
      (tool = .packer →
        (tool.runOn medium arguments surroundings world.muted).output = finished.output) := by
  intro finished
  cases hfilter : Log.Filter.choose surroundings.logSetting settings.verbose with
  | error error =>
    refine absurd ?_ hcrash
    rw [run_unfiltered hparse hfilter]
  | ok filter =>
    have hrun (other : World) : tool.runOn medium arguments surroundings other = _ :=
      run_filtered hparse hfilter other
    have houtput (other : World) : (tool.runOn medium arguments surroundings other).output =
        (Step.writes (tool.perform medium settings surroundings.platform other).steps).flatten := by
      rw [hrun]
      exact Step.outputOf_eq _
    have hsurvives :
        (tool.perform medium settings surroundings.platform world).conclusion ≠ .crash := by
      rw [hrun] at hcrash
      exact hcrash
    obtain ⟨⟨code, document, hconclusion, hwrites, henvelope, hwhole⟩, hmuted⟩ :=
      perform_answers tool hjson hsurvives
    have hdocument : finished.output = Bytes.ofString (document.pretty ++ "\n") := by
      rw [houtput world, hwrites]
      exact List.append_nil _
    refine ⟨code, document, ?_, .of_printed hwhole hdocument, ?_, henvelope, fun htool => ?_⟩
    · rw [show finished = _ from hrun world]
      exact hconclusion
    · rw [hdocument, show finished = _ from hrun world]
      exact hwrites
    · rw [houtput, hmuted htool, ← houtput]

/-- A packing program that writes and ends with an exit code of its own leaves one document on
standard output, which names that code. -/
theorem run_answers_child :
    let programs := Bytes.ofString "bin"
    let line := jsonFlag :: packLine programs
    let finished := packer.run line plainSurroundings (packWorld programs 42)
    packer.grammar.parse line = .ok (packSettings programs).withJson ∧
      (packSettings programs).withJson.json = true ∧ finished.conclusion ≠ .crash ∧
      ∃ document : Json, finished.conclusion = .exit 42 ∧
        Json.Carries finished.output document ∧ Envelope "theme-plpack" 42 document := by
  intro programs line finished
  have hparse : packer.grammar.parse line = .ok (packSettings programs).withJson := rfl
  have hconclusion : finished.conclusion = .exit 42 := by decide +kernel
  have hcrash : finished.conclusion ≠ .crash := by
    rw [hconclusion]
    exact Conclusion.exit_ne_crash 42
  obtain ⟨code, document, hcode, houtput, -, henvelope, -⟩ :=
    run_answers packer .sound hparse rfl plainSurroundings (packWorld programs 42) hcrash
  cases hcode.symm.trans hconclusion
  exact ⟨hparse, rfl, hcrash, document, hconclusion, houtput, henvelope⟩

end ThemeSetup.Tool
