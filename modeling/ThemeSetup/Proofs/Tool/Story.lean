import ThemeSetup.Proofs.Install.Faithful
import ThemeSetup.Proofs.Install.Verdict
import ThemeSetup.Proofs.Tool.Warnings

/-!
# One story for readers and for machines

An installation announces its deliveries while it runs, and with JSON it prints a document after it
has run. Both come from the same deliveries and the same failure, so the lines for a reader can be
told from the document where all went well (`reportMessages?`), and else the last of them is the
message of its error (`run_story`).
-/

namespace ThemeSetup

namespace Json

/-- The truth value of a value, if it is one. -/
def bool? : Json → Option Bool
  | .bool value => some value
  | _ => none

/-- The items of a value, if it is an array. -/
def items? : Json → Option (List Json)
  | .array items => some items
  | _ => none

/-- The text of a field. -/
def text? (key : String) (value : Json) : Option String :=
  (value.field? key).bind string?

end Json

namespace Install

/-! ## Messages that are read off a document -/

/-- The item of a name in reports. -/
def Item.named? (name : String) : Option Item :=
  all.find? (·.name == name)

/-- An item is found by its name. -/
theorem Item.named?_name (item : Item) : named? item.name = some item := by
  cases item <;> decide

/-- What is said of a delivery, read off its JSON form. -/
def deliveryMessage? (form : Json) : Option String := do
  let item ← (form.text? "item").bind Item.named?
  let status ← form.text? "status"
  if status = "copied" then return item.copiedMessage
  else if status = "failed" then return item.failedMessage
  else if status = "planned" then
    let source ← form.text? "from"
    let target ← form.text? "to"
    return item.plannedMessage ++ " (" ++ source ++ " -> " ++ target ++ ")"
  else none

/-- What is said of an installation, read off the JSON form of its report: a message for each
delivery, and one more for a dry run. -/
def reportMessages? (form : Json) : Option (List String) := do
  let deliveries ← (form.field? "copies").bind Json.items?
  let messages ← deliveries.mapM deliveryMessage?
  let dryRun ← (form.field? "dry_run").bind Json.bool?
  let root ← (form.field? "layout").bind (·.text? "root")
  return messages ++ if dryRun then ["dry run, nothing written under " ++ root] else []

/-- A path that has a JSON form is shown as its text. -/
theorem display_of_pathJson? {path : Path} {form : Json} (h : pathJson? path = some form) :
    form = .string path.display := by
  obtain ⟨text, htext, rfl⟩ := pathJson?_eq_some.1 h
  rw [Path.display, Utf8.lossy_of_decode? htext]

/-- What is said of a delivery can be read off its JSON form. -/
theorem deliveryMessage?_toJson? {delivery : Delivery} {form : Json}
    (h : delivery.toJson? = some form) : deliveryMessage? form = some delivery.message := by
  obtain ⟨source, target, hsource, htarget, rfl⟩ := Delivery.toJson?_eq_some.1 h
  obtain rfl := display_of_pathJson? hsource
  obtain rfl := display_of_pathJson? htarget
  obtain ⟨item, source, target, status⟩ := delivery
  have hitem := Item.named?_name item
  cases status <;>
    simp [deliveryMessage?, Json.text?, Json.field?, Json.string?, List.lookup_cons,
      Status.fields, hitem, Delivery.message]

/-- What is said of deliveries can be read off their JSON forms. -/
theorem mapM_deliveryMessage? {deliveries : List Delivery} {forms : List Json}
    (h : deliveries.mapM Delivery.toJson? = some forms) :
    forms.mapM deliveryMessage? = some (deliveries.map Delivery.message) := by
  induction deliveries generalizing forms with
  | nil =>
    cases h
    rfl
  | cons delivery rest ih =>
    obtain ⟨form, others, hform, hothers, rfl⟩ := mapM_cons_eq_some.1 h
    exact mapM_cons_eq_some.2 ⟨_, _, deliveryMessage?_toJson? hform, ih hothers, rfl⟩

/-- What is said of an installation can be read off the JSON form of its report. -/
theorem reportMessages?_toJson? {report : Report} {form : Json} (h : report.toJson? = some form) :
    reportMessages? form =
      some (report.deliveries.map Delivery.message ++ (Tool.dryMessage? report).toList) := by
  obtain ⟨layout, forms, hlayout, hforms, rfl⟩ := Report.toJson?_eq_some.1 h
  obtain ⟨root, theme, extra, hroot, -, -, rfl⟩ := Layout.toJson?_eq_some.1 hlayout
  obtain rfl := display_of_pathJson? hroot
  have hmessages := mapM_deliveryMessage? hforms
  cases hdryRun : report.dryRun <;>
    simp [reportMessages?, Json.field?, Json.items?, Json.bool?, Json.text?, Json.string?,
      List.lookup_cons, hmessages, Tool.dryMessage?, hdryRun]

/-- The report of an installation lists what was delivered. -/
theorem deliveries_of_run {medium : Medium} {request : Request} {platform : Platform}
    {dryRun : Bool} {world : World} {report : Report}
    (h : (runOn medium request platform dryRun world).result = .ok report) :
    Step.deliveries (runOn medium request platform dryRun world).steps = report.deliveries :=
  ((run_verdict medium request platform dryRun world).reported report h).deliveries.symm

end Install

namespace Tool

open CommandLine (Settings)
open Install (Delivery reportMessages?)

/-! ## Lines for a reader -/

/-- The installer's lines with these messages. -/
def lines (messages : List String) : List Bytes :=
  messages.map fun message =>
    Bytes.ofString (CommandLine.installer.tool ++ ": " ++ message ++ "\n")

/-- What is announced of steps that write nothing is a line for each delivery. -/
theorem writes_announce {steps : List Step} (h : Step.writes steps = []) :
    Step.writes (announce CommandLine.installer.tool steps) =
      lines ((Step.deliveries steps).map Delivery.message) := by
  induction steps with
  | nil => rfl
  | cons step rest ih =>
    have hrest (hstep : step.output? = none) : Step.writes rest = [] := by
      rwa [Step.writes, List.filterMap_cons_none hstep] at h
    rw [announce, List.flatMap_cons, ← announce, Step.writes, List.filterMap_append,
      ← Step.writes, ← Step.writes]
    cases step with
    | deliver delivery =>
      rw [ih (hrest rfl)]
      rfl
    | output octets => cases h
    | log event => exact ih (hrest rfl)
    | spawn call started => exact ih (hrest rfl)
    | errors octets => exact ih (hrest rfl)

/-- The lines that go with a notice are on standard error. -/
theorem writes_noticeLines (notice : Notice) : Step.writes (noticeLines notice) = [] := by
  unfold noticeLines
  rw [Step.writes, List.filterMap_append, List.append_eq_nil_iff]
  constructor
  · split <;> rfl
  · split <;> rfl

/-- Without JSON a failure is told in a line, and what goes with it is on standard error. -/
theorem writes_failureSteps_plain (failure : Failure) :
    Step.writes (failureSteps CommandLine.installer.tool false failure) =
      lines [failure.report.message] := by
  have hnotice := writes_noticeLines failure.report
  show _ :: Step.writes (noticeLines failure.report) = _
  rw [hnotice]
  rfl

/-- What is said at the end of an installation with this result, after its deliveries. -/
def lastMessages : Except Failure Install.Report → List String
  | .ok report => (dryMessage? report).toList
  | .error failure => [failure.report.message]

variable {medium : Medium} {settings : Settings} {current : Platform} {request : Install.Request}

/-- Without JSON the installer writes a line for each delivery, and then one for a failure or for a
dry run. -/
theorem writes_plain (hplain : settings.json = false)
    (hrequest : installRequest settings = .ok request) (world : World) :
    let work := Install.runOn medium request (platformOf settings current) settings.dryRun world
    Step.writes (installer.perform medium settings current world).steps =
      lines ((Step.deliveries work.steps).map Delivery.message ++ lastMessages work.result) := by
  intro work
  have hresult : (installWork medium settings current request world).result = work.result :=
    (installWork_result medium settings current request world).1
  have hsilent : Step.writes work.steps = [] :=
    Install.runOn_unseen (fun _ => rfl) (fun _ => rfl) (fun _ _ => rfl) _ _ _ world
  have hwork : Step.writes (installWork medium settings current request world).steps =
      lines ((Step.deliveries work.steps).map Delivery.message) := by
    rw [← writes_announce hsilent, installWork, Job.log_bind, hplain]
    rfl
  unfold perform
  rw [show installer.body medium settings current = _ from install_eq hrequest, hplain]
  cases h : work.result with
  | error failure =>
    rw [Job.bind_error (hresult.trans h)]
    dsimp only
    have hfailure : Step.writes (failureSteps installer.grammar.tool false failure) =
        lines [failure.report.message] := writes_failureSteps_plain failure
    rw [Step.writes, List.filterMap_append, ← Step.writes, ← Step.writes, hwork, hfailure]
    exact List.map_append.symm
  | ok report =>
    rw [Job.bind_ok (hresult.trans h)]
    dsimp only
    rw [conclude_plain]
    dsimp only
    rw [Step.writes, List.filterMap_append, ← Step.writes, ← Step.writes, hwork, lastMessages]
    refine Eq.trans ?_ List.map_append.symm
    cases dryMessage? report <;> rfl

/-- Without JSON a run of the installer prints a line for each delivery, and then one for a failure
or for a dry run. -/
theorem output_plain {arguments : List Bytes}
    (hparse : installer.grammar.parse arguments = .ok settings) (hplain : settings.json = false)
    (hrequest : installRequest settings = .ok request) {surroundings : Surroundings}
    {filter : Log.Filter}
    (hfilter : Log.Filter.choose surroundings.logSetting settings.verbose = .ok filter)
    (world : World) :
    let platform := platformOf settings surroundings.platform
    let work := Install.runOn medium request platform settings.dryRun world
    (installer.runOn medium arguments surroundings world).output = (lines
      ((Step.deliveries work.steps).map Delivery.message ++ lastMessages work.result)).flatten := by
  rw [run_filtered hparse hfilter]
  exact (Step.outputOf_eq _).trans (congrArg List.flatten (writes_plain hplain hrequest world))

/-! ## Two runs from one world -/

/-- The lines for a reader and the document for a machine tell the same story of an installation
that delivered so much. -/
inductive SameStory (told : List Delivery) (output : Bytes) (document : Json) : Prop
  /-- Where all is well, the lines are what the data say. -/
  | success {data : Json} {messages : List String}
      (hok : document.field? "ok" = some (.bool true)) (hdata : document.field? "data" = some data)
      (hmessages : reportMessages? data = some messages)
      (houtput : output = (lines messages).flatten)
  /-- Where it is not, they are what was delivered, and the message of the error. -/
  | failure {error : Json} {message : String}
      (hok : document.field? "ok" = some (.bool false))
      (herrors : document.field? "errors" = some (.array [error]))
      (hmessage : error.text? "message" = some message)
      (houtput : output = (lines (told.map Delivery.message ++ [message])).flatten)

/-- The document of an installation tells the same story as the lines for a reader, where a report
lists what was delivered and can be written. -/
theorem sameStory_answer {command : String} {told : List Delivery}
    {result : Except Failure Install.Report}
    (h : ∀ report, result = .ok report →
      told = report.deliveries ∧ report.toJson?.isSome = true) :
    SameStory told (lines (told.map Delivery.message ++ lastMessages result)).flatten
      (answer command installResponse result) := by
  cases result with
  | error failure => exact .failure rfl rfl rfl rfl
  | ok report =>
    obtain ⟨rfl, hwritable⟩ := h report rfl
    obtain ⟨data, hdata⟩ := Option.isSome_iff_exists.1 hwritable
    have hresponse : (installResponse report).data = some data := hdata
    rw [answer, Response.toJson?, hresponse]
    exact .success rfl rfl (Install.reportMessages?_toJson? hdata) rfl

/-- From one world, on any medium, an installation without JSON prints what the document of the
installation with JSON says, which can be told from its output, and they end alike. If they crash,
neither prints anything. -/
theorem run_story (medium : Medium) {plain machine : List Bytes} {settings : Settings}
    {request : Install.Request}
    (hparse : installer.grammar.parse plain = .ok settings) (hplain : settings.json = false)
    (hmachine : installer.grammar.parse machine = .ok settings.withJson)
    (hhelpers : Holds settings "ct" request.helpers)
    (hsources : Holds settings "local" request.sources)
    (hlibraries : Holds settings "lib" request.libraries)
    (hsourcesText : request.sources.text?.isSome = true)
    (hlibrariesText : request.libraries.text?.isSome = true)
    (surroundings : Surroundings) (world : World) :
    let platform := platformOf settings surroundings.platform
    let work := Install.runOn medium request platform settings.dryRun world
    let told := installer.runOn medium plain surroundings world
    let answered := installer.runOn medium machine surroundings world
    told.conclusion = answered.conclusion ∧
    (answered.conclusion = .crash → told.output = [] ∧ answered.output = []) ∧
    (answered.conclusion ≠ .crash → ∃ document : Json, Json.Carries answered.output document ∧
      SameStory (Step.deliveries work.steps) told.output document) := by
  intro platform work told answered
  have hrequest := installRequest_eq_ok.2 ⟨hhelpers, hsources, hlibraries⟩
  have hrequest' : installRequest settings.withJson = .ok request := hrequest
  have htext : (request.sources.text?.isSome && request.libraries.text?.isSome) = true := by
    rw [hsourcesText, hlibrariesText]
    rfl
  cases hfilter : Log.Filter.choose surroundings.logSetting settings.verbose with
  | error error =>
    have htold : told = ⟨.crash, [], [], world.files, []⟩ := run_unfiltered hparse hfilter world
    have hanswered : answered = ⟨.crash, [], [], world.files, []⟩ :=
      run_unfiltered hmachine hfilter world
    rw [htold, hanswered]
    exact ⟨rfl, fun _ => ⟨rfl, rfl⟩, fun hcrash => absurd rfl hcrash⟩
  | ok filter =>
    have houtput : told.output = _ := output_plain hparse hplain hrequest hfilter world
    obtain ⟨hconclusion, hdocument⟩ :=
      (install_responds rfl hrequest').run rfl hmachine hfilter world
    have hresult :
        (installWork medium settings.withJson surroundings.platform request world).result =
          work.result :=
      (installWork_result medium settings.withJson surroundings.platform request world).1
    rw [hresult] at hconclusion hdocument
    refine ⟨?_, fun hcrash => ?_, fun _ => ⟨_, hdocument, ?_⟩⟩
    · have hsame := (perform_withJson installer hplain medium surroundings.platform
        world).conclusion.2 fun _ _ => (sourcesAreText_iff hrequest).2 htext
      have htold : told = _ := run_filtered hparse hfilter world
      have hanswered : answered = _ := run_filtered hmachine hfilter world
      rw [htold, hanswered]
      exact hsame.symm
    · exact absurd (hconclusion.symm.trans hcrash) (Conclusion.after_ne_crash _ _ _ _)
    · rw [houtput]
      refine sameStory_answer fun report hreport => ⟨Install.deliveries_of_run hreport, ?_⟩
      rw [Install.isSome_toJson?_of_run hreport, htext]

/-- Where the theme file cannot be copied and there is no library, the lines tell of both, and the
last of them is in the document. -/
theorem run_story_blocked :
    let sources := Bytes.ofString "local"
    let line := installLine sources
    let settings := installSettings sources
    let request := installRequestFrom sources
    let work := Install.run request .linux false (blockedWorld false)
    let told := installer.run line plainSurroundings (blockedWorld false)
    let answered := installer.run (jsonFlag :: line) plainSurroundings (blockedWorld false)
    installer.grammar.parse line = .ok settings ∧ settings.json = false ∧
      installer.grammar.parse (jsonFlag :: line) = .ok settings.withJson ∧
      Holds settings "ct" request.helpers ∧ Holds settings "local" request.sources ∧
      Holds settings "lib" request.libraries ∧ request.sources.text?.isSome = true ∧
      request.libraries.text?.isSome = true ∧ answered.conclusion = .exit 1 ∧
      told.conclusion = answered.conclusion ∧ told.output = (lines ["Unable to copy the theme file",
        "Library file does not exist: lib/libCentTheme.so"]).flatten ∧
      ∃ document : Json, Json.Carries answered.output document ∧
        SameStory (Step.deliveries work.steps) told.output document := by
  intro sources line settings request work told answered
  have hparse : installer.grammar.parse line = .ok settings := rfl
  have hmachine : installer.grammar.parse (jsonFlag :: line) = .ok settings.withJson := rfl
  have hhelpers : Holds settings "ct" request.helpers := ⟨rfl, nofun⟩
  have hsources : Holds settings "local" request.sources := ⟨rfl, nofun⟩
  have hlibraries : Holds settings "lib" request.libraries := ⟨rfl, nofun⟩
  have hconclusion : answered.conclusion = .exit 1 := by decide +kernel
  obtain ⟨hends, -, hstory⟩ := run_story .sound hparse rfl hmachine hhelpers hsources hlibraries
    (by decide) (by decide) plainSurroundings (blockedWorld false)
  exact ⟨hparse, rfl, hmachine, hhelpers, hsources, hlibraries, by decide, by decide, hconclusion,
    hends, by decide +kernel, hstory (hconclusion ▸ Conclusion.exit_ne_crash 1)⟩

end Tool

end ThemeSetup
