import ThemeSetup.Proofs.Install.Warnings
import ThemeSetup.Proofs.Json.Mentions
import ThemeSetup.Proofs.Tool.Envelope
import ThemeSetup.Proofs.Tool.Modes

/-!
# Which failed copies an installation with JSON warns of

The warnings in the document of an installation are those of its result. They are nothing but copies
that failed, and all of them are there, once and in order, unless the theme file is lost
(`run_warns`). A theme file that is lost is not in the document at all: where it cannot be copied
and there is no library, the document tells of the library alone (`not_run_warns`).
-/

namespace ThemeSetup.Tool

open CommandLine (Settings)
open Install (ThemeLost)

/-- The output is one document, with these warnings. -/
def Warns (output : Bytes) (warnings : List String) : Prop :=
  Json.Shown output "warnings" (Json.strings warnings)

/-- The document of an installation whose report can be written has the warnings of the result. -/
theorem field?_warnings_answer {command : String} {result : Except Failure Install.Report}
    (h : ∀ report, result = .ok report → report.toJson?.isSome = true) :
    (answer command installResponse result).field? "warnings" =
      some (Json.strings (Install.warnings result)) := by
  cases result with
  | error failure => rfl
  | ok report =>
    obtain ⟨data, hdata⟩ := Option.isSome_iff_exists.1 (h report rfl)
    have hresponse : (installResponse report).data = some data := hdata
    rw [answer, Response.toJson?, hresponse]
    rfl

/-- On every medium an installation with JSON warns of nothing but copies that failed, and it warns
of each of them, once and in order, exactly if the theme file is not lost. One that crashes has
copied nothing. -/
theorem run_warns (medium : Medium) {arguments : List Bytes} {settings : Settings}
    {request : Install.Request}
    (hparse : installer.grammar.parse arguments = .ok settings) (hjson : settings.json = true)
    (hhelpers : Holds settings "ct" request.helpers)
    (hsources : Holds settings "local" request.sources)
    (hlibraries : Holds settings "lib" request.libraries)
    (hsourcesText : request.sources.text?.isSome = true)
    (hlibrariesText : request.libraries.text?.isSome = true)
    (surroundings : Surroundings) (world : World) :
    let platform := platformOf settings surroundings.platform
    let finished := installer.runOn medium arguments surroundings world
    let told := Step.deliveries finished.steps
    (finished.conclusion = .crash → told = []) ∧
      (finished.conclusion ≠ .crash → ∃ warnings, Warns finished.output warnings ∧
        warnings.Sublist (Install.failures told) ∧
        ((Install.failures told).Sublist warnings ↔ ¬ (settings.dryRun = false ∧
          ∃ root failure, ThemeLost medium request platform world root failure))) := by
  intro platform finished told
  have hrequest := installRequest_eq_ok.2 ⟨hhelpers, hsources, hlibraries⟩
  cases hfilter : Log.Filter.choose surroundings.logSetting settings.verbose with
  | error error =>
    have hrun : finished = ⟨.crash, [], [], world.files, []⟩ :=
      run_unfiltered hparse hfilter world
    refine ⟨fun _ => ?_, fun hcrash => absurd ?_ hcrash⟩
    · rw [show told = Step.deliveries finished.steps from rfl, hrun]
      rfl
    · rw [hrun]
  | ok filter =>
    have htold : told =
        Step.deliveries (Install.runOn medium request platform settings.dryRun world).steps := by
      refine Eq.trans ?_ (install_deliveries hrequest world)
      exact congrArg (fun finished => Step.deliveries finished.steps)
        (run_filtered hparse hfilter world)
    obtain ⟨hconclusion, hcarries⟩ :=
      (install_responds hjson hrequest).run hjson hparse hfilter world
    have hresult := (installWork_result medium settings surroundings.platform request world).1
    rw [hresult] at hconclusion hcarries
    refine ⟨fun hcrash => ?_, fun _ => ?_⟩
    · exact absurd (hconclusion.symm.trans hcrash) (Conclusion.after_ne_crash _ _ _ _)
    · rw [htold]
      refine ⟨_, ⟨_, hcarries.printed, field?_warnings_answer fun report hreport => ?_⟩,
        Install.warnings_tell medium request platform settings.dryRun world⟩
      rw [Install.isSome_toJson?_of_run hreport, hsourcesText, hlibrariesText]
      rfl

/-! ## A theme file that cannot be copied -/

/-- The world of an installation where a directory is in the place of the theme file, with the
library or without it. -/
def blockedWorld (withLibrary : Bool) : World where
  files :=
    { entries :=
        [([], .directory none),
         ([Bytes.ofString "ct"], .directory none),
         ([Bytes.ofString "ct", Bytes.ofString "ctpath"], .file 0o755 (Bytes.ofString "helper")),
         ([Bytes.ofString "local"], .directory none),
         ([Bytes.ofString "local", Bytes.ofString Plugin.themeFileName],
           .file 0o644 (Bytes.ofString "theme")),
         ([Bytes.ofString "host"], .directory none),
         ([Bytes.ofString "host", Bytes.ofString "Plugins"], .directory none),
         ([Bytes.ofString "host", Bytes.ofString "Plugins", Bytes.ofString "extra"],
           .directory none),
         ([Bytes.ofString "host", Bytes.ofString "Plugins", Bytes.ofString "extra",
           Bytes.ofString Plugin.uuid], .directory none),
         ([Bytes.ofString "host", Bytes.ofString "Plugins", Bytes.ofString "extra",
           Bytes.ofString Plugin.uuid, Bytes.ofString Plugin.themeFileName], .directory none),
         ([Bytes.ofString "lib"], .directory none)] ++
        if withLibrary then
          [([Bytes.ofString "lib", Bytes.ofString "libCentTheme.so"],
            .file 0o644 (Bytes.ofString "lib"))]
        else []
      home := [] }
  programs := HostRoot.soleHelper "host\n"

/-- The request of the command line that installs from a directory of theme files. -/
def installRequestFrom (sources : Bytes) : Install.Request :=
  ⟨.ofString "ct", ⟨sources⟩, .ofString "lib"⟩

/-- The warning about the theme file that cannot be copied. -/
def blockedWarning : String :=
  "Unable to copy the theme file: copy local/dark.theme.xml -> " ++
    "host/Plugins/extra/2df95e88-7eae-5940-ab0d-b53f2df855e2/dark.theme.xml: " ++
    "Is a directory (os error 21)"

/-- Where the theme file cannot be copied and the library is there, the document warns. -/
theorem run_warns_blocked :
    let sources := Bytes.ofString "local"
    let settings := (installSettings sources).withJson
    let request := installRequestFrom sources
    let line := jsonFlag :: installLine sources
    let finished := installer.run line plainSurroundings (blockedWorld true)
    installer.grammar.parse line = .ok settings ∧ settings.json = true ∧
      Holds settings "ct" request.helpers ∧ Holds settings "local" request.sources ∧
      Holds settings "lib" request.libraries ∧ request.sources.text?.isSome = true ∧
      request.libraries.text?.isSome = true ∧ finished.conclusion = .exit 0 ∧
      Warns finished.output [blockedWarning] := by
  intro sources settings request line finished
  have hparse : installer.grammar.parse line = .ok settings := rfl
  have hhelpers : Holds settings "ct" request.helpers := ⟨rfl, nofun⟩
  have hsources : Holds settings "local" request.sources := ⟨rfl, nofun⟩
  have hlibraries : Holds settings "lib" request.libraries := ⟨rfl, nofun⟩
  have hconclusion : finished.conclusion = .exit 0 := by decide +kernel
  have hfailures : Install.failures (Step.deliveries finished.steps) = [blockedWarning] := by
    decide +kernel
  refine ⟨hparse, rfl, hhelpers, hsources, hlibraries, by decide, by decide, hconclusion, ?_⟩
  obtain ⟨warnings, hwarns, hfew, hall⟩ := (run_warns .sound hparse rfl hhelpers hsources hlibraries
    (by decide) (by decide) plainSurroundings (blockedWorld true)).2
    (hconclusion ▸ Conclusion.exit_ne_crash 0)
  have hkept : ∀ root failure,
      ¬ ThemeLost .sound request .linux (blockedWorld true) root failure := by
    intro root failure hlost
    have hroot : (HostRoot.ask request.helpers .linux (blockedWorld true)).result.toOption =
        some (.ofString "host") := by decide +kernel
    rw [hlost.answered] at hroot
    cases hroot
    exact absurd hlost.missing (by decide +kernel)
  have hsame : Install.failures (Step.deliveries finished.steps) = warnings :=
    (hall.2 fun h => h.2.elim fun root h => h.elim (hkept root)).antisymm hfew
  rw [← hfailures, hsame]
  exact hwarns

/-- Where the theme file cannot be copied and there is no library, the work fails for the
library. -/
theorem installWork_blocked :
    let sources := Bytes.ofString "local"
    let request := installRequestFrom sources
    (installWork .sound (installSettings sources).withJson .linux request
      (blockedWorld false)).result = .error (Install.missing request .linux .library) := by
  rfl

/-- An installation with JSON need not warn of every copy that failed: where the theme file cannot
be copied and there is no library, its document says nothing of the theme file. -/
theorem not_run_warns : ¬ ∀ (arguments : List Bytes) (settings : Settings)
    (request : Install.Request), installer.grammar.parse arguments = .ok settings →
    settings.json = true → Holds settings "ct" request.helpers →
    Holds settings "local" request.sources → Holds settings "lib" request.libraries →
    request.sources.text?.isSome = true → request.libraries.text?.isSome = true →
    ∀ (surroundings : Surroundings) (world : World),
      let finished := installer.run arguments surroundings world
      finished.conclusion ≠ .crash → ∃ warnings, Warns finished.output warnings ∧
        (Install.failures (Step.deliveries finished.steps)).Sublist warnings := by
  intro h
  let sources := Bytes.ofString "local"
  let settings := (installSettings sources).withJson
  let request := installRequestFrom sources
  let line := jsonFlag :: installLine sources
  let world := blockedWorld false
  have hparse : installer.grammar.parse line = .ok settings := rfl
  have hrequest : installRequest settings = .ok request := rfl
  obtain ⟨hconclusion, hcarries⟩ :
      (installer.run line plainSurroundings world).conclusion = _ ∧
        Json.Carries (installer.run line plainSurroundings world).output _ :=
    (install_responds rfl hrequest).run rfl hparse rfl world
  obtain ⟨warnings, hwarns, hall⟩ := h line settings request hparse rfl ⟨rfl, nofun⟩ ⟨rfl, nofun⟩
    ⟨rfl, nofun⟩ (by decide) (by decide) plainSurroundings world
    (hconclusion ▸ Conclusion.after_ne_crash _ _ _ _)
  have hfailures : Install.failures
      (Step.deliveries (installer.run line plainSurroundings world).steps) = [blockedWarning] := by
    decide +kernel
  rw [hfailures] at hall
  rw [hcarries.printed, show plainSurroundings.platform = .linux from rfl, installWork_blocked]
    at hwarns
  have hmentions : Json.Mentions blockedWarning (Json.strings warnings) :=
    .item (List.mem_map_of_mem (hall.subset List.mem_cons_self)) .string
  exact absurd (hwarns.quoted hmentions) (by decide +kernel)

end ThemeSetup.Tool
