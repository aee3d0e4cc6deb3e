import ThemeSetup.Proofs.CommandLine.Json
import ThemeSetup.Proofs.Install.Report
import ThemeSetup.Proofs.Tool.Deeds
import ThemeSetup.Proofs.Tool.Options

/-!
# What JSON changes

A run with JSON starts the same programs and leaves the same files as the run without it, and it
ends in the same way unless the report of an installation that succeeded cannot be written
(`run_withJson`). That is so if the directory of the theme file or that of the library is not UTF-8:
the copies are made, and the exit code says that the installation failed (`not_run_withJson`).
-/

namespace ThemeSetup.Tool

open CommandLine (Settings)

/-- The directories that an installer copies from are UTF-8, where the settings have them. -/
def SourcesAreText (settings : Settings) : Prop :=
  ∀ long ∈ ["local", "lib"], ∀ octets, settings.path? long = some octets →
    (Utf8.decode? octets).isSome = true

/-- For settings that are a request, the sources of the request are UTF-8. -/
theorem sourcesAreText_iff {settings : Settings} {request : Install.Request}
    (h : installRequest settings = .ok request) : SourcesAreText settings ↔
      (request.sources.text?.isSome && request.libraries.text?.isSome) = true := by
  obtain ⟨-, ⟨hsources, -⟩, ⟨hlibraries, -⟩⟩ := installRequest_eq_ok.1 h
  simp only [SourcesAreText, List.forall_mem_cons, hsources, hlibraries, Option.some.injEq,
    forall_eq', List.not_mem_nil, false_implies, implies_true, and_true, Bool.and_eq_true,
    Path.text?]

/-- The deeds of a run with JSON beside those without it: they can differ in how the run ends, and
do so exactly if an installation succeeds without JSON whose sources are not UTF-8. -/
structure SameDeeds (tool : Tool) (settings : Settings) (machine plain : Deeds) : Prop where
  files : machine.files = plain.files
  attempts : machine.attempts = plain.attempts
  calls : machine.calls = plain.calls
  conclusion : machine.conclusion = plain.conclusion ↔
    (tool = .installer → plain.conclusion = .exit 0 → SourcesAreText settings)

/-- Deeds that are the same, where no installation succeeds. -/
theorem SameDeeds.of_eq {tool : Tool} {settings : Settings} {machine plain : Deeds}
    (h : machine = plain) (hplain : tool = .installer → plain.conclusion ≠ .exit 0) :
    SameDeeds tool settings machine plain where
  files := congrArg _ h
  attempts := congrArg _ h
  calls := congrArg _ h
  conclusion := ⟨fun _ htool hexit => absurd hexit (hplain htool), fun _ => congrArg _ h⟩

/-- An installation whose report is known ends in the same way with JSON exactly if the sources are
UTF-8. -/
theorem install_withJson {settings : Settings} {request : Install.Request}
    (hrequest : installRequest settings = .ok request) {medium : Medium} {platform : Platform}
    {world : World}
    {report : Install.Report}
    (h : (Install.runOn medium request platform settings.dryRun world).result = .ok report) :
    Conclusion.after true (fun report : Install.Report => report.toJson?.isSome) (fun _ => 0)
        (.ok report) = .exit 0 ↔ SourcesAreText settings := by
  rw [sourcesAreText_iff hrequest, ← Install.isSome_toJson?_of_run h, Conclusion.after]
  cases report.toJson?.isSome <;> decide

/-- What a tool does with JSON beside what it does without it. -/
theorem perform_withJson (tool : Tool) {settings : Settings} (hplain : settings.json = false)
    (medium : Medium) (current : Platform) (world : World) :
    SameDeeds tool settings (tool.perform medium settings.withJson current world).deeds
      (tool.perform medium settings current world).deeds := by
  cases tool with
  | packer =>
    refine .of_eq ?_ nofun
    cases hrequest : packageRequest settings with
    | error failure =>
      have hrequest' : packageRequest settings.withJson = .error failure := hrequest
      rw [pack_refused hrequest', pack_refused hrequest]
    | ok request =>
      have hrequest' : packageRequest settings.withJson = .ok request := hrequest
      rw [pack_deeds hrequest', pack_deeds hrequest]
      rfl
  | installer =>
    cases hrequest : installRequest settings with
    | error failure =>
      have hrequest' : installRequest settings.withJson = .error failure := hrequest
      rw [install_refused hrequest', install_refused hrequest]
      exact .of_eq rfl fun _ => show Conclusion.exit 1 ≠ .exit 0 by decide
    | ok request =>
      have hrequest' : installRequest settings.withJson = .ok request := hrequest
      rw [install_deeds hrequest', install_deeds hrequest]
      rw [show settings.withJson.json = true from rfl, hplain,
        show settings.withJson.dryRun = settings.dryRun from rfl,
        show platformOf settings.withJson current = platformOf settings current from rfl]
      cases hresult : (Install.runOn medium request (platformOf settings current) settings.dryRun
          world).result with
      | error failure => exact .of_eq rfl fun _ => show Conclusion.exit 1 ≠ .exit 0 by decide
      | ok report =>
        refine ⟨rfl, rfl, rfl, ?_⟩
        have hiff := install_withJson hrequest hresult
        exact ⟨fun h _ _ => hiff.1 h, fun h => hiff.2 (h rfl rfl)⟩

/-- On every medium JSON changes how a run ends at most, and only where an installation succeeds
without it whose sources are not UTF-8. A command line without the flag for JSON has a counterpart
with it. -/
theorem run_withJson (tool : Tool) (medium : Medium) {arguments : List Bytes} {settings : Settings}
    (hparse : tool.grammar.parse arguments = .ok settings) (hplain : settings.json = false)
    (surroundings : Surroundings) (world : World) :
    tool.grammar.parse (jsonFlag :: arguments) = .ok settings.withJson ∧
    ∀ asJson, tool.grammar.parse asJson = .ok settings.withJson →
      SameDeeds tool settings (tool.runOn medium asJson surroundings world).deeds
        (tool.runOn medium arguments surroundings world).deeds := by
  refine ⟨tool.parse_jsonFlag hparse hplain, fun asJson hasJson => ?_⟩
  rw [run_deeds hasJson, run_deeds hparse,
    show settings.withJson.verbose = settings.verbose from rfl]
  cases Log.Filter.choose surroundings.logSetting settings.verbose with
  | error error => exact .of_eq rfl fun _ => nofun
  | ok filter => exact tool.perform_withJson hplain medium surroundings.platform world

/-! ## A directory whose name is no text -/

/-- A command line that installs from a directory of theme files. -/
def installLine (sources : Bytes) : List Bytes :=
  [Bytes.ofString "--ct=ct", Bytes.ofString "--local=" ++ sources, Bytes.ofString "--lib=lib"]

/-- What it sets. -/
def installSettings (sources : Bytes) : Settings where
  paths :=
    [("ct", Bytes.ofString "ct"), ("local", sources), ("lib", Bytes.ofString "lib")]
  platform := none
  dryRun := false
  json := false
  verbose := 0

/-- A world with a theme file in that directory, a library, and a helper that names a host that is
not there yet. -/
def installWorld (sources : Bytes) : World where
  files :=
    { entries :=
        [([], .directory none),
         ([Bytes.ofString "ct"], .directory none),
         ([Bytes.ofString "ct", Bytes.ofString "ctpath"], .file 0o755 (Bytes.ofString "helper")),
         ([sources], .directory none),
         ([sources, Bytes.ofString Plugin.themeFileName], .file 0o644 (Bytes.ofString "theme")),
         ([Bytes.ofString "lib"], .directory none),
         ([Bytes.ofString "lib", Bytes.ofString "libCentTheme.so"],
           .file 0o644 (Bytes.ofString "lib"))]
      home := [] }
  programs := HostRoot.soleHelper "host\n"

/-- An installation from a directory whose name is text ends in the same way with JSON. -/
theorem run_withJson_text :
    let sources := Bytes.ofString "local"
    let line := installLine sources
    installer.grammar.parse line = .ok (installSettings sources) ∧
      (installSettings sources).json = false ∧ SourcesAreText (installSettings sources) ∧
      (installer.run line plainSurroundings (installWorld sources)).conclusion = .exit 0 ∧
      (installer.run (jsonFlag :: line) plainSurroundings (installWorld sources)).conclusion =
        (installer.run line plainSurroundings (installWorld sources)).conclusion := by
  intro sources line
  have hparse : installer.grammar.parse line = .ok (installSettings sources) := rfl
  have htext : SourcesAreText (installSettings sources) := by
    refine List.forall_mem_cons.2 ⟨?_, List.forall_mem_cons.2 ⟨?_, nofun⟩⟩ <;> rintro _ ⟨⟩ <;>
      exact Utf8.isSome_decode?_ofChars _
  obtain ⟨hjson, hsame⟩ :=
    run_withJson installer .sound hparse rfl plainSurroundings (installWorld sources)
  refine ⟨hparse, rfl, htext, by decide +kernel, ?_⟩
  exact (hsame _ hjson).conclusion.2 fun _ _ => htext

/-- An installation from a directory whose name is no text succeeds without JSON and fails with
it. -/
theorem not_run_withJson : ¬ ∀ (tool : Tool) (plain machine : List Bytes) (settings : Settings),
    tool.grammar.parse plain = .ok settings → tool.grammar.parse machine = .ok settings.withJson →
    ∀ (surroundings : Surroundings) (world : World),
      (tool.run machine surroundings world).deeds = (tool.run plain surroundings world).deeds := by
  intro h
  have hsame := congrArg Deeds.conclusion <| h installer (installLine [0xFF])
    (jsonFlag :: installLine [0xFF]) (installSettings [0xFF]) rfl rfl plainSurroundings
    (installWorld [0xFF])
  have hplain : (installer.run (installLine [0xFF]) plainSurroundings
      (installWorld [0xFF])).deeds.conclusion = .exit 0 := by decide +kernel
  have hmachine : (installer.run (jsonFlag :: installLine [0xFF]) plainSurroundings
      (installWorld [0xFF])).deeds.conclusion = .exit 1 := by decide +kernel
  rw [hplain, hmachine] at hsame
  exact absurd hsame (by decide)

end ThemeSetup.Tool
