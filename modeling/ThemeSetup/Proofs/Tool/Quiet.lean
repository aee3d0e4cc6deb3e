import ThemeSetup.Proofs.CommandLine.Verbose
import ThemeSetup.Proofs.Tool.Packing

/-!
# The log does not interfere

What a tool does depends on its command line without the verbose flags, on the platform at hand and
on the world (`perform_congr`); the log variable and the verbose flags decide about the log alone.
So two runs that differ in them are the same but for standard error, as long as the log library
answers what the variable holds. On some texts it gives up: then the run crashes before it does
anything, and it is the same as another run only if that one crashes too (`run_quiet`,
`not_run_quiet`).
-/

namespace ThemeSetup.Tool

open CommandLine (Settings withoutVerbose)

/-- What a tool does does not depend on the number of verbose flags. -/
theorem perform_congr (tool : Tool) {settings other : Settings} (h : settings.SameButVerbose other)
    (medium : Medium) (current : Platform) (world : World) :
    tool.perform medium other current world = tool.perform medium settings current world := by
  have hquiet (settings : Settings) :
      tool.perform medium settings current world =
        tool.perform medium settings.quiet current world := by
    cases tool <;> rfl
  rw [hquiet other, h, ← hquiet settings]

/-- Whether the log library answers does not depend on the number of verbose flags. -/
theorem logAnswers_iff (surroundings : Surroundings) (verbose : Nat) :
    surroundings.LogAnswers ↔
      ∃ filter, Log.Filter.choose surroundings.logSetting verbose = .ok filter := by
  refine ⟨fun h => h verbose, fun h verbose' => ?_⟩
  generalize surroundings.logSetting = setting at h ⊢
  unfold Log.Filter.choose at h ⊢
  cases setting with
  | none => exact ⟨_, rfl⟩
  | some value =>
    dsimp only at h ⊢
    cases hdecode : Utf8.decode? value with
    | none => exact ⟨_, rfl⟩
    | some text =>
      rw [hdecode] at h
      dsimp only at h ⊢
      cases hread : Log.Filter.read text with
      | ok filter => exact ⟨filter, rfl⟩
      | error error =>
        rw [hread] at h
        obtain ⟨filter, hfilter⟩ := h
        cases error with
        | malformed => exact ⟨_, rfl⟩
        | misaligned => cases hfilter

/-- A tool that crashes has done nothing. -/
theorem perform_of_crash {tool : Tool} {medium : Medium} {settings : Settings} {current : Platform}
    {world : World}
    (h : (tool.perform medium settings current world).conclusion = .crash) :
    tool.perform medium settings current world = ⟨.crash, world.files, []⟩ := by
  have hdeeds : (tool.perform medium settings current world).deeds.conclusion = .crash := h
  cases tool with
  | installer =>
    cases hrequest : installRequest settings with
    | error failure =>
      rw [install_refused hrequest] at hdeeds
      cases hdeeds
    | ok request =>
      rw [install_deeds hrequest] at hdeeds
      exact absurd hdeeds (Conclusion.after_ne_crash _ _ _ _)
  | packer =>
    cases hrequest : packageRequest settings with
    | error failure =>
      rw [pack_refused hrequest] at hdeeds
      cases hdeeds
    | ok request =>
      cases htext : (Package.plan request (platformOf settings current)).program.text? with
      | none =>
        unfold perform
        rw [show packer.body medium settings current = _ from pack_crash hrequest htext]
        rfl
      | some program =>
        rw [pack_deeds hrequest, packDeeds, htext, Option.isNone_some, if_neg Bool.false_ne_true]
          at hdeeds
        split at hdeeds
        · cases hdeeds
        · unfold callDeeds at hdeeds
          split at hdeeds <;> cases hdeeds

/-- Two runs are the same but for standard error. -/
structure SameButErrors (one other : Finished) : Prop where
  output : one.output = other.output
  /-- How they end, the programs that they start and the files that they leave. -/
  deeds : one.deeds = other.deeds

section
variable {tool : Tool} {medium : Medium} {line : List Bytes} {settings : Settings}
  {surroundings : Surroundings}

/-- A run whose log library answers is what the tool does. -/
theorem run_of_answers (hparse : tool.grammar.parse line = .ok settings)
    (h : surroundings.LogAnswers) (world : World) :
    let completion := tool.perform medium settings surroundings.platform world
    let finished := tool.runOn medium line surroundings world
    finished.output = Step.outputOf completion.steps ∧ finished.deeds = completion.deeds := by
  obtain ⟨filter, hfilter⟩ := h settings.verbose
  intro completion finished
  have hrun : finished = _ := run_filtered hparse hfilter world
  rw [hrun]
  exact ⟨rfl, rfl⟩

/-- A run that crashes has done nothing, whether the log library answers or not. -/
theorem run_of_crash (hparse : tool.grammar.parse line = .ok settings) {world : World}
    (h : (tool.runOn medium line surroundings world).conclusion = .crash) :
    (tool.runOn medium line surroundings world).output = [] ∧
      (tool.runOn medium line surroundings world).deeds = .of .crash world.files [] := by
  cases hfilter : Log.Filter.choose surroundings.logSetting settings.verbose with
  | error error =>
    rw [run_unfiltered hparse hfilter]
    exact ⟨rfl, rfl⟩
  | ok filter =>
    rw [run_filtered hparse hfilter] at h ⊢
    dsimp only at h ⊢
    rw [perform_of_crash h]
    exact ⟨rfl, rfl⟩

/-- A run whose log library does not answer crashes. -/
theorem crash_of_not_answers (hparse : tool.grammar.parse line = .ok settings)
    (h : ¬ surroundings.LogAnswers) (world : World) :
    (tool.runOn medium line surroundings world).conclusion = .crash := by
  cases hfilter : Log.Filter.choose surroundings.logSetting settings.verbose with
  | error error => rw [run_unfiltered hparse hfilter]
  | ok filter => exact absurd ((logAnswers_iff surroundings settings.verbose).2 ⟨filter, hfilter⟩) h

end

/-- Two runs from one world on one medium whose command lines differ in the verbose flags at most,
with any log variables, are the same but for standard error exactly if the log library answers both
or both crash. -/
theorem run_quiet (tool : Tool) (medium : Medium) {first second : List Bytes}
    {settings other : Settings}
    (hfirst : tool.grammar.parse first = .ok settings)
    (hsecond : tool.grammar.parse second = .ok other)
    (hlines : first.filterMap withoutVerbose = second.filterMap withoutVerbose)
    {here there : Surroundings} (hplatform : here.platform = there.platform) (world : World) :
    let one := tool.runOn medium first here world
    let another := tool.runOn medium second there world
    SameButErrors one another ↔ (here.LogAnswers ∧ there.LogAnswers) ∨
      (one.conclusion = .crash ∧ another.conclusion = .crash) := by
  intro one another
  constructor
  · intro hsame
    have hconclusion : one.conclusion = another.conclusion := congrArg Deeds.conclusion hsame.deeds
    by_cases hhere : here.LogAnswers
    · by_cases hthere : there.LogAnswers
      · exact .inl ⟨hhere, hthere⟩
      · have hcrash : another.conclusion = .crash := crash_of_not_answers hsecond hthere world
        exact .inr ⟨hconclusion.trans hcrash, hcrash⟩
    · have hcrash : one.conclusion = .crash := crash_of_not_answers hfirst hhere world
      exact .inr ⟨hcrash, hconclusion.symm.trans hcrash⟩
  · rintro (⟨hhere, hthere⟩ | ⟨hone, hanother⟩)
    · obtain ⟨houtput, hdeeds⟩ := run_of_answers hfirst hhere world
      obtain ⟨houtput', hdeeds'⟩ := run_of_answers hsecond hthere world
      have hperform := perform_congr tool (tool.sameButVerbose hfirst hsecond hlines) medium
        there.platform world
      rw [← hplatform] at hperform
      constructor
      · rw [houtput, houtput', ← hplatform, hperform]
      · rw [hdeeds, hdeeds', ← hplatform, hperform]
    · obtain ⟨houtput, hdeeds⟩ := run_of_crash hfirst hone
      obtain ⟨houtput', hdeeds'⟩ := run_of_crash hsecond hanother
      exact ⟨houtput.trans houtput'.symm, hdeeds.trans hdeeds'.symm⟩

/-- A packer with verbose flags whose log is turned off packs in the same way as one without them,
but for the warning on standard error. -/
theorem run_quiet_loud :
    let quiet := ["-i", "i", "--output=o", "--local=l", "--bin=bin"].map Bytes.ofString
    let loud :=
      ["-vvi", "i", "--output=o", "--local=l", "--verbose", "--bin=bin"].map Bytes.ofString
    let settings : Settings :=
      { packSettings (Bytes.ofString "bin") with
        paths := [("lib", Bytes.ofString "i"), ("output", Bytes.ofString "o"),
          ("local", Bytes.ofString "l"), ("bin", Bytes.ofString "bin")] }
    let world := packWorld (Bytes.ofString "bin") 42
    let one := packer.run quiet plainSurroundings world
    let another := packer.run loud (surroundingsWith "off") world
    packer.grammar.parse quiet = .ok settings ∧
      packer.grammar.parse loud = .ok { settings with verbose := 3 } ∧
      quiet.filterMap withoutVerbose = loud.filterMap withoutVerbose ∧
      plainSurroundings.platform = (surroundingsWith "off").platform ∧
      one.conclusion = .exit 42 ∧ one.errors ≠ another.errors ∧ SameButErrors one another := by
  intro quiet loud settings world one another
  have hquiet : packer.grammar.parse quiet = .ok settings := rfl
  have hloud : packer.grammar.parse loud = .ok { settings with verbose := 3 } := rfl
  have hlines : quiet.filterMap withoutVerbose = loud.filterMap withoutVerbose := by decide
  have hanswers : (surroundingsWith "off").LogAnswers :=
    (logAnswers_iff _ 0).2 ⟨Log.Filter.upTo 0, by rfl⟩
  have hplatform : plainSurroundings.platform = (surroundingsWith "off").platform := rfl
  refine ⟨hquiet, hloud, hlines, hplatform, by decide +kernel, by decide +kernel, ?_⟩
  exact (run_quiet packer .sound hquiet hloud hlines hplatform world).2
    (.inl ⟨.of_unset rfl, hanswers⟩)

/-- A log variable that the log library gives up on makes a run crash that would show its plan
else. -/
theorem not_run_quiet : ¬ ∀ (tool : Tool) (first second : List Bytes) (settings other : Settings),
    tool.grammar.parse first = .ok settings → tool.grammar.parse second = .ok other →
    first.filterMap withoutVerbose = second.filterMap withoutVerbose →
    ∀ here there : Surroundings, here.platform = there.platform → ∀ world : World,
      SameButErrors (tool.run first here world) (tool.run second there world) := by
  intro h
  let line := Bytes.ofString "--dry-run" :: packLine (Bytes.ofString "bin")
  let settings := { packSettings (Bytes.ofString "bin") with dryRun := true }
  let world := packWorld (Bytes.ofString "bin") 0
  have hparse : packer.grammar.parse line = .ok settings := rfl
  have hsame := h packer line line settings settings hparse hparse rfl
    (surroundingsWith "\u00a0a=info") plainSurroundings rfl world
  have hconclusion := congrArg Deeds.conclusion hsame.deeds
  have hcrash : (packer.run line (surroundingsWith "\u00a0a=info") world).deeds.conclusion =
      .crash := by
    rw [run_misaligned hparse]
    rfl
  have hexit : (packer.run line plainSurroundings world).deeds.conclusion = .exit 0 := by
    decide +kernel
  rw [hcrash, hexit] at hconclusion
  cases hconclusion

end ThemeSetup.Tool
