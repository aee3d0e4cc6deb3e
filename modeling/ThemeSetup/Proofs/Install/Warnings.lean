import ThemeSetup.Proofs.Install.Verdict

/-!
# Which failed copies a result tells of

A copy that fails becomes a warning, and warnings travel in the report. A run that stops has no
report, so it has no warnings either. The one run that stops after a copy is the one that does not
find the library: if it could not copy the theme file before, its result says nothing of that
(`ThemeLost`), and in every other run the result tells of each copy that failed, once and in order
(`warnings_tell`).
-/

namespace ThemeSetup.Install

/-- What is to be said of the deliveries that failed, in order. -/
def failures (told : List Delivery) : List String :=
  told.flatMap fun delivery =>
    match delivery.status with
    | .failed error => [delivery.item.failedMessage ++ ": " ++ error]
    | .copied _ | .planned => []

/-- The warnings that come with a result: a run that stops has none. -/
def warnings : Except Failure Report → List String
  | .ok report => report.warnings
  | .error _ => []

/-- A run that cannot copy the theme file, and then does not find the library. -/
structure ThemeLost (medium : Medium) (request : Request) (platform : Platform) (world : World)
    (root : Path) (failure : Failure) : Prop where
  /-- The helper names the root, -/
  answered : (HostRoot.ask request.helpers platform world).result = .ok root
  /-- both directories can be ensured, -/
  ensured :
    (ensureBoth (HostRoot.ask request.helpers platform world).files (.ofRoot root)).1 = .ok ()
  /-- and the theme file is there, -/
  found : (filesAtTurn medium request platform false world root .themeFile).isFile
    (Item.themeFile.source request platform) = true
  /-- but it cannot be copied; -/
  failed : (replaceFileOn medium (filesAtTurn medium request platform false world root .themeFile)
    (Item.themeFile.source request platform)
    (Item.themeFile.target (.ofRoot root) platform)).1 = .error failure
  /-- and the library is not there when its turn comes. -/
  missing : (filesAtTurn medium request platform false world root .library).isFile
    (Item.library.source request platform) = false

variable {medium : Medium} {request : Request} {platform : Platform} {world : World} {root : Path}
  {failure : Failure} {result : Except Failure Report} {final : FileSystem} {told : List Delivery}

/-- Where the theme file is lost the run opens, with the files in which it is looked for. -/
theorem ThemeLost.opened (h : ThemeLost medium request platform world root failure) :
    (opening request platform world).result = .ok (.ofRoot root) ∧
      (opening request platform world).files =
        filesAtTurn medium request platform false world root .themeFile := by
  obtain ⟨hresult, hfiles⟩ := opening_answered h.answered
  rw [h.ensured] at hresult
  exact ⟨hresult, hfiles⟩

/-- Where the theme file is lost its delivery failed, and the library is looked for after it. -/
theorem ThemeLost.delivered (h : ThemeLost medium request platform world root failure) :
    delivered medium request platform (.ofRoot root) .themeFile
        (opening request platform world).files =
      (⟨.themeFile, Item.themeFile.source request platform,
        Item.themeFile.target (.ofRoot root) platform, .failed failure.fullMessage⟩,
        filesAtTurn medium request platform false world root .library) := by
  have hfailed := h.failed
  rw [h.opened.2]
  refine Prod.ext ?_ rfl
  simp only [Install.delivered, hfailed, Status.ofCopy]

/-- A run in which the theme file is lost has a failure to tell of, and no warnings. -/
theorem Course.loses (h : Course medium request platform world result final told)
    (hlost : ThemeLost medium request platform world root failure) :
    warnings result = [] ∧ failures told ≠ [] := by
  obtain ⟨hopened, hfiles⟩ := hlost.opened
  have hdelivered := hlost.delivered
  cases h with
  | unopened hopening =>
    rw [hopened] at hopening
    cases hopening
  | themeMissing hopening htheme =>
    rw [hfiles, hlost.found] at htheme
    cases htheme
  | libraryMissing hopening htheme hdelivered' hlibrary =>
    cases hopening.symm.trans hopened
    cases hdelivered'.symm.trans hdelivered
    exact ⟨rfl, nofun⟩
  | complete hopening htheme hdelivered' hlibrary hdelivered'' =>
    cases hopening.symm.trans hopened
    cases hdelivered'.symm.trans hdelivered
    rw [hlost.missing] at hlibrary
    cases hlibrary

/-- A run in which the theme file is not lost warns of every copy that failed. -/
theorem Course.tells (h : Course medium request platform world result final told)
    (hkept : ∀ root failure, ¬ ThemeLost medium request platform world root failure) :
    warnings result = failures told := by
  cases h with
  | unopened hopening => rfl
  | themeMissing hopening htheme => rfl
  | complete hopening htheme hdelivered hlibrary hdelivered' => exact filterMap_warning? _
  | libraryMissing hopening htheme hdelivered hlibrary =>
    obtain ⟨root, hask, rfl, -⟩ := opening_ok hopening
    rw [(opening_answered hask).2] at htheme hdelivered
    obtain ⟨rfl, rfl⟩ := Prod.mk.inj hdelivered
    generalize hready : (ensureBoth (HostRoot.ask request.helpers platform world).files
      (.ofRoot root)).2 = ready at htheme hlibrary
    -- The library is missing, so the theme file is lost if it was not copied.
    cases hcopy : (replaceFileOn medium ready (Item.themeFile.source request platform)
        (Item.themeFile.target (.ofRoot root) platform)).1 with
    | ok size =>
      simp only [failures, List.flatMap_cons, Status.ofCopy]
      rfl
    | error failure =>
      subst hready
      exact absurd ⟨hask, ensureBoth_of_opening hask hopening, htheme, hcopy, hlibrary⟩
        (hkept root failure)

/-- Nothing fails in a dry run. -/
theorem DryCourse.tells (h : DryCourse request platform world result told) :
    warnings result = failures told := by
  cases h <;> rfl

/-- On every medium the result of a run warns of nothing but copies that failed, and it warns of
each of them, once and in order, unless the theme file is lost. -/
theorem warnings_tell (medium : Medium) (request : Request) (platform : Platform) (dryRun : Bool)
    (world : World) :
    let outcome := runOn medium request platform dryRun world
    let told := Step.deliveries outcome.steps
    (warnings outcome.result).Sublist (failures told) ∧
      ((failures told).Sublist (warnings outcome.result) ↔
        ¬ (dryRun = false ∧
          ∃ root failure, ThemeLost medium request platform world root failure)) := by
  intro outcome told
  cases dryRun with
  | true =>
    have htold := (dryRun_course request platform world).tells
    rw [← runOn_dry medium] at htold
    exact ⟨htold ▸ .refl _, iff_of_true (htold ▸ .refl _) nofun⟩
  | false =>
    have hcourse := runOn_course medium request platform world
    by_cases hlost : ∃ root failure, ThemeLost medium request platform world root failure
    · obtain ⟨root, failure, hlost⟩ := hlost
      obtain ⟨hnone, hsome⟩ := hcourse.loses hlost
      refine ⟨hnone ▸ List.nil_sublist _, iff_of_false (fun h => hsome ?_) ?_⟩
      · exact List.sublist_nil.1 (hnone ▸ h)
      · exact fun h => h ⟨rfl, root, failure, hlost⟩
    · have htold := hcourse.tells fun root failure h => hlost ⟨root, failure, h⟩
      exact ⟨htold ▸ .refl _, iff_of_true (htold ▸ .refl _) fun h => hlost h.2⟩

end ThemeSetup.Install
