import ThemeSetup.Proofs.Install.Prepare

/-!
# What the result of a run says

A run, dry or not, succeeds exactly if the helper names a root, the directories can be made, and
each source is a regular file when its turn comes (`Succeeds`). What becomes of a copy, on whatever
medium, has no part in it. `Reported` says how the report of a run that succeeds goes with what was
delivered on the way, and `Stopped` what a run that fails has delivered: nothing, unless it is the
library that is missing. `run_verdict` puts these together.

What a source is looked for in depends on what came before: `filesAtTurn` are the files after the
directories for the theme file, and the files after the theme file for the library.
-/

namespace ThemeSetup.Install

/-- The directories of a layout are ensured, unless the run is dry. -/
def readied (dryRun : Bool) (fs : FileSystem) (layout : Layout) :
    Except Failure Unit × FileSystem :=
  if dryRun then (.ok (), fs) else ensureBoth fs layout

/-- What becomes of an item whose source is there, and the files after it: a dry run plans it, and
any other delivers it. -/
def dealt (medium : Medium) (request : Request) (platform : Platform) (dryRun : Bool)
    (layout : Layout) (item : Item) (fs : FileSystem) : Delivery × FileSystem :=
  if dryRun then (planned request platform layout item, fs)
  else delivered medium request platform layout item fs

/-- The files in which the source of an item is looked for when the helper names a root. -/
def filesAtTurn (medium : Medium) (request : Request) (platform : Platform) (dryRun : Bool)
    (world : World) (root : Path) (item : Item) : FileSystem :=
  let asked := (HostRoot.ask request.helpers platform world).files
  let ready := (readied dryRun asked (.ofRoot root)).2
  match item with
  | .themeFile => ready
  | .library => (dealt medium request platform dryRun (.ofRoot root) .themeFile ready).2

/-- What a run needs to succeed. -/
structure Succeeds (medium : Medium) (request : Request) (platform : Platform) (dryRun : Bool)
    (world : World) (root : Path) : Prop where
  /-- The helper names the root. -/
  answered : (HostRoot.ask request.helpers platform world).result = .ok root
  /-- Both directories can be ensured, unless the run is dry. -/
  ensured : dryRun = false →
    (ensureBoth (HostRoot.ask request.helpers platform world).files (.ofRoot root)).1 = .ok ()
  /-- Each source is a regular file when its turn comes. -/
  found : ∀ item : Item, (filesAtTurn medium request platform dryRun world root item).isFile
    (item.source request platform) = true

/-- The report of a run that succeeds goes with what was delivered on the way. -/
structure Reported (dryRun : Bool) (report : Report) (told : List Delivery) : Prop where
  /-- It lists what was delivered, -/
  deliveries : report.deliveries = told
  /-- which is one theme file and then one library. -/
  items : told.map Delivery.item = [.themeFile, .library]
  /-- All is planned in a dry run, and nothing in any other. -/
  planned : ∀ delivery ∈ told, delivery.status = .planned ↔ dryRun = true
  /-- There is one warning for each delivery that failed. -/
  warnings : report.warnings = told.flatMap fun delivery =>
    match delivery.status with
    | .failed error => [delivery.item.failedMessage ++ ": " ++ error]
    | .copied _ | .planned => []

/-- What a run that fails has delivered, and the files that it leaves. -/
inductive Stopped (medium : Medium) (request : Request) (platform : Platform) (dryRun : Bool)
    (world : World) : Failure → FileSystem → List Delivery → Prop
  /-- If anything but the library is missing, nothing was delivered. -/
  | early {failure : Failure} {final : FileSystem}
      (hfailure : failure ≠ missing request platform .library) :
      Stopped medium request platform dryRun world failure final []
  /-- If the library is missing the theme file was delivered, and the files are those in which the
  library was looked for: nothing was copied since. -/
  | atLibrary {root : Path}
      (hask : (HostRoot.ask request.helpers platform world).result = .ok root) :
      Stopped medium request platform dryRun world (missing request platform .library)
        (filesAtTurn medium request platform dryRun world root .library)
        [(dealt medium request platform dryRun (.ofRoot root) .themeFile
          (filesAtTurn medium request platform dryRun world root .themeFile)).1]

/-- A result goes with the course of the run that has it. -/
structure Verdict (medium : Medium) (request : Request) (platform : Platform) (dryRun : Bool)
    (world : World) (result : Except Failure Report) (final : FileSystem) (told : List Delivery) :
    Prop where
  ok_iff : (∃ report, result = .ok report) ↔
    ∃ root, Succeeds medium request platform dryRun world root
  reported : ∀ report, result = .ok report → Reported dryRun report told
  stopped : ∀ failure, result = .error failure →
    Stopped medium request platform dryRun world failure final told

variable {medium : Medium} {request : Request} {platform : Platform} {dryRun : Bool} {world : World}
  {root : Path} {final : FileSystem}

/-! ## The three kinds of results -/

/-- A run that stops before the library, and could not succeed. -/
theorem Verdict.early {failure : Failure}
    (hfails : ∀ root, ¬ Succeeds medium request platform dryRun world root)
    (hfailure : failure ≠ missing request platform .library) :
    Verdict medium request platform dryRun world (.error failure) final [] where
  ok_iff := iff_of_false nofun fun ⟨root, h⟩ => hfails root h
  reported := nofun
  stopped := by
    rintro _ ⟨⟩
    exact .early hfailure

/-- A run whose helper names no root. -/
theorem Verdict.unanswered {failure : Failure}
    (hask : (HostRoot.ask request.helpers platform world).result = .error failure) :
    Verdict medium request platform dryRun world (.error failure) final [] := by
  refine .early (fun root h => ?_) (HostRoot.ask_notMissing _ _ _ _ hask _ _)
  rw [h.answered] at hask
  cases hask

/-- The theme file that is missing is not the library. -/
theorem missing_ne : missing request platform .themeFile ≠ missing request platform .library := by
  simp [missing, Failure.of, Item.missingLabel]

/-- A run that does not find the theme file. -/
theorem Verdict.themeMissing
    (hask : (HostRoot.ask request.helpers platform world).result = .ok root)
    (htheme : (filesAtTurn medium request platform dryRun world root .themeFile).isFile
      (Item.themeFile.source request platform) = false) :
    Verdict medium request platform dryRun world (.error (missing request platform .themeFile))
      final [] := by
  refine .early (fun root' h => ?_) missing_ne
  obtain rfl : root' = root := Except.ok.inj (h.answered.symm.trans hask)
  rw [h.found .themeFile] at htheme
  cases htheme

/-- A run that does not find the library. -/
theorem Verdict.atLibrary
    (hask : (HostRoot.ask request.helpers platform world).result = .ok root)
    (hlibrary : (filesAtTurn medium request platform dryRun world root .library).isFile
      (Item.library.source request platform) = false) :
    Verdict medium request platform dryRun world (.error (missing request platform .library))
      (filesAtTurn medium request platform dryRun world root .library)
      [(dealt medium request platform dryRun (.ofRoot root) .themeFile
        (filesAtTurn medium request platform dryRun world root .themeFile)).1] where
  ok_iff := by
    refine iff_of_false nofun fun ⟨root', h⟩ => ?_
    obtain rfl : root' = root := Except.ok.inj (h.answered.symm.trans hask)
    rw [h.found .library] at hlibrary
    cases hlibrary
  reported := nofun
  stopped := by
    rintro _ ⟨⟩
    exact .atLibrary hask

/-- Dealing with an item leads to a delivery of it. -/
theorem dealt_item (medium : Medium) (request : Request) (platform : Platform) (dryRun : Bool)
    (layout : Layout) (item : Item) (fs : FileSystem) :
    (dealt medium request platform dryRun layout item fs).1.item = item := by
  cases dryRun <;> rfl

/-- An item that is dealt with is planned in a dry run alone. -/
theorem dealt_status (medium : Medium) (request : Request) (platform : Platform) (dryRun : Bool)
    (layout : Layout) (item : Item) (fs : FileSystem) :
    (dealt medium request platform dryRun layout item fs).1.status = .planned ↔ dryRun = true := by
  cases dryRun with
  | true => exact iff_of_true rfl rfl
  | false => exact iff_of_false (Status.ofCopy_ne_planned _) nofun

/-- The warnings about deliveries are those about the ones that failed. -/
theorem filterMap_warning? (deliveries : List Delivery) :
    deliveries.filterMap Delivery.warning? = deliveries.flatMap fun delivery =>
      match delivery.status with
      | .failed error => [delivery.item.failedMessage ++ ": " ++ error]
      | .copied _ | .planned => [] := by
  induction deliveries with
  | nil => rfl
  | cons delivery rest ih =>
    rw [List.flatMap_cons, ← ih, List.filterMap_cons, Delivery.warning?]
    cases delivery.status <;> rfl

/-- A run that deals with both items. -/
theorem Verdict.complete (h : Succeeds medium request platform dryRun world root) :
    let theme := (dealt medium request platform dryRun (.ofRoot root) .themeFile
      (filesAtTurn medium request platform dryRun world root .themeFile)).1
    let library := (dealt medium request platform dryRun (.ofRoot root) .library
      (filesAtTurn medium request platform dryRun world root .library)).1
    Verdict medium request platform dryRun world
      (.ok (reportOf platform dryRun (.ofRoot root) [theme, library])) final [theme, library] := by
  intro theme library
  refine ⟨iff_of_true ⟨_, rfl⟩ ⟨root, h⟩, ?_, nofun⟩
  rintro _ ⟨⟩
  refine ⟨rfl, ?_, ?_, filterMap_warning? _⟩
  · simp only [List.map_cons, List.map_nil, theme, library, dealt_item]
  · simp only [List.mem_cons, List.not_mem_nil, or_false, forall_eq_or_imp, forall_eq]
    exact ⟨dealt_status .., dealt_status ..⟩

/-! ## Every run -/

/-- What an installation that went a course results in. -/
theorem Course.verdict {result : Except Failure Report} {told : List Delivery}
    (h : Course medium request platform world result final told) :
    Verdict medium request platform false world result final told := by
  cases h with
  | @unopened failure hopening =>
    cases hask : (HostRoot.ask request.helpers platform world).result with
    | error first =>
      obtain rfl : first = failure :=
        Except.error.inj ((opening_unanswered hask).1.symm.trans hopening)
      exact .unanswered hask
    | ok root =>
      obtain ⟨item, error, hfailure⟩ := opening_error hask hopening
      refine .early (fun root' h => ?_) (by rw [hfailure]; exact nofun)
      obtain rfl : root' = root := Except.ok.inj (h.answered.symm.trans hask)
      rw [(opening_answered hask).1, h.ensured rfl] at hopening
      cases hopening
  | themeMissing hopening htheme =>
    obtain ⟨root, hask, rfl, -⟩ := opening_ok hopening
    rw [(opening_answered hask).2] at htheme
    exact .themeMissing hask htheme
  | libraryMissing hopening htheme hdelivered hlibrary =>
    obtain ⟨root, hask, rfl, -⟩ := opening_ok hopening
    rw [(opening_answered hask).2] at hdelivered
    obtain ⟨rfl, rfl⟩ := Prod.mk.inj hdelivered
    exact .atLibrary hask hlibrary
  | complete hopening htheme hdelivered hlibrary hdelivered' =>
    obtain ⟨root, hask, rfl, -⟩ := opening_ok hopening
    rw [(opening_answered hask).2] at hdelivered htheme
    obtain ⟨rfl, rfl⟩ := Prod.mk.inj hdelivered
    obtain ⟨rfl, rfl⟩ := Prod.mk.inj hdelivered'
    refine .complete ⟨hask, fun _ => ensureBoth_of_opening hask hopening, fun item => ?_⟩
    cases item with
    | themeFile => exact htheme
    | library => exact hlibrary

/-- What a dry run that went a course results in. -/
theorem DryCourse.verdict {result : Except Failure Report} {told : List Delivery}
    (h : DryCourse request platform world result told) :
    Verdict medium request platform true world result
      (HostRoot.ask request.helpers platform world).files told := by
  cases h with
  | unanswered hask => exact .unanswered hask
  | themeMissing hask htheme => exact .themeMissing hask htheme
  | libraryMissing hask htheme hlibrary => exact .atLibrary hask hlibrary
  | complete hask htheme hlibrary =>
    refine .complete ⟨hask, nofun, fun item => ?_⟩
    cases item with
    | themeFile => exact htheme
    | library => exact hlibrary

/-- On every medium a run succeeds exactly if the helper names a root, the directories can be
ensured and each source is a regular file when its turn comes. If it succeeds, its report lists what
was delivered and warns of each delivery that failed; if it fails, nothing was delivered, unless the
library is missing and the theme file was delivered before. -/
theorem run_verdict (medium : Medium) (request : Request) (platform : Platform) (dryRun : Bool)
    (world : World) :
    let outcome := runOn medium request platform dryRun world
    Verdict medium request platform dryRun world outcome.result outcome.files
      (Step.deliveries outcome.steps) := by
  intro outcome
  cases dryRun with
  | false => exact (runOn_course medium request platform world).verdict
  | true =>
    simp only [outcome, runOn_dry, dryRun_files]
    exact (dryRun_course request platform world).verdict

end ThemeSetup.Install
