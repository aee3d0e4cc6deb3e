import ThemeSetup.Proofs.Files.Again
import ThemeSetup.Proofs.Install.Helper

/-!
# Installing again

Where there are no links, an installation that delivered its items, or found one missing, can be
made again and leaves every file as it is (`reinstall`). The two items have different names, so
neither copy reaches what the other reads or writes, and the directories are there. The report is
the same exactly if the files that were copied may be written. A copy takes over the mode of its
source, so a source that may not be written is copied once and can never be replaced
(`not_reinstall`).

The runs here are those where no copy is broken off: after one that was, the next run would have
something left to do.
-/

namespace ThemeSetup.Install

open FileSystem (LinkFree Overwritable Slot Turn)

variable {request : Request} {platform : Platform} {item : Item} {root : Path}
  {fs after later : FileSystem} {delivery : Delivery}

/-- The directory of an item and the name of its file are a slot. -/
theorem slot_of_isDirectory (platform : Platform) (hfree : fs.LinkFree)
    (hthere : fs.isDirectory (item.directory (.ofRoot root)) = true) :
    ∃ there refusal, Slot fs (item.directory (.ofRoot root)) (item.fileName platform) there
      refusal := by
  obtain ⟨there, refusal, hfound, hnode⟩ := FileSystem.isDirectory_iff.1 hthere
  exact ⟨there, refusal, hfree, item.directory_endsInName root, item.fileName_isName platform,
    hfound, hnode⟩

/-- A delivery changes no entry of another name than its item has. -/
theorem node?_delivered {other : Name} {above : Location} (hfree : fs.LinkFree)
    (hthere : fs.isDirectory (item.directory (.ofRoot root)) = true)
    (hother : other ≠ item.fileName platform)
    (h : delivered .sound request platform (.ofRoot root) item fs = (delivery, after)) :
    after.node? (above ++ [other]) = fs.node? (above ++ [other]) := by
  obtain ⟨there, refusal, hslot⟩ := slot_of_isDirectory platform hfree hthere
  have hturn := delivered_turn hthere h
  rw [Item.target_eq] at hturn
  exact hslot.node?_turn hother hturn

/-- An item that is delivered again, where no entry of its name has changed since, changes nothing;
the delivery is the same exactly if what was copied may be written. -/
theorem delivered_again (hfree : fs.LinkFree)
    (hthere : fs.isDirectory (item.directory (.ofRoot root)) = true)
    (hsource : fs.isFile (item.source request platform) = true)
    (h : delivered .sound request platform (.ofRoot root) item fs = (delivery, after))
    (hgrows : after.Grows later) (hfree' : later.LinkFree)
    (hsame : ∀ above, later.node? (above ++ [item.fileName platform]) =
      after.node? (above ++ [item.fileName platform])) :
    (delivered .sound request platform (.ofRoot root) item later).2 = later ∧
      ((delivered .sound request platform (.ofRoot root) item later).1 = delivery ↔
        ∀ size, delivery.status = .copied size → later.Overwritable delivery.target) := by
  obtain ⟨there, refusal, hslot⟩ := slot_of_isDirectory platform hfree hthere
  have hlater : fs.Grows later := (delivered_turn hthere h).grows.trans hgrows
  have hslot' := hslot.grown hlater hfree'
  rw [delivered_eq .sound request platform (hlater.isDirectory hthere)]
  rw [delivered_eq .sound request platform hthere] at h
  dsimp only at h ⊢
  rcases hcopy : fs.copyFile .sound (item.source request platform)
    (item.target (.ofRoot root) platform) with ⟨error | size, left⟩
  all_goals
    rw [hcopy] at h
    cases h
  · obtain rfl := FileSystem.eq_of_copyFile_error hcopy
    obtain ⟨origin, mode, content, hfound, -⟩ := FileSystem.isFile_iff.1 hsource
    have hname := item.source_eq request platform ▸ hfound
    obtain ⟨above, rfl⟩ :=
      FileSystem.resolve_found_join hfree (item.fileName_isName platform) hname
    have hfailed := hslot.copyFile_again_of_error hslot' hlater hfound (hsame above) (hsame there)
      (item.target_eq _ platform ▸ hcopy)
    rw [← Item.target_eq] at hfailed
    rw [hfailed]
    exact ⟨rfl, iff_of_true rfl fun _ hstatus => by cases hstatus⟩
  · have hcopies := FileSystem.copies_of_copyFile hcopy
    rw [Item.target_eq] at hcopies
    obtain ⟨hagain, hdenied⟩ :=
      hslot.copyFile_again hslot' hgrows hsame ⟨_, item.source_eq request platform⟩ hcopies
    rw [← Item.target_eq] at hagain hdenied
    by_cases hwritable : later.Overwritable (item.target (.ofRoot root) platform)
    · rw [hagain hwritable]
      exact ⟨rfl, iff_of_true rfl fun _ _ => hwritable⟩
    · rw [hdenied hwritable]
      refine ⟨rfl, iff_of_false (fun hsame => ?_) fun hall => hwritable (hall size rfl)⟩
      cases hsame

/-! ## The second run -/

section
variable {world : World} {layout : Layout} {result : Except Failure Report}
  {deliveries : List Delivery}

/-- A run whose opening and deliveries change nothing changes nothing, and reports the deliveries if
both sources are there. -/
theorem Course.settled (h : Course .sound request platform world result after deliveries)
    (hopening : (opening request platform world).result = .ok layout)
    (hfiles : (opening request platform world).files = fs)
    (htheme : fs.isFile (Item.themeFile.source request platform) = true →
      (delivered .sound request platform layout .themeFile fs).2 = fs)
    (hlibrary : fs.isFile (Item.themeFile.source request platform) = true →
      fs.isFile (Item.library.source request platform) = true →
      (delivered .sound request platform layout .library fs).2 = fs) :
    after = fs ∧ (fs.isFile (Item.themeFile.source request platform) = true →
      fs.isFile (Item.library.source request platform) = true →
      result = .ok (reportOf platform false layout
        [(delivered .sound request platform layout .themeFile fs).1,
         (delivered .sound request platform layout .library fs).1])) := by
  subst hfiles
  cases h with
  | unopened hopening' => simp [hopening] at hopening'
  | themeMissing _ hmissing => exact ⟨rfl, fun hthere => by simp [hmissing] at hthere⟩
  | libraryMissing hopening' hthere hdelivered hmissing =>
    obtain rfl := Except.ok.inj (hopening'.symm.trans hopening)
    have hkept := htheme hthere
    rw [hdelivered] at hkept
    subst hkept
    exact ⟨rfl, fun _ hlibraryThere => by simp [hmissing] at hlibraryThere⟩
  | complete hopening' hthere hdelivered hthere' hdelivered' =>
    obtain rfl := Except.ok.inj (hopening'.symm.trans hopening)
    have hkept := htheme hthere
    rw [hdelivered] at hkept
    subst hkept
    have hkept' := hlibrary hthere hthere'
    rw [hdelivered'] at hkept'
    subst hkept'
    exact ⟨rfl, fun _ _ => by rw [hdelivered, hdelivered']⟩

/-- The opening again finds the directories there, and changes nothing. -/
theorem opening_again {later : FileSystem} (hhelper : HelperSteady request platform world later)
    (hask : (HostRoot.ask request.helpers platform world).result = .ok root)
    (hthere : ∀ item : Item, later.isDirectory (item.directory (.ofRoot root)) = true) :
    (opening request platform { world with files := later }).result = .ok (.ofRoot root) ∧
      (opening request platform { world with files := later }).files = later := by
  obtain ⟨hresult, hfiles⟩ := opening_answered (hhelper.same_answer.trans hask)
  rw [hresult, hfiles, hhelper.unchanged_later, ensureBoth_of_isDirectory hthere]
  exact ⟨rfl, rfl⟩

/-- What is true of a second run in the files that a first one left: it leaves them, and it succeeds
with the same report exactly if what the first one copied may be written. -/
def Repeatable (request : Request) (platform : Platform) (world : World)
    (result : Except Failure Report) (final : FileSystem) : Prop :=
  let again := run request platform false { world with files := final }
  again.files = final ∧ ∀ report, result = .ok report →
    (again.result = .ok report ↔ ∀ delivery ∈ report.deliveries, ∀ size,
      delivery.status = .copied size → final.Overwritable delivery.target)

/-- An installation whose helper gives no answer can be made again: it gives none again. -/
theorem Course.repeatable_unanswered {final : FileSystem} {failure : Failure}
    (h : Course .sound request platform world result final deliveries)
    (hhelper : HelperSteady request platform world final)
    (hask : (HostRoot.ask request.helpers platform world).result = .error failure) :
    Repeatable request platform world result final := by
  cases h with
  | unopened =>
    refine ⟨?_, fun report hreport => by cases hreport⟩
    rw [run, (runOn_unanswered .sound false (hhelper.same_answer.trans hask)).2]
    exact hhelper.unchanged_later
  | themeMissing hopening | libraryMissing hopening | complete hopening =>
    rw [(opening_unanswered hask).1] at hopening
    cases hopening

/-- Both items delivered again, where they were delivered one after the other, change nothing; each
delivery is the same exactly if what was copied may be written. -/
theorem delivered_both_again {ready between final : FileSystem} {theme library : Delivery}
    (hfree : ready.LinkFree)
    (hthere : ∀ item : Item, ready.isDirectory (item.directory (.ofRoot root)) = true)
    (htheme : ready.isFile (Item.themeFile.source request platform) = true)
    (hdelivered :
      delivered .sound request platform (.ofRoot root) .themeFile ready = (theme, between))
    (hlibrary : between.isFile (Item.library.source request platform) = true)
    (hdelivered' :
      delivered .sound request platform (.ofRoot root) .library between = (library, final)) :
    (∀ item, (delivered .sound request platform (.ofRoot root) item final).2 = final) ∧
      ((delivered .sound request platform (.ofRoot root) .themeFile final).1 = theme ↔
        ∀ size, theme.status = .copied size → final.Overwritable theme.target) ∧
      ((delivered .sound request platform (.ofRoot root) .library final).1 = library ↔
        ∀ size, library.status = .copied size → final.Overwritable library.target) := by
  obtain ⟨hthere', -, hturn⟩ := delivered_turns hthere hdelivered hdelivered'
  have hfreeBetween : between.LinkFree :=
    (delivered_footprint (fun _ => False) (hthere .themeFile) hdelivered).linkFree hfree
  have hfreeFinal : final.LinkFree :=
    (delivered_footprint (fun _ => False) hthere' hdelivered').linkFree hfreeBetween
  -- The library's copy changes no entry of the theme file's name.
  obtain ⟨hkept, hsame⟩ := delivered_again hfree (hthere .themeFile) htheme hdelivered
    hturn.grows hfreeFinal fun _ =>
      node?_delivered hfreeBetween hthere' (Item.fileName_ne platform) hdelivered'
  obtain ⟨hkept', hsame'⟩ := delivered_again hfreeBetween hthere' hlibrary hdelivered'
    (.refl final) hfreeFinal fun _ => rfl
  refine ⟨fun item => ?_, hsame, hsame'⟩
  cases item with
  | themeFile => exact hkept
  | library => exact hkept'

/-- On every way that it goes, unless it stops before it looks for a source, an installation can be
made again. -/
theorem Course.repeatable {final : FileSystem}
    (h : Course .sound request platform world result final deliveries)
    (hfree : world.files.LinkFree) (hhelper : HelperSteady request platform world final)
    (hresult : ∀ failure, result = .error failure → failure.report.code = "E_SOURCE_MISSING") :
    Repeatable request platform world result final := by
  cases hask : (HostRoot.ask request.helpers platform world).result with
  | error failure => exact h.repeatable_unanswered hhelper hask
  | ok root =>
    have hagain := run_course request platform { world with files := final }
    have hready : (opening request platform world).files.LinkFree := by
      rw [(opening_answered hask).2, hhelper.unchanged]
      exact (ensureBoth_footprint (fun _ => False) _ _).linkFree hfree
    cases h with
    | unopened hopening =>
      -- No directory that cannot be created is a source that is missing.
      obtain ⟨item, huncreated⟩ := opening_error hask hopening
      obtain ⟨error, hreport⟩ := huncreated.report
      have hcode := hresult _ rfl
      rw [hreport] at hcode
      simp at hcode
    | themeMissing hopening htheme =>
      obtain ⟨rfl, hthere⟩ := opening_of_ask hask hopening
      obtain ⟨hopening', hfiles⟩ := opening_again hhelper hask hthere
      have hsettled := hagain.settled hopening' hfiles
        (fun hthere' => by simp [htheme] at hthere') (fun hthere' => by simp [htheme] at hthere')
      exact ⟨hsettled.1, fun report hreport => by cases hreport⟩
    | libraryMissing hopening htheme hdelivered hlibrary =>
      obtain ⟨rfl, hthere⟩ := opening_of_ask hask hopening
      have hgrows := (delivered_turn (hthere .themeFile) hdelivered).grows
      obtain ⟨hopening', hfiles⟩ :=
        opening_again hhelper hask fun item => hgrows.isDirectory (hthere item)
      have hfreeFinal : final.LinkFree :=
        (delivered_footprint (fun _ => False) (hthere .themeFile) hdelivered).linkFree hready
      obtain ⟨hkept, -⟩ := delivered_again hready (hthere .themeFile) htheme hdelivered
        (.refl final) hfreeFinal fun _ => rfl
      have hsettled := hagain.settled hopening' hfiles (fun _ => hkept)
        (fun _ hthere' => by simp [hlibrary] at hthere')
      exact ⟨hsettled.1, fun report hreport => by cases hreport⟩
    | @complete layout theme library between _ hopening htheme hdelivered hlibrary hdelivered' =>
      obtain ⟨rfl, hthere⟩ := opening_of_ask hask hopening
      obtain ⟨-, hturn, hturn'⟩ := delivered_turns hthere hdelivered hdelivered'
      have hgrows := hturn.grows.trans hturn'.grows
      obtain ⟨hopening', hfiles⟩ :=
        opening_again hhelper hask fun item => hgrows.isDirectory (hthere item)
      obtain ⟨hkept, hsame, hsame'⟩ :=
        delivered_both_again hready hthere htheme hdelivered hlibrary hdelivered'
      obtain ⟨hfinal, hreported⟩ := hagain.settled hopening' hfiles
        (fun _ => hkept .themeFile) (fun _ _ => hkept .library)
      refine ⟨hfinal, fun report hreport => ?_⟩
      cases hreport
      rw [hreported (hgrows.isFile htheme) (hturn'.grows.isFile hlibrary)]
      simp only [reportOf, Except.ok.injEq, Report.mk.injEq, true_and, List.mem_cons,
        List.not_mem_nil, or_false, forall_eq_or_imp, forall_eq, ← hsame, ← hsame']
      constructor
      · rintro ⟨hdeliveries, -⟩
        simp only [List.cons.injEq, and_true] at hdeliveries
        exact hdeliveries
      · rintro ⟨htheme', hlibrary'⟩
        rw [htheme', hlibrary']
        exact ⟨rfl, rfl⟩

end

/-- An installation without links that delivered its items, or found one missing, can be made again:
it leaves every file as it is, and if it succeeded it succeeds with the same report, exactly if what
was copied may be written. -/
theorem reinstall (request : Request) (platform : Platform) (world : World)
    (hfree : world.files.LinkFree)
    (hhelper : HelperSteady request platform world (run request platform false world).files)
    (hresult : ∀ failure, (run request platform false world).result = .error failure →
      failure.report.code = "E_SOURCE_MISSING") :
    Repeatable request platform world (run request platform false world).result
      (run request platform false world).files :=
  (run_course request platform world).repeatable hfree hhelper hresult

/-! ## A theme file that may not be written -/

/-- A request with directories of its own for the helper, the theme file and the library. -/
def plainRequest : Request where
  helpers := .ofString "ct"
  sources := .ofString "local"
  libraries := .ofString "lib"

/-- A world with a theme file of a given mode, a library and a helper that names a host that is not
there yet. -/
def plainWorld (mode : Mode) : World where
  files :=
    { entries :=
        [([], .directory none),
         ([Bytes.ofString "ct"], .directory none),
         ([Bytes.ofString "ct", Bytes.ofString "ctpath"], .file 0o755 (Bytes.ofString "helper")),
         ([Bytes.ofString "local"], .directory none),
         ([Bytes.ofString "local", Bytes.ofString Plugin.themeFileName],
           .file mode (Bytes.ofString "theme")),
         ([Bytes.ofString "lib"], .directory none),
         ([Bytes.ofString "lib", Bytes.ofString "libCentTheme.so"],
           .file 0o644 (Bytes.ofString "lib"))]
      home := [] }
  programs := HostRoot.soleHelper "host\n"

/-- There are no links in it. -/
theorem plainWorld_linkFree (mode : Mode) : (plainWorld mode).files.LinkFree :=
  FileSystem.linkFree_of_entries (by simp [plainWorld])

/-- Its helper is quiet. -/
theorem plainWorld_quiet (mode : Mode) : HelperQuiet plainRequest .linux (plainWorld mode) := by
  intro content hopen
  have hhelper : (plainWorld mode).files.openProgram
      (Platform.linux.programIn plainRequest.helpers Plugin.hostRootStem) =
        .ok (Bytes.ofString "helper") := rfl
  rw [hhelper] at hopen
  cases hopen
  exact ⟨_, ⟨[], Bytes.ofString "host\n", [], .exited 0⟩, rfl, fun _ _ => rfl⟩

/-- The report of an installation in it. -/
def plainReport : Report :=
  reportOf .linux false (.ofRoot (.ofString "host"))
    [⟨.themeFile, Item.themeFile.source plainRequest .linux,
        Item.themeFile.target (.ofRoot (.ofString "host")) .linux, .copied 5⟩,
     ⟨.library, Item.library.source plainRequest .linux,
        Item.library.target (.ofRoot (.ofString "host")) .linux, .copied 3⟩]

/-- A result that has a report is that report. -/
theorem eq_ok_of_toOption {result : Except Failure Report} {report : Report}
    (h : result.toOption = some report) : result = .ok report := by
  cases result with
  | error failure => cases h
  | ok found => exact congrArg Except.ok (Option.some.inj h)

/-- A theme file that may be written is installed twice alike. -/
theorem reinstall_plain :
    let world := plainWorld 0o644
    let first := run plainRequest .linux false world
    world.files.LinkFree ∧ HelperSteady plainRequest .linux world first.files ∧
      first.result = .ok plainReport ∧
      Repeatable plainRequest .linux world first.result first.files := by
  intro world first
  have hfree := plainWorld_linkFree 0o644
  have hhelper := (plainWorld_quiet 0o644).steady hfree
  have hfirst : first.result = .ok plainReport := eq_ok_of_toOption (by decide +kernel)
  refine ⟨hfree, hhelper, hfirst, reinstall plainRequest .linux world hfree hhelper ?_⟩
  intro failure hfailure
  rw [show (run plainRequest .linux false world).result = _ from hfirst] at hfailure
  cases hfailure

/-- A theme file that may be read alone is installed once, and the installation made again reports
that it cannot be copied. -/
theorem not_reinstall :
    let world := plainWorld 0o444
    let first := run plainRequest .linux false world
    world.files.LinkFree ∧ HelperSteady plainRequest .linux world first.files ∧
      first.result = .ok plainReport ∧
      (run plainRequest .linux false { world with files := first.files }).result ≠
        .ok plainReport := by
  intro world first
  have hfree := plainWorld_linkFree 0o444
  refine ⟨hfree, (plainWorld_quiet 0o444).steady hfree,
    eq_ok_of_toOption (by decide +kernel), fun hagain => ?_⟩
  have hother : (run plainRequest .linux false
      { world with files := first.files }).result.toOption ≠ some plainReport := by
    decide +kernel
  exact hother (by rw [hagain]; rfl)

end ThemeSetup.Install
