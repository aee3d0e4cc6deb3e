import ThemeSetup.Proofs.Install.Footprint

/-!
# A dry run predicts the run

A dry run changes no file after the helper ended (`dryRun_files`), and where it succeeds both
sources are there then (`dryRun_ok`). All that the run writes before it looks for a source leaves
that source a regular file, so the run that follows can only fail at a directory, and else it
delivers the same items from the same sources to the same targets (`dryRun_predicts`).
-/

namespace ThemeSetup.Install

variable {medium : Medium} {request : Request} {platform : Platform} {world : World} {root : Path}

/-- A dry run that succeeds found both sources, and reports the way of each item. -/
theorem dryRun_ok {report : Report} (h : (run request platform true world).result = .ok report) :
    ∃ root, (HostRoot.ask request.helpers platform world).result = .ok root ∧
      (∀ item : Item, (HostRoot.ask request.helpers platform world).files.isFile
        (item.source request platform) = true) ∧
      report.platform = platform ∧ report.layout = .ofRoot root ∧
      report.deliveries.map Delivery.way =
        Item.all.map (·.way request platform (.ofRoot root)) := by
  have hcourse := dryRun_course request platform world
  rw [h] at hcourse
  generalize Step.deliveries (run request platform true world).steps = told at hcourse
  cases hcourse with
  | complete hask htheme hlibrary =>
    refine ⟨_, hask, fun item => ?_, rfl, rfl, rfl⟩
    cases item with
    | themeFile => exact htheme
    | library => exact hlibrary

/-- Where both sources are there an installation delivers both items, unless a directory could not
be made. -/
theorem Course.of_sources {result : Except Failure Report} {final : FileSystem}
    {deliveries : List Delivery} (h : Course medium request platform world result final deliveries)
    (hask : (HostRoot.ask request.helpers platform world).result = .ok root)
    (hsources : ∀ item : Item, (HostRoot.ask request.helpers platform world).files.isFile
      (item.source request platform) = true) :
    (∃ (item : Item) (failure : Failure), result = .error failure ∧
      Uncreated (item.directory (.ofRoot root)) failure) ∨
    ∃ theme library : Delivery, result = .ok (reportOf platform false (.ofRoot root)
        [theme, library]) ∧
      theme.way = Item.themeFile.way request platform (.ofRoot root) ∧
      library.way = Item.library.way request platform (.ofRoot root) := by
  -- Every file that is looked for was there before, and the files only grew since.
  have hgrows := (h.footprint hask).toGrows
  cases h with
  | unopened hopening =>
    obtain ⟨item, huncreated⟩ := opening_error hask hopening
    exact .inl ⟨item, _, rfl, huncreated⟩
  | themeMissing _ htheme => simp [hgrows.isFile (hsources .themeFile)] at htheme
  | libraryMissing _ _ _ hlibrary => simp [hgrows.isFile (hsources .library)] at hlibrary
  | complete hopening _ hdelivered _ hdelivered' =>
    obtain ⟨rfl, -⟩ := opening_of_ask hask hopening
    exact .inr ⟨_, _, rfl, delivered_way hdelivered, delivered_way hdelivered'⟩

/-- A dry run changes no file that the helper left. If it succeeds the run from the same world, on
any medium, stops at a directory that cannot be created, or it succeeds with the same platform,
layout and ways. If the root is not known both fail alike and leave the same files. -/
theorem dryRun_predicts (medium : Medium) (request : Request) (platform : Platform)
    (world : World) :
    let asked := HostRoot.ask request.helpers platform world
    let dry := run request platform true world
    let real := runOn medium request platform false world
    dry.files = world.filesAfter (HostRoot.call request.helpers platform) ∧
    (∀ report, dry.result = .ok report →
      (∃ failure directory error, real.result = .error failure ∧
        directory ∈ [report.layout.extraDirectory, report.layout.themeDirectory] ∧
        Uncreated directory failure ∧ failure.report = ⟨"E_UNEXPECTED",
          "create " ++ directory.display ++ ": " ++ IoError.message error, none⟩) ∨
      ∃ report', real.result = .ok report' ∧ report'.platform = report.platform ∧
        report'.layout = report.layout ∧
        report'.deliveries.map Delivery.way = report.deliveries.map Delivery.way) ∧
    ∀ failure, asked.result = .error failure →
      dry.result = .error failure ∧ real.result = .error failure ∧ real.files = dry.files := by
  intro asked dry real
  refine ⟨(dryRun_files _ _ _).trans (HostRoot.ask_files _ _ _), fun report hdry => ?_,
    fun failure hask => ?_⟩
  · obtain ⟨root, hask, hsources, hplatform, hlayout, hways⟩ := dryRun_ok hdry
    rcases (runOn_course medium request platform world).of_sources hask hsources with
      ⟨item, failure, hreal, huncreated⟩ | ⟨theme, library, hreal, htheme, hlibrary⟩
    · obtain ⟨error, hreport⟩ := huncreated.report
      refine .inl ⟨failure, _, error, hreal, ?_, huncreated, hreport⟩
      rw [hlayout]
      cases item <;> simp [Item.directory]
    · refine .inr ⟨_, hreal, hplatform.symm, hlayout.symm, ?_⟩
      rw [hways]
      simp only [reportOf, List.map_cons, List.map_nil, htheme, hlibrary, Item.all]
  · obtain ⟨hdry, hdryFiles⟩ := runOn_unanswered .sound true hask
    obtain ⟨hreal, hrealFiles⟩ := runOn_unanswered medium false hask
    exact ⟨hdry, hreal, hrealFiles.trans hdryFiles.symm⟩

end ThemeSetup.Install
