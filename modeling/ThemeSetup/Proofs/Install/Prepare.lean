import ThemeSetup.Proofs.Files.Footprint
import ThemeSetup.Proofs.Install.Course
import ThemeSetup.Proofs.Install.Item

/-!
# Making the directories of a layout

An installation opens by making the two directories of its layout, one after the other
(`ensureBoth`). If that succeeds both are there (`isDirectory_of_ensureBoth`), and where both are
there it does nothing (`ensureBoth_of_isDirectory`); if it fails, the failure names a directory that
could not be made (`ensureBoth_error`). `opening_answered` and `opening_unanswered` say how the
opening goes by the answer of the helper, `opening_ok` what is there when it succeeds, and
`opening_error` what it fails with.
-/

namespace ThemeSetup.Install

section
variable {fs : FileSystem} {directory : Path}

/-- A failure to make a directory. -/
def Uncreated (directory : Path) (failure : Failure) : Prop :=
  ∃ error : IoError,
    failure = (Failure.of (.io error)).within (.text ("create " ++ directory.display))

/-- The report of a directory that could not be made names it. -/
theorem Uncreated.report {failure : Failure} (h : Uncreated directory failure) :
    ∃ error : IoError, failure.report =
      ⟨"E_UNEXPECTED", "create " ++ directory.display ++ ": " ++ error.message, none⟩ := by
  obtain ⟨error, rfl⟩ := h
  refine ⟨error, ?_⟩
  simp [Failure.report, Failure.within, Failure.of, Cause.notice?, Failure.fullMessage,
    Failure.chain, Context.message, Cause.message, String.append_assoc]

/-- A directory that cannot be ensured could not be created. -/
theorem ensureDirectory_error {failure : Failure}
    (h : (ensureDirectory fs directory).1 = .error failure) : Uncreated directory failure := by
  unfold ensureDirectory at h
  split at h
  · cases h
  · next error made hmade =>
    cases h
    exact ⟨error, rfl⟩

/-- Ensuring a directory leaves the files that making it leaves. -/
theorem ensureDirectory_files (fs : FileSystem) (directory : Path) :
    (ensureDirectory fs directory).2 = (fs.makeDirectories directory).2 := by
  unfold ensureDirectory
  split
  · next made hmade => rw [hmade]
  · next error made hmade => rw [hmade]

/-- A directory that was ensured is there. -/
theorem isDirectory_of_ensureDirectory (hpath : directory.bytes ≠ [])
    (h : (ensureDirectory fs directory).1 = .ok ()) :
    (ensureDirectory fs directory).2.isDirectory directory = true := by
  rw [ensureDirectory_files]
  refine FileSystem.isDirectory_of_makeDirectories hpath ?_
  unfold ensureDirectory at h
  split at h
  · next made hmade => rw [hmade]
  · cases h

/-- Ensuring a directory that is there does nothing. -/
theorem ensureDirectory_of_isDirectory (h : fs.isDirectory directory = true) :
    ensureDirectory fs directory = (.ok (), fs) := by
  rw [ensureDirectory, FileSystem.makeDirectories_of_isDirectory h]

/-- Ensuring a directory makes it and its ancestors alone. -/
theorem ensureDirectory_footprint {named written : Path → Prop}
    (hnamed : ∀ path, Path.Ancestor directory path → named path) :
    FileSystem.Footprint named written fs (ensureDirectory fs directory).2 := by
  rw [ensureDirectory_files]
  exact .makeDirectories hnamed

end

/-! ## Both directories -/

/-- The directory for the theme file is ensured, and then the one for the library. -/
def ensureBoth (fs : FileSystem) (layout : Layout) : Except Failure Unit × FileSystem :=
  match ensureDirectory fs layout.extraDirectory with
  | (.error failure, made) => (.error failure, made)
  | (.ok (), made) => ensureDirectory made layout.themeDirectory

/-- The names of the directories that an installation makes: the directories of the layout, their
parents, the parents of those, and so on. -/
def Layout.Directories (layout : Layout) (path : Path) : Prop :=
  Path.Ancestor layout.extraDirectory path ∨ Path.Ancestor layout.themeDirectory path

section
variable {fs : FileSystem} {layout : Layout} {root : Path}

/-- The directory of an item is one of the layout's, and so is each of its ancestors. -/
theorem Layout.directories_of_ancestor {item : Item} {path : Path}
    (h : Path.Ancestor (item.directory layout) path) : layout.Directories path := by
  cases item with
  | themeFile => exact .inl h
  | library => exact .inr h

/-- Ensuring the directory of an item makes directories of the layout alone. -/
theorem ensureItem_footprint (written : Path → Prop) (fs : FileSystem) (layout : Layout)
    (item : Item) :
    FileSystem.Footprint layout.Directories written fs
      (ensureDirectory fs (item.directory layout)).2 :=
  ensureDirectory_footprint fun _ h => Layout.directories_of_ancestor h

/-- Both directories that cannot be made fail with the one that could not be created. -/
theorem ensureBoth_error {failure : Failure} (h : (ensureBoth fs layout).1 = .error failure) :
    ∃ item : Item, Uncreated (item.directory layout) failure := by
  unfold ensureBoth at h
  split at h
  · next hextra =>
    cases h
    refine ⟨.themeFile, ensureDirectory_error (?_ : (ensureDirectory fs _).1 = _)⟩
    rw [Item.directory, hextra]
  · exact ⟨.library, ensureDirectory_error h⟩

/-- Ensuring both directories makes directories of the layout alone. -/
theorem ensureBoth_footprint (written : Path → Prop) (fs : FileSystem) (layout : Layout) :
    FileSystem.Footprint layout.Directories written fs (ensureBoth fs layout).2 := by
  have hextra := ensureItem_footprint written fs layout .themeFile
  unfold ensureBoth
  split
  · next hmade =>
    rw [Item.directory, hmade] at hextra
    exact hextra
  · next made hmade =>
    rw [Item.directory, hmade] at hextra
    exact hextra.trans (ensureItem_footprint written made layout .library)

/-- Directories that were both ensured are there. -/
theorem isDirectory_of_ensureBoth (h : (ensureBoth fs (.ofRoot root)).1 = .ok ()) (item : Item) :
    (ensureBoth fs (.ofRoot root)).2.isDirectory (item.directory (.ofRoot root)) = true := by
  unfold ensureBoth at h ⊢
  split at h
  · cases h
  · next made hmade =>
    cases item with
    | library =>
      exact isDirectory_of_ensureDirectory (Item.directory_endsInName .library root).1 h
    | themeFile =>
      refine (ensureItem_footprint (fun _ => False) made _ .library).toGrows.isDirectory ?_
      have hextra : (ensureDirectory fs (Item.themeFile.directory (.ofRoot root))).1 = .ok () := by
        rw [Item.directory, hmade]
      have hthere :=
        isDirectory_of_ensureDirectory (Item.directory_endsInName .themeFile root).1 hextra
      rw [Item.directory, hmade] at hthere
      exact hthere

/-- Ensuring two directories that are there does nothing. -/
theorem ensureBoth_of_isDirectory
    (h : ∀ item : Item, fs.isDirectory (item.directory layout) = true) :
    ensureBoth fs layout = (.ok (), fs) := by
  have hextra := ensureDirectory_of_isDirectory (h .themeFile)
  have htheme := ensureDirectory_of_isDirectory (h .library)
  simp only [Item.directory] at hextra htheme
  simp only [ensureBoth, hextra, htheme]

/-! ## The opening -/

variable {request : Request} {platform : Platform} {world : World}

/-- Making the directories of a layout is ensuring both. -/
theorem prepare_eq (layout : Layout) (world : World) :
    (prepare layout world).result = (ensureBoth world.files layout).1 ∧
      (prepare layout world).files = (ensureBoth world.files layout).2 := by
  simp only [prepare, ensureBoth, Bind.bind, Job.bind, Job.log, Job.step, Job.onFiles]
  rcases ensureDirectory world.files layout.extraDirectory with ⟨result, made⟩
  cases result <;> exact ⟨rfl, rfl⟩

/-- An installation whose helper gives no answer ends there. -/
theorem opening_unanswered {failure : Failure}
    (h : (HostRoot.ask request.helpers platform world).result = .error failure) :
    (opening request platform world).result = .error failure ∧
      (opening request platform world).files =
        (HostRoot.ask request.helpers platform world).files := by
  rw [opening, Job.bind_error h]
  exact ⟨rfl, rfl⟩

/-- An installation whose helper names a root ensures the directories below it. -/
theorem opening_answered
    (h : (HostRoot.ask request.helpers platform world).result = .ok root) :
    (opening request platform world).result =
        (ensureBoth (HostRoot.ask request.helpers platform world).files (.ofRoot root)).1.map
          (fun _ => .ofRoot root) ∧
      (opening request platform world).files =
        (ensureBoth (HostRoot.ask request.helpers platform world).files (.ofRoot root)).2 := by
  obtain ⟨hresult, hfiles⟩ := prepare_eq (.ofRoot root)
    { world with files := (HostRoot.ask request.helpers platform world).files }
  rw [opening, Job.bind_ok h]
  rw [← hresult, ← hfiles]
  cases hprepare : (prepare (.ofRoot root)
      { world with files := (HostRoot.ask request.helpers platform world).files }).result with
  | error failure =>
    rw [Job.bind_error hprepare]
    exact ⟨rfl, rfl⟩
  | ok done =>
    rw [Job.bind_ok hprepare]
    exact ⟨rfl, rfl⟩

/-- Where the opening succeeds both directories were ensured. -/
theorem ensureBoth_of_opening
    (hask : (HostRoot.ask request.helpers platform world).result = .ok root)
    (h : (opening request platform world).result = .ok layout) :
    (ensureBoth (HostRoot.ask request.helpers platform world).files (.ofRoot root)).1 =
      .ok () := by
  rw [(opening_answered hask).1] at h
  cases hboth : (ensureBoth (HostRoot.ask request.helpers platform world).files
      (.ofRoot root)).1 with
  | error failure =>
    rw [hboth] at h
    cases h
  | ok done => rfl

/-- The opening that succeeds leaves a layout whose directories are both there. -/
theorem opening_ok (h : (opening request platform world).result = .ok layout) :
    ∃ root, (HostRoot.ask request.helpers platform world).result = .ok root ∧
      layout = .ofRoot root ∧ ∀ item : Item,
        (opening request platform world).files.isDirectory (item.directory layout) = true := by
  cases hask : (HostRoot.ask request.helpers platform world).result with
  | error failure =>
    rw [(opening_unanswered hask).1] at h
    cases h
  | ok root =>
    obtain ⟨hresult, hfiles⟩ := opening_answered hask
    rw [hresult] at h
    rw [hfiles]
    cases hboth : (ensureBoth (HostRoot.ask request.helpers platform world).files
        (.ofRoot root)).1 with
    | error failure =>
      rw [hboth] at h
      cases h
    | ok done =>
      rw [hboth] at h
      cases h
      exact ⟨root, rfl, rfl, isDirectory_of_ensureBoth hboth⟩

/-- An opening that fails although the helper names a root could not create a directory. -/
theorem opening_error {failure : Failure}
    (hask : (HostRoot.ask request.helpers platform world).result = .ok root)
    (h : (opening request platform world).result = .error failure) :
    ∃ item : Item, Uncreated (item.directory (.ofRoot root)) failure := by
  rw [(opening_answered hask).1] at h
  cases hboth : (ensureBoth (HostRoot.ask request.helpers platform world).files
      (.ofRoot root)).1 with
  | error failure' =>
    rw [hboth] at h
    cases h
    exact ensureBoth_error hboth
  | ok done =>
    rw [hboth] at h
    cases h

/-- The layout of an opening that succeeds is that of the root which the helper named. -/
theorem opening_of_ask (hask : (HostRoot.ask request.helpers platform world).result = .ok root)
    (h : (opening request platform world).result = .ok layout) :
    layout = .ofRoot root ∧ ∀ item : Item,
      (opening request platform world).files.isDirectory (item.directory layout) = true := by
  obtain ⟨root', hask', hlayout, hthere⟩ := opening_ok h
  obtain rfl : root' = root := Except.ok.inj (hask'.symm.trans hask)
  exact ⟨hlayout, hthere⟩

end

end ThemeSetup.Install
