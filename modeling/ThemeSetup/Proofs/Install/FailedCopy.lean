import ThemeSetup.Proofs.Install.Footprint
import ThemeSetup.Proofs.Install.Reinstall
import ThemeSetup.Proofs.Install.Replace

/-!
# What a failed copy leaves

All that can be known of the two paths of a copy is checked before the target is emptied. So a copy
that fails has made directories that its target needs and nothing else, unless the medium broke it
off when both files were open: then the file of the target may be cut off, or new, and all others
are as they were. In an installation the directories are there already, and a delivery that failed
changes nothing, apart from such a cut (`TurnOf.unchanged_or_broken`).

A file that was installed before is still there at the end of the run, unless a copy opened it
(`Course.kept_unless_opened`). That can be the copy that failed, or the copy of the other item,
since links can lead both targets to one file; so the file can be lost
(`not_failed_copy_harmless`).
-/

namespace ThemeSetup.Install

open FileSystem (Broken Footprint OnlyMakes)

/-- What a delivery that failed has left, in an installation on a medium that made these deliveries
and left these files. -/
structure Contained (medium : Medium) (request : Request) (platform : Platform) (world : World)
    (final : FileSystem) (deliveries : List Delivery) (delivery : Delivery) : Prop where
  /-- The installation makes the delivery when the turn of its item comes, -/
  delivered : (throughOn medium request platform delivery.item world).result = .ok delivery
  /-- and all files stay as they were when it came, unless the medium broke the copy off. -/
  unchanged :
    (throughOn medium request platform delivery.item world).files =
        (upToOn medium request platform delivery.item world).files ∨
      Broken medium (upToOn medium request platform delivery.item world).files delivery.source
        delivery.target (throughOn medium request platform delivery.item world).files
  /-- A file that the helper left at the target is there at the end, unless a delivery opened it. -/
  kept : ∀ {mode : Mode} {content : Bytes},
    (world.filesAfter (HostRoot.call request.helpers platform)).target? delivery.target =
      some (.file mode content) →
    final.target? delivery.target = some (.file mode content) ∨
      ∃ path, OpenedTo medium request platform world deliveries path ∧
        final.resolve .use path = final.resolve .use delivery.target

section
variable {medium : Medium} {request : Request} {platform : Platform} {world : World} {root : Path}
  {delivery : Delivery} {fs after final : FileSystem} {result : Except Failure Report}
  {deliveries : List Delivery} {error : String}

/-- A turn that came to a delivery that failed changed nothing, unless the medium broke the copy
off. -/
theorem TurnOf.unchanged_or_broken
    (h : TurnOf medium request platform world root delivery fs after)
    (hfailed : delivery.status = .failed error) :
    (throughOn medium request platform delivery.item world).files =
        (upToOn medium request platform delivery.item world).files ∨
      Broken medium (upToOn medium request platform delivery.item world).files delivery.source
        delivery.target (throughOn medium request platform delivery.item world).files := by
  rw [h.before, h.left]
  exact delivered_failed h.there h.delivers hfailed

/-- Nothing is delivered unless the helper names a root. -/
theorem Course.answered_of_mem (h : Course medium request platform world result final deliveries)
    (hmem : delivery ∈ deliveries) :
    ∃ root, (HostRoot.ask request.helpers platform world).result = .ok root := by
  cases h with
  | unopened | themeMissing => cases hmem
  | libraryMissing hopening | complete hopening =>
    obtain ⟨root, hask, -⟩ := opening_ok hopening
    exact ⟨root, hask⟩

/-- A dry run plans what it delivers. -/
theorem DryCourse.planned_of_mem (h : DryCourse request platform world result deliveries)
    (hmem : delivery ∈ deliveries) : delivery.status = .planned := by
  cases h with
  | unanswered | themeMissing => cases hmem
  | libraryMissing =>
    obtain rfl := List.mem_singleton.1 hmem
    rfl
  | complete =>
    obtain ⟨item, -, rfl⟩ := List.mem_map.1 hmem
    rfl

/-- A file that a path led to when the helper had ended is there at the end, unless a delivery
opened it. -/
theorem Course.kept_unless_opened
    (h : Course medium request platform world result final deliveries)
    (hask : (HostRoot.ask request.helpers platform world).result = .ok root) {path : Path}
    {mode : Mode} {content : Bytes}
    (hfile : (HostRoot.ask request.helpers platform world).files.target? path =
      some (.file mode content)) :
    final.target? path = some (.file mode content) ∨
      ∃ other, OpenedTo medium request platform world deliveries other ∧
        final.resolve .use other = final.resolve .use path := by
  have hfootprint := h.opened_footprint hask
  unfold FileSystem.target? at hfile ⊢
  split at hfile
  · next location hfound =>
    have hlater := hfootprint.toGrows.resolve_found hfound
    rw [hlater]
    by_cases hopened : ∃ other, OpenedTo medium request platform world deliveries other ∧
        final.resolve .use other = .ok (.found location)
    · exact .inr hopened
    · exact .inl (hfootprint.unwritten hfile fun other hother hfound' =>
        hopened ⟨other, hother, hfound'⟩)
  · cases hfile

end

/-- On every medium replacing a file that fails makes directories that the target needs and does
nothing else, or the medium broke the copy off, and it wrote to the target alone. In a run, dry or
not, what a delivery that failed has left is contained. -/
theorem failed_copy_contained :
    (∀ (medium : Medium) (fs : FileSystem) (source target : Path) (failure : Failure),
      (replaceFileOn medium fs source target).1 = .error failure →
      let after := (replaceFileOn medium fs source target).2
      Footprint (Surrounds target) (fun path => path = target) fs after ∧
        (OnlyMakes (Surrounds target) fs after ∨ ∃ made, OnlyMakes (Surrounds target) fs made ∧
          Broken medium made source target after)) ∧
    ∀ (medium : Medium) (request : Request) (platform : Platform) (dryRun : Bool) (world : World)
      (delivery : Delivery) (error : String),
      let outcome := runOn medium request platform dryRun world
      delivery ∈ Step.deliveries outcome.steps → delivery.status = .failed error →
      Contained medium request platform world outcome.files (Step.deliveries outcome.steps)
        delivery := by
  constructor
  · intro medium fs source target failure h after
    have hreplacement := replacement medium fs source target
    rw [h] at hreplacement
    exact ⟨hreplacement.footprint, hreplacement.spares⟩
  · intro medium request platform dryRun world delivery error outcome hmem hfailed
    cases dryRun with
    | true =>
      rw [show outcome = run request platform true world from
        congrFun (runOn_dry medium request platform) world] at hmem
      have hplanned := (dryRun_course request platform world).planned_of_mem hmem
      rw [hfailed] at hplanned
      cases hplanned
    | false =>
      have hcourse := runOn_course medium request platform world
      obtain ⟨root, hask⟩ := hcourse.answered_of_mem hmem
      obtain ⟨_, _, turn⟩ := (hcourse.turns hask).turnOf_of_mem hmem
      refine ⟨turn.made, turn.unchanged_or_broken hfailed, fun hfile => ?_⟩
      rw [← HostRoot.ask_files] at hfile
      exact hcourse.kept_unless_opened hask hfile

/-! ## Files that are lost, and files that are not -/

/-- A medium with room for a number of octets in each file. -/
def scarce (count : Nat) : Medium :=
  ⟨fun _ _ _ => some (.octets count ⟨28⟩)⟩

/-- A world in which the plugin was installed, and then the theme file was replaced by one that
nobody may read. -/
def sealedWorld : World :=
  { plainWorld 0o644 with
    files := (run plainRequest .linux false (plainWorld 0o644)).files.insert
      [Bytes.ofString "local", Bytes.ofString Plugin.themeFileName]
      (.file 0o000 (Bytes.ofString "new")) }

/-- The delivery there of an item that cannot be copied. -/
def sealedDelivery (item : Item) (error : String) : Delivery where
  item := item
  source := item.source plainRequest .linux
  target := item.target (.ofRoot (.ofString "host")) .linux
  status := .failed ("copy " ++ (item.source plainRequest .linux).display ++ " -> " ++
    (item.target (.ofRoot (.ofString "host")) .linux).display ++ ": " ++ error)

/-- On a medium with room for one octet neither item is copied: nobody may read the theme file, and
the one that was installed before is as it was; the library that was installed is cut off. -/
theorem failed_copy_contained_sealed :
    let outcome := runOn (scarce 1) plainRequest .linux false sealedWorld
    let theme := sealedDelivery .themeFile "Permission denied (os error 13)"
    let library := sealedDelivery .library "No space left on device (os error 28)"
    Step.deliveries outcome.steps = [theme, library] ∧
      outcome.files.target? theme.target = some (.file 0o644 (Bytes.ofString "theme")) ∧
      outcome.files.target? library.target = some (.file 0o644 (Bytes.ofString "l")) ∧
      Contained (scarce 1) plainRequest .linux sealedWorld outcome.files [theme, library] theme ∧
      Contained (scarce 1) plainRequest .linux sealedWorld outcome.files [theme, library]
        library := by
  intro outcome theme library
  have hboth : Step.deliveries outcome.steps = [theme, library] := by decide +kernel
  have hcontained := failed_copy_contained.2 (scarce 1) plainRequest .linux false sealedWorld
  refine ⟨hboth, by decide +kernel, by decide +kernel, ?_, ?_⟩
  · exact hboth ▸ hcontained theme _ (by rw [hboth]; exact List.mem_cons_self) rfl
  · exact hboth ▸ hcontained library _ (by rw [hboth]; simp) rfl

/-- A world in which the plugin was installed, and then the theme file of the host was replaced by a
link to the library. The new theme file may not be written. -/
def linkedWorld : World :=
  { plainWorld 0o444 with
    files := (run plainRequest .linux false (plainWorld 0o644)).files
      |>.insert [Bytes.ofString "local", Bytes.ofString Plugin.themeFileName]
          (.file 0o444 (Bytes.ofString "new"))
      |>.insert [Bytes.ofString "host", Bytes.ofString "Plugins", Bytes.ofString "extra",
            Bytes.ofString Plugin.uuid, Bytes.ofString Plugin.themeFileName]
          (.link (.ofString "../../../theme/libCentTheme.so")) }

/-- A file is not kept by a copy that fails if there is no room left for its octets. And where no
copy is broken off a file that was installed is not kept by an installation whose copy to it failed,
if the other item was copied to it. -/
theorem not_failed_copy_harmless :
    (¬ ∀ (medium : Medium) (fs : FileSystem) (source target : Path) (failure : Failure),
      (replaceFileOn medium fs source target).1 = .error failure →
      OnlyMakes (Surrounds target) fs (replaceFileOn medium fs source target).2) ∧
    ¬ ∀ (request : Request) (platform : Platform) (world : World) (delivery : Delivery)
      (error : String) (mode : Mode) (content : Bytes),
      let outcome := run request platform false world
      delivery ∈ Step.deliveries outcome.steps → delivery.status = .failed error →
      (world.filesAfter (HostRoot.call request.helpers platform)).target? delivery.target =
        some (.file mode content) →
      outcome.files.target? delivery.target = some (.file mode content) := by
  constructor
  · intro h
    have hmakes := h (scarce 0) sealedWorld.files (.ofString "lib/libCentTheme.so")
      (.ofString "host/theme/libCentTheme.so") _ rfl
    let installed : Location :=
      [Bytes.ofString "host", Bytes.ofString "theme", Bytes.ofString "libCentTheme.so"]
    have hold : sealedWorld.files.node? installed = some (.file 0o644 (Bytes.ofString "lib")) := by
      decide +kernel
    have hkept := hmakes.kept hold
    revert hkept
    decide +kernel
  · intro h
    have hkept := h plainRequest .linux linkedWorld
      (sealedDelivery .library "Permission denied (os error 13)") _ 0o644 (Bytes.ofString "lib")
      (by decide +kernel) rfl (by decide +kernel)
    revert hkept
    decide +kernel

end ThemeSetup.Install
