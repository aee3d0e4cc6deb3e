import ThemeSetup.Proofs.Files.LinkFree
import ThemeSetup.Proofs.Install.Footprint

/-!
# Helpers that stay steady

What an installation can be relied on to do again depends on its helper. `HelperSteady` asks that
the helper changes no file and gives the same answer before and after. A helper whose file is a
program, and which takes no notice of the files it finds, stays steady over every installation
without links (`HelperQuiet.steady`): the installation writes to files of other names, so the
helper that is started again is the same.
-/

namespace ThemeSetup

/-- The host's root is known by the answer of the helper alone. -/
theorem HostRoot.ask_congr {helpers : Path} {platform : Platform} {world world' : World}
    (h : (Launch.captured Plugin.hostRootStem (call helpers platform) world').result =
      (Launch.captured Plugin.hostRootStem (call helpers platform) world).result) :
    (ask helpers platform world').result = (ask helpers platform world).result := by
  rw [ask_result, ask_result, h]

/-- No root is known if the helper cannot be started. -/
theorem HostRoot.ask_of_load_error {helpers : Path} {platform : Platform} {world : World}
    {error : IoError} (h : world.load (call helpers platform) = .error error) :
    ∃ failure, (ask helpers platform world).result = .error failure := by
  rw [ask_result, Launch.captured_result, h]
  exact ⟨_, rfl⟩

namespace Install

variable {request : Request} {platform : Platform} {world : World}

/-- The helper changes no file, and it gives the same answer again in a later state. -/
structure HelperSteady (request : Request) (platform : Platform) (world : World)
    (later : FileSystem) : Prop where
  unchanged : (HostRoot.ask request.helpers platform world).files = world.files
  unchanged_later :
    (HostRoot.ask request.helpers platform { world with files := later }).files = later
  same_answer : (HostRoot.ask request.helpers platform { world with files := later }).result =
    (HostRoot.ask request.helpers platform world).result

/-- The helper, if it can be opened, is a program that leaves all files and replies the same
whatever files it finds. -/
def HelperQuiet (request : Request) (platform : Platform) (world : World) : Prop :=
  ∀ content,
    world.files.openProgram (platform.programIn request.helpers Plugin.hostRootStem) =
      .ok content →
    ∃ (program : Program) (reply : Reply), world.programs content = some program ∧
      ∀ arguments files, program arguments files = { reply with entries := files.entries }

/-- The name of the helper is the name of no item. -/
theorem fileName_ne_helper (item : Item) (platform : Platform) :
    item.fileName platform ≠ Bytes.ofString (platform.programName Plugin.hostRootStem) := by
  cases item <;> cases platform <;> decide

/-- The name of the helper names an entry. -/
theorem helper_isName (platform : Platform) :
    Path.IsName (Bytes.ofString (platform.programName Plugin.hostRootStem)) := by
  cases platform <;> decide

/-- A program that can be opened can be opened again where a footprint writes to no path that leads
to it. -/
theorem openProgram_again {named written : Path → Prop} {fs later : FileSystem} {path : Path}
    {content : Bytes} (hfootprint : FileSystem.Footprint named written fs later)
    (hunwritten : ∀ {location other}, later.resolve .use path = .ok (.found location) →
      written other → later.resolve .use other ≠ .ok (.found location))
    (h : fs.openProgram path = .ok content) : later.openProgram path = .ok content := by
  unfold FileSystem.openProgram at h ⊢
  split at h
  · cases h
  · cases h
  · next location hfound =>
    have hlater := hfootprint.toGrows.resolve_found hfound
    split at h
    · next mode _ hnode =>
      rw [hlater]
      simp only [hfootprint.unwritten hnode fun other => hunwritten hlater]
      exact h
    · cases h
    · cases h

/-- A helper that is loaded is a quiet program, and it is loaded again where it can be opened
again. -/
theorem HelperQuiet.load (hquiet : HelperQuiet request platform world) :
    (∃ error, world.load (HostRoot.call request.helpers platform) = .error error) ∨
    ∃ (content : Bytes) (program : Program) (reply : Reply),
      world.files.openProgram (platform.programIn request.helpers Plugin.hostRootStem) =
        .ok content ∧
      (∀ arguments files, program arguments files = { reply with entries := files.entries }) ∧
      ∀ later : FileSystem,
        later.openProgram (platform.programIn request.helpers Plugin.hostRootStem) =
          .ok content →
        { world with files := later : World }.load (HostRoot.call request.helpers platform) =
          .ok ⟨program, platform.programIn request.helpers Plugin.hostRootStem, []⟩ := by
  unfold World.load HostRoot.call
  split
  · exact .inl ⟨_, rfl⟩
  split
  · exact .inl ⟨_, rfl⟩
  cases hopen : world.files.openProgram
      (platform.programIn request.helpers Plugin.hostRootStem) with
  | error error => exact .inl ⟨error, rfl⟩
  | ok content =>
    obtain ⟨program, reply, hprogram, hreply⟩ := hquiet content hopen
    refine .inr ⟨content, program, reply, rfl, hreply, fun later hlater => ?_⟩
    simp only [hlater, World.loadContent, hprogram]

/-- A quiet helper leaves the files as they are. -/
theorem HelperQuiet.ask_files (hquiet : HelperQuiet request platform world) :
    (HostRoot.ask request.helpers platform world).files = world.files := by
  rw [HostRoot.ask_files, World.filesAfter]
  rcases hquiet.load with ⟨error, hload⟩ | ⟨content, program, reply, hopen, hreply, hload⟩
  · rw [hload]
  · rw [hload world.files hopen]
    simp only [hreply]

/-- A quiet helper stays steady over an installation without links. -/
theorem HelperQuiet.steady (hquiet : HelperQuiet request platform world)
    (hfree : world.files.LinkFree) :
    HelperSteady request platform world (run request platform false world).files := by
  have hunchanged := hquiet.ask_files
  cases hask : (HostRoot.ask request.helpers platform world).result with
  | error failure =>
    rw [run, (runOn_unanswered .sound false hask).2, hunchanged]
    exact ⟨hunchanged, hunchanged, rfl⟩
  | ok root =>
    have hfootprint := (run_course request platform world).footprint hask
    rw [hunchanged] at hfootprint
    have hfreeLater := hfootprint.linkFree hfree
    generalize (run request platform false world).files = later at hfootprint hfreeLater
    rcases hquiet.load with ⟨error, hload⟩ | ⟨content, program, reply, hopen, hreply, hload⟩
    · obtain ⟨failure, hfailure⟩ := HostRoot.ask_of_load_error hload
      rw [hfailure] at hask
      cases hask
    · have hopen' : later.openProgram
          (platform.programIn request.helpers Plugin.hostRootStem) = .ok content := by
        refine openProgram_again hfootprint (fun hfound hwritten hother => ?_) hopen
        -- The helper and the targets have different names.
        obtain ⟨item, rfl⟩ := hwritten
        rw [Item.target_eq] at hother
        obtain ⟨above, rfl⟩ :=
          FileSystem.resolve_found_join hfreeLater (helper_isName platform) hfound
        obtain ⟨above', habove⟩ :=
          FileSystem.resolve_found_join hfreeLater (item.fileName_isName platform) hother
        exact fileName_ne_helper item platform
          (by simpa using (congrArg List.getLast? habove).symm)
      refine ⟨hunchanged, ?_, HostRoot.ask_congr ?_⟩
      · rw [HostRoot.ask_files, World.filesAfter, hload later hopen']
        simp only [hreply]
      · rw [Launch.captured_result, Launch.captured_result, hload later hopen',
          hload world.files hopen]
        simp only [hreply]

end Install

end ThemeSetup
