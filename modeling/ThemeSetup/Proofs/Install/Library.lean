import ThemeSetup.Proofs.Install.Delivery
import ThemeSetup.Proofs.Install.Verdict

/-!
# Where the library is taken from

A run looks for the library at one path, copies it from there, and names this path if nothing is
there (`TakesLibrary`). It is the path of the library in the directory of the request, dry run or
not (`run_takesLibrary`).
-/

namespace ThemeSetup.Install

/-- A run takes the library from a path. -/
structure TakesLibrary (medium : Medium) (path : Path) (request : Request) (platform : Platform)
    (dryRun : Bool) (world : World) (result : Except Failure Report) (final : FileSystem)
    (told : List Delivery) : Prop where
  /-- A run that succeeds found a regular file there when it was the turn of the library, and the
  last thing it did to the files, unless it was dry, was to copy that file. -/
  found : ∀ report, result = .ok report → ∃ root,
    (HostRoot.ask request.helpers platform world).result = .ok root ∧
    (filesAtTurn medium request platform dryRun world root .library).isFile path = true ∧
    (dryRun = false → final = (replaceFileOn medium
      (filesAtTurn medium request platform dryRun world root .library) path
      (Item.library.target (.ofRoot root) platform)).2)
  /-- A run that misses the library misses it there. -/
  missed : ∀ absent, result = .error (.of (.sourceMissing Item.library.missingLabel absent)) →
    absent = path
  /-- What is told of the library names this path. -/
  told : ∀ delivery ∈ told, delivery.item = .library → delivery.source = path

variable {medium : Medium} {request : Request} {platform : Platform} {world : World}
  {final : FileSystem}

/-- An item that is missed as the library is the library, and it is missed at its path. -/
theorem absent_eq {item : Item} {absent : Path}
    (h : missing request platform item =
      .of (.sourceMissing Item.library.missingLabel absent)) :
    absent = Item.library.source request platform := by
  simp only [missing, Failure.of, Failure.mk.injEq, Cause.sourceMissing.injEq, true_and] at h
  obtain ⟨hlabel, rfl⟩ := h
  cases item with
  | themeFile => exact absurd hlabel (by decide)
  | library => rfl

/-- The opening never fails for a source that is missing. -/
theorem opening_notMissing {failure : Failure}
    (h : (opening request platform world).result = .error failure) : failure.NotMissing := by
  cases hask : (HostRoot.ask request.helpers platform world).result with
  | error first =>
    obtain rfl : first = failure := Except.error.inj ((opening_unanswered hask).1.symm.trans h)
    exact HostRoot.ask_notMissing _ _ _ _ hask
  | ok root =>
    obtain ⟨item, error, rfl⟩ := opening_error hask h
    exact nofun

/-- An installation takes the library from its path in the directory of the request. -/
theorem Course.takesLibrary {result : Except Failure Report} {told : List Delivery}
    (h : Course medium request platform world result final told) :
    TakesLibrary medium (Item.library.source request platform) request platform false world result
      final told := by
  -- A delivery of the theme file is none of the library.
  have htheme : ∀ {layout : Layout} {fs after : FileSystem} {delivery : Delivery},
      delivered medium request platform layout .themeFile fs = (delivery, after) →
      delivery.item ≠ .library := by
    rintro layout fs after _ ⟨⟩
    exact nofun
  cases h with
  | unopened hopening =>
    refine ⟨nofun, ?_, nofun⟩
    rintro absent ⟨⟩
    exact absurd rfl (opening_notMissing hopening _ _)
  | themeMissing =>
    exact ⟨nofun, fun absent habsent => absent_eq (Except.error.inj habsent), nofun⟩
  | libraryMissing hopening _ hdelivered =>
    refine ⟨nofun, fun absent habsent => absent_eq (Except.error.inj habsent), ?_⟩
    intro delivery hmem hitem
    rw [List.mem_singleton.1 hmem] at hitem
    exact absurd hitem (htheme hdelivered)
  | complete hopening _ hdelivered hlibrary hdelivered' =>
    obtain ⟨root, hask, rfl, -⟩ := opening_ok hopening
    refine ⟨fun report _ => ⟨root, hask, ?_⟩, nofun, ?_⟩
    · rw [(opening_answered hask).2] at hdelivered
      obtain ⟨rfl, rfl⟩ := Prod.mk.inj hdelivered
      obtain ⟨rfl, rfl⟩ := Prod.mk.inj hdelivered'
      exact ⟨hlibrary, fun _ => rfl⟩
    · intro delivery hmem hitem
      rcases List.mem_cons.1 hmem with rfl | hmem
      · exact absurd hitem (htheme hdelivered)
      · rw [List.mem_singleton.1 hmem]
        exact congrArg (·.2.1) (delivered_way hdelivered')

/-- A dry run looks for the library at its path in the directory of the request. -/
theorem DryCourse.takesLibrary {result : Except Failure Report} {told : List Delivery}
    (h : DryCourse request platform world result told) :
    TakesLibrary medium (Item.library.source request platform) request platform true world result
      final told := by
  have hplanned : ∀ {root : Path} {delivery : Delivery},
      delivery ∈ Item.all.map (planned request platform (.ofRoot root)) →
      delivery.item = .library → delivery.source = Item.library.source request platform := by
    intro root delivery hmem hitem
    obtain ⟨item, -, rfl⟩ := List.mem_map.1 hmem
    obtain rfl : item = .library := hitem
    rfl
  cases h with
  | unanswered hask =>
    refine ⟨nofun, ?_, nofun⟩
    rintro absent ⟨⟩
    exact absurd rfl (HostRoot.ask_notMissing _ _ _ _ hask _ _)
  | themeMissing =>
    exact ⟨nofun, fun absent habsent => absent_eq (Except.error.inj habsent), nofun⟩
  | libraryMissing hask =>
    refine ⟨nofun, fun absent habsent => absent_eq (Except.error.inj habsent), ?_⟩
    intro delivery hmem hitem
    exact hplanned (List.mem_cons.2 (.inl (List.mem_singleton.1 hmem))) hitem
  | complete hask htheme hlibrary =>
    exact ⟨fun report _ => ⟨_, hask, hlibrary, nofun⟩, nofun, fun delivery => hplanned⟩

/-- On every medium a run takes the library from its path in the directory of the request. -/
theorem run_takesLibrary (medium : Medium) (request : Request) (platform : Platform)
    (dryRun : Bool) (world : World) :
    let outcome := runOn medium request platform dryRun world
    TakesLibrary medium (Item.library.source request platform) request platform dryRun world
      outcome.result outcome.files (Step.deliveries outcome.steps) := by
  intro outcome
  cases dryRun with
  | false => exact (runOn_course medium request platform world).takesLibrary
  | true =>
    simp only [outcome, runOn_dry]
    exact (dryRun_course request platform world).takesLibrary

end ThemeSetup.Install
