import ThemeSetup.Proofs.Install.Turn

/-!
# What an installation may change

Whatever becomes of it, an installation keeps every node that the helper left: it makes directories
of the layout and their ancestors, and it writes to the targets of the deliveries that opened theirs
(`Course.opened_footprint`), which are targets of the layout. So no more than two files are new
(`run_footprint`). If the root is not known nothing changes at all.
-/

namespace ThemeSetup.Install

variable {medium : Medium} {request : Request} {platform : Platform} {world : World} {root : Path}

section
variable {result : Except Failure Report} {fs final : FileSystem} {deliveries : List Delivery}

/-- A delivery opened the file of its target when the turn of its item came. -/
def Delivery.Opened (delivery : Delivery) (medium : Medium) (request : Request)
    (platform : Platform) (world : World) : Prop :=
  delivery.Opens medium (upToOn medium request platform delivery.item world).files
    (throughOn medium request platform delivery.item world).files

/-- It did exactly if it opened it between the files before its turn and those after it. -/
theorem TurnOf.opened_iff {delivery : Delivery} {after : FileSystem}
    (h : TurnOf medium request platform world root delivery fs after) :
    delivery.Opened medium request platform world ↔ delivery.Opens medium fs after := by
  rw [Delivery.Opened, h.before, h.left]

/-- The targets of the deliveries that opened theirs. -/
def OpenedTo (medium : Medium) (request : Request) (platform : Platform) (world : World)
    (deliveries : List Delivery) (path : Path) : Prop :=
  ∃ delivery ∈ deliveries,
    delivery.target = path ∧ delivery.Opened medium request platform world

/-- Turns write to the targets that they open, and nowhere else. -/
theorem Turns.footprint (named : Path → Prop)
    (h : Turns medium request platform world root fs deliveries final) :
    FileSystem.Footprint named (OpenedTo medium request platform world deliveries) fs final := by
  induction h with
  | nil => exact .refl _
  | @cons fs between final delivery deliveries turn _ ih =>
    have hdelivered := delivered_footprint named turn.there turn.delivers
    have hfirst : FileSystem.Footprint named
        (OpenedTo medium request platform world (delivery :: deliveries)) fs between :=
      hdelivered.mono fun _ ⟨hpath, hopens⟩ =>
        ⟨delivery, List.mem_cons_self, hpath.symm, turn.opened_iff.2 hopens⟩
    exact hfirst.trans (ih.mono fun _ ⟨other, hmem, hopened⟩ =>
      ⟨other, List.mem_cons_of_mem _ hmem, hopened⟩)

/-- On every way that it goes an installation makes directories of its layout and writes to the
targets of the deliveries that opened theirs. -/
theorem Course.opened_footprint
    (h : Course medium request platform world result final deliveries)
    (hask : (HostRoot.ask request.helpers platform world).result = .ok root) :
    FileSystem.Footprint (Layout.ofRoot root).Directories
      (OpenedTo medium request platform world deliveries)
      (HostRoot.ask request.helpers platform world).files final := by
  have hready : FileSystem.Footprint (Layout.ofRoot root).Directories
      (OpenedTo medium request platform world deliveries)
      (HostRoot.ask request.helpers platform world).files
      (opening request platform world).files := by
    rw [(opening_answered hask).2]
    exact ensureBoth_footprint _ _ _
  exact hready.trans ((h.turns hask).footprint _)

/-- What an installation delivers goes to the targets of its layout. -/
theorem Turns.targets (h : Turns medium request platform world root fs deliveries final)
    {delivery : Delivery} (hmem : delivery ∈ deliveries) :
    (Layout.ofRoot root).Targets platform delivery.target := by
  obtain ⟨_, _, turn⟩ := h.turnOf_of_mem hmem
  exact ⟨delivery.item, congrArg (·.2.2) (delivered_way turn.delivers)⟩

/-- On every way that it goes an installation has the footprint of its layout. -/
theorem Course.footprint (h : Course medium request platform world result final deliveries)
    (hask : (HostRoot.ask request.helpers platform world).result = .ok root) :
    FileSystem.Footprint (Layout.ofRoot root).Directories ((Layout.ofRoot root).Targets platform)
      (HostRoot.ask request.helpers platform world).files final :=
  (h.opened_footprint hask).mono fun _ ⟨_, hmem, htarget, _⟩ =>
    htarget ▸ (h.turns hask).targets hmem

end

/-- The locations that the targets of a layout lead to. -/
def targetLocations (fs : FileSystem) (layout : Layout) (platform : Platform) : List Location :=
  Item.all.filterMap fun item =>
    match fs.resolve .use (item.target layout platform) with
    | .ok (.found location) => some location
    | _ => none

/-- There are no more of them than targets. -/
theorem targetLocations_length (fs : FileSystem) (layout : Layout) (platform : Platform) :
    (targetLocations fs layout platform).length ≤ 2 :=
  List.length_filterMap_le _ Item.all

/-- What a target leads to is one of them. -/
theorem mem_targetLocations {fs : FileSystem} {layout : Layout} {path : Path} {location : Location}
    (hpath : layout.Targets platform path)
    (hfound : fs.resolve .use path = .ok (.found location)) :
    location ∈ targetLocations fs layout platform := by
  obtain ⟨item, rfl⟩ := hpath
  refine List.mem_filterMap.2 ⟨item, ?_, by rw [hfound]⟩
  cases item <;> simp [Item.all]

/-- On every medium an installation that does not learn the root changes nothing that the helper
left. Any other keeps every node, makes directories of the layout and writes to the targets,
whatever it returns; no more than two regular files are new. -/
theorem run_footprint (medium : Medium) (request : Request) (platform : Platform) (world : World) :
    let before := world.filesAfter (HostRoot.call request.helpers platform)
    let after := (runOn medium request platform false world).files
    match (HostRoot.ask request.helpers platform world).result with
    | .error _ => after = before
    | .ok root =>
      FileSystem.Footprint (Layout.ofRoot root).Directories
        ((Layout.ofRoot root).Targets platform) before after ∧
      ∃ locations : List Location, locations.length ≤ 2 ∧ ∀ location mode content,
        before.node? location = none → after.node? location = some (.file mode content) →
        location ∈ locations := by
  intro before after
  have hbefore : (HostRoot.ask request.helpers platform world).files = before :=
    HostRoot.ask_files _ _ _
  split
  · next failure hask =>
    rw [← hbefore]
    exact (runOn_unanswered medium false hask).2
  · next root hask =>
    have hfootprint := (runOn_course medium request platform world).footprint hask
    rw [hbefore] at hfootprint
    refine ⟨hfootprint, _, targetLocations_length after (.ofRoot root) platform,
      fun location mode content hnone hfile => ?_⟩
    rcases hfootprint.new hnone hfile with ⟨hdirectory, -⟩ | ⟨-, path, hpath, hfound⟩
    · cases hdirectory
    · exact mem_targetLocations hpath hfound

end ThemeSetup.Install
