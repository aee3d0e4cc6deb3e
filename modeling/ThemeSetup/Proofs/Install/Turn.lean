import ThemeSetup.Proofs.Install.Delivery

/-!
# The turns of an installation

`upToOn` is what an installation does before the turn of an item, and `throughOn` what it does until
the item is delivered. Each delivery of an installation is what one turn came to (`TurnOf`): the
directories of the layout are there, and the item is delivered into them. The turns follow on one
another, from the files of the opening to those that the installation leaves (`Course.turns`).
-/

namespace ThemeSetup.Install

/-- What an installation on a medium does before it delivers an item. -/
def upToOn (medium : Medium) (request : Request) (platform : Platform) : Item → Job Layout
  | .themeFile => opening request platform
  | .library => do
    let layout ← opening request platform
    let _ ← deliverOn medium request platform false layout .themeFile
    return layout

/-- What an installation does before it delivers an item. -/
def upTo (request : Request) (platform : Platform) (item : Item) : Job Layout :=
  upToOn .sound request platform item

/-- What an installation on a medium does until it has delivered an item. -/
def throughOn (medium : Medium) (request : Request) (platform : Platform) (item : Item) :
    Job Delivery := do
  let layout ← upToOn medium request platform item
  deliverOn medium request platform false layout item

variable {medium : Medium} {request : Request} {platform : Platform} {world : World}
  {layout : Layout} {item : Item} {fs between after final : FileSystem} {delivery theme : Delivery}
  {root : Path}

/-! ## Whose turn comes -/

/-- No item's turn comes if the opening fails. -/
theorem upToOn_unopened {failure : Failure} (medium : Medium)
    (h : (opening request platform world).result = .error failure) (item : Item) :
    (upToOn medium request platform item world).result = .error failure := by
  cases item with
  | themeFile => exact h
  | library => rw [upToOn, Job.bind_error h]

/-- The turn of the library does not come if the theme file is missing. -/
theorem upToOn_themeMissing (medium : Medium)
    (hopening : (opening request platform world).result = .ok layout)
    (htheme : (opening request platform world).files.isFile
      (Item.themeFile.source request platform) = false) :
    (upToOn medium request platform .library world).result =
      .error (missing request platform .themeFile) := by
  rw [upToOn, Job.bind_ok hopening]
  have hnone : deliverOn medium request platform false layout .themeFile
      { world with files := (opening request platform world).files } =
    ⟨.error (missing request platform .themeFile), (opening request platform world).files, []⟩ :=
    deliverOn_missing _ _ htheme
  rw [Job.bind_error (by rw [hnone])]

/-- The turn of the library comes when the theme file is delivered. -/
theorem upToOn_library (hopening : (opening request platform world).result = .ok layout)
    (htheme : (opening request platform world).files.isFile
      (Item.themeFile.source request platform) = true)
    (hdelivered : delivered medium request platform layout .themeFile
      (opening request platform world).files = (theme, between)) :
    (upToOn medium request platform .library world).result = .ok layout ∧
      (upToOn medium request platform .library world).files = between ∧
      Step.deliveries (upToOn medium request platform .library world).steps = [theme] := by
  have hsteps := opening_delivers request platform world
  have htheme' : { world with files := (opening request platform world).files : World }.files.isFile
    (Item.themeFile.source request platform) = true := htheme
  obtain ⟨hresult, hfiles, htold⟩ := deliverOn_delivered medium layout htheme'
  rw [upToOn, Job.bind_ok hopening, Job.bind_ok hresult, hfiles]
  simp only [Step.deliveries_append, hsteps, htold, hdelivered]
  exact ⟨rfl, rfl, rfl⟩

/-! ## What a turn comes to -/

/-- The turn of an item that came to a delivery, with the files before it and those after it. -/
structure TurnOf (medium : Medium) (request : Request) (platform : Platform) (world : World)
    (root : Path) (delivery : Delivery) (fs after : FileSystem) : Prop where
  comes : (upToOn medium request platform delivery.item world).result = .ok (.ofRoot root)
  before : (upToOn medium request platform delivery.item world).files = fs
  /-- The directory of the item is there, -/
  there : fs.isDirectory (delivery.item.directory (.ofRoot root)) = true
  /-- and the item is delivered into it. -/
  delivers : delivered medium request platform (.ofRoot root) delivery.item fs = (delivery, after)
  made : (throughOn medium request platform delivery.item world).result = .ok delivery
  left : (throughOn medium request platform delivery.item world).files = after

/-- An item whose turn comes is delivered, if its source and its directory are there. -/
theorem delivered_turnOf
    (hcomes : (upToOn medium request platform item world).result = .ok (.ofRoot root))
    (hbefore : (upToOn medium request platform item world).files = fs)
    (hthere : fs.isDirectory (item.directory (.ofRoot root)) = true)
    (hsource : fs.isFile (item.source request platform) = true)
    (h : delivered medium request platform (.ofRoot root) item fs = (delivery, after)) :
    TurnOf medium request platform world root delivery fs after := by
  obtain rfl : delivery.item = item := congrArg (·.1) (delivered_way h)
  subst hbefore
  have hsource' :
      { world with files := (upToOn medium request platform delivery.item world).files : World
        }.files.isFile (delivery.item.source request platform) = true := hsource
  obtain ⟨hresult, hleft, -⟩ := deliverOn_delivered medium (.ofRoot root) hsource'
  rw [h] at hresult hleft
  refine ⟨hcomes, rfl, hthere, h, ?_, ?_⟩
  all_goals rw [throughOn, Job.bind_ok hcomes]
  · exact hresult
  · exact hleft

/-- The turns that came to deliveries, one after the other. -/
inductive Turns (medium : Medium) (request : Request) (platform : Platform) (world : World)
    (root : Path) : FileSystem → List Delivery → FileSystem → Prop
  | nil {fs : FileSystem} : Turns medium request platform world root fs [] fs
  | cons {fs between final : FileSystem} {delivery : Delivery} {deliveries : List Delivery}
      (turn : TurnOf medium request platform world root delivery fs between)
      (turns : Turns medium request platform world root between deliveries final) :
      Turns medium request platform world root fs (delivery :: deliveries) final

/-- Each of the deliveries has a turn among them. -/
theorem Turns.turnOf_of_mem {deliveries : List Delivery}
    (h : Turns medium request platform world root fs deliveries final)
    (hmem : delivery ∈ deliveries) :
    ∃ before after, TurnOf medium request platform world root delivery before after := by
  induction h with
  | nil => cases hmem
  | cons turn _ ih =>
    rcases List.mem_cons.1 hmem with rfl | hlater
    · exact ⟨_, _, turn⟩
    · exact ih hlater

/-- On every way that it goes an installation takes the turns of what it delivers. -/
theorem Course.turns {result : Except Failure Report} {deliveries : List Delivery}
    (h : Course medium request platform world result final deliveries)
    (hask : (HostRoot.ask request.helpers platform world).result = .ok root) :
    Turns medium request platform world root (opening request platform world).files deliveries
      final := by
  cases h with
  | unopened | themeMissing => exact .nil
  | libraryMissing hopening htheme hdelivered =>
    obtain ⟨rfl, hthere⟩ := opening_of_ask hask hopening
    have hcomes : (upToOn medium request platform .themeFile world).result =
      .ok (.ofRoot root) := hopening
    exact .cons (delivered_turnOf hcomes rfl (hthere .themeFile) htheme hdelivered) .nil
  | @complete _ theme library between _ hopening htheme hdelivered hlibrary hdelivered' =>
    obtain ⟨rfl, hthere⟩ := opening_of_ask hask hopening
    have hcomes : (upToOn medium request platform .themeFile world).result =
      .ok (.ofRoot root) := hopening
    obtain ⟨hcomes', hbefore, -⟩ := upToOn_library hopening htheme hdelivered
    have hthere' : between.isDirectory (Item.library.directory (.ofRoot root)) = true :=
      (delivered_footprint (fun _ => False) (hthere .themeFile) hdelivered).toGrows.isDirectory
        (hthere .library)
    exact .cons (delivered_turnOf hcomes rfl (hthere .themeFile) htheme hdelivered)
      (.cons (delivered_turnOf hcomes' hbefore hthere' hlibrary hdelivered') .nil)

end ThemeSetup.Install
