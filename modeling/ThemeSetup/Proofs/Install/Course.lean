import ThemeSetup.Install.Run
import ThemeSetup.Proofs.HostRoot

/-!
# The course of an installation

An installation opens: it asks for the host's root and makes the directories (`opening`). Then it
delivers the theme file, and then the library. `Course` lists the ways in which this can go on a
medium, with the result, the files that are left and what was delivered, and `runOn_course` says
that every installation goes in one of them. `dryRun_course` says the same of a dry run, which is
over as soon as it knows that both sources are there; the medium has no part in it (`runOn_dry`).
-/

namespace ThemeSetup.Install

variable {medium : Medium} {request : Request} {platform : Platform} {item : Item} {world : World}

/-! ## One delivery -/

/-- What is reported of a copy. -/
def Status.ofCopy : Except Failure Nat → Status
  | .ok size => .copied size
  | .error failure => .failed failure.fullMessage

/-- A copy is no plan. -/
theorem Status.ofCopy_ne_planned (copied : Except Failure Nat) : ofCopy copied ≠ .planned := by
  cases copied <;> exact nofun

/-- The delivery of an item whose source is there, and the files after it. -/
def delivered (medium : Medium) (request : Request) (platform : Platform) (layout : Layout)
    (item : Item) (fs : FileSystem) : Delivery × FileSystem :=
  let source := item.source request platform
  let target := item.target layout platform
  let copy := replaceFileOn medium fs source target
  (⟨item, source, target, .ofCopy copy.1⟩, copy.2)

/-- The failure that an item is missing. -/
def missing (request : Request) (platform : Platform) (item : Item) : Failure :=
  .of (.sourceMissing item.missingLabel (item.source request platform))

/-- An item that is copied becomes a status, whatever the copy comes to. -/
theorem copyItem_eq (medium : Medium) (item : Item) (source target : Path) (world : World) :
    (copyItem medium item source target world).result =
        .ok (.ofCopy (replaceFileOn medium world.files source target).1) ∧
      (copyItem medium item source target world).files =
        (replaceFileOn medium world.files source target).2 ∧
      Step.deliveries (copyItem medium item source target world).steps = [] := by
  unfold copyItem
  rw [Job.bind_ok (a := (replaceFileOn medium world.files source target).1) rfl]
  cases (replaceFileOn medium world.files source target).1 <;> exact ⟨rfl, rfl, rfl⟩

/-- Copying an item tells the log alone. -/
theorem copyItem_unseen {ι : Type} {observe : Step → Option ι}
    (hlog : ∀ event, observe (.log event) = none) (item : Item) (source target : Path) :
    Job.Unseen observe (copyItem medium item source target) := by
  refine .bind (.attempt (.onFiles _)) fun copied => ?_
  split <;> exact .bind (.step (hlog _)) fun _ => .pure _

/-- A delivery tells the log, and tells of itself. -/
theorem deliverOn_unseen {ι : Type} {observe : Step → Option ι}
    (hlog : ∀ event, observe (.log event) = none)
    (hdeliver : ∀ delivery, observe (.deliver delivery) = none) (request : Request)
    (platform : Platform) (dryRun : Bool) (layout : Layout) (item : Item) :
    Job.Unseen observe (deliverOn medium request platform dryRun layout item) := by
  refine .bind (.askFiles _) fun found => ?_
  split
  · exact .fail _
  · dsimp only
    split
    · exact .bind (.pure _) fun _ => .bind (.step (hdeliver _)) fun _ => .pure _
    · exact .bind (copyItem_unseen hlog _ _ _) fun _ => .bind (.step (hdeliver _)) fun _ => .pure _

/-- Nothing is delivered whose source is missing. -/
theorem deliverOn_missing (dryRun : Bool) (layout : Layout)
    (h : world.files.isFile (item.source request platform) = false) :
    deliverOn medium request platform dryRun layout item world =
      ⟨.error (missing request platform item), world.files, []⟩ := by
  unfold deliverOn
  rw [Job.askFiles_bind, h]
  rfl

/-- A dry run plans what is there. -/
theorem deliverOn_planned (layout : Layout)
    (h : world.files.isFile (item.source request platform) = true) :
    deliverOn medium request platform true layout item world =
      let delivery := ⟨item, item.source request platform, item.target layout platform, .planned⟩
      ⟨.ok delivery, world.files, [.deliver delivery]⟩ := by
  unfold deliverOn
  rw [Job.askFiles_bind, h]
  rfl

/-- What is there is delivered. -/
theorem deliverOn_delivered (medium : Medium) (layout : Layout)
    (h : world.files.isFile (item.source request platform) = true) :
    (deliverOn medium request platform false layout item world).result =
        .ok (delivered medium request platform layout item world.files).1 ∧
      (deliverOn medium request platform false layout item world).files =
        (delivered medium request platform layout item world.files).2 ∧
      Step.deliveries (deliverOn medium request platform false layout item world).steps =
        [(delivered medium request platform layout item world.files).1] := by
  obtain ⟨hresult, hfiles, hsteps⟩ := copyItem_eq medium item (item.source request platform)
    (item.target layout platform) world
  unfold deliverOn
  rw [Job.askFiles_bind, h]
  simp only [Bool.not_true, Bool.false_eq_true, if_false]
  rw [Job.bind_ok hresult]
  refine ⟨rfl, hfiles, ?_⟩
  rw [Step.deliveries_append, hsteps]
  rfl

/-- A delivery fails with causes of the tools' own. -/
theorem deliverOn_unnoticed (dryRun : Bool) (layout : Layout) (item : Item) :
    Job.FailsWith Failure.Unnoticed
      (deliverOn medium request platform dryRun layout item) := by
  refine .bind (.askFiles _) fun found => ?_
  split
  · exact .fail nofun
  · dsimp only
    split
    · exact .bind (.pure _) fun _ => .bind (.step _) fun _ => .pure _
    · refine .bind (.bind (.attempt _) fun copied => ?_) fun _ =>
        .bind (.step _) fun _ => .pure _
      split <;> exact .bind (.log _) fun _ => .pure _

/-! ## The two deliveries -/

/-- The report of an installation that delivered two items. -/
def reportOf (platform : Platform) (dryRun : Bool) (layout : Layout) (deliveries : List Delivery) :
    Report :=
  ⟨platform, dryRun, layout, deliveries, deliveries.filterMap Delivery.warning?⟩

/-- The theme file is delivered, then the library, and both are reported. -/
def deliverBoth (medium : Medium) (request : Request) (platform : Platform) (dryRun : Bool)
    (layout : Layout) : Job Report := do
  let theme ← deliverOn medium request platform dryRun layout .themeFile
  let library ← deliverOn medium request platform dryRun layout .library
  return reportOf platform dryRun layout [theme, library]

/-- The two deliveries tell the log, and tell of themselves. -/
theorem deliverBoth_unseen {ι : Type} {observe : Step → Option ι}
    (hlog : ∀ event, observe (.log event) = none)
    (hdeliver : ∀ delivery, observe (.deliver delivery) = none) (request : Request)
    (platform : Platform) (dryRun : Bool) (layout : Layout) :
    Job.Unseen observe (deliverBoth medium request platform dryRun layout) :=
  .bind (deliverOn_unseen hlog hdeliver _ _ _ _ _) fun _ =>
    .bind (deliverOn_unseen hlog hdeliver _ _ _ _ _) fun _ => .pure _

/-- The two deliveries fail with causes of the tools' own. -/
theorem deliverBoth_unnoticed (dryRun : Bool) (layout : Layout) :
    Job.FailsWith Failure.Unnoticed (deliverBoth medium request platform dryRun layout) :=
  .bind (deliverOn_unnoticed _ _ _) fun _ => .bind (deliverOn_unnoticed _ _ _) fun _ => .pure _

/-! ## The opening -/

/-- A run whose helper gives no answer ends there, dry or not. -/
theorem runOn_unanswered {failure : Failure} (medium : Medium) (dryRun : Bool)
    (h : (HostRoot.ask request.helpers platform world).result = .error failure) :
    (runOn medium request platform dryRun world).result = .error failure ∧
      (runOn medium request platform dryRun world).files =
        (HostRoot.ask request.helpers platform world).files := by
  rw [runOn, Job.bind_error h]
  exact ⟨rfl, rfl⟩

/-- What an installation does before it delivers anything. -/
def opening (request : Request) (platform : Platform) : Job Layout := do
  let layout := Layout.ofRoot (← HostRoot.ask request.helpers platform)
  prepare layout
  return layout

/-- An installation opens and then delivers the two items. -/
theorem runOn_eq (medium : Medium) (request : Request) (platform : Platform) :
    runOn medium request platform false =
      (opening request platform >>= deliverBoth medium request platform false) := by
  simp only [opening, Job.bind_assoc, Job.pure_bind]
  rfl

/-- Making the directories tells the log alone. -/
theorem prepare_unseen {ι : Type} {observe : Step → Option ι}
    (hlog : ∀ event, observe (.log event) = none) (layout : Layout) :
    Job.Unseen observe (prepare layout) :=
  .bind (.step (hlog _)) fun _ => .bind (.onFiles _) fun _ =>
    .bind (.step (hlog _)) fun _ => .onFiles _

/-- Making the directories fails with causes of the tools' own. -/
theorem prepare_unnoticed (layout : Layout) :
    Job.FailsWith Failure.Unnoticed (prepare layout) := by
  have hensure (directory : Path) (fs : FileSystem) (failure : Failure)
      (h : (ensureDirectory fs directory).1 = .error failure) : failure.Unnoticed := by
    unfold ensureDirectory at h
    split at h <;> cases h
    exact nofun
  exact .bind (.log _) fun _ => .bind (.onFiles (hensure _)) fun _ =>
    .bind (.log _) fun _ => .onFiles (hensure _)

/-- The opening tells the log, and starts a program. -/
theorem opening_unseen {ι : Type} {observe : Step → Option ι}
    (hlog : ∀ event, observe (.log event) = none)
    (hspawn : ∀ call started, observe (.spawn call started) = none) (request : Request)
    (platform : Platform) : Job.Unseen observe (opening request platform) :=
  .bind (HostRoot.ask_unseen hlog hspawn _ _) fun _ =>
    .bind (prepare_unseen hlog _) fun _ => .pure _

/-- The opening delivers nothing. -/
theorem opening_delivers (request : Request) (platform : Platform) :
    Job.DeliversNothing (opening request platform) :=
  opening_unseen (fun _ => rfl) (fun _ _ => rfl) request platform

/-! ## The whole run -/

section
variable {ι : Type} {observe : Step → Option ι} (hlog : ∀ event, observe (.log event) = none)
  (hdeliver : ∀ delivery, observe (.deliver delivery) = none)
include hlog hdeliver

/-- Who sees neither the log nor the deliveries sees of an installation that the helper is
started. -/
theorem runOn_seen (request : Request) (platform : Platform) (dryRun : Bool) (world : World) :
    (runOn medium request platform dryRun world).steps.filterMap observe =
      (HostRoot.ask request.helpers platform world).steps.filterMap observe := by
  refine Job.Unseen.steps_bind (fun root => ?_) world
  dsimp only
  split
  · exact .bind (prepare_unseen hlog _) fun _ => deliverBoth_unseen hlog hdeliver _ _ _ _
  · exact deliverBoth_unseen hlog hdeliver _ _ _ _

/-- An installation tells the log, starts a program and tells of its deliveries, and that is all:
nothing goes to the streams. -/
theorem runOn_unseen (hspawn : ∀ call started, observe (.spawn call started) = none)
    (request : Request) (platform : Platform) (dryRun : Bool) :
    Job.Unseen observe (runOn medium request platform dryRun) :=
  fun world => (runOn_seen hlog hdeliver request platform dryRun world).trans
    (HostRoot.ask_unseen hlog hspawn _ _ world)

end

/-- An installation fails with causes of the tools' own, dry or not. -/
theorem runOn_unnoticed (medium : Medium) (request : Request) (platform : Platform)
    (dryRun : Bool) : Job.FailsWith Failure.Unnoticed (runOn medium request platform dryRun) := by
  refine .bind (HostRoot.ask_unnoticed _ _) fun root => ?_
  dsimp only
  split
  · exact .bind (prepare_unnoticed _) fun _ => deliverBoth_unnoticed _ _
  · exact deliverBoth_unnoticed _ _

/-- The ways in which an installation goes, with its result, the files it leaves and what it
delivered. -/
inductive Course (medium : Medium) (request : Request) (platform : Platform) (world : World) :
    Except Failure Report → FileSystem → List Delivery → Prop
  /-- The root is not known, or a directory could not be made. -/
  | unopened {failure : Failure}
      (hopening : (opening request platform world).result = .error failure) :
      Course medium request platform world (.error failure)
        (opening request platform world).files []
  /-- The source of the theme file is missing. -/
  | themeMissing {layout : Layout} (hopening : (opening request platform world).result = .ok layout)
      (htheme : (opening request platform world).files.isFile
        (Item.themeFile.source request platform) = false) :
      Course medium request platform world (.error (missing request platform .themeFile))
        (opening request platform world).files []
  /-- The theme file is delivered, and the source of the library is missing then. -/
  | libraryMissing {layout : Layout} {theme : Delivery} {between : FileSystem}
      (hopening : (opening request platform world).result = .ok layout)
      (htheme : (opening request platform world).files.isFile
        (Item.themeFile.source request platform) = true)
      (hdelivered : delivered medium request platform layout .themeFile
        (opening request platform world).files = (theme, between))
      (hlibrary : between.isFile (Item.library.source request platform) = false) :
      Course medium request platform world (.error (missing request platform .library)) between
        [theme]
  /-- Both items are delivered. -/
  | complete {layout : Layout} {theme library : Delivery} {between final : FileSystem}
      (hopening : (opening request platform world).result = .ok layout)
      (htheme : (opening request platform world).files.isFile
        (Item.themeFile.source request platform) = true)
      (hdelivered : delivered medium request platform layout .themeFile
        (opening request platform world).files = (theme, between))
      (hlibrary : between.isFile (Item.library.source request platform) = true)
      (hdelivered' : delivered medium request platform layout .library between = (library, final)) :
      Course medium request platform world
        (.ok (reportOf platform false layout [theme, library])) final [theme, library]

/-- Every installation goes in one of the ways. -/
theorem runOn_course (medium : Medium) (request : Request) (platform : Platform) (world : World) :
    Course medium request platform world (runOn medium request platform false world).result
      (runOn medium request platform false world).files
      (Step.deliveries (runOn medium request platform false world).steps) := by
  have hsteps := opening_delivers request platform world
  rw [runOn_eq]
  cases hopening : (opening request platform world).result with
  | error failure =>
    rw [Job.bind_error hopening, hsteps]
    exact .unopened hopening
  | ok layout =>
    rw [Job.bind_ok hopening, deliverBoth]
    simp only [Step.deliveries_append, hsteps, List.nil_append]
    generalize hready : (opening request platform world).files = ready
    cases htheme : ready.isFile (Item.themeFile.source request platform) with
    | false =>
      have hnone : deliverOn medium request platform false layout .themeFile
            { world with files := ready } =
          ⟨.error (missing request platform .themeFile), ready, []⟩ :=
        deliverOn_missing _ _ htheme
      rw [Job.bind_error (by rw [hnone]), hnone]
      subst hready
      exact .themeMissing hopening htheme
    | true =>
      have htheme' : { world with files := ready : World }.files.isFile
        (Item.themeFile.source request platform) = true := htheme
      obtain ⟨hresult, hfiles, htold⟩ := deliverOn_delivered medium layout htheme'
      rw [Job.bind_ok hresult, hfiles]
      simp only [Step.deliveries_append, htold]
      rcases hdelivered : delivered medium request platform layout .themeFile ready with
        ⟨theme, between⟩
      cases hlibrary : between.isFile (Item.library.source request platform) with
      | false =>
        have hnone : deliverOn medium request platform false layout .library
              { world with files := between } =
            ⟨.error (missing request platform .library), between, []⟩ :=
          deliverOn_missing _ _ hlibrary
        rw [Job.bind_error (by rw [hnone]), hnone]
        subst hready
        exact .libraryMissing hopening htheme hdelivered hlibrary
      | true =>
        have hlibrary' : { world with files := between : World }.files.isFile
          (Item.library.source request platform) = true := hlibrary
        obtain ⟨hresult', hfiles', htold'⟩ := deliverOn_delivered medium layout hlibrary'
        rw [Job.bind_ok hresult', hfiles']
        simp only [Step.deliveries_append, htold']
        subst hready
        exact .complete hopening htheme hdelivered hlibrary rfl

/-- Every installation where no copy is broken off goes in one of the ways. -/
theorem run_course (request : Request) (platform : Platform) (world : World) :
    Course .sound request platform world (run request platform false world).result
      (run request platform false world).files
      (Step.deliveries (run request platform false world).steps) :=
  runOn_course .sound request platform world

/-! ## A dry run -/

/-- Planning is the same on every medium. -/
theorem deliverOn_dry (medium : Medium) (request : Request) (platform : Platform) (layout : Layout)
    (item : Item) :
    deliverOn medium request platform true layout item =
      deliver request platform true layout item := by
  funext world
  cases h : world.files.isFile (item.source request platform) with
  | false => rw [deliver, deliverOn_missing true layout h, deliverOn_missing true layout h]
  | true => rw [deliver, deliverOn_planned layout h, deliverOn_planned layout h]

/-- A dry run is the same on every medium. -/
theorem runOn_dry (medium : Medium) (request : Request) (platform : Platform) :
    runOn medium request platform true = run request platform true := by
  simp only [run, runOn, deliverOn_dry]

/-- What a dry run says of an item whose source is there. -/
def planned (request : Request) (platform : Platform) (layout : Layout) (item : Item) : Delivery :=
  ⟨item, item.source request platform, item.target layout platform, .planned⟩

/-- A dry run asks for the root and then plans the two items. -/
theorem dryRun_eq (request : Request) (platform : Platform) : run request platform true = (do
    let root ← HostRoot.ask request.helpers platform
    let theme ← deliver request platform true (.ofRoot root) .themeFile
    let library ← deliver request platform true (.ofRoot root) .library
    return reportOf platform true (.ofRoot root) [theme, library]) := by
  simp only [run, runOn, deliverOn_dry]
  rfl

/-- Delivering an item in a dry run changes no file. -/
theorem deliver_keepsFiles (request : Request) (platform : Platform) (layout : Layout)
    (item : Item) : Job.KeepsFiles (deliver request platform true layout item) := by
  intro world
  cases h : world.files.isFile (item.source request platform) with
  | false => rw [deliver, deliverOn_missing true layout h]
  | true => rw [deliver, deliverOn_planned layout h]

/-- A dry run leaves the files that the helper leaves. -/
theorem dryRun_files (request : Request) (platform : Platform) (world : World) :
    (run request platform true world).files =
      (HostRoot.ask request.helpers platform world).files := by
  rw [dryRun_eq, Job.files_bind]
  intro root
  exact .bind (deliver_keepsFiles _ _ _ _) fun theme =>
    .bind (deliver_keepsFiles _ _ _ _) fun library => .pure _

/-- The ways in which a dry run goes, with its result and what it planned. It looks for both sources
in the files that the helper left. -/
inductive DryCourse (request : Request) (platform : Platform) (world : World) :
    Except Failure Report → List Delivery → Prop
  /-- The root is not known. -/
  | unanswered {failure : Failure}
      (hask : (HostRoot.ask request.helpers platform world).result = .error failure) :
      DryCourse request platform world (.error failure) []
  /-- The source of the theme file is missing. -/
  | themeMissing {root : Path}
      (hask : (HostRoot.ask request.helpers platform world).result = .ok root)
      (htheme : (HostRoot.ask request.helpers platform world).files.isFile
        (Item.themeFile.source request platform) = false) :
      DryCourse request platform world (.error (missing request platform .themeFile)) []
  /-- The theme file is planned, and the source of the library is missing. -/
  | libraryMissing {root : Path}
      (hask : (HostRoot.ask request.helpers platform world).result = .ok root)
      (htheme : (HostRoot.ask request.helpers platform world).files.isFile
        (Item.themeFile.source request platform) = true)
      (hlibrary : (HostRoot.ask request.helpers platform world).files.isFile
        (Item.library.source request platform) = false) :
      DryCourse request platform world (.error (missing request platform .library))
        [planned request platform (.ofRoot root) .themeFile]
  /-- Both items are planned. -/
  | complete {root : Path}
      (hask : (HostRoot.ask request.helpers platform world).result = .ok root)
      (htheme : (HostRoot.ask request.helpers platform world).files.isFile
        (Item.themeFile.source request platform) = true)
      (hlibrary : (HostRoot.ask request.helpers platform world).files.isFile
        (Item.library.source request platform) = true) :
      DryCourse request platform world
        (.ok (reportOf platform true (.ofRoot root)
          (Item.all.map (planned request platform (.ofRoot root)))))
        (Item.all.map (planned request platform (.ofRoot root)))

/-- Every dry run goes in one of the ways. -/
theorem dryRun_course (request : Request) (platform : Platform) (world : World) :
    DryCourse request platform world (run request platform true world).result
      (Step.deliveries (run request platform true world).steps) := by
  have hsteps := HostRoot.ask_delivers request.helpers platform world
  rw [dryRun_eq]
  cases hask : (HostRoot.ask request.helpers platform world).result with
  | error failure =>
    rw [Job.bind_error hask, hsteps]
    exact .unanswered hask
  | ok root =>
    rw [Job.bind_ok hask]
    simp only [Step.deliveries_append, hsteps, List.nil_append]
    generalize hasked : (HostRoot.ask request.helpers platform world).files = asked
    -- Planning leaves the files alone, so both sources are looked for in the same ones.
    have hthere : ∀ item : Item, asked.isFile (item.source request platform) = true →
        deliver request platform true (.ofRoot root) item { world with files := asked } =
          ⟨.ok (planned request platform (.ofRoot root) item), asked,
            [.deliver (planned request platform (.ofRoot root) item)]⟩ :=
      fun item h => deliverOn_planned (.ofRoot root) h
    have hmissing : ∀ item : Item, asked.isFile (item.source request platform) = false →
        deliver request platform true (.ofRoot root) item { world with files := asked } =
          ⟨.error (missing request platform item), asked, []⟩ :=
      fun item h => deliverOn_missing true (.ofRoot root) h
    cases htheme : asked.isFile (Item.themeFile.source request platform) with
    | false =>
      rw [Job.bind_error (by rw [hmissing _ htheme]), hmissing _ htheme]
      subst hasked
      exact .themeMissing hask htheme
    | true =>
      rw [Job.bind_ok (by rw [hthere _ htheme]), hthere _ htheme]
      cases hlibrary : asked.isFile (Item.library.source request platform) with
      | false =>
        rw [Job.bind_error (by rw [hmissing _ hlibrary]), hmissing _ hlibrary]
        subst hasked
        exact .libraryMissing hask htheme hlibrary
      | true =>
        rw [Job.bind_ok (by rw [hthere _ hlibrary]), hthere _ hlibrary]
        subst hasked
        exact .complete hask htheme hlibrary

end ThemeSetup.Install
