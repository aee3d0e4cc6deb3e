import ThemeSetup.Proofs.Files.Octets
import ThemeSetup.Proofs.Install.Prepare

/-!
# Deliveries into directories that are there

Replacing a file is making the directory of its target, and then copying (`replaceFileOn_ready`).
Once the directories of a layout are there, delivering an item is one copy: the item is copied, or
it could not be copied, and the files are those that the copy leaves (`delivered_eq`). So a delivery
writes to its target if the copy opened it, and nowhere else (`delivered_footprint`), and a sound
medium leaves the files as they were if the item could not be copied (`delivered_turn`). The two
directories stay there from the opening on, and every delivery of an installation is of this
form.
-/

namespace ThemeSetup.Install

open FileSystem (Broken)

variable {medium : Medium} {request : Request} {platform : Platform} {item : Item}
  {fs : FileSystem} {root target : Path}

/-- The targets of the items of a layout. -/
def Layout.Targets (layout : Layout) (platform : Platform) (path : Path) : Prop :=
  ∃ item : Item, path = item.target layout platform

/-- The failure to copy a file. -/
def uncopied (source target : Path) (error : IoError) : Failure :=
  (Failure.of (.io error)).within (.text ("copy " ++ source.display ++ " -> " ++ target.display))

/-- Makes the directory that a target needs, with its ancestors. -/
def surrounded (fs : FileSystem) (target : Path) : Except Failure Unit × FileSystem :=
  match target.parent? with
  | some parent => ensureDirectory fs parent
  | none => (.ok (), fs)

/-- Where the directory of the target cannot be made nothing is replaced. -/
theorem replaceFileOn_unready {made : FileSystem} {failure : Failure} (medium : Medium)
    (source : Path) (h : surrounded fs target = (.error failure, made)) :
    replaceFileOn medium fs source target = (.error failure, made) := by
  cases hparent : target.parent? with
  | none =>
    simp only [surrounded, hparent] at h
    cases h
  | some parent =>
    simp only [surrounded, hparent] at h
    simp only [replaceFileOn, hparent, h]

/-- Where the directory of the target is made replacing a file is copying it. -/
theorem replaceFileOn_ready {made : FileSystem} (medium : Medium) (source : Path)
    (h : surrounded fs target = (.ok (), made)) :
    replaceFileOn medium fs source target =
      ((made.copyFile medium source target).1.mapError (uncopied source target),
        (made.copyFile medium source target).2) := by
  cases hparent : target.parent? with
  | none =>
    simp only [surrounded, hparent] at h
    cases h
    simp only [replaceFileOn, hparent]
    rcases fs.copyFile medium source target with ⟨_ | _, _⟩ <;> rfl
  | some parent =>
    simp only [surrounded, hparent] at h
    simp only [replaceFileOn, hparent, h]
    rcases made.copyFile medium source target with ⟨_ | _, _⟩ <;> rfl

/-- An item that is delivered is copied, or the copy fails; the files are those that it leaves. -/
theorem delivered_eq (medium : Medium) (request : Request) (platform : Platform)
    (h : fs.isDirectory (item.directory (.ofRoot root)) = true) :
    delivered medium request platform (.ofRoot root) item fs =
      let source := item.source request platform
      let target := item.target (.ofRoot root) platform
      let copy := fs.copyFile medium source target
      (⟨item, source, target, .ofCopy (copy.1.mapError (uncopied source target))⟩, copy.2) := by
  have hready : surrounded fs (item.target (.ofRoot root) platform) = (.ok (), fs) := by
    simp only [surrounded, Item.parent?_target, ensureDirectory_of_isDirectory h]
  simp only [delivered, replaceFileOn_ready medium (item.source request platform) hready]

/-- The way of a delivery: its item, source and target. -/
def Delivery.way (delivery : Delivery) : Item × Path × Path :=
  (delivery.item, delivery.source, delivery.target)

/-- The way of an item in a layout. -/
def Item.way (item : Item) (request : Request) (platform : Platform) (layout : Layout) :
    Item × Path × Path :=
  (item, item.source request platform, item.target layout platform)

/-- The delivery of an item goes its way. -/
theorem delivered_way {layout : Layout} {after : FileSystem} {delivery : Delivery}
    (h : delivered medium request platform layout item fs = (delivery, after)) :
    delivery.way = item.way request platform layout := by
  obtain rfl : (delivered medium request platform layout item fs).1 = delivery :=
    congrArg Prod.fst h
  rfl

/-- The number of octets that a status reports as copied. -/
def Status.size? : Status → Option Nat
  | .copied size => some size
  | .planned | .failed _ => none

/-- A status that reports a number of octets reports them as copied. -/
theorem Status.size?_eq_some {status : Status} {size : Nat} :
    status.size? = some size ↔ status = .copied size := by
  cases status <;> simp [Status.size?]

/-- A delivery on a sound medium is a turn from the source of its item to the target. -/
theorem delivered_turn {after : FileSystem} {delivery : Delivery}
    (hthere : fs.isDirectory (item.directory (.ofRoot root)) = true)
    (h : delivered .sound request platform (.ofRoot root) item fs = (delivery, after)) :
    FileSystem.Turn fs (item.source request platform) (item.target (.ofRoot root) platform)
      delivery.status.size? after := by
  rw [delivered_eq .sound request platform hthere] at h
  dsimp only at h
  rcases hcopy : fs.copyFile .sound (item.source request platform)
    (item.target (.ofRoot root) platform) with ⟨error | size, left⟩
  all_goals
    rw [hcopy] at h
    cases h
  · obtain rfl := FileSystem.eq_of_copyFile_error hcopy
    exact .none hcopy
  · exact .copy (FileSystem.copies_of_copyFile hcopy)

/-- Two deliveries, one after the other, are two turns: the directories are there for both. -/
theorem delivered_turns {between after : FileSystem} {theme library : Delivery}
    (hthere : ∀ item : Item, fs.isDirectory (item.directory (.ofRoot root)) = true)
    (h : delivered .sound request platform (.ofRoot root) .themeFile fs = (theme, between))
    (h' : delivered .sound request platform (.ofRoot root) .library between = (library, after)) :
    between.isDirectory (Item.library.directory (.ofRoot root)) = true ∧
      FileSystem.Turn fs (Item.themeFile.source request platform)
        (Item.themeFile.target (.ofRoot root) platform) theme.status.size? between ∧
      FileSystem.Turn between (Item.library.source request platform)
        (Item.library.target (.ofRoot root) platform) library.status.size? after := by
  have hfirst := delivered_turn (hthere .themeFile) h
  have hthere' := hfirst.grows.isDirectory (hthere .library)
  exact ⟨hthere', hfirst, delivered_turn hthere' h'⟩

/-- A delivery is a copy from its source to its target, and reports what that came to. -/
theorem delivered_transfer {after : FileSystem} {delivery : Delivery}
    (hthere : fs.isDirectory (item.directory (.ofRoot root)) = true)
    (h : delivered medium request platform (.ofRoot root) item fs = (delivery, after)) :
    ∃ result, FileSystem.Transfer medium fs delivery.source delivery.target result after ∧
      delivery.status = .ofCopy (result.mapError (uncopied delivery.source delivery.target)) := by
  rw [delivered_eq medium request platform hthere] at h
  cases h
  exact ⟨_, FileSystem.transfer medium fs _ _, rfl⟩

/-- A delivery opened the file of its target, between the files before it and those after it: the
item is reported as copied, or the medium broke the copy off. -/
def Delivery.Opens (delivery : Delivery) (medium : Medium) (fs after : FileSystem) : Prop :=
  (∃ size, delivery.status = .copied size) ∨
    Broken medium fs delivery.source delivery.target after

/-- A delivery writes to its target, and that only if it opened it. -/
theorem delivered_footprint (named : Path → Prop) {after : FileSystem} {delivery : Delivery}
    (hthere : fs.isDirectory (item.directory (.ofRoot root)) = true)
    (h : delivered medium request platform (.ofRoot root) item fs = (delivery, after)) :
    FileSystem.Footprint named
      (fun path => path = delivery.target ∧ delivery.Opens medium fs after) fs after := by
  obtain ⟨result, htransfer, hstatus⟩ := delivered_transfer hthere h
  cases htransfer with
  | idle => exact .refl _
  | broken hbroken => exact .broken ⟨rfl, .inr hbroken⟩ hbroken
  | copied hcopies => exact .copy ⟨rfl, .inl ⟨_, hstatus⟩⟩ hcopies

/-- A delivery that failed changed nothing, unless the medium broke the copy off. -/
theorem delivered_failed {after : FileSystem} {delivery : Delivery} {error : String}
    (hthere : fs.isDirectory (item.directory (.ofRoot root)) = true)
    (h : delivered medium request platform (.ofRoot root) item fs = (delivery, after))
    (hfailed : delivery.status = .failed error) :
    after = fs ∨ Broken medium fs delivery.source delivery.target after := by
  obtain ⟨result, htransfer, hstatus⟩ := delivered_transfer hthere h
  cases htransfer with
  | idle => exact .inl rfl
  | broken hbroken => exact .inr hbroken
  | copied =>
    rw [hfailed] at hstatus
    cases hstatus

end ThemeSetup.Install
