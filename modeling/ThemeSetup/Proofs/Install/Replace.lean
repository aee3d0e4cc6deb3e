import ThemeSetup.Proofs.Files.LinkFree
import ThemeSetup.Proofs.Install.Delivery

/-!
# Replacing a file

Replacing a file first makes the directory of the target with its ancestors, and only then copies
(`Replacement`). Every check of the two paths comes before the target is emptied. So a replacement
that fails has made directories at most, unless both files were open and the medium broke the copy
off (`Replacement.spares`); then it has written to the target as well. One that succeeds leaves the
content and the mode of the source at the source and at the target (`replaceFile_duplicates`):
directories that were made on the way lead no path astray that led somewhere, and nothing of an
older file is left. Where source and target are one file, that file is empty afterwards.
-/

namespace ThemeSetup

namespace FileSystem

/-- There are no devices: all is regular files, directories and symbolic links. -/
def DeviceFree (fs : FileSystem) : Prop :=
  ∀ location, fs.node? location ≠ some .device

/-- There are no devices where no entry is one. -/
theorem deviceFree_of_entries {fs : FileSystem} (h : ∀ entry ∈ fs.entries, entry.2 ≠ .device) :
    fs.DeviceFree :=
  fun _ hdevice => h _ (mem_of_nodeIn hdevice) rfl

/-- No device is written to where there is none. -/
theorem openSink_ne_none {fs : FileSystem} (hfree : fs.DeviceFree) (path : Path) :
    fs.openSink path ≠ .ok none := by
  intro h
  unfold openSink at h
  split at h
  · cases h
  · split at h <;> cases h
  · split at h
    · split at h <;> cases h
    · next hdevice => exact hfree _ hdevice
    · cases h
    · cases h

/-- Directories that are made are no devices. -/
theorem OnlyMakes.deviceFree {named : Path → Prop} {fs later : FileSystem}
    (h : OnlyMakes named fs later) (hfree : fs.DeviceFree) : later.DeviceFree :=
  fun location hdevice => hfree location (h.node?_eq hdevice nofun)

end FileSystem

namespace Install

open FileSystem (Broken Copies DeviceFree Footprint OnlyMakes)

variable {medium : Medium} {fs made after copied : FileSystem} {source target : Path} {size : Nat}

/-! ## The ways in which it goes -/

/-- A path names the parent of a target, or one of the ancestors of that. -/
def Surrounds (target path : Path) : Prop :=
  ∃ parent, target.parent? = some parent ∧ Path.Ancestor parent path

/-- Making the directory of a target makes that directory and its ancestors alone. -/
theorem surrounded_onlyMakes (fs : FileSystem) (target : Path) :
    OnlyMakes (Surrounds target) fs (surrounded fs target).2 := by
  unfold surrounded
  split
  · next parent hparent =>
    exact (ensureDirectory_footprint fun _ hancestor => ⟨parent, hparent, hancestor⟩).onlyMakes
  · exact (FileSystem.Footprint.refl fs).onlyMakes

/-- The ways in which replacing a file goes on a medium, with its result and the files that are
left. -/
inductive Replacement (medium : Medium) (fs : FileSystem) (source target : Path) :
    Except Failure Nat → FileSystem → Prop
  /-- The directory of the target cannot be made, or one of the files cannot be opened. -/
  | failed {made : FileSystem} {failure : Failure} (hmade : OnlyMakes (Surrounds target) fs made) :
      Replacement medium fs source target (.error failure) made
  /-- The directory of the target is there, and the medium breaks the copy off. -/
  | broken {made left : FileSystem} {failure : Failure}
      (hmade : OnlyMakes (Surrounds target) fs made)
      (hbroken : Broken medium made source target left) :
      Replacement medium fs source target (.error failure) left
  /-- The directory of the target is there, and the file is copied. -/
  | copied {made copied : FileSystem} {size : Nat} (hmade : OnlyMakes (Surrounds target) fs made)
      (hcopies : Copies made source target size copied) :
      Replacement medium fs source target (.ok size) copied

/-- Every replacement goes in one of the ways. -/
theorem replacement (medium : Medium) (fs : FileSystem) (source target : Path) :
    Replacement medium fs source target (replaceFileOn medium fs source target).1
      (replaceFileOn medium fs source target).2 := by
  have hmade := surrounded_onlyMakes fs target
  rcases hready : surrounded fs target with ⟨result, made⟩
  rw [hready] at hmade
  cases result with
  | error failure =>
    rw [replaceFileOn_unready medium source hready]
    exact .failed hmade
  | ok done =>
    rw [replaceFileOn_ready medium source hready]
    have htransfer := FileSystem.transfer medium made source target
    generalize made.copyFile medium source target = copy at htransfer
    obtain ⟨result, left⟩ := copy
    cases htransfer with
    | idle => exact .failed hmade
    | broken hbroken => exact .broken hmade hbroken
    | copied hcopies => exact .copied hmade hcopies

/-- A replacement makes directories that the target needs, and writes to the target alone. -/
theorem Replacement.footprint {result : Except Failure Nat}
    (h : Replacement medium fs source target result after) :
    Footprint (Surrounds target) (fun path => path = target) fs after := by
  cases h with
  | failed hmade => exact hmade.footprint
  | broken hmade hbroken => exact hmade.footprint.trans (.broken rfl hbroken)
  | copied hmade hcopies => exact hmade.footprint.trans (.copy rfl hcopies)

/-- A replacement that fails makes directories that the target needs and does nothing else, unless
the medium breaks the copy off when they are made. -/
theorem Replacement.spares {failure : Failure}
    (h : Replacement medium fs source target (.error failure) after) :
    OnlyMakes (Surrounds target) fs after ∨ ∃ made, OnlyMakes (Surrounds target) fs made ∧
      Broken medium made source target after := by
  cases h with
  | failed hmade => exact .inl hmade
  | broken hmade hbroken => exact .inr ⟨_, hmade, hbroken⟩

/-! ## A replacement that succeeds -/

/-- Source and target lead to regular files that are alike, and the file of the source is the one
that was there before. -/
structure Duplicates (fs after : FileSystem) (source target : Path) (origin place : Location)
    (mode : Mode) (read content : Bytes) : Prop where
  source_leads : after.resolve .use source = .ok (.found origin)
  target_leads : after.resolve .use target = .ok (.found place)
  source_holds : after.node? origin = some (.file mode content)
  target_holds : after.node? place = some (.file mode content)
  /-- The file of the source had the same mode before. -/
  before : fs.node? origin = some (.file mode read)
  /-- If the source led anywhere before, it led to this file. -/
  only : ∀ {location : Location},
    fs.resolve .use source = .ok (.found location) → location = origin
  /-- Both hold what the source held, unless they are one file. -/
  same : content = if place = origin then [] else read

/-- A copy between regular files leaves files that are alike. -/
theorem Duplicates.of_copies (hmade : OnlyMakes (Surrounds target) fs made)
    (hfree : fs.DeviceFree) (h : Copies made source target size copied) :
    ∃ origin place mode read content,
      Duplicates fs copied source target origin place mode read content ∧
        size = content.length := by
  have hgrows := h.grows
  have honly : ∀ {location origin : Location}, made.resolve .use source = .ok (.found origin) →
      fs.resolve .use source = .ok (.found location) → location = origin := by
    intro location origin hfound hbefore
    rw [hmade.grows.resolve_found hbefore] at hfound
    cases hfound
    rfl
  cases h with
  | device _ hsink => exact absurd hsink (FileSystem.openSink_ne_none (hmade.deviceFree hfree) _)
  | @itself location mode read hsource hsink =>
    obtain ⟨hfound, hnode, -⟩ := FileSystem.openSource_eq_ok.1 hsource
    have hwritten : (made.insert location (.file mode [])).node? location =
        some (.file mode []) := by rw [FileSystem.node?_insert, if_pos rfl]
    exact ⟨location, location, mode, read, [],
      { source_leads := hgrows.resolve_found hfound
        target_leads := FileSystem.resolve_insert_sink mode [] hsink
        source_holds := hwritten
        target_holds := hwritten
        before := hmade.node?_eq hnode nofun
        only := honly hfound
        same := by rw [if_pos rfl] }, rfl⟩
  | @file origin place mode read hsource hsink hother =>
    obtain ⟨hfound, hnode, -⟩ := FileSystem.openSource_eq_ok.1 hsource
    exact ⟨origin, place, mode, read, read,
      { source_leads := hgrows.resolve_found hfound
        target_leads := FileSystem.resolve_insert_sink mode read hsink
        source_holds := by rw [FileSystem.node?_insert, if_neg (Ne.symm hother), hnode]
        target_holds := by rw [FileSystem.node?_insert, if_pos rfl]
        before := hmade.node?_eq hnode nofun
        only := honly hfound
        same := by rw [if_neg hother] }, rfl⟩

/-- Where there are no devices a replacement that succeeds, on any medium, leaves source and target
with the same content and mode, and its size is the length of that content. The file of the source
has the mode that it had before. -/
theorem replaceFile_duplicates (hfree : fs.DeviceFree)
    (h : (replaceFileOn medium fs source target).1 = .ok size) :
    ∃ origin place mode read content,
      Duplicates fs (replaceFileOn medium fs source target).2 source target origin place mode read
          content ∧
        size = content.length := by
  have hreplacement := replacement medium fs source target
  rw [h] at hreplacement
  generalize (replaceFileOn medium fs source target).2 = after at hreplacement
  cases hreplacement with
  | copied hmade hcopies => exact Duplicates.of_copies hmade hfree hcopies

/-- A theme file, and a link to a name that is free. -/
def danglingFiles : FileSystem where
  entries :=
    [([], .directory none),
     ([Bytes.ofString "file"], .file 0o640 (Bytes.ofString "theme")),
     ([Bytes.ofString "out"], .directory none),
     ([Bytes.ofString "link"], .link (.ofString "out/copy"))]
  home := []

/-- A file is copied through a link to a free name, by paths that lead nowhere until a directory on
their way is made. -/
theorem replaceFile_duplicates_dangling :
    let source := Path.ofString "new/../file"
    let target := Path.ofString "new/../link"
    let after := (replaceFile danglingFiles source target).2
    danglingFiles.DeviceFree ∧ danglingFiles.target? source = none ∧
      (replaceFile danglingFiles source target).1 = .ok 5 ∧
      ∃ origin place mode read content,
        Duplicates danglingFiles after source target origin place mode read content ∧
          5 = content.length := by
  intro source target after
  have hfree : danglingFiles.DeviceFree :=
    FileSystem.deviceFree_of_entries (by simp [danglingFiles])
  have hcopied : (replaceFile danglingFiles source target).1 = .ok 5 := rfl
  exact ⟨hfree, by decide +kernel, hcopied, replaceFile_duplicates hfree hcopied⟩

end Install

end ThemeSetup
