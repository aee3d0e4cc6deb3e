import ThemeSetup.Proofs.Files.Lineage
import ThemeSetup.Proofs.Install.Prepare

/-!
# Ensuring a directory

Ensuring a directory, whether it succeeds or fails, adds directories to the file system and does
nothing else, so every path still leads where it led (`ensureDirectory_ensures`). It may go a long
way: a part of the path that does not exist is made even if `..` comes after it, and what was made
before a failure stays. To ensure the directory again is harmless in any case: it succeeds exactly
if it did before, and changes nothing (`ensureDirectory_again`).
-/

namespace ThemeSetup.Install

open FileSystem (OnlyMakes)

section
variable {fs later : FileSystem} {directory : Path}

/-- A directory is ensured exactly if it can be made with its ancestors. -/
theorem ensureDirectory_isOk (fs : FileSystem) (directory : Path) :
    (ensureDirectory fs directory).1.isOk = (fs.makeDirectories directory).1.isOk := by
  unfold ensureDirectory
  split
  · next made hmade =>
    rw [hmade]
    rfl
  · next error made hmade =>
    rw [hmade]
    rfl

/-- Ensuring a directory a second time succeeds exactly if it did the first time, and changes
nothing in any case. -/
theorem ensureDirectory_again (fs : FileSystem) (directory : Path) :
    ∃ result, ensureDirectory (ensureDirectory fs directory).2 directory =
        (result, (ensureDirectory fs directory).2) ∧
      result.isOk = (ensureDirectory fs directory).1.isOk := by
  obtain ⟨hfiles, hok⟩ := FileSystem.makeDirectories_again fs directory
  refine ⟨_, Prod.ext rfl ?_, ?_⟩
  · simp only [ensureDirectory_files, hfiles]
  · simp only [ensureDirectory_isOk, ensureDirectory_files, hok]

/-- What ensuring a directory does, by its result and the files that it leaves. -/
structure Ensures (fs : FileSystem) (directory : Path) (result : Except Failure Unit)
    (later : FileSystem) : Prop where
  /-- What was there is there as it was, and what is new is a directory that the path or one of its
  ancestors leads to. -/
  adds : OnlyMakes (Path.Ancestor directory) fs later
  /-- A path that led to something, for whatever purpose it is resolved, leads to the same thing. -/
  leads : ∀ {purpose : Purpose} {path : Path} {location : Location} {node : Node},
    fs.resolve purpose path = .ok (.found location) → fs.node? location = some node →
      later.resolve purpose path = .ok (.found location) ∧ later.node? location = some node
  /-- The directory is there if it was ensured. The empty path names none. -/
  there : result = .ok () → directory.bytes ≠ [] → later.isDirectory directory = true
  /-- A directory that was ensured is ensured again without a change. -/
  again : result = .ok () → ensureDirectory later directory = (.ok (), later)
  /-- A directory that could not be ensured cannot be ensured again, and the attempt changes
  nothing. -/
  refused : ∀ {failure : Failure}, result = .error failure →
    ∃ failure', ensureDirectory later directory = (.error failure', later)
  /-- A directory that was there is ensured without a change. -/
  idle : fs.isDirectory directory = true → result = .ok () ∧ later = fs

/-- Ensuring a directory only adds directories, whatever its result. Paths lead where they led, the
directory is there afterwards if there is no failure, and a second time changes nothing. -/
theorem ensureDirectory_ensures (fs : FileSystem) (directory : Path) :
    Ensures fs directory (ensureDirectory fs directory).1 (ensureDirectory fs directory).2 := by
  have hmakes : OnlyMakes (Path.Ancestor directory) fs (ensureDirectory fs directory).2 :=
    (ensureDirectory_footprint fun _ hancestor => hancestor).onlyMakes
  obtain ⟨result, hagain, hok⟩ := ensureDirectory_again fs directory
  refine
    { adds := hmakes
      leads := fun hfound hnode => ⟨hmakes.grows.resolve_found hfound, hmakes.kept hnode⟩
      there := fun hresult hdirectory => isDirectory_of_ensureDirectory hdirectory hresult
      again := fun hresult => ?_
      refused := fun hresult => ?_
      idle := fun hthere => ?_ }
  · rw [hresult] at hok
    cases result with
    | ok done => exact hagain
    | error failure => cases hok
  · rw [hresult] at hok
    cases result with
    | ok done => cases hok
    | error failure => exact ⟨failure, hagain⟩
  · rw [ensureDirectory_of_isDirectory hthere]
    exact ⟨rfl, rfl⟩

/-- A file, a directory, and a link to a free name in the directory. -/
def looseFiles : FileSystem where
  entries :=
    [([], .directory none),
     ([Bytes.ofString "file"], .file 0o644 (Bytes.ofString "theme")),
     ([Bytes.ofString "out"], .directory none),
     ([Bytes.ofString "link"], .link (.ofString "out/free"))]
  home := []

/-- A directory below a link to a free name cannot be ensured. A directory that the path goes
through before the link is made all the same, and paths through it lead on afterwards. -/
theorem ensureDirectory_ensures_partly :
    let directory := Path.ofString "new/../link/deep"
    let (result, later) := ensureDirectory looseFiles directory
    result.isOk = false ∧ looseFiles.isFile (.ofString "new/../file") = false ∧
      later.isFile (.ofString "new/../file") = true ∧ Ensures looseFiles directory result later :=
  ⟨by decide +kernel, by decide +kernel, by decide +kernel, ensureDirectory_ensures _ _⟩

end

end ThemeSetup.Install
