import ThemeSetup.Proofs.Files.LinkFree
import ThemeSetup.Proofs.Files.Octets

/-!
# Copying again

A copy that is made again, where there are no links, into a directory that is there. What counts is
the entry of the name in the directory (`Slot.openSink_eq`): as long as neither that entry nor the
source changes in between, a copy that failed fails again with the same error
(`Slot.copyFile_again_of_error`), and a copy that was made can be made again, and changes nothing,
exactly if the file that it left may be written (`Slot.copyFile_again`). The mode of the source
decides that, since a copy takes it over.
-/

namespace ThemeSetup.FileSystem

/-- The regular file that a path leads to, if any, may be written by its owner. -/
def Overwritable (fs : FileSystem) (path : Path) : Prop :=
  ∀ {location : Location} {mode : Mode} {content : Bytes},
    fs.resolve .use path = .ok (.found location) →
    fs.node? location = some (.file mode content) → mode.writable = true

/-- A directory that is there, in a file system without links, and the name of an entry. -/
structure Slot (fs : FileSystem) (directory : Path) (name : Name) (there : Location)
    (refusal : Option OsError) : Prop where
  linkFree : fs.LinkFree
  endsInName : Path.EndsInName directory
  isName : Path.IsName name
  found : fs.resolve .use directory = .ok (.found there)
  node : fs.node? there = some (.directory refusal)

section
variable {fs : FileSystem} {directory : Path} {name : Name} {there : Location}
  {refusal : Option OsError}

/-- A slot stays one in a file system that grew and still has no links. -/
theorem Slot.grown {later : FileSystem} (h : Slot fs directory name there refusal)
    (hgrows : fs.Grows later) (hfree : later.LinkFree) :
    Slot later directory name there refusal where
  linkFree := hfree
  endsInName := h.endsInName
  isName := h.isName
  found := hgrows.resolve_found h.found
  node := hgrows.directory h.node

/-- The paths that are not too long to be looked up. -/
def Fits (directory : Path) (name : Name) : Prop :=
  (directory.join ⟨name⟩).bytes.length < pathLimit ∧ name.length ≤ nameLimit

/-- Where a slot that fits leads, and what is there, is the entry of its name. -/
theorem Slot.resolve_eq (h : Slot fs directory name there refusal) (hfits : Fits directory name)
    {purpose : Purpose} (hmake : purpose ≠ .make) :
    fs.resolve purpose (directory.join ⟨name⟩) = .ok (fs.entryPlace there name) := by
  rw [resolve_join h.linkFree h.endsInName h.isName hmake h.found h.node,
    if_neg (Nat.not_le.2 hfits.1), if_neg (Nat.not_lt.2 hfits.2)]

/-- What a slot that fits leads to is the entry of its name. -/
theorem Slot.overwritable_iff (h : Slot fs directory name there refusal)
    (hfits : Fits directory name) :
    fs.Overwritable (directory.join ⟨name⟩) ↔
      ∀ mode content, fs.node? (there ++ [name]) = some (.file mode content) →
        mode.writable = true := by
  have hresolve : fs.resolve .use _ = _ := h.resolve_eq hfits (by simp)
  unfold entryPlace at hresolve
  constructor
  · intro hwritable mode content hnode
    rw [hnode] at hresolve
    exact hwritable hresolve hnode
  · intro hwritable location mode content hfound hnode
    rw [hfound] at hresolve
    split at hresolve <;> cases hresolve
    exact hwritable mode content hnode

/-- Where what is written to a name in a directory goes, by the node that is there and by what the
directory answers to new entries. -/
def entrySink (location : Location) (refusal : Option OsError) :
    Option Node → Except IoError (Option Location)
  | none =>
    match refusal with
    | some error => .error (.os error)
    | none => .ok (some location)
  | some (.file mode _) =>
    if mode.writable then .ok (some location) else .error (.os .accessDenied)
  | some .device => .ok none
  | some _ => .error (.os .isDirectory)

/-- What is written to a slot that fits goes to the entry of its name. -/
theorem Slot.openSink_eq (h : Slot fs directory name there refusal) (hfits : Fits directory name) :
    fs.openSink (directory.join ⟨name⟩) =
      entrySink (there ++ [name]) refusal (fs.node? (there ++ [name])) := by
  have hresolve : fs.resolve .write _ = _ := h.resolve_eq hfits (by simp)
  unfold openSink
  rw [hresolve, entryPlace]
  cases hentry : fs.node? (there ++ [name]) with
  | none => cases refusal <;> simp only [h.node, entrySink]
  | some node => cases node <;> simp only [hentry, entrySink]

/-- Nothing is written to a slot that does not fit. -/
theorem Slot.openSink_of_not_fits (h : Slot fs directory name there refusal)
    (hfits : ¬ Fits directory name) :
    fs.openSink (directory.join ⟨name⟩) = .error (.os .nameTooLong) := by
  unfold openSink
  rw [resolve_join h.linkFree h.endsInName h.isName (by simp) h.found h.node]
  by_cases hpath : pathLimit ≤ (directory.join ⟨name⟩).bytes.length
  · rw [if_pos hpath]
  · have hlong : nameLimit < name.length :=
      Nat.not_le.1 fun hname => hfits ⟨Nat.not_le.1 hpath, hname⟩
    rw [if_neg hpath, if_pos hlong]

/-- A slot that can be written to fits. -/
theorem Slot.fits (h : Slot fs directory name there refusal) {sink : Option Location}
    (hsink : fs.openSink (directory.join ⟨name⟩) = .ok sink) : Fits directory name := by
  refine Classical.byContradiction fun hfits => ?_
  rw [h.openSink_of_not_fits hfits] at hsink
  cases hsink

/-- What is written to a slot goes to the entry of its name, if not to a device. -/
theorem Slot.eq_of_openSink (h : Slot fs directory name there refusal) {location : Location}
    (hsink : fs.openSink (directory.join ⟨name⟩) = .ok (some location)) :
    location = there ++ [name] := by
  rw [h.openSink_eq (h.fits hsink)] at hsink
  unfold entrySink at hsink
  split at hsink
  · split at hsink <;> cases hsink
    rfl
  · split at hsink <;> cases hsink
    rfl
  · cases hsink
  · cases hsink

/-- A slot whose entry did not change is written to in the same way. -/
theorem Slot.openSink_again {later : FileSystem} (h : Slot fs directory name there refusal)
    (h' : Slot later directory name there refusal)
    (hentry : later.node? (there ++ [name]) = fs.node? (there ++ [name])) :
    later.openSink (directory.join ⟨name⟩) = fs.openSink (directory.join ⟨name⟩) := by
  by_cases hfits : Fits directory name
  · rw [h'.openSink_eq hfits, h.openSink_eq hfits, hentry]
  · rw [h'.openSink_of_not_fits hfits, h.openSink_of_not_fits hfits]

/-- A source whose file did not change is read in the same way. -/
theorem openSource_again {later : FileSystem} {source : Path} {origin : Location}
    (hgrows : fs.Grows later) (hfound : fs.resolve .use source = .ok (.found origin))
    (hnode : later.node? origin = fs.node? origin) :
    later.openSource source = fs.openSource source := by
  unfold openSource
  simp only [hgrows.resolve_found hfound, hfound, hnode]

section
variable {later copied : FileSystem} {source : Path}

/-- A copy that failed, and between which and now neither its source nor the entry of its target
changed, fails again. -/
theorem Slot.copyFile_again_of_error {error : IoError} {origin : Location}
    (h : Slot fs directory name there refusal) (h' : Slot later directory name there refusal)
    (hgrows : fs.Grows later) (hfound : fs.resolve .use source = .ok (.found origin))
    (horigin : later.node? origin = fs.node? origin)
    (hentry : later.node? (there ++ [name]) = fs.node? (there ++ [name]))
    (herror : fs.copyFile .sound source (directory.join ⟨name⟩) = (.error error, fs)) :
    later.copyFile .sound source (directory.join ⟨name⟩) = (.error error, later) := by
  unfold copyFile at herror ⊢
  rw [openSource_again hgrows hfound horigin, h.openSink_again h' hentry]
  split at herror
  · cases herror
    rfl
  · split at herror
    · cases herror
      rfl
    · cases herror
    · cases herror

/-- A copy to an entry that holds what is copied changes nothing, and is made exactly if the entry
may be written. -/
theorem Slot.copyFile_of_entry {origin : Location} {mode : Mode} {read content : Bytes}
    (h : Slot fs directory name there refusal) (hfits : Fits directory name)
    (hread : fs.openSource source = .ok (origin, mode, read))
    (hcontent : (if there ++ [name] = origin then [] else read) = content)
    (hentry : fs.node? (there ++ [name]) = some (.file mode content)) :
    (fs.Overwritable (directory.join ⟨name⟩) →
      fs.copyFile .sound source (directory.join ⟨name⟩) = (.ok content.length, fs)) ∧
    (¬ fs.Overwritable (directory.join ⟨name⟩) →
      fs.copyFile .sound source (directory.join ⟨name⟩) =
        (.error (.os .accessDenied), fs)) := by
  have hsink := h.openSink_eq hfits
  rw [hentry, entrySink] at hsink
  rw [h.overwritable_iff hfits]
  constructor
  · intro hwritable
    rw [if_pos (hwritable mode content hentry)] at hsink
    simp only [copyFile, hread, hsink, hcontent, Medium.sound, insert_eq_self hentry]
  · intro hwritable
    have hmode : ¬ mode.writable = true := fun hmode => hwritable fun mode' content' hnode => by
      rw [hentry] at hnode
      cases hnode
      exact hmode
    rw [if_neg hmode] at hsink
    simp only [copyFile, hread, hsink]

/-- A copy that was made and is made again changes nothing and reports the same, exactly if the
file that it left may be written. -/
theorem Slot.copyFile_again {size : Nat} (h : Slot fs directory name there refusal)
    (h' : Slot later directory name there refusal) (hgrows : copied.Grows later)
    (hsame : ∀ above, later.node? (above ++ [name]) = copied.node? (above ++ [name]))
    (hsource : ∃ base : Path, source = base.join ⟨name⟩)
    (hcopies : Copies fs source (directory.join ⟨name⟩) size copied) :
    (later.Overwritable (directory.join ⟨name⟩) →
      later.copyFile .sound source (directory.join ⟨name⟩) = (.ok size, later)) ∧
    (¬ later.Overwritable (directory.join ⟨name⟩) →
      later.copyFile .sound source (directory.join ⟨name⟩) =
        (.error (.os .accessDenied), later)) := by
  obtain ⟨base, rfl⟩ := hsource
  have hlater := hcopies.grows.trans hgrows
  cases hcopies with
  | device hread hsink =>
    obtain ⟨hfound, -, -⟩ := openSource_eq_ok.1 hread
    obtain ⟨above, rfl⟩ := resolve_found_join h.linkFree h.isName hfound
    have hread' := openSource_again hlater hfound (hsame above)
    have hsink' := h.openSink_again h' (hsame there)
    refine ⟨fun _ => by simp only [copyFile, hread', hread, hsink', hsink, Medium.sound],
      fun hwritable => absurd ?_ hwritable⟩
    -- The entry is no file, so nothing is asked of it.
    rw [h'.overwritable_iff (h.fits hsink)]
    intro mode' content' hnode
    rw [hsink, h'.openSink_eq (h.fits hsink), hnode, entrySink] at hsink'
    split at hsink' <;> cases hsink'
  | @itself location mode content hread hsink =>
    obtain rfl := h.eq_of_openSink hsink
    obtain ⟨hfound, -, hreadable⟩ := openSource_eq_ok.1 hread
    have hentry : later.node? (there ++ [name]) = some (.file mode []) := by
      rw [hsame there, node?_insert, if_pos rfl]
    have hread' : later.openSource (base.join ⟨name⟩) = .ok (there ++ [name], mode, []) :=
      openSource_eq_ok.2 ⟨hlater.resolve_found hfound, hentry, hreadable⟩
    exact h'.copyFile_of_entry (h.fits hsink) hread' (if_pos rfl) hentry
  | @file origin location mode content hread hsink hother =>
    obtain rfl := h.eq_of_openSink hsink
    obtain ⟨hfound, hnode, hreadable⟩ := openSource_eq_ok.1 hread
    obtain ⟨above, rfl⟩ := resolve_found_join h.linkFree h.isName hfound
    have hentry : later.node? (there ++ [name]) = some (.file mode content) := by
      rw [hsame there, node?_insert, if_pos rfl]
    have hread' : later.openSource (base.join ⟨name⟩) = .ok (above ++ [name], mode, content) := by
      refine openSource_eq_ok.2 ⟨hlater.resolve_found hfound, ?_, hreadable⟩
      rw [hsame above, node?_insert, if_neg (Ne.symm hother)]
      exact hnode
    exact h'.copyFile_of_entry (h.fits hsink) hread' (if_neg hother) hentry

/-- A turn changes no entry of another name than its target has. -/
theorem Slot.node?_turn {size : Option Nat} {other : Name} {above : Location}
    (h : Slot fs directory name there refusal) (hother : other ≠ name)
    (hturn : Turn fs source (directory.join ⟨name⟩) size copied) :
    copied.node? (above ++ [other]) = fs.node? (above ++ [other]) := by
  have hne : above ++ [other] ≠ there ++ [name] := fun heq =>
    hother (by simpa using congrArg List.getLast? heq)
  cases hturn with
  | none => rfl
  | copy hcopies =>
    cases hcopies with
    | device => rfl
    | itself _ hsink => rw [h.eq_of_openSink hsink, node?_insert, if_neg hne]
    | file _ hsink => rw [h.eq_of_openSink hsink, node?_insert, if_neg hne]

end

end

end ThemeSetup.FileSystem
