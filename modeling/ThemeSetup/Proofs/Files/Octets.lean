import ThemeSetup.Proofs.Files.Write

/-!
# What a copy does to the octets of files

`FileSystem.octets?` are the octets of the file that a path leads to. A copy changes the octets that
a path leads to exactly if it `Spoils` that path: it writes to the same file, and other octets than
are there (`Turn.octets?_iff`). The source of a copy is such a path too, if it is another name of
the target: then the target is emptied before a single octet is read. Apart from that, and from
devices, source and target hold the same octets after a copy (`Copies.sound`).

A copy may also not come about; `Turn` is a copy or none.
-/

namespace ThemeSetup.FileSystem

/-- The octets of the regular file that a path leads to. -/
def octets? (fs : FileSystem) (path : Path) : Option Bytes :=
  match fs.target? path with
  | some (.file _ content) => some content
  | _ => none

/-- A copy from a source to a target replaces the octets of the file that another path leads to. -/
inductive Spoils (fs : FileSystem) (source target path : Path) : Prop
  | intro {origin location : Location} {mode mode' : Mode} {content old : Bytes}
      (hsource : fs.openSource source = .ok (origin, mode, content))
      (hsink : fs.openSink target = .ok (some location))
      (hpath : fs.resolve .use path = .ok (.found location))
      (hold : fs.node? location = some (.file mode' old))
      (hother : old ≠ if location = origin then [] else content)

/-- A copy or none: the number of octets copied, if there was a copy, and the files after it. -/
inductive Turn (fs : FileSystem) (source target : Path) : Option Nat → FileSystem → Prop
  | none {error : IoError} :
      fs.copyFile .sound source target = (.error error, fs) → Turn fs source target none fs
  | copy {size : Nat} {copied : FileSystem} :
      Copies fs source target size copied → Turn fs source target (some size) copied

section
variable {fs later copied : FileSystem} {source target path : Path} {content : Bytes}

/-- A path has octets if it leads to a file with them. -/
theorem octets?_eq_some : fs.octets? path = some content ↔
    ∃ location mode, fs.resolve .use path = .ok (.found location) ∧
      fs.node? location = some (.file mode content) := by
  unfold octets? target?
  constructor
  · intro h
    split at h
    · next mode _ hnode =>
      cases h
      split at hnode
      · next location hfound => exact ⟨location, mode, hfound, hnode⟩
      · cases hnode
    · cases h
  · rintro ⟨location, mode, hfound, hnode⟩
    simp only [hfound, hnode]

/-- A path that leads to a file has octets. -/
theorem octets?_of_isFile (h : fs.isFile path = true) :
    ∃ content, fs.octets? path = some content := by
  obtain ⟨location, mode, content, hfound, hnode⟩ := isFile_iff.1 h
  exact ⟨content, octets?_eq_some.2 ⟨location, mode, hfound, hnode⟩⟩

/-- A path that had octets has octets when the file system grew. -/
theorem Grows.octets? (h : fs.Grows later) (hoctets : fs.octets? path = some content) :
    ∃ content', later.octets? path = some content' := by
  obtain ⟨location, mode, hfound, hnode⟩ := octets?_eq_some.1 hoctets
  obtain ⟨kept, hkept, halike⟩ := h.keeps hnode
  cases halike with
  | file => exact ⟨_, octets?_eq_some.2 ⟨location, _, h.resolve_found hfound, hkept⟩⟩
  | same => exact ⟨_, octets?_eq_some.2 ⟨location, _, h.resolve_found hfound, hkept⟩⟩

/-- The octets of a path are those of the location that it led to before the file system grew. -/
theorem Grows.octets?_iff {location : Location} (h : fs.Grows later)
    (hfound : fs.resolve .use path = .ok (.found location)) :
    later.octets? path = some content ↔
      ∃ mode, later.node? location = some (.file mode content) := by
  have hlater := h.resolve_found hfound
  rw [octets?_eq_some]
  constructor
  · rintro ⟨location', mode, hfound', hnode⟩
    rw [hlater] at hfound'
    cases hfound'
    exact ⟨mode, hnode⟩
  · rintro ⟨mode, hnode⟩
    exact ⟨location, mode, hlater, hnode⟩

/-- A file system grows by a copy. -/
theorem Copies.grows {size : Nat} (h : Copies fs source target size copied) : fs.Grows copied := by
  cases h with
  | device => exact .refl fs
  | itself _ hsink => exact .insert_sink hsink
  | file _ hsink => exact .insert_sink hsink

/-- The octets that a path has after a file was written to a sink: those written if the path leads
to it, and else those it had. -/
theorem octets?_insert_sink {location place : Location} {mode mode' : Mode} {written : Bytes}
    (hsink : fs.openSink target = .ok (some location))
    (hfound : fs.resolve .use path = .ok (.found place))
    (hnode : fs.node? place = some (.file mode' content)) :
    (fs.insert location (.file mode written)).octets? path =
      some (if place = location then written else content) := by
  have hgrows : fs.Grows (fs.insert location (.file mode written)) := .insert_sink hsink
  rw [hgrows.octets?_iff hfound, node?_insert]
  split
  · exact ⟨mode, rfl⟩
  · exact ⟨mode', hnode⟩

/-- Which paths are spoiled by a copy whose source and sink are known. -/
theorem spoils_iff {origin location : Location} {mode : Mode}
    (hsource : fs.openSource source = .ok (origin, mode, content))
    (hsink : fs.openSink target = .ok (some location)) :
    fs.Spoils source target path ↔
      ∃ mode' old, fs.resolve .use path = .ok (.found location) ∧
        fs.node? location = some (.file mode' old) ∧
        old ≠ if location = origin then [] else content := by
  constructor
  · rintro ⟨hsource', hsink', hpath, hold, hother⟩
    rw [hsource] at hsource'
    rw [hsink] at hsink'
    cases hsource'
    cases hsink'
    exact ⟨_, _, hpath, hold, hother⟩
  · rintro ⟨mode', old, hpath, hold, hother⟩
    exact ⟨hsource, hsink, hpath, hold, hother⟩

/-- A path that had octets keeps them over a copy exactly if the copy does not spoil it. -/
theorem Copies.octets?_iff {size : Nat} (h : Copies fs source target size copied)
    (hoctets : fs.octets? path = some content) :
    copied.octets? path = some content ↔ ¬ fs.Spoils source target path := by
  obtain ⟨place, mode, hfound, hnode⟩ := octets?_eq_some.1 hoctets
  -- Whatever is written, the path is spoiled if it leads to the sink and other octets are there.
  have hspoils : ∀ {origin location : Location} {mode' : Mode} {read : Bytes},
      fs.openSource source = .ok (origin, mode', read) →
      fs.openSink target = .ok (some location) →
      (fs.Spoils source target path ↔
        place = location ∧ content ≠ if location = origin then [] else read) := by
    intro origin location mode' read hsource hsink
    rw [spoils_iff hsource hsink]
    constructor
    · rintro ⟨mode'', old, hpath, hold, hother⟩
      rw [hfound] at hpath
      cases hpath
      rw [hnode] at hold
      cases hold
      exact ⟨rfl, hother⟩
    · rintro ⟨rfl, hother⟩
      exact ⟨mode, content, hfound, hnode, hother⟩
  cases h with
  | device hsource hsink =>
    refine iff_of_true hoctets ?_
    rintro ⟨-, hsink', -, -, -⟩
    rw [hsink] at hsink'
    cases hsink'
  | itself hsource hsink =>
    rw [octets?_insert_sink hsink hfound hnode, hspoils hsource hsink, if_pos rfl]
    split
    · next hplace => simp [hplace, eq_comm]
    · next hplace => simp [hplace]
  | file hsource hsink hother =>
    rw [octets?_insert_sink hsink hfound hnode, hspoils hsource hsink, if_neg hother]
    split
    · next hplace => simp [hplace, eq_comm]
    · next hplace => simp [hplace]

/-- A copy that does not come about spoils nothing. -/
theorem not_spoils_of_error {error : IoError}
    (h : fs.copyFile .sound source target = (.error error, fs)) :
    ¬ fs.Spoils source target path := by
  rintro ⟨hsource, hsink, -, -, -⟩
  simp [copyFile, hsource, hsink, Medium.sound] at h

/-- A path that is spoiled had octets. -/
theorem Spoils.octets? (h : fs.Spoils source target path) :
    ∃ content, fs.octets? path = some content := by
  obtain ⟨-, -, hpath, hold, -⟩ := h
  exact ⟨_, octets?_eq_some.2 ⟨_, _, hpath, hold⟩⟩

/-- A file system grows by a turn. -/
theorem Turn.grows {size : Option Nat} (h : Turn fs source target size copied) :
    fs.Grows copied := by
  cases h with
  | none => exact .refl fs
  | copy hcopies => exact hcopies.grows

/-- A path that had octets keeps them over a turn exactly if the copy does not spoil it. -/
theorem Turn.octets?_iff {size : Option Nat} (h : Turn fs source target size copied)
    (hoctets : fs.octets? path = some content) :
    copied.octets? path = some content ↔ ¬ fs.Spoils source target path := by
  cases h with
  | none herror => exact iff_of_true hoctets (not_spoils_of_error herror)
  | copy hcopies => exact hcopies.octets?_iff hoctets

/-- The octets of the source go to a device. -/
def ToDevice (fs : FileSystem) (source target : Path) : Prop :=
  (∃ read, fs.openSource source = .ok read) ∧ fs.openSink target = .ok none

/-- A copy that does not come about goes to no device. -/
theorem not_toDevice_of_error {error : IoError}
    (h : fs.copyFile .sound source target = (.error error, fs)) :
    ¬ fs.ToDevice source target := by
  rintro ⟨⟨read, hsource⟩, hsink⟩
  simp [copyFile, hsource, hsink, Medium.sound] at h

/-- The source that can be opened has the octets that are read. -/
theorem octets?_of_openSource {origin : Location} {mode : Mode}
    (h : fs.openSource source = .ok (origin, mode, content)) :
    fs.octets? source = some content := by
  obtain ⟨hfound, hnode, -⟩ := openSource_eq_ok.1 h
  exact octets?_eq_some.2 ⟨origin, mode, hfound, hnode⟩

/-- A path whose octets would go to a device has none, whatever the file system grows to. -/
theorem octets?_of_openSink_none (h : fs.openSink target = .ok none) (hgrows : fs.Grows later) :
    later.octets? target = none := by
  unfold openSink at h
  split at h
  · cases h
  · split at h <;> cases h
  · next location hfound =>
    split at h
    · split at h <;> cases h
    · next hdevice =>
      obtain ⟨kept, hkept, halike⟩ := hgrows.keeps hdevice
      cases halike
      unfold octets? target?
      rw [hgrows.resolve_found (resolve_use_of_write hfound)]
      simp only [hkept]
    · cases h
    · cases h

/-- What is copied has octets, and the target has them after the copy unless the copy spoils its own
source or goes to a device. -/
theorem Copies.sound {size : Nat} (h : Copies fs source target size copied) :
    ∃ content, fs.octets? source = some content ∧
      (¬ fs.Spoils source target source → ¬ fs.ToDevice source target →
        copied.octets? target = some content ∧ size = content.length) := by
  cases h with
  | @device origin mode content hsource hsink =>
    exact ⟨content, octets?_of_openSource hsource, fun _ hdevice =>
      absurd ⟨⟨_, hsource⟩, hsink⟩ hdevice⟩
  | @itself location mode content hsource hsink =>
    refine ⟨content, octets?_of_openSource hsource, fun hspoils _ => ?_⟩
    obtain ⟨hfound, hnode, -⟩ := openSource_eq_ok.1 hsource
    obtain rfl : content = [] := Decidable.byContradiction fun hcontent =>
      hspoils ⟨hsource, hsink, hfound, hnode, by rw [if_pos rfl]; exact hcontent⟩
    exact ⟨octets?_eq_some.2 ⟨location, mode, resolve_insert_sink mode [] hsink,
      by rw [node?_insert, if_pos rfl]⟩, rfl⟩
  | @file origin location mode content hsource hsink _ =>
    exact ⟨content, octets?_of_openSource hsource, fun _ _ =>
      ⟨octets?_eq_some.2 ⟨location, mode, resolve_insert_sink mode content hsink,
        by rw [node?_insert, if_pos rfl]⟩, rfl⟩⟩

/-- A copy that reports all octets of its source, and leaves octets at its target, does not spoil
its source and does not go to a device. -/
theorem Copies.spares_source {size : Nat} {content' : Bytes}
    (h : Copies fs source target size copied) (hgrows : copied.Grows later)
    (hsource : fs.octets? source = some content) (htarget : later.octets? target = some content')
    (hsize : size = content.length) :
    ¬ fs.Spoils source target source ∧ ¬ fs.ToDevice source target := by
  cases h with
  | device hread hsink =>
    rw [octets?_of_openSink_none hsink hgrows] at htarget
    cases htarget
  | itself hread hsink =>
    rw [octets?_of_openSource hread] at hsource
    cases hsource
    obtain rfl := List.length_eq_zero_iff.1 hsize.symm
    obtain ⟨-, hnode, -⟩ := openSource_eq_ok.1 hread
    refine ⟨fun hspoils => ?_, fun hdevice => by simp [ToDevice, hsink] at hdevice⟩
    obtain ⟨mode', old, -, hold, hother⟩ := (spoils_iff hread hsink).1 hspoils
    rw [hnode] at hold
    cases hold
    simp at hother
  | file hread hsink hne =>
    obtain ⟨hfound, -, -⟩ := openSource_eq_ok.1 hread
    refine ⟨fun hspoils => ?_, fun hdevice => by simp [ToDevice, hsink] at hdevice⟩
    obtain ⟨mode', old, hpath, -, -⟩ := (spoils_iff hread hsink).1 hspoils
    rw [hfound] at hpath
    cases hpath
    exact hne rfl

end

end ThemeSetup.FileSystem
