import ThemeSetup.Files.Write
import ThemeSetup.Proofs.Files.Growth

/-!
# Making directories and copying files

What the operations of `ThemeSetup.Files.Write` do, one statement for each. Making a directory with
its ancestors is one attempt to make it (`makeLineage_near`), before which its ancestors are made if
the way to it is missing (`makeLineage_far`). A directory that could be made is there
(`isDirectory_of_makeDirectories`), and making one that is there does nothing
(`makeDirectories_of_isDirectory`). A copy that does not fail read a regular file
(`openSource_eq_ok`) and wrote to a sink (`openSink_eq_some`), which is what the target leads to
afterwards (`resolve_insert_sink`). One that fails has changed nothing, unless the medium broke it
off when both files were open (`transfer`).
-/

namespace ThemeSetup.FileSystem

section
variable {fs made : FileSystem} {location : Location} {path : Path}

/-! ## Directories -/

/-- A directory that is made is placed where its name was vacant. -/
theorem makeDirectory_eq_ok (h : fs.makeDirectory path = .ok made) :
    ∃ directory name, fs.resolve .make path = .ok (.vacant directory name) ∧
      made = fs.insert (directory ++ [name]) (.directory none) := by
  unfold makeDirectory at h
  split at h
  · cases h
  · cases h
  · next directory name hvacant =>
    split at h <;> cases h
    exact ⟨directory, name, hvacant, rfl⟩

/-- A file system grows by the directory that is made. -/
theorem Grows.makeDirectory (h : fs.makeDirectory path = .ok made) : fs.Grows made := by
  obtain ⟨directory, name, hvacant, rfl⟩ := makeDirectory_eq_ok h
  exact .insert_vacant (resolve_vacant hvacant).free

/-- A directory that was made is what its path leads to. -/
theorem resolve_makeDirectory (h : fs.makeDirectory path = .ok made) :
    ∃ location, fs.node? location = none ∧ made = fs.insert location (.directory none) ∧
      made.resolve .use path = .ok (.found location) := by
  have hgrows := Grows.makeDirectory h
  obtain ⟨directory, name, hvacant, rfl⟩ := makeDirectory_eq_ok h
  refine ⟨directory ++ [name], (resolve_vacant hvacant).free, rfl, ?_⟩
  exact hgrows.resolve_reached_directory hvacant (by rw [node?_insert, if_pos rfl])

/-- A directory that was made is a directory. -/
theorem isDirectory_of_makeDirectory (h : fs.makeDirectory path = .ok made) :
    made.isDirectory path = true := by
  obtain ⟨location, -, rfl, hfound⟩ := resolve_makeDirectory h
  exact isDirectory_iff.2 ⟨location, none, hfound, by simp⟩

/-- A directory that is there cannot be made. -/
theorem makeDirectory_of_isDirectory (h : fs.isDirectory path = true) :
    fs.makeDirectory path = .error (.os .alreadyThere) := by
  obtain ⟨location, refusal, hfound, -⟩ := isDirectory_iff.1 h
  obtain ⟨found, hmake⟩ := resolve_make_of_use hfound
  simp only [makeDirectory, hmake]

/-- One attempt to make a directory, which a directory that is there satisfies too. -/
def attempt (fs : FileSystem) (path : Path) : Except IoError Unit × FileSystem :=
  match fs.makeDirectory path with
  | .ok made => (.ok (), made)
  | .error error => if fs.isDirectory path then (.ok (), fs) else (.error error, fs)

/-- Where the way to a directory is there, or there is another reason not to make the directory,
making it with its ancestors is one attempt. -/
theorem makeLineage_near (ancestors : List Path) (hpath : path.bytes ≠ [])
    (hway : fs.makeDirectory path ≠ .error (.os .noEntry)) :
    fs.makeLineage (path :: ancestors) = fs.attempt path := by
  rw [makeLineage, if_neg (by simpa using hpath), attempt]
  cases hmade : fs.makeDirectory path with
  | ok made => rfl
  | error error =>
    cases error with
    | os error =>
      have hother : error ≠ .noEntry := fun herror => hway (by rw [hmade, herror])
      simp only [if_neg hother]
    | zeroInPath | zeroInArgument | notRegular | noAncestor | custom => rfl

/-- Where the way to a directory is missing, its ancestors are made before the attempt. -/
theorem makeLineage_far (ancestors : List Path) (hpath : path.bytes ≠ [])
    (hway : fs.makeDirectory path = .error (.os .noEntry)) :
    fs.makeLineage (path :: ancestors) =
      match fs.makeLineage ancestors with
      | (.error error, above) => (.error error, above)
      | (.ok (), above) => above.attempt path := by
  rw [makeLineage, if_neg (by simpa using hpath), hway]
  dsimp only
  rw [if_pos rfl]
  rcases fs.makeLineage ancestors with ⟨_ | _, above⟩ <;> rfl

/-- The directory of an attempt that succeeds is there. -/
theorem isDirectory_of_attempt (h : (fs.attempt path).1 = .ok ()) :
    (fs.attempt path).2.isDirectory path = true := by
  unfold attempt at h ⊢
  split
  · next made hmade => exact isDirectory_of_makeDirectory hmade
  · next error hmade =>
    rw [hmade] at h
    split
    · next hthere => exact hthere
    · next hthere => simp [hthere] at h

/-- An attempt where the directory is there does nothing. -/
theorem attempt_of_isDirectory (h : fs.isDirectory path = true) :
    fs.attempt path = (.ok (), fs) := by
  simp only [attempt, makeDirectory_of_isDirectory h, h, if_true]

/-- Making a directory that is there, with its ancestors, does nothing. -/
theorem makeLineage_of_isDirectory {ancestors : List Path} (h : fs.isDirectory path = true) :
    fs.makeLineage (path :: ancestors) = (.ok (), fs) := by
  by_cases hpath : path.bytes = []
  · rw [makeLineage, if_pos (by simp [hpath])]
  · have hway : fs.makeDirectory path ≠ .error (.os .noEntry) := by
      rw [makeDirectory_of_isDirectory h, ne_eq, Except.error.injEq, IoError.os.injEq]
      decide
    rw [makeLineage_near ancestors hpath hway, attempt_of_isDirectory h]

/-- A directory that could be made with its ancestors is there. -/
theorem isDirectory_of_makeLineage {ancestors : List Path} (hpath : path.bytes ≠ [])
    (h : (fs.makeLineage (path :: ancestors)).1 = .ok ()) :
    (fs.makeLineage (path :: ancestors)).2.isDirectory path = true := by
  by_cases hway : fs.makeDirectory path = .error (.os .noEntry)
  · rw [makeLineage_far ancestors hpath hway] at h ⊢
    split
    · next error above habove => simp [habove] at h
    · next above habove =>
      rw [habove] at h
      exact isDirectory_of_attempt h
  · rw [makeLineage_near ancestors hpath hway] at h ⊢
    exact isDirectory_of_attempt h

/-- A lineage starts with the path itself. -/
theorem lineage_eq_cons (path : Path) : ∃ ancestors, path.lineage = path :: ancestors := by
  unfold Path.lineage
  cases path.bytes.length with
  | zero => exact ⟨[], rfl⟩
  | succ count => exact ⟨_, rfl⟩

/-- Making a directory that is there does nothing. -/
theorem makeDirectories_of_isDirectory (h : fs.isDirectory path = true) :
    fs.makeDirectories path = (.ok (), fs) := by
  obtain ⟨ancestors, hlineage⟩ := lineage_eq_cons path
  rw [makeDirectories, hlineage, makeLineage_of_isDirectory h]

/-- A directory that could be made is there. -/
theorem isDirectory_of_makeDirectories (hpath : path.bytes ≠ [])
    (h : (fs.makeDirectories path).1 = .ok ()) : (fs.makeDirectories path).2.isDirectory path := by
  obtain ⟨ancestors, hlineage⟩ := lineage_eq_cons path
  rw [makeDirectories, hlineage] at h ⊢
  exact isDirectory_of_makeLineage hpath h

/-! ## Copies -/

variable {origin : Location} {mode : Mode} {content : Bytes}

/-- What can be copied is a regular file that may be read. -/
theorem openSource_eq_ok : fs.openSource path = .ok (origin, mode, content) ↔
    fs.resolve .use path = .ok (.found origin) ∧
      fs.node? origin = some (.file mode content) ∧ mode.readable = true := by
  unfold openSource
  constructor
  · intro h
    split at h
    · cases h
    · cases h
    · next location hfound =>
      split at h
      · next hnode =>
        split at h <;> cases h
        exact ⟨hfound, hnode, ‹_›⟩
      · cases h
      · cases h
  · rintro ⟨hfound, hnode, hreadable⟩
    simp only [hfound, hnode, hreadable, if_true]

/-- What is written to is a vacant name or a regular file that may be written. -/
theorem openSink_eq_some (h : fs.openSink path = .ok (some location)) :
    (∃ directory name, fs.resolve .use path = .ok (.vacant directory name) ∧
      location = directory ++ [name] ∧ fs.node? location = none) ∨
    ∃ mode content, fs.resolve .use path = .ok (.found location) ∧
      fs.node? location = some (.file mode content) ∧ mode.writable = true := by
  unfold openSink at h
  split at h
  · cases h
  · next directory name hvacant =>
    split at h <;> cases h
    exact .inl ⟨directory, name, resolve_use_of_write hvacant, rfl,
      (resolve_vacant hvacant).free⟩
  · next found hfound =>
    split at h
    · next mode content hnode =>
      split at h <;> cases h
      exact .inr ⟨mode, content, resolve_use_of_write hfound, hnode, ‹_›⟩
    all_goals cases h

/-- A file system grows by a file that is written to a sink. -/
theorem Grows.insert_sink (h : fs.openSink path = .ok (some location)) :
    fs.Grows (fs.insert location (.file mode content)) := by
  rcases openSink_eq_some h with ⟨_, _, -, -, hnone⟩ | ⟨_, _, -, hnode, -⟩
  · exact .insert_vacant hnone
  · exact .insert_file hnode

/-- The sink of a path is what it leads to once a file is written to it. -/
theorem resolve_insert_sink (mode : Mode) (content : Bytes)
    (h : fs.openSink path = .ok (some location)) :
    (fs.insert location (.file mode content)).resolve .use path = .ok (.found location) := by
  have hgrows : fs.Grows (fs.insert location (.file mode content)) := .insert_sink h
  rcases openSink_eq_some h with ⟨directory, name, hvacant, rfl, -⟩ | ⟨_, _, hfound, -, -⟩
  · exact hgrows.resolve_reached_file hvacant (by rw [node?_insert, if_pos rfl])
  · exact hgrows.resolve_found hfound

end

/-- The ways in which a copy can go that does not fail: its octets go to a device, or to a file. -/
inductive Copies (fs : FileSystem) (source target : Path) : Nat → FileSystem → Prop
  | device {origin : Location} {mode : Mode} {content : Bytes} :
      fs.openSource source = .ok (origin, mode, content) → fs.openSink target = .ok none →
      Copies fs source target content.length fs
  | itself {location : Location} {mode : Mode} {content : Bytes} :
      fs.openSource source = .ok (location, mode, content) →
      fs.openSink target = .ok (some location) →
      Copies fs source target 0 (fs.insert location (.file mode []))
  | file {origin location : Location} {mode : Mode} {content : Bytes} :
      fs.openSource source = .ok (origin, mode, content) →
      fs.openSink target = .ok (some location) → location ≠ origin →
      Copies fs source target content.length (fs.insert location (.file mode content))

/-- A copy that the medium breaks off when both files are open, with the files that it leaves: the
file at the target holds a first part of what the source held, or nothing if they are the same. -/
inductive Broken (medium : Medium) (fs : FileSystem) (source target : Path) : FileSystem → Prop
  | intro {origin location : Location} {mode mode' : Mode} {content part : Bytes} {mishap : Mishap}
      (hsource : fs.openSource source = .ok (origin, mode, content))
      (hsink : fs.openSink target = .ok (some location))
      (hmishap : medium.mishap? fs source target = some mishap)
      (hpart : part <+: if location = origin then [] else content) :
      Broken medium fs source target (fs.insert location (.file mode' part))

/-- The ways in which a copy goes on a medium, with its result and the files that it leaves. -/
inductive Transfer (medium : Medium) (fs : FileSystem) (source target : Path) :
    Except IoError Nat → FileSystem → Prop
  /-- One of the files cannot be opened, or the octets do not reach a device. -/
  | idle (error : IoError) : Transfer medium fs source target (.error error) fs
  /-- The medium breaks the copy off. -/
  | broken {error : IoError} {left : FileSystem} (hbroken : Broken medium fs source target left) :
      Transfer medium fs source target (.error error) left
  /-- The file is copied. -/
  | copied {size : Nat} {copied : FileSystem} (hcopies : Copies fs source target size copied) :
      Transfer medium fs source target (.ok size) copied

section
variable {medium : Medium} {fs left copied : FileSystem} {source target : Path} {size : Nat}
  {error : IoError}

/-- Every copy goes in one of the ways. -/
theorem transfer (medium : Medium) (fs : FileSystem) (source target : Path) :
    Transfer medium fs source target (fs.copyFile medium source target).1
      (fs.copyFile medium source target).2 := by
  unfold copyFile
  split
  · exact .idle _
  · next origin mode content hsource =>
    split
    · exact .idle _
    · next hsink =>
      split
      · exact .idle _
      · exact .copied (.device hsource hsink)
      · exact .copied (.device hsource hsink)
    · next location hsink =>
      dsimp only
      split
      · next hmishap => exact .broken (.intro hsource hsink hmishap List.nil_prefix)
      · next hmishap =>
        exact .broken (.intro hsource hsink hmishap (List.take_prefix _ _))
      · by_cases hself : location = origin
        · subst hself
          rw [if_pos rfl]
          exact .copied (.itself hsource hsink)
        · rw [if_neg hself]
          exact .copied (.file hsource hsink hself)

/-- A copy that does not fail has copied the file. -/
theorem copies_of_copyFile (h : fs.copyFile medium source target = (.ok size, copied)) :
    Copies fs source target size copied := by
  have htransfer := transfer medium fs source target
  rw [h] at htransfer
  cases htransfer with
  | copied hcopies => exact hcopies

/-- On a sound medium no copy is broken off. -/
theorem not_broken_sound : ¬ Broken .sound fs source target left := by
  rintro ⟨-, -, hmishap, -⟩
  cases hmishap

/-- On a sound medium a copy that fails leaves the files as they were. -/
theorem eq_of_copyFile_error (h : fs.copyFile .sound source target = (.error error, left)) :
    left = fs := by
  have htransfer := transfer .sound fs source target
  rw [h] at htransfer
  cases htransfer with
  | idle => rfl
  | broken hbroken => exact absurd hbroken not_broken_sound

end

end ThemeSetup.FileSystem
