import ThemeSetup.Files.Resolve

/-!
# Making directories and copying files

* `FileSystem.makeDirectory` makes one directory, `FileSystem.makeDirectories` a directory with the
  ancestors it lacks. What was made before an error stays.
* `FileSystem.copyFile` copies the content and the mode of a regular file over another, or to a new
  file. The copy starts by emptying the file at the destination, so a file that is copied over
  itself is empty afterwards.

Both files of a copy are opened before the first octet is moved. From then on it depends on the
medium below the file system whether the copy comes to its end: a `Medium` says which `Mishap`
breaks it off, if any does, and what was written until then stays.
-/

namespace ThemeSetup

/-- What breaks off a copy whose files are open. -/
inductive Mishap where
  /-- The mode of the target cannot be set. A new file keeps the mode that it was made with. -/
  | mode (made : Mode) (error : OsError)
  /-- No more than a number of octets can be read and written. -/
  | octets (count : Nat) (error : OsError)
  deriving DecidableEq, Repr

/-- What is below a file system, and may fail when files are open that nothing else is wrong
with. -/
structure Medium where
  /-- What breaks off the copy of a path to another, with these files. -/
  mishap? : FileSystem → Path → Path → Option Mishap

/-- The medium on which every copy comes to its end. -/
def Medium.sound : Medium :=
  ⟨fun _ _ _ => none⟩

namespace FileSystem

/-- Makes a directory. -/
def makeDirectory (fs : FileSystem) (path : Path) : Except IoError FileSystem :=
  match fs.resolve .make path with
  | .error error => .error error
  | .ok (.found _) => .error (.os .alreadyThere)
  | .ok (.vacant directory name) =>
    match fs.node? directory with
    | some (.directory (some refusal)) => .error (.os refusal)
    | _ => .ok (fs.insert (directory ++ [name]) (.directory none))

/-- Makes the first directory of a list, whose later members are its ancestors. They are made only
when the way to it is missing. -/
def makeLineage (fs : FileSystem) : List Path → Except IoError Unit × FileSystem
  | [] => (.error .noAncestor, fs)
  | path :: ancestors =>
    if path.bytes.isEmpty then (.ok (), fs)
    else match fs.makeDirectory path with
      | .ok made => (.ok (), made)
      | .error (.os error) =>
        if error = .noEntry then
          match fs.makeLineage ancestors with
          | (.error error, above) => (.error error, above)
          | (.ok (), above) =>
            match above.makeDirectory path with
            | .ok made => (.ok (), made)
            | .error error =>
              if above.isDirectory path then (.ok (), above) else (.error error, above)
        else if fs.isDirectory path then (.ok (), fs)
        else (.error (.os error), fs)
      | .error error => if fs.isDirectory path then (.ok (), fs) else (.error error, fs)

/-- Makes a directory and the ancestors it lacks. -/
def makeDirectories (fs : FileSystem) (path : Path) : Except IoError Unit × FileSystem :=
  fs.makeLineage path.lineage

/-- The location, mode and content of a regular file that can be read. -/
def openSource (fs : FileSystem) (path : Path) : Except IoError (Location × Mode × Bytes) :=
  match fs.resolve .use path with
  | .error error => .error error
  | .ok (.vacant _ _) => .error (.os .noEntry)
  | .ok (.found location) =>
    match fs.node? location with
    | some (.file mode content) =>
      if mode.readable then .ok (location, mode, content) else .error (.os .accessDenied)
    | some _ => .error .notRegular
    | none => .error (.os .noEntry)

/-- Where written octets go: to a location, or nowhere. -/
def openSink (fs : FileSystem) (path : Path) : Except IoError (Option Location) :=
  match fs.resolve .write path with
  | .error error => .error error
  | .ok (.vacant directory name) =>
    match fs.node? directory with
    | some (.directory (some refusal)) => .error (.os refusal)
    | _ => .ok (some (directory ++ [name]))
  | .ok (.found location) =>
    match fs.node? location with
    | some (.file mode _) =>
      if mode.writable then .ok (some location) else .error (.os .accessDenied)
    | some .device => .ok none
    | some _ => .error (.os .isDirectory)
    | none => .error (.os .noEntry)

/-- The mode of the file at a location, or the mode that a new file is made with. -/
def modeAt (fs : FileSystem) (location : Location) (made : Mode) : Mode :=
  match fs.node? location with
  | some (.file mode _) => mode
  | _ => made

/-- Copies the content and the mode of a regular file, and counts the octets copied. A device has no
mode to be set. -/
def copyFile (fs : FileSystem) (medium : Medium) (source target : Path) :
    Except IoError Nat × FileSystem :=
  match fs.openSource source with
  | .error error => (.error error, fs)
  | .ok (origin, mode, content) =>
    match fs.openSink target with
    | .error error => (.error error, fs)
    | .ok none =>
      match medium.mishap? fs source target with
      | some (.octets _ error) => (.error (.os error), fs)
      | some (.mode _ _) | none => (.ok content.length, fs)
    | .ok (some location) =>
      -- The file at the target is empty by now, and so is the source if it is the same file.
      let content := if location = origin then [] else content
      match medium.mishap? fs source target with
      | some (.mode made error) =>
        (.error (.os error), fs.insert location (.file (fs.modeAt location made) []))
      | some (.octets count error) =>
        (.error (.os error), fs.insert location (.file mode (content.take count)))
      | none => (.ok content.length, fs.insert location (.file mode content))

end FileSystem

end ThemeSetup
