import ThemeSetup.Files.Basic

/-!
# Path resolution

A path is followed part by part. Every part but the last has to lead to a directory, links on the
way are followed, and so is a link at the end unless the purpose is to make a new entry of the
name. At most `linkLimit` links are followed, which is what ends the resolution of a link that
leads back to itself.

`FileSystem.resolve` answers with a `Place`: the location that is there, or the free name in a
directory that is there.
-/

namespace ThemeSetup

/-- An error of a file operation or of starting a program. -/
inductive IoError where
  /-- The operating system answers with an error. -/
  | os (error : OsError)
  /-- A path holds an octet zero. -/
  | zeroInPath
  /-- The path or an argument of a program holds an octet zero. -/
  | zeroInArgument
  /-- What is to be copied is no regular file. -/
  | notRegular
  /-- There is no ancestor to create a directory in. -/
  | noAncestor
  /-- An error with a text of its own. -/
  | custom (text : String)
  deriving DecidableEq, Repr

/-- The wording of an error. -/
def IoError.message : IoError → String
  | .os error => error.message
  | .zeroInPath => "file name contained an unexpected NUL byte"
  | .zeroInArgument => "nul byte found in provided data"
  | .notRegular => "the source path is neither a regular file nor a symlink to a regular file"
  | .noAncestor => "failed to create whole tree"
  | .custom text => text

/-- A part of a path as the resolution sees it. -/
inductive Component where
  /-- The directory itself. -/
  | self
  /-- The directory above. -/
  | up
  /-- An entry of the directory. -/
  | name (name : Name)
  /-- A slash at the end, which asks for a directory. -/
  | endSlash
  deriving DecidableEq, Repr

/-- The component of a part between slashes, if it names anything. -/
def Component.ofPart? (part : Bytes) : Option Component :=
  if part.isEmpty then none
  else if part = [Path.dot] then some .self
  else if part = [Path.dot, Path.dot] then some .up
  else some (.name part)

namespace Path

/-- The components of a path without the slashes at its end. -/
def steps (path : Path) : List Component :=
  path.parts.filterMap Component.ofPart?

/-- The components of a path; a slash at the end counts if something comes before it. -/
def components (path : Path) : List Component :=
  if path.endsInSlash && !path.steps.isEmpty then path.steps ++ [.endSlash] else path.steps

end Path

/-- What a path is resolved for. -/
inductive Purpose where
  /-- To use what is there. -/
  | use
  /-- To make an entry of the name: a link of that name counts as being there. -/
  | make
  /-- To write a file, which is created if it is not there. -/
  | write
  deriving DecidableEq, Repr

/-- Where a path leads. -/
inductive Place where
  /-- Something is at the location. -/
  | found (location : Location)
  /-- The directory is there and has no entry of the name. -/
  | vacant (directory : Location) (name : Name)
  deriving DecidableEq, Repr

/-- How far components can be followed without following a link. -/
inductive Walk where
  /-- To the end. -/
  | ended (place : Place)
  /-- To a link in a directory, with components after it. -/
  | link (directory : Location) (target : Path) (rest : List Component)
  deriving DecidableEq, Repr

/-- The longest name of an entry. -/
def nameLimit : Nat := 255

/-- The longest path, with the octet that ends it. -/
def pathLimit : Nat := 4096

/-- How many links are followed on the way of one path. -/
def linkLimit : Nat := 40

namespace FileSystem

/-- Follows components from a location, up to the first link that has to be followed. -/
def walk (fs : FileSystem) (purpose : Purpose) : Location → List Component → Except OsError Walk
  | here, [] => .ok (.ended (.found here))
  | here, component :: rest =>
    match fs.node? here with
    | none => .error .noEntry
    | some (.directory _) =>
      match component with
      | .self | .endSlash => fs.walk purpose here rest
      | .up => fs.walk purpose here.dropLast rest
      | .name name =>
        if purpose = .write ∧ rest = [.endSlash] then .error .isDirectory
        else if nameLimit < name.length then .error .nameTooLong
        else match fs.node? (here ++ [name]) with
          | none => if rest.isEmpty then .ok (.ended (.vacant here name)) else .error .noEntry
          | some (.link target) =>
            if rest.isEmpty && purpose == .make then .ok (.ended (.found (here ++ [name])))
            else .ok (.link here target rest)
          | some _ => fs.walk purpose (here ++ [name]) rest
    | some _ => .error .notDirectory

/-- Where a path starts: at the root if it is absolute, else at a given directory. -/
def origin (directory : Location) (path : Path) : Location :=
  if path.isAbsolute then [] else directory

/-- Follows components from a location, with a number of links that may be followed. -/
def follow (fs : FileSystem) (purpose : Purpose) :
    Nat → Location → List Component → Except OsError Place
  | links, here, components =>
    match fs.walk purpose here components with
    | .error error => .error error
    | .ok (.ended place) => .ok place
    | .ok (.link directory target rest) =>
      match links with
      | 0 => .error .tooManyLinks
      | links + 1 => fs.follow purpose links (origin directory target) (target.components ++ rest)

/-- Where a path leads. -/
def resolve (fs : FileSystem) (purpose : Purpose) (path : Path) : Except IoError Place :=
  if path.bytes.contains 0 then .error .zeroInPath
  else if path.bytes.isEmpty then .error (.os .noEntry)
  else if pathLimit ≤ path.bytes.length then .error (.os .nameTooLong)
  else
    let components := if purpose = .make then path.steps else path.components
    match fs.follow purpose linkLimit (origin fs.home path) components with
    | .ok place => .ok place
    | .error error => .error (.os error)

/-- What a path leads to. -/
def target? (fs : FileSystem) (path : Path) : Option Node :=
  match fs.resolve .use path with
  | .ok (.found location) => fs.node? location
  | _ => none

/-- Whether a path leads to a regular file. Since directories have no permission bits, no file is
missed because it cannot be reached. -/
def isFile (fs : FileSystem) (path : Path) : Bool :=
  match fs.target? path with
  | some node => node.isFile
  | none => false

/-- Whether a path leads to a directory. -/
def isDirectory (fs : FileSystem) (path : Path) : Bool :=
  match fs.target? path with
  | some node => node.isDirectory
  | none => false

end FileSystem

end ThemeSetup
