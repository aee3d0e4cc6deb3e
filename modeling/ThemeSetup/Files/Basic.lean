import ThemeSetup.Files.OsError
import ThemeSetup.Path

/-!
# The file system

A file system is a finite map from locations to nodes. A location is the list of names that leads
from the root to a node; links are nodes and never part of a location. The file system also knows
the directory at hand, from which relative paths start.

`FileSystem.node?` is the view: `node?_insert` says what placing a node does to it. Placing a node
that is there already changes nothing at all (`insert_eq_self`).
-/

namespace ThemeSetup

/-- A name in a directory. -/
abbrev Name := Bytes

/-- The names that lead from the root to a node. -/
abbrev Location := List Name

/-- The permission bits of a file: three for its owner, three for its group and three for others.
The bits above them, which change who a program runs as, are left out: a copy need not take them
over. -/
abbrev Mode := Fin 0o1000

/-- A number stands for its lowest nine bits. -/
instance : Coe Nat Mode :=
  ⟨Fin.ofNat 0o1000⟩

instance (bits : Nat) : OfNat Mode bits :=
  ⟨Fin.ofNat 0o1000 bits⟩

namespace Mode

/-- Whether the owner may read. -/
def readable (mode : Mode) : Bool := mode.val.testBit 8

/-- Whether the owner may write. -/
def writable (mode : Mode) : Bool := mode.val.testBit 7

/-- Whether the owner may run it. -/
def runnable (mode : Mode) : Bool := mode.val.testBit 6

end Mode

/-- What is at a location. -/
inductive Node where
  /-- A regular file. -/
  | file (mode : Mode) (content : Bytes)
  /-- A directory. One of the system's own may refuse new entries, with the error it answers. A
  directory has no permission bits: whoever names a file in it reaches that file. -/
  | directory (refusal : Option OsError)
  /-- A symbolic link. -/
  | link (target : Path)
  /-- A device that takes whatever is written to it. -/
  | device
  deriving DecidableEq, Repr

namespace Node

/-- Whether a node is a regular file. -/
def isFile : Node → Bool
  | .file .. => true
  | _ => false

/-- Whether a node is a directory. -/
def isDirectory : Node → Bool
  | .directory _ => true
  | _ => false

end Node

/-- Locations with what is at them, and the directory at hand. -/
structure FileSystem where
  entries : List (Location × Node)
  home : Location
  deriving DecidableEq, Repr

namespace FileSystem

/-- The node that a list of entries gives for a location. -/
def nodeIn (location : Location) : List (Location × Node) → Option Node
  | [] => none
  | (first, node) :: rest => if location = first then some node else nodeIn location rest

/-- The node at a location. -/
def node? (fs : FileSystem) (location : Location) : Option Node :=
  nodeIn location fs.entries

/-- Entries with a node placed at a location. -/
def place (location : Location) (node : Node) :
    List (Location × Node) → List (Location × Node)
  | [] => [(location, node)]
  | (first, old) :: rest =>
    if location = first then (first, node) :: rest else (first, old) :: place location node rest

/-- The file system with a node placed at a location, instead of what was there. -/
def insert (fs : FileSystem) (location : Location) (node : Node) : FileSystem :=
  { fs with entries := place location node fs.entries }

/-- The file system without a location and all below it. -/
def erase (fs : FileSystem) (location : Location) : FileSystem :=
  { fs with entries := fs.entries.filter fun entry => !location.isPrefixOf entry.1 }

/-- Placing a node changes what a list of entries gives at its location alone. -/
theorem nodeIn_place (location other : Location) (node : Node) (entries : List (Location × Node)) :
    nodeIn other (place location node entries) =
      if other = location then some node else nodeIn other entries := by
  induction entries with
  | nil => rfl
  | cons entry rest ih =>
    obtain ⟨first, old⟩ := entry
    by_cases hf : location = first
    · subst hf
      by_cases h : other = location <;> simp [place, nodeIn, h]
    · by_cases h : other = first
      · subst h
        simp [place, nodeIn, hf, Ne.symm hf]
      · simp [place, nodeIn, hf, h, ih]

/-- Placing a node changes the view at its location alone. -/
@[simp]
theorem node?_insert (fs : FileSystem) (location other : Location) (node : Node) :
    (fs.insert location node).node? other =
      if other = location then some node else fs.node? other :=
  nodeIn_place location other node fs.entries

@[simp]
theorem home_insert (fs : FileSystem) (location : Location) (node : Node) :
    (fs.insert location node).home = fs.home := rfl

/-- Entries that give a node already stay as they are when it is placed. -/
theorem place_eq_self {location : Location} {node : Node} {entries : List (Location × Node)}
    (h : nodeIn location entries = some node) : place location node entries = entries := by
  induction entries with
  | nil => simp [nodeIn] at h
  | cons entry rest ih =>
    obtain ⟨first, old⟩ := entry
    by_cases hf : location = first <;> simp_all [place, nodeIn]

/-- Placing the node that is there already changes nothing. -/
theorem insert_eq_self {fs : FileSystem} {location : Location} {node : Node}
    (h : fs.node? location = some node) : fs.insert location node = fs := by
  simp [insert, place_eq_self (show nodeIn location fs.entries = some node from h)]

/-- A file system that holds a root, some of the system's own nodes, and the directory at hand two
steps below the root. The system's directories refuse new entries. -/
def initial : FileSystem where
  entries :=
    [([], .directory (some .accessDenied)),
     ([Bytes.ofString "dev"], .directory (some .accessDenied)),
     ([Bytes.ofString "dev", Bytes.ofString "null"], .device),
     ([Bytes.ofString "proc"], .directory (some .noEntry)),
     ([Bytes.ofString "home"], .directory none),
     ([Bytes.ofString "home", Bytes.ofString "user"], .directory none)]
  home := [Bytes.ofString "home", Bytes.ofString "user"]

end FileSystem

end ThemeSetup
