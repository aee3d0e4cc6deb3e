import ThemeSetup.Files.Write

/-!
# Changes made from outside

Programs and users change the file system too. An `Edit` puts a node at a path, with the
directories it needs and instead of what was there, or removes what is at a path. An edit that
cannot be made is left out.
-/

namespace ThemeSetup

/-- A change of the file system. -/
inductive Edit where
  /-- Puts a node at a path. -/
  | put (path : Path) (node : Node)
  /-- Removes what is at a path, with all below it. -/
  | remove (path : Path)
  deriving DecidableEq, Repr

namespace FileSystem

/-- Puts a node at a path. A directory that is there already stays as it is. -/
def put (fs : FileSystem) (path : Path) (node : Node) : FileSystem :=
  let ready := match path.parent? with
    | some parent => (fs.makeDirectories parent).2
    | none => fs
  match ready.resolve .make path with
  | .error _ => ready
  | .ok (.vacant directory name) => ready.insert (directory ++ [name]) node
  | .ok (.found location) =>
    match node, ready.node? location with
    | .directory _, some (.directory _) => ready
    | _, _ => (ready.erase location).insert location node

/-- Removes what is at a path. -/
def remove (fs : FileSystem) (path : Path) : FileSystem :=
  match fs.resolve .make path with
  | .ok (.found location) => fs.erase location
  | _ => fs

/-- Makes a change. -/
def edit (fs : FileSystem) : Edit → FileSystem
  | .put path node => fs.put path node
  | .remove path => fs.remove path

/-- Whether an octet string comes before another or equals it, octet by octet. -/
def inOrder : Bytes → Bytes → Bool
  | [], _ => true
  | _ :: _, [] => false
  | a :: as, b :: bs => if a = b then inOrder as bs else decide (a < b)

/-- All below the directory at hand, with paths relative to it, in the order of their octets. -/
def listing (fs : FileSystem) : List (Path × Node) :=
  let below := fs.entries.filterMap fun (location, node) =>
    if fs.home.isPrefixOf location && location != fs.home
    then some (Path.ofParts (location.drop fs.home.length), node)
    else none
  below.mergeSort fun a b => inOrder a.1.bytes b.1.bytes

end FileSystem

end ThemeSetup
