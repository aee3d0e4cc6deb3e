import ThemeSetup.Text.Utf8

/-!
# Paths

A path is an octet string whose parts are separated by slashes. Nothing is normalised when paths
are joined; `Path.parent?` drops the last part and the empty parts and single dots around it.
-/

namespace ThemeSetup

/-- A path of the file system. -/
structure Path where
  bytes : Bytes
  deriving DecidableEq, Repr

namespace Path

/-- The octet between the parts of a path. -/
def slash : UInt8 := 0x2F

/-- The octet that stands alone for the directory at hand, and twice for its parent. -/
def dot : UInt8 := 0x2E

/-- The path that a text names. -/
def ofString (text : String) : Path :=
  ⟨Bytes.ofString text⟩

/-- The path as text, with one U+FFFD for each part that is not UTF-8. -/
def display (path : Path) : String :=
  Utf8.lossy path.bytes

/-- The path as exact text, if it is UTF-8. -/
def text? (path : Path) : Option String :=
  Utf8.decode? path.bytes

/-- Whether a path starts at the root. -/
def isAbsolute (path : Path) : Bool :=
  path.bytes.head? == some slash

/-- Whether a path ends in a slash. -/
def endsInSlash (path : Path) : Bool :=
  path.bytes.getLast? == some slash

/-- A path below another: with one slash between them unless the first is empty or ends in one.
An absolute path replaces the one it is joined to. -/
def join (base path : Path) : Path :=
  if path.isAbsolute then path
  else if base.bytes.isEmpty || base.endsInSlash then ⟨base.bytes ++ path.bytes⟩
  else ⟨base.bytes ++ slash :: path.bytes⟩

/-- The parts of a path between its slashes, empty ones included. -/
def parts (path : Path) : List Bytes :=
  path.bytes.splitOn slash

/-- Whether a part names nothing: it is empty or a single dot. -/
def isIdle (part : Bytes) : Bool :=
  part == [] || part == [dot]

/-- A list without the idle parts at its end. -/
def dropIdleEnd (parts : List Bytes) : List Bytes :=
  (parts.reverse.dropWhile isIdle).reverse

/-- The path made of parts. -/
def ofParts (parts : List Bytes) : Path :=
  ⟨[slash].intercalate parts⟩

/-- The path without its last part, or `none` for the empty path and the root. A leading dot is a
part; idle parts after it are not, and those at the end of the result are dropped too. -/
def parent? (path : Path) : Option Path :=
  match path.parts with
  | [] => none
  | first :: rest =>
    match dropIdleEnd rest with
    | [] => if first.isEmpty then none else some ⟨[]⟩
    | kept =>
      match dropIdleEnd kept.dropLast with
      | [] => if first.isEmpty then some ⟨[slash]⟩ else some (ofParts [first])
      | above => some (ofParts (first :: above))

/-- A path and its ancestors, up to a number of them. -/
def lineageUpTo : Nat → Path → List Path
  | 0, path => [path]
  | count + 1, path =>
    path :: match path.parent? with
      | some parent => lineageUpTo count parent
      | none => []

/-- A path, its parent, the parent of that, and so on. A parent is shorter than its path, so there
are no more of them than octets. -/
def lineage (path : Path) : List Path :=
  lineageUpTo path.bytes.length path

end Path

end ThemeSetup
