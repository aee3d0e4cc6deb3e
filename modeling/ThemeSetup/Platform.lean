import ThemeSetup.Path

/-!
# Platforms

The operating system families that differ in how files of the plugin are named: the built library
and the helper programs.
-/

namespace ThemeSetup

/-- An operating system family. -/
inductive Platform where
  | linux
  | windows
  | macos
  | other
  deriving DecidableEq, Repr

namespace Platform

/-- All platforms, in the order in which they are listed to the user. -/
def all : List Platform :=
  [.linux, .windows, .macos, .other]

/-- The name of a platform on the command line and in reports. -/
def name : Platform → String
  | .linux => "linux"
  | .windows => "windows"
  | .macos => "macos"
  | .other => "other"

/-- The platform of a system name; every system that has no name of its own is `other`. -/
def ofSystem (system : String) : Platform :=
  if system = "linux" then .linux
  else if system = "windows" then .windows
  else if system = "macos" then .macos
  else .other

/-- The platform that a user names exactly. -/
def named? (text : String) : Option Platform :=
  all.find? fun platform => platform.name == text

/-- The platform that a user names, whatever the case of ASCII letters. -/
def namedAnyCase? (text : String) : Option Platform :=
  all.find? fun platform => platform.name.toList == text.toList.map Char.toLower

/-- What is said when a text names no platform. -/
def unknownMessage (text : String) : String :=
  "invalid variant: " ++ text

/-- The file name of the built theme library. -/
def libraryName : Platform → String
  | .linux => "libCentTheme.so"
  | .windows => "CentTheme.dll"
  | .macos => "libCentTheme.dylib"
  | .other => "libCentTheme"

/-- The file name of the program with a given stem. -/
def programName (platform : Platform) (stem : String) : String :=
  match platform with
  | .windows => stem ++ ".exe"
  | .linux | .macos | .other => stem

/-- Where the program with a given stem is, in a directory of programs. -/
def programIn (platform : Platform) (directory : Path) (stem : String) : Path :=
  directory.join (Path.ofString (platform.programName stem))

/-- A platform is found by its name. -/
theorem named?_name (platform : Platform) : named? platform.name = some platform := by
  cases platform <;> decide

/-- A platform is the platform of the system of its name. -/
theorem ofSystem_name (platform : Platform) : ofSystem platform.name = platform := by
  cases platform <;> decide

end Platform

end ThemeSetup
