import ThemeSetup.Launch
import ThemeSetup.Plugin

/-!
# Packing the plugin

`Package.plan` is the call of the packing program that a request leads to: its path and its nine
arguments, which carry the octets of the paths unchanged. `Package.run` makes the call.
-/

namespace ThemeSetup.Package

/-- The paths that packing starts from. -/
structure Request where
  /-- The archive to be made. -/
  archive : Path
  /-- The directory of the file that is packed. -/
  sources : Path
  /-- The directory of the packing program. -/
  programs : Path
  /-- The directory of the built library. -/
  libraries : Path
  deriving DecidableEq, Repr

/-- An argument that gives a path to an option. -/
def pathArgument (option : String) (path : Path) : Bytes :=
  Bytes.ofString option ++ path.bytes

/-- The call that packs the plugin. -/
def plan (request : Request) (platform : Platform) : Call where
  program := platform.programIn request.programs Plugin.packerStem
  arguments :=
    [Bytes.ofString ("--name=" ++ Plugin.name),
     Bytes.ofString ("--version=" ++ Plugin.version),
     Bytes.ofString ("--man=" ++ Plugin.manufacturer),
     Bytes.ofString ("--min=" ++ Plugin.minimalHostVersion),
     pathArgument "--lib=" (request.libraries.join (.ofString platform.libraryName)),
     pathArgument "--out=" request.archive,
     Bytes.ofString ("--uuid=" ++ Plugin.uuid),
     Bytes.ofString "--theme",
     pathArgument "--extra=" (request.sources.join (.ofString Plugin.packedFileName))]

/-- The arguments of a call as text. -/
def argumentTexts (call : Call) : List String :=
  call.arguments.map Utf8.lossy

/-- A call as one line. -/
def line (call : Call) : String :=
  String.intercalate " " (call.program.display :: argumentTexts call)

/-- Packs the plugin, and gives the exit code to pass on. -/
def run (call : Call) (toErrors : Bool) : Job UInt8 := do
  let ending ← Launch.attached Plugin.packerStem call toErrors
  if !ending.isSuccess then
    Job.log ⟨.warn, "cttheme_tools::package", "plpack exited with failure",
      [("code", .exitCode ending.code?)]⟩
  return exitByte ending.code?

end ThemeSetup.Package
