import ThemeSetup.CommandLine.Parse
import ThemeSetup.Install.Item
import ThemeSetup.Failure
import ThemeSetup.Package

/-!
# What the options of a tool ask for

The settings of a command line become a request once every path that is required is given and not
empty. The first one that is not is what the user is told about.
-/

namespace ThemeSetup.Tool

open CommandLine (Settings)

/-- A path that a tool cannot do without, with the message for the user who leaves it out. -/
structure Requirement where
  long : String
  message : String
  deriving DecidableEq, Repr

/-- The value of a required path option. -/
def Requirement.read (requirement : Requirement) (settings : Settings) : Except Failure Path :=
  match settings.path? requirement.long with
  | none | some [] =>
    .error (.of (.emptyArgument ("--" ++ requirement.long) requirement.message))
  | some octets => .ok ⟨octets⟩

/-- The platform that the library is named for: the one that is set, or the one at hand. -/
def platformOf (settings : Settings) (current : Platform) : Platform :=
  settings.platform.getD current

/-- The request of a command line that installs the plugin. -/
def installRequest (settings : Settings) : Except Failure Install.Request := do
  let helpers ← Requirement.read ⟨"ct", "ctpath path is empty"⟩ settings
  let sources ← Requirement.read ⟨"local", "local path is empty"⟩ settings
  let libraries ← Requirement.read ⟨"lib", "library path is empty"⟩ settings
  return ⟨helpers, sources, libraries⟩

/-- The request of a command line that packs the plugin. -/
def packageRequest (settings : Settings) : Except Failure Package.Request := do
  let archive ← Requirement.read ⟨"output", "Output path is empty"⟩ settings
  let sources ← Requirement.read ⟨"local", "Local path is empty"⟩ settings
  let programs ← Requirement.read ⟨"bin", "Binary path is empty"⟩ settings
  let libraries ← Requirement.read ⟨"lib", "Library path is empty"⟩ settings
  return ⟨archive, sources, programs, libraries⟩

end ThemeSetup.Tool
