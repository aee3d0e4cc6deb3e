import ThemeSetup.Platform
import ThemeSetup.Plugin

/-!
# The options of the tools

Both tools take options that hold paths, and the same options beside them. A `Grammar` is what
differs between the tools: their names, their texts and their path options.
-/

namespace ThemeSetup.CommandLine

/-- An option that holds a path. -/
structure PathOption where
  short : Char
  long : String
  summary : String
  deriving DecidableEq, Repr

/-- The options and texts of a tool. -/
structure Grammar where
  tool : String
  summary : String
  /-- What stands below the list of options. -/
  closing : String
  paths : List PathOption
  deriving DecidableEq, Repr

/-- The options of the tool that installs the plugin. -/
def installer : Grammar where
  tool := "cttheme-copy"
  summary := "For testing session: copy the CtTheme data to the local Centaur installation"
  closing := "CtTheme generator"
  paths :=
    [⟨'c', "ct", "Build directory containing the ctpath helper"⟩,
     ⟨'l', "local", "Directory containing dark.theme.xml"⟩,
     ⟨'b', "lib", "Directory containing the built theme library"⟩]

/-- The options of the tool that packs the plugin. -/
def packer : Grammar where
  tool := "theme-plpack"
  summary := "Generates the plpack from the build system for the CtTheme"
  closing := "CtTheme plpack generator"
  paths :=
    [⟨'o', "output", "Output path of the plpack archive"⟩,
     ⟨'l', "local", "Directory containing dark.theme.json"⟩,
     ⟨'b', "bin", "Directory containing the plpack executable"⟩,
     ⟨'i', "lib", "Directory containing the built theme library"⟩]

/-- An option of a tool. -/
inductive Key where
  /-- The path option of a long name. -/
  | path (long : String)
  | platform
  | dryRun
  | json
  | verbose
  | help
  | version
  deriving DecidableEq, Repr

namespace Key

/-- Whether an option takes a value. -/
def takesValue : Key → Bool
  | .path _ | .platform => true
  | .dryRun | .json | .verbose | .help | .version => false

/-- An option as messages name it. -/
def shown : Key → String
  | .path long => "--" ++ long ++ " <PATH>"
  | .platform => "--platform <PLATFORM>"
  | .dryRun => "--dry-run"
  | .json => "--json"
  | .verbose => "--verbose..."
  | .help => "--help"
  | .version => "--version"

end Key

/-- The long names of the options that all tools take. -/
def sharedLongNames : List (String × Key) :=
  [("platform", .platform), ("dry-run", .dryRun), ("json", .json), ("verbose", .verbose),
   ("help", .help), ("version", .version)]

/-- The short names of the options that all tools take. -/
def sharedShortNames : List (Char × Key) :=
  [('v', .verbose), ('h', .help), ('V', .version)]

namespace Grammar

/-- The long names of the options of a tool. -/
def longNames (grammar : Grammar) : List (String × Key) :=
  grammar.paths.map (fun option => (option.long, .path option.long)) ++ sharedLongNames

/-- The short names of the options of a tool. -/
def shortNames (grammar : Grammar) : List (Char × Key) :=
  grammar.paths.map (fun option => (option.short, .path option.long)) ++ sharedShortNames

/-- The option of a long name. -/
def long? (grammar : Grammar) (name : String) : Option Key :=
  grammar.longNames.lookup name

/-- The option of a short name. -/
def short? (grammar : Grammar) (name : Char) : Option Key :=
  grammar.shortNames.lookup name

end Grammar

end ThemeSetup.CommandLine
