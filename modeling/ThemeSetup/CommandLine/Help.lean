import ThemeSetup.CommandLine.Grammar

/-!
# Help texts

The short help has one line for each option, with the summaries in a column; the long help has a
paragraph for each.
-/

namespace ThemeSetup.CommandLine

/-- An option as help texts list it. -/
structure Entry where
  short : Option Char
  /-- The long name with what follows it. -/
  long : String
  summary : String
  /-- The values that can be chosen, if they are few. -/
  choices : List String
  deriving DecidableEq, Repr

namespace Entry

/-- The names of an option, with the long names in a column. -/
def names (entry : Entry) : String :=
  match entry.short with
  | some c => "-" ++ String.singleton c ++ ", " ++ entry.long
  | none => "    " ++ entry.long

/-- The choices in brackets. -/
def choiceText (entry : Entry) : String :=
  "[possible values: " ++ String.intercalate ", " entry.choices ++ "]"

/-- The line of an option in the short help, with its summary from a column on. -/
def line (width : Nat) (entry : Entry) : String :=
  "  " ++ entry.names ++ String.ofList (List.replicate (width - entry.names.length) ' ') ++ "  " ++
    entry.summary ++ (if entry.choices.isEmpty then "" else " " ++ entry.choiceText) ++ "\n"

/-- The paragraph of an option in the long help. -/
def paragraph (entry : Entry) : String :=
  "  " ++ entry.names ++ "\n          " ++ entry.summary ++ "\n" ++
    (if entry.choices.isEmpty then "" else "          \n          " ++ entry.choiceText ++ "\n")

end Entry

/-- The entries of the options that all tools take. -/
def sharedEntries : List Entry :=
  [⟨none, "--platform <PLATFORM>",
     "Platform to name the library for: linux|windows|macos|other (default: this system)",
     Platform.all.map Platform.name⟩,
   ⟨none, "--dry-run", "Print what would be done without changing anything", []⟩,
   ⟨none, "--json", "Machine-readable JSON output", []⟩,
   ⟨some 'v', "--verbose...",
     "More log output on stderr (-v info, -vv debug); CTTHEME_LOG overrides", []⟩,
   ⟨some 'h', "--help", "Print help", []⟩,
   ⟨some 'V', "--version", "Print version", []⟩]

namespace Grammar

/-- The entries of all options of a tool. -/
def entries (grammar : Grammar) : List Entry :=
  grammar.paths.map (fun option =>
      ⟨some option.short, (Key.path option.long).shown, option.summary, []⟩) ++ sharedEntries

/-- How a tool is called. -/
def usage (grammar : Grammar) : String :=
  "Usage: " ++ grammar.tool ++ " [OPTIONS]"

/-- A help text around the list of options. -/
def helpAround (grammar : Grammar) (options : String) : String :=
  grammar.summary ++ "\n\n" ++ grammar.usage ++ "\n\nOptions:\n" ++ options ++ "\n" ++
    grammar.closing ++ "\n"

/-- The short help of a tool. -/
def shortHelp (grammar : Grammar) : String :=
  let width := grammar.entries.foldl (fun width entry => max width entry.names.length) 0
  grammar.helpAround (String.join (grammar.entries.map (Entry.line width)))

/-- The long help of a tool. -/
def longHelp (grammar : Grammar) : String :=
  grammar.helpAround (String.intercalate "\n" (grammar.entries.map Entry.paragraph))

/-- The name and the version of a tool. -/
def versionLine (grammar : Grammar) : String :=
  grammar.tool ++ " " ++ Plugin.toolsVersion ++ "\n"

end Grammar

end ThemeSetup.CommandLine
