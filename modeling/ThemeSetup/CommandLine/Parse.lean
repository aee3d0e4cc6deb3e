import ThemeSetup.CommandLine.Help
import ThemeSetup.Text.Terminal

/-!
# Reading a command line

Options come in any order. The value of an option follows an equals sign, or the letter of a short
option, or is the next argument unless that looks like an option. Short options without value can
share a dash. Two dashes end the options, after which nothing is expected.

`Grammar.parse` gives the `Settings`, or the `Refusal` that answers the command line; asking for
help or for the version is one too. A value that is the next argument is taken in when the next
option is read or the command line ends, so a fault in it comes after a fault in finding options.
-/

namespace ThemeSetup.CommandLine

/-- What options are set to. -/
structure Settings where
  /-- The values of path options, by long name. -/
  paths : List (String × Bytes)
  platform : Option Platform
  dryRun : Bool
  json : Bool
  /-- How often the verbose flag is given, at most `verboseLimit`. -/
  verbose : Nat
  deriving DecidableEq, Repr

/-- The greatest number of verbose flags that is told apart. -/
def verboseLimit : Nat := 255

namespace Settings

/-- Nothing is set. -/
def none : Settings :=
  ⟨[], .none, false, false, 0⟩

/-- The value of a path option. -/
def path? (settings : Settings) (long : String) : Option Bytes :=
  settings.paths.lookup long

end Settings

/-- An answer to a command line instead of doing what it asks for. -/
inductive Refusal where
  /-- An argument that no option has. -/
  | unknown (argument : String)
  /-- A value for an option that takes none. -/
  | unexpectedValue (key : Key) (value : String)
  /-- An option without the value it takes. -/
  | missingValue (key : Key)
  /-- A value that names no platform. -/
  | unknownPlatform (value : String)
  /-- An option that is given twice. -/
  | repeated (key : Key)
  /-- The help text. -/
  | help
  /-- The version. -/
  | version
  deriving DecidableEq, Repr

namespace Refusal

/-- A value of the user as error messages show it. A message changes the style before and after the
value, and the change after it ends whatever control sequence the value leaves open; so control
sequences are taken out of the value alone. -/
def shown (value : String) : String :=
  Text.Terminal.strip value

/-- The first line of a text. A line ends in a line feed, with or without a carriage return before
it. -/
def firstLine (text : String) : String :=
  let line := text.toList.takeWhile (· != '\n')
  let ended := decide (line.length < text.toList.length)
  String.ofList (if ended && line.getLast? == some '\r' then line.dropLast else line)

/-- The answer as text. Of an error message it is the first line. -/
def message (grammar : Grammar) : Refusal → String
  | .unknown argument => firstLine ("error: unexpected argument '" ++ shown argument ++ "' found")
  | .unexpectedValue key value =>
    firstLine ("error: unexpected value '" ++ shown value ++ "' for '" ++ key.shown ++
      "' found; no more were expected")
  | .missingValue key =>
    "error: a value is required for '" ++ key.shown ++ "' but none was supplied"
  | .unknownPlatform value =>
    if value.isEmpty then
      "error: a value is required for '" ++ Key.platform.shown ++ "' but none was supplied"
    else
      firstLine ("error: invalid value '" ++ shown value ++ "' for '" ++ Key.platform.shown ++ "'")
  | .repeated key => "error: the argument '" ++ key.shown ++ "' cannot be used multiple times"
  | .help => grammar.shortHelp
  | .version => grammar.versionLine

/-- Whether the answer is what the user asked for. -/
def isAnswer : Refusal → Bool
  | .help | .version => true
  | _ => false

/-- The exit code that goes with the answer. -/
def exitCode (refusal : Refusal) : UInt8 :=
  if refusal.isAnswer then 0 else 2

end Refusal

namespace Settings

/-- Sets an option that takes a value. -/
def assign (settings : Settings) (key : Key) (value : Bytes) : Except Refusal Settings :=
  match key with
  | .path long =>
    if (settings.path? long).isSome then .error (.repeated key)
    else .ok { settings with paths := settings.paths ++ [(long, value)] }
  | .platform =>
    if settings.platform.isSome then .error (.repeated key)
    else match (Utf8.decode? value).bind Platform.named? with
      | some platform => .ok { settings with platform := some platform }
      | .none => .error (.unknownPlatform (Utf8.lossy value))
  | _ => .ok settings

/-- Sets a flag. -/
def raise (settings : Settings) (key : Key) : Except Refusal Settings :=
  match key with
  | .dryRun =>
    if settings.dryRun then .error (.repeated key) else .ok { settings with dryRun := true }
  | .json => if settings.json then .error (.repeated key) else .ok { settings with json := true }
  | .verbose => .ok { settings with verbose := min (settings.verbose + 1) verboseLimit }
  | .help => .error .help
  | .version => .error .version
  | .path _ | .platform => .ok settings

end Settings

/-- How far a command line is read. -/
structure State where
  settings : Settings
  /-- An option whose value is the next argument, with that argument once it is read. -/
  pending : Option (Key × Option Bytes)
  /-- Whether the options are ended. -/
  ended : Bool
  deriving DecidableEq, Repr

namespace State

/-- Nothing is read. -/
def initial : State :=
  ⟨.none, none, false⟩

/-- Takes in the value that is pending. -/
def settle (state : State) : Except Refusal Settings :=
  match state.pending with
  | none => .ok state.settings
  | some (key, none) => .error (.missingValue key)
  | some (key, some value) => state.settings.assign key value

/-- Sets an option to a value. -/
def assign (state : State) (key : Key) (value : Bytes) : Except Refusal State := do
  let settings ← state.settle
  let settings ← settings.assign key value
  return { state with settings := settings, pending := none }

/-- Sets a flag. -/
def raise (state : State) (key : Key) : Except Refusal State := do
  let settings ← state.settle
  let settings ← settings.raise key
  return { state with settings := settings, pending := none }

/-- Leaves the value of an option to the next argument. -/
def await (state : State) (key : Key) : Except Refusal State := do
  let settings ← state.settle
  return { state with settings := settings, pending := some (key, none) }

end State

/-- The octet between a name and a value. -/
def equalsSign : UInt8 := 0x3D

/-- The octet that options start with. -/
def dash : UInt8 := 0x2D

namespace Grammar

/-- Reads an argument that starts with two dashes, which are left out. -/
def readLong (grammar : Grammar) (state : State) (argument : Bytes) : Except Refusal State :=
  let name := argument.takeWhile (· != equalsSign)
  let value? := match argument.dropWhile (· != equalsSign) with
    | [] => none
    | _ :: value => some value
  match (Utf8.decode? name).bind grammar.long? with
  | none => .error (.unknown ("--" ++ Utf8.lossy name))
  | some key =>
    match key.takesValue, value? with
    | true, some value => state.assign key value
    | true, none => state.await key
    | false, some value => .error (.unexpectedValue key (Utf8.lossy value))
    | false, none => state.raise key

/-- Reads short options that share a dash; octets that are no text come after them. -/
def readShort (grammar : Grammar) (tail : Bytes) : State → List Char → Except Refusal State
  | state, [] =>
    if tail.isEmpty then .ok state else .error (.unknown ("-" ++ Utf8.lossy tail))
  | state, c :: rest =>
    match grammar.short? c with
    | none => .error (.unknown ("-" ++ String.singleton c))
    | some key =>
      if key.takesValue then
        match Bytes.ofChars rest ++ tail with
        | [] => state.await key
        | first :: others =>
          state.assign key (if first = equalsSign then others else first :: others)
      else do
        let next ← state.raise key
        grammar.readShort tail next rest

/-- Reads an argument that is no option. -/
def readValue (state : State) (argument : Bytes) : Except Refusal State :=
  match state.pending, state.ended with
  | some (key, none), false => .ok { state with pending := some (key, some argument) }
  | _, _ => .error (.unknown (Utf8.lossy argument))

/-- Reads an argument that does not end the options. -/
def readOption (grammar : Grammar) (state : State) (argument : Bytes) : Except Refusal State :=
  match argument with
  | first :: second :: rest =>
    if first ≠ dash then readValue state argument
    else if second = dash then grammar.readLong state rest
    else
      let (text, tail) := Utf8.splitText (second :: rest)
      grammar.readShort tail state text
  | _ => readValue state argument

/-- Reads an argument. -/
def readArgument (grammar : Grammar) (state : State) (argument : Bytes) : Except Refusal State :=
  if state.ended then readValue state argument
  else if argument = [dash, dash] then .ok { state with ended := true }
  else grammar.readOption state argument

/-- Reads arguments in turn. -/
def readArguments (grammar : Grammar) : State → List Bytes → Except Refusal State
  | state, [] => .ok state
  | state, argument :: rest => do
    let next ← grammar.readArgument state argument
    grammar.readArguments next rest

/-- Reads a command line without the name of the tool. -/
def parse (grammar : Grammar) (arguments : List Bytes) : Except Refusal Settings := do
  let state ← grammar.readArguments .initial arguments
  state.settle

end Grammar

end ThemeSetup.CommandLine
