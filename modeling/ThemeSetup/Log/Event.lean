import ThemeSetup.Text.Quoted

/-!
# Log events

An event is kept as data, with typed fields; whether and how it is written is decided when the
diagnostics of a run are rendered.
-/

namespace ThemeSetup.Log

/-- How important an event is. -/
inductive Level where
  | warn
  | info
  | debug
  deriving DecidableEq, Repr

namespace Level

/-- The least verbosity that shows the level: errors are 1, traces 5. -/
def rank : Level → Nat
  | .warn => 2
  | .info => 3
  | .debug => 4

/-- The name of a level in a log line, in a column of five. -/
def label : Level → String
  | .warn => " WARN"
  | .info => " INFO"
  | .debug => "DEBUG"

end Level

/-- The value of a field of an event. -/
inductive Value where
  /-- A text that is shown as it is. -/
  | bare (text : String)
  /-- A text that is shown quoted. -/
  | quoted (text : String)
  /-- A number. -/
  | count (n : Nat)
  /-- The code that a program ended with, if it ended with one. -/
  | exitCode (n : Option Int)
  /-- The arguments of a program. -/
  | arguments (list : List Bytes)
  deriving DecidableEq, Repr

/-- The written form of a value. -/
def Value.render : Value → String
  | .bare text => text
  | .quoted text => Text.Quoted.encode (Bytes.ofString text)
  | .count n => toString n
  | .exitCode (some n) => "Some(" ++ toString n ++ ")"
  | .exitCode none => "None"
  | .arguments list =>
    "[" ++ String.intercalate ", " (list.map Text.Quoted.encode) ++ "]"

/-- Something that happened in a part of the program. -/
structure Event where
  level : Level
  /-- The part of the program. -/
  target : String
  message : String
  fields : List (String × Value)
  deriving DecidableEq, Repr

namespace Event

/-- The names under which the data of an event can be asked for. -/
def fieldNames (event : Event) : List String :=
  "message" :: event.fields.map Prod.fst

/-- The line of an event: time, level, the part of the program if it is to be named, message and
fields. -/
def line (time : String) (showTarget : Bool) (event : Event) : String :=
  time ++ " " ++ event.level.label ++ " " ++
    (if showTarget then event.target ++ ": " else "") ++ event.message ++
    String.join (event.fields.map fun (name, value) => " " ++ name ++ "=" ++ value.render) ++ "\n"

end Event

end ThemeSetup.Log
