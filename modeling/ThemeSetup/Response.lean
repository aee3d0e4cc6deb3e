import ThemeSetup.Failure
import ThemeSetup.Install.Report
import ThemeSetup.Json.Printer

/-!
# Responses for machines

The single JSON document that a tool prints in JSON mode. It tells whether the command succeeded,
the exit code that the process is about to return, the data of the command and its warnings and
errors.
-/

namespace ThemeSetup

/-- The document that a command prints; `data` is missing if it cannot be written. -/
structure Response where
  ok : Bool
  command : String
  version : String
  exitCode : UInt8
  data : Option Json
  warnings : List String
  errors : List Notice

namespace Response

/-- The response of a command that succeeded. -/
def success (command : String) (data : Option Json) : Response where
  ok := true
  command := command
  version := Plugin.toolsVersion
  exitCode := 0
  data := data
  warnings := []
  errors := []

/-- The response with other warnings. -/
def withWarnings (response : Response) (warnings : List String) : Response :=
  { response with warnings := warnings }

/-- The error of a child that ended with an exit code. -/
def childError (tool : String) (code : UInt8) : Notice where
  code := "E_TOOL_FAILED"
  message := tool ++ " exited with code " ++ toString code.toNat
  details := some (.object [("exit_code", .int code.toNat), ("tool", .string tool)])

/-- The response after a child ended. A code other than 0 makes it an error. -/
def withChild (response : Response) (tool : String) (code : UInt8) : Response :=
  if code = 0 then { response with exitCode := code }
  else
    { response with
      exitCode := code, ok := false, errors := response.errors ++ [childError tool code] }

/-- The response of a command that failed. -/
def ofFailure (command : String) (failure : Failure) : Response :=
  { success command (some .null) with ok := false, exitCode := 1, errors := [failure.report] }

/-- The response as a JSON value. -/
def toJson? (response : Response) : Option Json := do
  let data ← response.data
  return .object
    [("ok", .bool response.ok), ("command", .string response.command),
     ("version", .string response.version), ("exit_code", .int response.exitCode.toNat),
     ("data", data), ("warnings", Json.strings response.warnings),
     ("errors", .array (response.errors.map Notice.toJson))]

/-- What is printed: the document and a line end. Data that cannot be written are a failure, and
nothing is printed. -/
def print (response : Response) : Except Failure String :=
  match response.toJson? with
  | some json => .ok (json.pretty ++ "\n")
  | none => .error (.of .pathNotText)

end Response

end ThemeSetup
