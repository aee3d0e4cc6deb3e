import ThemeSetup.Files.Resolve
import ThemeSetup.Json.Basic
import ThemeSetup.Text.Blank

/-!
# Failures

A failure is a cause with contexts around it, the outermost first. A `Notice` is what a user is
told: a code for machines, a message and details. Causes that a user can act on have a notice of
their own, and it alone decides what is reported (`Failure.report`): contexts add their wording to
the chain, and no context takes the notice of the cause away or brings one of its own. A failure
whose cause has no notice is reported under one common code, with its whole chain as the message.
-/

namespace ThemeSetup

/-- What a user is told about a failure. -/
structure Notice where
  code : String
  message : String
  details : Option Json

/-- A notice as a JSON value; the keys of its details are in order. -/
def Notice.toJson (notice : Notice) : Json :=
  .object <|
    [("code", .string notice.code), ("message", .string notice.message)] ++
      match notice.details with
      | some details => [("details", details.sortKeys)]
      | none => []

/-- Why something failed. -/
inductive Cause where
  /-- An option that must hold a path is missing or empty. -/
  | emptyArgument (flag message : String)
  /-- A program cannot be started. -/
  | programNotFound (tool : String) (program : Path) (reason : String)
  /-- The helper that names the host's root ended with an error; it has no code after a signal. -/
  | hostRootFailed (program : Path) (code : Option Int) (errors : String)
  /-- The helper that names the host's root named nothing. -/
  | hostRootEmpty (program : Path)
  /-- A file to be copied is not there. -/
  | sourceMissing (label : String) (path : Path)
  /-- A failure that comes with its notice. -/
  | noticed (notice : Notice)
  /-- A failure that is only a text. -/
  | plain (message : String)
  /-- An error of a file operation or of starting a program. -/
  | io (error : IoError)
  /-- An octet string that should be text is not. -/
  | notText (fault : Utf8.Fault)
  /-- A path that should be written as text is not UTF-8. -/
  | pathNotText

namespace Cause

/-- What a user is told about a cause, if there is something to act on. -/
def notice? : Cause → Option Notice
  | .emptyArgument flag message =>
    some ⟨"E_EMPTY_ARGUMENT", message, some (.object
      [("argument", .string flag), ("hint", .string ("pass a non-empty path with " ++ flag))])⟩
  | .programNotFound tool program reason =>
    some ⟨"E_TOOL_NOT_FOUND",
      "unable to run " ++ tool ++ " at " ++ program.display ++ ": " ++ reason,
      some (.object
        [("hint", .string ("build " ++ tool ++
            " first, or point the tool at the directory that contains it")),
         ("program", .string program.display), ("tool", .string tool)])⟩
  | .hostRootFailed program code errors =>
    some ⟨"E_CTPATH_FAILED", "ctpath returned an error code", some (.object
      [("exit_code", (code.map Json.int).getD .null), ("program", .string program.display),
       ("stderr", .string (String.ofList (Text.trimEnd Text.isBlank errors.toList)))])⟩
  | .hostRootEmpty program =>
    some ⟨"E_CTPATH_EMPTY", "ctpath returned an empty path", some (.object
      [("hint", .string "the host application has no local data location on this machine"),
       ("program", .string program.display)])⟩
  | .sourceMissing label path =>
    some ⟨"E_SOURCE_MISSING", label ++ " does not exist: " ++ path.display, some (.object
      [("path", .string path.display)])⟩
  | .noticed notice => some notice
  | .plain _ | .io _ | .notText _ | .pathNotText => none

/-- The wording of a cause. -/
def message (cause : Cause) : String :=
  match cause with
  | .emptyArgument .. | .programNotFound .. | .hostRootFailed .. | .hostRootEmpty ..
  | .sourceMissing .. | .noticed _ => (cause.notice?.map Notice.message).getD ""
  | .plain message => message
  | .io error => error.message
  | .notText fault => fault.message
  | .pathNotText => "path contains invalid UTF-8 characters"

end Cause

/-- What was being done when something failed. -/
inductive Context where
  /-- A text. -/
  | text (message : String)
  /-- A notice; its code and details are carried along and never reported. -/
  | noticed (notice : Notice)

/-- A context that is a notice without details. -/
def Context.coded (code message : String) : Context :=
  .noticed ⟨code, message, none⟩

/-- The wording of a context. -/
def Context.message : Context → String
  | .text message => message
  | .noticed notice => notice.message

/-- A cause and the contexts around it, the outermost first. -/
structure Failure where
  contexts : List Context
  cause : Cause

namespace Failure

/-- The failure of a cause without context. -/
def of (cause : Cause) : Failure :=
  ⟨[], cause⟩

/-- The failure in a further context, which becomes the outermost. -/
def within (failure : Failure) (context : Context) : Failure :=
  { failure with contexts := context :: failure.contexts }

/-- The wordings of the contexts and of the cause, from the outside. -/
def chain (failure : Failure) : List String :=
  failure.contexts.map Context.message ++ [failure.cause.message]

/-- The outermost wording. -/
def headline (failure : Failure) : String :=
  failure.chain.headD ""

/-- The wordings after the outermost one. -/
def reasons (failure : Failure) : List String :=
  failure.chain.tail

/-- The whole chain in one line. -/
def fullMessage (failure : Failure) : String :=
  String.intercalate ": " failure.chain

/-- What is reported: the notice of the cause, or the whole chain under the common code. -/
def report (failure : Failure) : Notice :=
  failure.cause.notice?.getD ⟨"E_UNEXPECTED", failure.fullMessage, none⟩

/-- A text whose lines after the first are moved in by a margin. -/
def indent (margin text : List Char) : List Char :=
  text.flatMap fun c => if c = '\n' then '\n' :: margin else [c]

/-- A reason on lines of its own; a number is put before it when there are several. -/
def reasonLine (number : Option Nat) (reason : String) : List Char :=
  match number with
  | none => [' ', ' ', ' ', ' '] ++ indent [' ', ' ', ' ', ' '] reason.toList
  | some n =>
    let digits := Nat.toDigits 10 n
    List.replicate (5 - digits.length) ' ' ++ digits ++ [':', ' '] ++
      indent (List.replicate 7 ' ') reason.toList

/-- Reasons one below the other, numbered from `n` on. -/
def numbered (n : Nat) : List String → List Char
  | [] => []
  | reason :: rest => '\n' :: reasonLine (some n) reason ++ numbered (n + 1) rest

/-- The failure as log lines show it: the outermost wording, then the reasons below a heading. -/
def trace (failure : Failure) : String :=
  String.ofList <| failure.headline.toList ++
    match failure.reasons with
    | [] => []
    | [reason] => "\n\nCaused by:\n".toList ++ reasonLine none reason
    | reasons => "\n\nCaused by:".toList ++ numbered 0 reasons

end Failure

end ThemeSetup
