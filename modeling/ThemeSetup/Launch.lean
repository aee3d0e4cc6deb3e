import ThemeSetup.World

/-!
# Starting programs

* `World.load` says which program a path starts, or which error the system answers. A script is
  started through the interpreter that its first line names.
* `Launch.captured` runs a program and keeps what it writes; its output has to be text.
* `Launch.attached` runs a program whose output goes where ours goes, or to standard error.
-/

namespace ThemeSetup

/-- A program that can be started. -/
structure Loaded where
  program : Program
  /-- The file of the program. -/
  path : Path
  /-- The arguments that are put before the given ones. -/
  leading : List Bytes

/-- Whether an octet is a blank in the first line of a script. -/
def isScriptBlank (octet : UInt8) : Bool :=
  octet = 0x20 || octet = 0x09

/-- Whether an octet ends a word in the first line of a script. -/
def endsScriptWord (octet : UInt8) : Bool :=
  isScriptBlank octet || octet = 0

/-- Octets without blanks at their end. -/
def dropBlankEnd (octets : Bytes) : Bytes :=
  (octets.reverse.dropWhile isScriptBlank).reverse

/-- How many octets of a file are looked at for the first line of a script. -/
def scriptWindow : Nat := 256

/-- The octets after the mark of a script that are looked at, with zeros after the end of a short
file. -/
def scriptHead? (content : Bytes) : Option Bytes :=
  match content.take scriptWindow ++ List.replicate (scriptWindow - content.length) 0 with
  | 0x23 :: 0x21 :: head => some head
  | _ => none

/-- The first line of a script after its mark, without blanks at its end. A line that does not end
where a line feed is must hold a whole word; its last octet is not looked at. -/
def scriptLine? (content : Bytes) : Option Bytes := do
  let head ← scriptHead? content
  let line := head.takeWhile fun octet => octet != 0x0A && octet != 0
  if head[line.length]? = some 0x0A then return dropBlankEnd line
  else if (head.dropWhile isScriptBlank).any endsScriptWord then
    return dropBlankEnd head.dropLast
  else none

/-- The interpreter that the first line of a script names, and the argument that follows it. An
empty name stands for the directory at hand. -/
def interpreter? (content : Bytes) : Option (Path × List Bytes) := do
  let line ← scriptLine? content
  let words := line.dropWhile isScriptBlank
  if words.isEmpty then none
  else
    let name := words.takeWhile (!endsScriptWord ·)
    let argument := match words.dropWhile (!endsScriptWord ·) with
      | [] | 0 :: _ => []
      | rest => [(rest.dropWhile isScriptBlank).takeWhile (· != 0)]
    return (⟨if name.isEmpty then [Path.dot] else name⟩, argument)

/-- How many scripts may follow each other until there is a program. -/
def scriptLimit : Nat := 5

/-- The content of a file that can be run. -/
def FileSystem.openProgram (fs : FileSystem) (path : Path) : Except IoError Bytes :=
  match fs.resolve .use path with
  | .error error => .error error
  | .ok (.vacant _ _) => .error (.os .noEntry)
  | .ok (.found location) =>
    match fs.node? location with
    | some (.file mode content) =>
      if mode.runnable then .ok content else .error (.os .accessDenied)
    | some _ => .error (.os .accessDenied)
    | none => .error (.os .noEntry)

namespace World

/-- The program that the content of a file starts, with a number of scripts that may stand between
them. An interpreter has to be there even if there are too many scripts. -/
def loadContent (world : World) : Nat → Path → Bytes → Except IoError Loaded
  | scripts, path, content =>
    match world.programs content with
    | some program => .ok ⟨program, path, []⟩
    | none =>
      match interpreter? content with
      | none => .error (.os .badFormat)
      | some (interpreter, argument) =>
        match world.files.openProgram interpreter with
        | .error error => .error error
        | .ok next =>
          match scripts with
          | 0 => .error (.os .tooManyLinks)
          | scripts + 1 =>
            match world.loadContent scripts interpreter next with
            | .error error => .error error
            | .ok loaded =>
              .ok { loaded with leading := loaded.leading ++ argument ++ [path.bytes] }

/-- The program that a call starts. The search for a name without a slash among the programs of the
system is left out: such a name is answered as one that is not found there. -/
def load (world : World) (call : Call) : Except IoError Loaded :=
  if call.program.bytes.contains 0 || call.arguments.any (·.contains 0) then
    .error .zeroInArgument
  else if !call.program.bytes.contains Path.slash then .error (.os .noEntry)
  else
    match world.files.openProgram call.program with
    | .error error => .error error
    | .ok content => world.loadContent scriptLimit call.program content

end World

namespace Launch

/-- The part of the program that the log names. -/
def logTarget : String := "cttheme_tools::process"

/-- The failure to start a program. A program that is not there, or cannot be run, is something the
user can act on. -/
def failure (tool : String) (program : Path) (error : IoError) : Failure :=
  if error = .os .noEntry ∨ error = .os .accessDenied ∨ error = .os .notPermitted then
    .of (.programNotFound tool program error.message)
  else
    (Failure.of (.io error)).within (.text ("spawn " ++ tool ++ " (" ++ program.display ++ ")"))

/-- Starts a program and waits for its end; `note` is what the log is told before. -/
def start (note tool : String) (call : Call) : Job Reply := do
  Job.log ⟨.debug, logTarget, note,
    [("tool", .quoted tool), ("program", .bare call.program.display),
     ("args", .arguments call.arguments)]⟩
  fun world =>
    match world.load call with
    | .error error =>
      ⟨.error (failure tool call.program error), world.files, [.spawn call false]⟩
    | .ok loaded =>
      let reply := loaded.program (loaded.leading ++ call.arguments) world.files
      ⟨.ok reply, { world.files with entries := reply.entries },
        [.spawn ⟨loaded.path, loaded.leading ++ call.arguments⟩ true]⟩

/-- Tells the log how a program ended. -/
def logEnding (tool : String) (ending : Ending) : Job Unit :=
  Job.log ⟨.debug, logTarget, "child exited",
    [("tool", .quoted tool), ("status", .exitCode ending.code?)]⟩

/-- What is kept of a program that ran. -/
structure Captured where
  ending : Ending
  output : List Char
  errors : String

/-- Runs a program and keeps what it writes. -/
def captured (tool : String) (call : Call) : Job Captured := do
  let reply ← start "spawn (captured)" tool call
  match Utf8.decode reply.output with
  | .error fault =>
    Job.fail ((Failure.of (.notText fault)).within (.text ("decode " ++ tool ++ " output")))
  | .ok output =>
    logEnding tool reply.ending
    return ⟨reply.ending, output, Utf8.lossy reply.errors⟩

/-- Runs a program whose output goes to our standard output, or to our standard error. In the
second case it is put before what the program writes there itself; nothing says how the octets of
the two arrive. -/
def attached (tool : String) (call : Call) (toErrors : Bool) : Job Ending := do
  let reply ← start "spawn" tool call
  Job.step (if toErrors then .errors reply.output else .output reply.output)
  Job.step (.errors reply.errors)
  logEnding tool reply.ending
  return reply.ending

end Launch

end ThemeSetup
