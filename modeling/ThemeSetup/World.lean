import ThemeSetup.Failure
import ThemeSetup.Files.Edit
import ThemeSetup.Install.Item
import ThemeSetup.Log.Event

/-!
# Worlds and jobs

A world is what a run finds: files, and the programs that contents of files stand for. A program
answers arguments and files with the entries it leaves, what it writes and how it ends. It cannot
change the directory at hand of the run that starts it.

A `Job` is something done in a world. Its `Outcome` tells the result, the files that are left and
what was done, step by step; a job that fails has done the steps before its failure. Jobs are put
together with `do`; `bind_ok` and `bind_error` say what that means.
-/

namespace ThemeSetup

/-- How a program ends. -/
inductive Ending where
  /-- With an exit code. -/
  | exited (code : UInt8)
  /-- By a signal. -/
  | killed
  deriving DecidableEq, Repr

namespace Ending

/-- The exit code of a program, if it has one. -/
def code? : Ending → Option Int
  | .exited code => some code.toNat
  | .killed => none

/-- Whether a program ended well. -/
def isSuccess (ending : Ending) : Bool :=
  ending == .exited 0

end Ending

/-- The exit code to pass on for the exit code of a child: the same if it is one octet, else 1. -/
def exitByte (code : Option Int) : UInt8 :=
  match code with
  | some code => if 0 ≤ code ∧ code ≤ 255 then code.toNat.toUInt8 else 1
  | none => 1

/-- What a program leaves behind. -/
structure Reply where
  /-- The entries of the file system. -/
  entries : List (Location × Node)
  output : Bytes
  errors : Bytes
  ending : Ending

/-- What a program does with its arguments and the files it finds. -/
abbrev Program := List Bytes → FileSystem → Reply

/-- The program that makes changes, then writes, then ends. -/
def Program.scripted (edits : List Edit) (output errors : Bytes) (ending : Ending) : Program :=
  fun _ files => ⟨(edits.foldl FileSystem.edit files).entries, output, errors, ending⟩

/-- Files, and the programs that contents of files stand for. -/
structure World where
  files : FileSystem
  programs : Bytes → Option Program

/-- A program with the arguments it is given. -/
structure Call where
  program : Path
  arguments : List Bytes
  deriving DecidableEq, Repr

/-- Something that a run does. -/
inductive Step where
  /-- It tells the log. -/
  | log (event : Log.Event)
  /-- It asks the system to start a program, which may be refused. -/
  | spawn (call : Call) (started : Bool)
  /-- It knows what became of an item. -/
  | deliver (delivery : Install.Delivery)
  /-- Octets go to its standard output. -/
  | output (octets : Bytes)
  /-- Octets go to its standard error. -/
  | errors (octets : Bytes)
  deriving DecidableEq, Repr

namespace Step

/-- The programs that were started, in order. -/
def calls (steps : List Step) : List Call :=
  steps.filterMap fun
    | .spawn call true => some call
    | _ => none

/-- The programs that were to be started, in order. -/
def attempts (steps : List Step) : List Call :=
  steps.filterMap fun
    | .spawn call _ => some call
    | _ => none

/-- What became of items, in order. -/
def deliveries (steps : List Step) : List Install.Delivery :=
  steps.filterMap fun
    | .deliver delivery => some delivery
    | _ => none

/-- All that went to standard output. -/
def outputOf (steps : List Step) : Bytes :=
  steps.flatMap fun
    | .output octets => octets
    | _ => []

/-- All that went to standard error, except the log. -/
def errorsOf (steps : List Step) : Bytes :=
  steps.flatMap fun
    | .errors octets => octets
    | _ => []

end Step

/-- The result of a job, the files it leaves and what it did. -/
structure Outcome (α : Type) where
  result : Except Failure α
  files : FileSystem
  steps : List Step

/-- Something done in a world. -/
def Job (α : Type) : Type :=
  World → Outcome α

namespace Job

/-- Nothing is done. -/
def pure {α : Type} (a : α) : Job α :=
  fun world => ⟨.ok a, world.files, []⟩

/-- A job, and then one that depends on its result, in the world that the first leaves. -/
def bind {α β : Type} (job : Job α) (next : α → Job β) : Job β :=
  fun world =>
    let first := job world
    match first.result with
    | .error failure => ⟨.error failure, first.files, first.steps⟩
    | .ok a =>
      let second := next a { world with files := first.files }
      ⟨second.result, second.files, first.steps ++ second.steps⟩

instance : Monad Job where
  pure := pure
  bind := bind

/-- Failing. -/
def fail {α : Type} (failure : Failure) : Job α :=
  fun world => ⟨.error failure, world.files, []⟩

/-- Doing one step that leaves the files alone. -/
def step (step : Step) : Job Unit :=
  fun world => ⟨.ok (), world.files, [step]⟩

/-- Telling the log. -/
def log (event : Log.Event) : Job Unit :=
  step (.log event)

/-- A change of the files that may fail. -/
def onFiles {α : Type} (change : FileSystem → Except Failure α × FileSystem) : Job α :=
  fun world => ⟨(change world.files).1, (change world.files).2, []⟩

/-- A question about the files. -/
def askFiles {α : Type} (question : FileSystem → α) : Job α :=
  fun world => ⟨.ok (question world.files), world.files, []⟩

/-- A job whose failure is a result too. -/
def attempt {α : Type} (job : Job α) : Job (Except Failure α) :=
  fun world =>
    let outcome := job world
    ⟨.ok outcome.result, outcome.files, outcome.steps⟩

/-- After a job that succeeds the next one finds the files that it leaves. -/
theorem bind_ok {α β : Type} {job : Job α} {next : α → Job β} {world : World} {a : α}
    (h : (job world).result = .ok a) :
    (job >>= next) world =
      let second := next a { world with files := (job world).files }
      ⟨second.result, second.files, (job world).steps ++ second.steps⟩ := by
  simp [Bind.bind, bind, h]

/-- After a job that fails nothing is done. -/
theorem bind_error {α β : Type} {job : Job α} {next : α → Job β} {world : World}
    {failure : Failure} (h : (job world).result = .error failure) :
    (job >>= next) world = ⟨.error failure, (job world).files, (job world).steps⟩ := by
  simp [Bind.bind, bind, h]

end Job

end ThemeSetup
