import ThemeSetup.Package
import ThemeSetup.Proofs.HostRoot

/-!
# The call of the packing program

What `Package.run` comes to depends on the world alone, and so does what it starts
(`Package.run_ran`): whether the output of the program goes to standard output or to standard
error only decides what is written there. What the program writes does not matter either
(`Package.run_muted`).
-/

namespace ThemeSetup

/-- What a step writes to standard output. -/
def Step.output? : Step → Option Bytes
  | .output octets => some octets
  | _ => none

/-- What was written to standard output, write by write. -/
def Step.writes (steps : List Step) : List Bytes :=
  steps.filterMap Step.output?

/-- All that went to standard output is what was written, in a row. -/
theorem Step.outputOf_eq (steps : List Step) :
    Step.outputOf steps = (Step.writes steps).flatten := by
  induction steps with
  | nil => rfl
  | cons step rest ih =>
    rw [outputOf, List.flatMap_cons, ← outputOf, ih, writes, writes, List.filterMap_cons]
    cases step <;> rfl

/-- The program that a call starts, as the system sees it: a script is an argument of its
interpreter. -/
def Loaded.call (loaded : Loaded) (call : Call) : Call :=
  ⟨loaded.path, loaded.leading ++ call.arguments⟩

/-- What the system sees of the attempt to make a call. -/
def World.attempted (world : World) (call : Call) : Call :=
  match world.load call with
  | .error _ => call
  | .ok loaded => loaded.call call

/-- Starting a program is one attempt. -/
theorem Launch.start_attempts (note tool : String) (call : Call) (world : World) :
    Step.attempts (Launch.start note tool call world).steps = [world.attempted call] := by
  simp only [Launch.start, World.attempted, Bind.bind, Job.bind, Job.log, Job.step]
  cases world.load call <;> rfl

/-- A program is started for a path: it is the file of that path, or an interpreter that finds the
path behind its own arguments. -/
def Loaded.Serves (loaded : Loaded) (path : Path) : Prop :=
  (loaded.path = path ∧ loaded.leading = []) ∨ ∃ front, loaded.leading = front ++ [path.bytes]

/-- What the content of a file starts is started for the path of the file. -/
theorem World.serves_of_loadContent {world : World} {scripts : Nat} {path : Path} {content : Bytes}
    {loaded : Loaded} (h : world.loadContent scripts path content = .ok loaded) :
    loaded.Serves path := by
  unfold World.loadContent at h
  split at h
  · cases h
    exact .inl ⟨rfl, rfl⟩
  split at h
  · cases h
  split at h
  · cases h
  split at h
  · cases h
  split at h <;> cases h
  exact .inr ⟨_, rfl⟩

/-- What a call starts is started for the program of the call. -/
theorem World.serves_of_load {world : World} {call : Call} {loaded : Loaded}
    (h : world.load call = .ok loaded) : loaded.Serves call.program := by
  unfold World.load at h
  split at h
  · cases h
  split at h
  · cases h
  split at h
  · cases h
  exact serves_of_loadContent h

/-- What a program that is started for a call replies. -/
def World.reply (world : World) (loaded : Loaded) (call : Call) : Reply :=
  loaded.program (loaded.leading ++ call.arguments) world.files

/-- The outcome of a job that starts the program of a call, lets it write where it is told to, and
answers with its ending. -/
structure Launch.Ran {α : Type} (tool : String) (call : Call) (toErrors : Bool) (world : World)
    (answer : Ending → α) (outcome : Outcome α) : Prop where
  files : outcome.files = world.filesAfter call
  /-- A program that cannot be started is a failure. -/
  refused : ∀ error, world.load call = .error error →
    outcome.result = .error (Launch.failure tool call.program error) ∧
      Step.attempts outcome.steps = [call] ∧ Step.calls outcome.steps = [] ∧
      Step.writes outcome.steps = []
  /-- A program that is started is the only one, and what it writes is passed on. -/
  started : ∀ loaded, world.load call = .ok loaded →
    outcome.result = .ok (answer (world.reply loaded call).ending) ∧
      Step.attempts outcome.steps = [loaded.call call] ∧
      Step.calls outcome.steps = [loaded.call call] ∧
      Step.writes outcome.steps = if toErrors then [] else [(world.reply loaded call).output]

variable (tool : String) (call : Call) (toErrors : Bool) (world : World)

/-- A program whose output is passed on is run. -/
theorem Launch.attached_ran :
    Launch.Ran tool call toErrors world id (Launch.attached tool call toErrors world) := by
  refine ⟨?_, fun error hload => ?_, fun loaded hload => ?_⟩
  all_goals
    simp only [Launch.attached, Launch.start, Launch.logEnding, Bind.bind, Job.bind, Job.log,
      Job.step]
  · rw [World.filesAfter]
    cases world.load call <;> rfl
  · rw [hload]
    exact ⟨rfl, rfl, rfl, rfl⟩
  · rw [hload]
    cases toErrors <;> exact ⟨rfl, rfl, rfl, rfl⟩

/-- What packing does when the program has ended: it tells the log of a failure, and passes on the
exit code. -/
def Package.passOn (ending : Ending) : Job UInt8 := do
  if !ending.isSuccess then
    Job.log ⟨.warn, "cttheme_tools::package", "plpack exited with failure",
      [("code", .exitCode ending.code?)]⟩
  return exitByte ending.code?

/-- Passing on an exit code changes no file. -/
theorem Package.passOn_keepsFiles (ending : Ending) : Job.KeepsFiles (passOn ending) := by
  unfold passOn
  split
  · exact .bind (.log _) fun _ => .pure _
  · exact .pure _

/-- Passing on an exit code tells the log alone. -/
theorem Package.passOn_unseen {ι : Type} {observe : Step → Option ι}
    (h : ∀ event, observe (.log event) = none) (ending : Ending) :
    Job.Unseen observe (passOn ending) := by
  unfold passOn
  split
  · exact .bind (.step (h _)) fun _ => .pure _
  · exact .pure _

/-- Passing on an exit code gives it as the result. -/
theorem Package.passOn_result (ending : Ending) (world : World) :
    (passOn ending world).result = .ok (exitByte ending.code?) := by
  unfold passOn
  split <;> rfl

/-- Packing fails with causes of the tools' own. -/
theorem Package.run_unnoticed : Job.FailsWith Failure.Unnoticed (Package.run call toErrors) := by
  refine .bind (Launch.attached_failsWith (Launch.failure_unnoticed _ _) _) fun ending => ?_
  dsimp only
  split
  · exact .bind (.log _) fun _ => .pure _
  · exact .pure _

/-- The packing program is run, and its exit code is passed on. -/
theorem Package.run_ran :
    Launch.Ran Plugin.packerStem call toErrors world (fun ending => exitByte ending.code?)
      (Package.run call toErrors world) := by
  obtain ⟨hfiles, hrefused, hstarted⟩ :=
    Launch.attached_ran Plugin.packerStem call toErrors world
  rw [show Package.run call toErrors =
    Launch.attached Plugin.packerStem call toErrors >>= passOn from rfl]
  refine ⟨(Job.files_bind passOn_keepsFiles world).trans hfiles, fun error hload => ?_,
    fun loaded hload => ?_⟩
  · rw [Job.bind_error (hrefused error hload).1]
    exact ⟨rfl, (hrefused error hload).2⟩
  · obtain ⟨hresult, hattempts, hcalls, hwrites⟩ := hstarted loaded hload
    refine ⟨?_, (Job.Unseen.steps_bind (passOn_unseen fun _ => rfl) world).trans hattempts,
      (Job.Unseen.steps_bind (passOn_unseen fun _ => rfl) world).trans hcalls,
      (Job.Unseen.steps_bind (passOn_unseen fun _ => rfl) world).trans hwrites⟩
    rw [Job.bind_ok hresult]
    exact passOn_result _ _

/-- Passing on an exit code tells the log alone. -/
theorem Package.passOn_steps (ending : Ending) :
    ∃ notes : List Log.Event, (passOn ending world).steps = notes.map .log := by
  unfold passOn
  split
  · exact ⟨[_], rfl⟩
  · exact ⟨[], rfl⟩

/-- The steps of packing with a program that is started: it writes what it writes, and besides the
log is told. -/
theorem Package.run_steps {loaded : Loaded} (hload : world.load call = .ok loaded) :
    let reply := world.reply loaded call
    ∃ (note : Log.Event) (notes : List Log.Event), (Package.run call toErrors world).steps =
      [.log note, .spawn (loaded.call call) true,
        if toErrors then .errors reply.output else .output reply.output, .errors reply.errors] ++
      notes.map .log := by
  intro reply
  have hattached : ∃ note ending : Log.Event,
      (Launch.attached Plugin.packerStem call toErrors world).steps =
        [.log note, .spawn (loaded.call call) true,
          if toErrors then .errors reply.output else .output reply.output, .errors reply.errors,
          .log ending] := by
    simp only [Launch.attached, Launch.start, Launch.logEnding, Bind.bind, Job.bind, Job.log,
      Job.step, hload]
    exact ⟨_, _, rfl⟩
  obtain ⟨note, ending, hsteps⟩ := hattached
  obtain ⟨hresult, -⟩ :=
    (Launch.attached_ran Plugin.packerStem call toErrors world).started loaded hload
  rw [show Package.run call toErrors =
    Launch.attached Plugin.packerStem call toErrors >>= passOn from rfl, Job.bind_ok hresult,
    hsteps]
  obtain ⟨notes, hnotes⟩ := passOn_steps
    { world with files := (Launch.attached Plugin.packerStem call toErrors world).files }
    (id reply.ending)
  exact ⟨note, ending :: notes, congrArg (_ ++ ·) hnotes⟩

/-- What goes to standard output is not seen where it goes to standard error. -/
theorem Package.run_silent (call : Call) : Job.Unseen Step.output? (Package.run call true) := by
  intro world
  obtain ⟨-, hrefused, hstarted⟩ := Package.run_ran call true world
  cases hload : world.load call with
  | error error => exact (hrefused error hload).2.2.2
  | ok loaded => exact (hstarted loaded hload).2.2.2

/-! ## Programs that write nothing -/

/-- The program that leaves the same entries and ends in the same way, and writes nothing. -/
def Program.muted (program : Program) : Program :=
  fun arguments files => { program arguments files with output := [], errors := [] }

/-- The world whose programs write nothing. -/
def World.muted (world : World) : World :=
  { world with programs := fun content => (world.programs content).map Program.muted }

/-- The program that can be started, and writes nothing. -/
def Loaded.muted (loaded : Loaded) : Loaded :=
  { loaded with program := loaded.program.muted }

/-- A content starts the same program, which writes nothing. -/
theorem World.loadContent_muted : ∀ (scripts : Nat) (path : Path) (content : Bytes),
    world.muted.loadContent scripts path content =
      (world.loadContent scripts path content).map Loaded.muted
  | scripts, path, content => by
    have hprograms : world.muted.programs content = (world.programs content).map Program.muted :=
      rfl
    unfold World.loadContent
    rw [hprograms]
    cases world.programs content with
    | some program => rfl
    | none =>
      cases interpreter? content with
      | none => rfl
      | some found =>
        dsimp only [Option.map_none]
        rw [show world.muted.files = world.files from rfl]
        cases world.files.openProgram found.1 with
        | error error => rfl
        | ok next =>
          cases scripts with
          | zero => rfl
          | succ scripts =>
            dsimp only
            rw [World.loadContent_muted scripts found.1 next]
            cases world.loadContent scripts found.1 next <;> rfl

/-- A call starts the same program, which writes nothing. -/
theorem World.load_muted : world.muted.load call = (world.load call).map Loaded.muted := by
  unfold World.load
  rw [show world.muted.files = world.files from rfl]
  split
  · rfl
  split
  · rfl
  cases world.files.openProgram call.program with
  | error error => rfl
  | ok content => exact World.loadContent_muted world _ _ _

/-- Packing comes to the same if the programs write nothing. -/
theorem Package.run_muted : (Package.run call toErrors world.muted).result =
    (Package.run call toErrors world).result := by
  obtain ⟨-, hrefused, hstarted⟩ := Package.run_ran call toErrors world
  obtain ⟨-, hrefused', hstarted'⟩ := Package.run_ran call toErrors world.muted
  have hmuted := World.load_muted call world
  cases hload : world.load call with
  | error error =>
    rw [hload] at hmuted
    exact (hrefused' error hmuted).1.trans (hrefused error hload).1.symm
  | ok loaded =>
    rw [hload] at hmuted
    exact (hstarted' loaded.muted hmuted).1.trans (hstarted loaded hload).1.symm

end ThemeSetup
