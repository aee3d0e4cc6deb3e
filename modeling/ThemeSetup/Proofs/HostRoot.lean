import ThemeSetup.HostRoot
import ThemeSetup.Proofs.Job
import ThemeSetup.Proofs.Text.Utf8

/-!
# The files after the helper ran

Asking for the host's root changes what the helper changes and nothing else
(`HostRoot.ask_files`): before the helper runs and after it ended only the log is told. What it
comes to is decided by what is kept of the helper (`HostRoot.ask_result`), which is what the helper
replied, if that is text (`Launch.captured_result`). Whatever it fails with is a cause of the tools'
own (`HostRoot.ask_unnoticed`), and it is not a source that is missing (`HostRoot.ask_notMissing`).
A root that it names is UTF-8 (`HostRoot.isSome_text?_of_ask`).
-/

namespace ThemeSetup

/-- The files that a call leaves: those of the program that it starts, or all as it was if it
starts none. -/
def World.filesAfter (world : World) (call : Call) : FileSystem :=
  match world.load call with
  | .error _ => world.files
  | .ok loaded =>
    { world.files with
      entries := (loaded.program (loaded.leading ++ call.arguments) world.files).entries }

/-- Starting a program leaves the files of its call. -/
theorem Launch.start_files (note tool : String) (call : Call) (world : World) :
    (Launch.start note tool call world).files = world.filesAfter call := by
  simp only [Launch.start, World.filesAfter, Bind.bind, Job.bind, Job.log, Job.step]
  cases world.load call <;> rfl

section
variable {ι : Type} {observe : Step → Option ι}

/-- Starting a program tells the log, and starts a program. -/
theorem Launch.start_unseen (hlog : ∀ event, observe (.log event) = none)
    (hspawn : ∀ call started, observe (.spawn call started) = none) (note tool : String)
    (call : Call) : Job.Unseen observe (Launch.start note tool call) := by
  refine .bind (.step (hlog _)) fun _ world => ?_
  dsimp only
  split <;> exact List.filterMap_cons_none (hspawn _ _)

/-- Who does not see the log sees of running a program and keeping what it writes that it is
started. -/
theorem Launch.captured_seen (hlog : ∀ event, observe (.log event) = none) (tool : String)
    (call : Call) (world : World) :
    (Launch.captured tool call world).steps.filterMap observe =
      (Launch.start "spawn (captured)" tool call world).steps.filterMap observe := by
  refine Job.Unseen.steps_bind (fun reply => ?_) world
  split
  · exact .fail _
  · exact .bind (.step (hlog _)) fun _ => .pure _

end

/-- Running a program and keeping what it writes leaves the files of its call. -/
theorem Launch.captured_files (tool : String) (call : Call) (world : World) :
    (Launch.captured tool call world).files = world.filesAfter call := by
  unfold Launch.captured
  rw [Job.files_bind, Launch.start_files]
  intro reply
  split
  · exact .fail _
  · exact .bind (.log _) fun _ => .pure _

/-- The result of running a program depends on what is loaded and what it replies. -/
theorem Launch.captured_result (tool : String) (call : Call) (world : World) :
    (Launch.captured tool call world).result =
      match world.load call with
      | .error error => .error (Launch.failure tool call.program error)
      | .ok loaded =>
        let reply := loaded.program (loaded.leading ++ call.arguments) world.files
        match Utf8.decode reply.output with
        | .error fault =>
          .error ((Failure.of (.notText fault)).within (.text ("decode " ++ tool ++ " output")))
        | .ok output => .ok ⟨reply.ending, output, Utf8.lossy reply.errors⟩ := by
  simp only [Launch.captured, Launch.start, Launch.logEnding, Bind.bind, Job.bind, Job.log,
    Job.step]
  cases world.load call with
  | error error => rfl
  | ok loaded =>
    dsimp only
    cases Utf8.decode (loaded.program (loaded.leading ++ call.arguments) world.files).output <;> rfl

section
variable {allowed : Failure → Prop} {tool : String} {call : Call}
  (h : ∀ error, allowed (Launch.failure tool call.program error))
include h

/-- Starting a program fails if it cannot be started, and not else. -/
theorem Launch.start_failsWith (note : String) :
    Job.FailsWith allowed (Launch.start note tool call) := by
  refine .bind (.log _) fun _ world failure hfailure => ?_
  dsimp only at hfailure
  split at hfailure <;> cases hfailure
  exact h _

/-- Running a program and keeping what it writes fails if it cannot be started, or if its output is
no text. -/
theorem Launch.captured_failsWith (htext : ∀ fault,
    allowed ((Failure.of (.notText fault)).within (.text ("decode " ++ tool ++ " output")))) :
    Job.FailsWith allowed (Launch.captured tool call) := by
  refine .bind (start_failsWith h _) fun reply => ?_
  split
  · exact .fail (htext _)
  · exact .bind (.log _) fun _ => .pure _

/-- Running a program and passing on what it writes fails if it cannot be started. -/
theorem Launch.attached_failsWith (toErrors : Bool) :
    Job.FailsWith allowed (Launch.attached tool call toErrors) :=
  .bind (start_failsWith h _) fun _ =>
    .bind (.step _) fun _ => .bind (.step _) fun _ => .bind (.log _) fun _ => .pure _

end

/-- A failure that is not the one of a source which is missing. -/
def Failure.NotMissing (failure : Failure) : Prop :=
  ∀ label path, failure ≠ .of (.sourceMissing label path)

/-- A program that cannot be started is no missing source. -/
theorem Launch.failure_notMissing (tool : String) (program : Path) (error : IoError) :
    (Launch.failure tool program error).NotMissing := by
  unfold Launch.failure
  split <;> exact nofun

/-- A failure whose cause is one of the tools' own, and not one that comes with its notice. -/
def Failure.Unnoticed (failure : Failure) : Prop :=
  ∀ notice, failure.cause ≠ .noticed notice

/-- A program that cannot be started is a cause of its own. -/
theorem Launch.failure_unnoticed (tool : String) (program : Path) (error : IoError) :
    (Launch.failure tool program error).Unnoticed := by
  unfold Launch.failure
  split <;> exact nofun

namespace HostRoot

/-- The call of the helper in a directory. -/
def call (helpers : Path) (platform : Platform) : Call :=
  ⟨platform.programIn helpers Plugin.hostRootStem, []⟩

/-- The root that is named by what is kept of the helper, or what is wrong with it. -/
def answered (program : Path) (answer : Launch.Captured) : Except Failure Path :=
  if answer.ending.isSuccess then
    match parse? answer.output with
    | none => .error (.of (.hostRootEmpty program))
    | some line => .ok ⟨Bytes.ofChars line⟩
  else .error (.of (.hostRootFailed program answer.ending.code? answer.errors))

/-- What asking for the host's root comes to is decided by what is kept of the helper. -/
theorem ask_result (helpers : Path) (platform : Platform) (world : World) :
    (ask helpers platform world).result =
      (Launch.captured Plugin.hostRootStem (call helpers platform) world).result.bind
        (answered (call helpers platform).program) := by
  unfold ask
  rw [← call]
  cases hcaptured : (Launch.captured Plugin.hostRootStem (call helpers platform) world).result with
  | error failure => rw [Job.bind_error hcaptured, Except.bind]
  | ok answer =>
    rw [Job.bind_ok hcaptured, Except.bind, answered]
    cases answer.ending.isSuccess with
    | false => rfl
    | true => cases parse? answer.output <;> rfl

/-- Asking for the host's root leaves the files that the helper leaves. -/
theorem ask_files (helpers : Path) (platform : Platform) (world : World) :
    (ask helpers platform world).files = world.filesAfter (call helpers platform) := by
  unfold ask
  rw [Job.files_bind, Launch.captured_files, call]
  intro answer
  split
  · exact .fail _
  split
  · exact .fail _
  · exact .bind (.log _) fun _ => .pure _

/-- Who does not see the log sees of asking for the host's root that the helper is started. -/
theorem ask_seen {ι : Type} {observe : Step → Option ι}
    (hlog : ∀ event, observe (.log event) = none) (helpers : Path) (platform : Platform)
    (world : World) : (ask helpers platform world).steps.filterMap observe =
      (Launch.start "spawn (captured)" Plugin.hostRootStem (call helpers platform)
        world).steps.filterMap observe := by
  refine (Job.Unseen.steps_bind (fun answer => ?_) world).trans (Launch.captured_seen hlog _ _ _)
  split
  · exact .fail _
  split
  · exact .fail _
  · exact .bind (.step (hlog _)) fun _ => .pure _

/-- Asking for the host's root tells the log, and starts a program. -/
theorem ask_unseen {ι : Type} {observe : Step → Option ι}
    (hlog : ∀ event, observe (.log event) = none)
    (hspawn : ∀ call started, observe (.spawn call started) = none) (helpers : Path)
    (platform : Platform) : Job.Unseen observe (ask helpers platform) :=
  fun world => (ask_seen hlog helpers platform world).trans
    (Launch.start_unseen hlog hspawn _ _ _ world)

/-- Asking for the host's root delivers nothing. -/
theorem ask_delivers (helpers : Path) (platform : Platform) :
    Job.DeliversNothing (ask helpers platform) :=
  ask_unseen (fun _ => rfl) (fun _ _ => rfl) helpers platform

/-- What asking for the host's root fails with. -/
theorem ask_failsWith {allowed : Failure → Prop} {helpers : Path} {platform : Platform}
    (hcaptured : Job.FailsWith allowed
      (Launch.captured Plugin.hostRootStem (call helpers platform)))
    (hfailed : ∀ program code errors, allowed (.of (.hostRootFailed program code errors)))
    (hempty : ∀ program, allowed (.of (.hostRootEmpty program))) :
    Job.FailsWith allowed (ask helpers platform) := by
  refine .bind hcaptured fun answer => ?_
  split
  · exact .fail (hfailed _ _ _)
  split
  · exact .fail (hempty _)
  · exact .bind (.log _) fun _ => .pure _

/-- Asking for the host's root never fails for a source that is missing. -/
theorem ask_notMissing (helpers : Path) (platform : Platform) :
    Job.FailsWith Failure.NotMissing (ask helpers platform) :=
  ask_failsWith (Launch.captured_failsWith (Launch.failure_notMissing _ _) fun _ => nofun)
    (fun _ _ _ => nofun) fun _ => nofun

/-- Asking for the host's root fails with causes of the tools' own. -/
theorem ask_unnoticed (helpers : Path) (platform : Platform) :
    Job.FailsWith Failure.Unnoticed (ask helpers platform) :=
  ask_failsWith (Launch.captured_failsWith (Launch.failure_unnoticed _ _) fun _ => nofun)
    (fun _ _ _ => nofun) fun _ => nofun

/-- A root that the helper names is UTF-8. -/
theorem isSome_text?_of_ask {helpers root : Path} {platform : Platform} {world : World}
    (h : (ask helpers platform world).result = .ok root) : root.text?.isSome = true := by
  rw [ask_result] at h
  cases hcaptured : (Launch.captured Plugin.hostRootStem (call helpers platform) world).result with
  | error failure =>
    rw [hcaptured] at h
    cases h
  | ok answer =>
    rw [hcaptured, Except.bind, answered] at h
    split at h
    · split at h <;> cases h
      exact Utf8.isSome_decode?_ofChars _
    · cases h

/-- The programs where the helper is the only one: it names a root and changes nothing. -/
def soleHelper (root : String) (content : Bytes) : Option Program :=
  if content = Bytes.ofString "helper" then
    some (.scripted [] (Bytes.ofString root) [] (.exited 0))
  else none

end HostRoot

end ThemeSetup
