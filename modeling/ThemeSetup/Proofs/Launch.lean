import ThemeSetup.Proofs.Files.Walk
import ThemeSetup.Proofs.Package

/-!
# Programs that cannot be started

The system refuses to start a program for one of a few reasons (`World.refusal_of_load`): it is not
there or may not be run (`Unavailable`), or it is out of reach or no program (`Unfit`). Whichever it
is, no file is changed. What is reported depends on the reason: that the program is not found, with
what a user can do about it, exactly if it is unavailable (`Launch.reportsNotFound_iff`). A
directory of programs that is a file itself makes the program unfit, so a program that cannot be
started need not be reported as not found (`Launch.not_reportsNotFound`).
-/

namespace ThemeSetup

/-- A program is not there, or may not be run. -/
inductive Unavailable : IoError → Prop
  | noEntry : Unavailable (.os .noEntry)
  | accessDenied : Unavailable (.os .accessDenied)

/-- A program is out of reach, or there is none. -/
inductive Unfit : IoError → Prop
  /-- Its path goes through something that is no directory. -/
  | notDirectory : Unfit (.os .notDirectory)
  /-- Its path, or a name on it, is too long. -/
  | nameTooLong : Unfit (.os .nameTooLong)
  /-- Too many links are on its path, or too many scripts before it. -/
  | tooManyLinks : Unfit (.os .tooManyLinks)
  /-- It is neither a program nor a script. -/
  | badFormat : Unfit (.os .badFormat)
  /-- Its path or an argument holds an octet zero. -/
  | zeroInArgument : Unfit .zeroInArgument

/-- The reasons for which the system starts no program. -/
def Refusal (error : IoError) : Prop :=
  Unavailable error ∨ Unfit error

/-- No reason is of both kinds. -/
theorem Unavailable.not_unfit {error : IoError} (h : Unavailable error) : ¬ Unfit error := by
  cases h <;> exact nofun

/-- No program is left to its owner. -/
theorem not_refusal_notPermitted : ¬ Refusal (.os .notPermitted) := by
  rintro (h | h) <;> cases h

/-! ## Why a program is refused -/

namespace FileSystem

variable {fs : FileSystem} {path : Path}

/-- What a walk fails with is a reason not to start a program. -/
theorem refusal_of_walk {error : OsError} : ∀ {components : List Component} {here : Location},
    fs.walk .use here components = .error error → Refusal (.os error)
  | [], _, h => by cases h
  | component :: rest, here, h => by
    cases hhere : fs.node? here with
    | none =>
      rw [walk_nowhere hhere] at h
      cases h
      exact .inl .noEntry
    | some node =>
      cases node with
      | file | link | device =>
        rw [walk_not_directory hhere nofun] at h
        cases h
        exact .inr .notDirectory
      | directory refusal =>
        cases component with
        | self | endSlash =>
          rw [walk_stay hhere (by simp)] at h
          exact refusal_of_walk h
        | up =>
          rw [walk_up hhere] at h
          exact refusal_of_walk h
        | name entry =>
          rw [walk_name hhere, if_neg (by simp)] at h
          split at h
          · cases h
            exact .inr .nameTooLong
          split at h
          · split at h
            · cases h
            · cases h
              exact .inl .noEntry
          · split at h <;> cases h
          · exact refusal_of_walk h

/-- What following components fails with is a reason not to start a program. -/
theorem refusal_of_follow {error : OsError} :
    ∀ {links : Nat} {here : Location} {components : List Component},
      fs.follow .use links here components = .error error → Refusal (.os error)
  | links, here, components, h => by
    cases hwalk : fs.walk .use here components with
    | error error' =>
      rw [follow_error hwalk] at h
      cases h
      exact refusal_of_walk hwalk
    | ok reached =>
      cases reached with
      | ended place =>
        rw [follow_ended hwalk] at h
        cases h
      | link directory target after =>
        cases links with
        | zero =>
          rw [follow_link_zero hwalk] at h
          cases h
          exact .inr .tooManyLinks
        | succ links =>
          rw [follow_link hwalk] at h
          exact refusal_of_follow h

/-- A path without an octet zero that leads nowhere is a reason not to start a program. -/
theorem refusal_of_resolve {error : IoError} (hzero : path.bytes.contains 0 = false)
    (h : fs.resolve .use path = .error error) : Refusal error := by
  unfold resolve at h
  rw [hzero] at h
  simp only [Bool.false_eq_true, if_false] at h
  split at h
  · cases h
    exact .inl .noEntry
  split at h
  · cases h
    exact .inr .nameTooLong
  split at h
  · cases h
  · next hfollow =>
    cases h
    exact refusal_of_follow hfollow

/-- A file that cannot be opened as a program is a reason not to start it. -/
theorem refusal_of_openProgram {error : IoError} (hzero : path.bytes.contains 0 = false)
    (h : fs.openProgram path = .error error) : Refusal error := by
  unfold openProgram at h
  split at h
  · next hresolve =>
    cases h
    exact refusal_of_resolve hzero hresolve
  · cases h
    exact .inl .noEntry
  · split at h
    · split at h <;> cases h
      exact .inl .accessDenied
    · cases h
      exact .inl .accessDenied
    · cases h
      exact .inl .noEntry

end FileSystem

/-- The path of an interpreter holds no octet zero, which would end the name of it. -/
theorem zero_free_of_interpreter? {content : Bytes} {interpreter : Path} {argument : List Bytes}
    (h : interpreter? content = some (interpreter, argument)) :
    interpreter.bytes.contains 0 = false := by
  unfold interpreter? at h
  cases hline : scriptLine? content with
  | none => simp [hline] at h
  | some line =>
    simp only [hline, Option.bind_eq_bind, Option.bind_some] at h
    split at h
    · cases h
    · cases h
      split
      · decide
      · refine Bool.eq_false_iff.2 fun hzero => ?_
        have hword := List.all_eq_true.1 List.all_takeWhile 0 (List.contains_iff_mem.1 hzero)
        exact absurd hword (by decide)

namespace World

/-- The content of a file that starts no program is a reason not to start it. -/
theorem refusal_of_loadContent {world : World} {error : IoError} :
    ∀ {scripts : Nat} {path : Path} {content : Bytes},
      world.loadContent scripts path content = .error error → Refusal error
  | scripts, path, content, h => by
    unfold loadContent at h
    split at h
    · cases h
    split at h
    · cases h
      exact .inr .badFormat
    · next interpreter argument hinterpreter =>
      split at h
      · next hopen =>
        cases h
        exact FileSystem.refusal_of_openProgram (zero_free_of_interpreter? hinterpreter) hopen
      · cases scripts with
        | zero =>
          cases h
          exact .inr .tooManyLinks
        | succ scripts =>
          dsimp only at h
          split at h
          · next hload =>
            cases h
            exact refusal_of_loadContent hload
          · cases h

/-- Every call that starts no program is refused for one of the reasons. -/
theorem refusal_of_load {world : World} {call : Call} {error : IoError}
    (h : world.load call = .error error) : Refusal error := by
  unfold load at h
  split at h
  · cases h
    exact .inr .zeroInArgument
  · next hzero =>
    split at h
    · cases h
      exact .inl .noEntry
    split at h
    · next hopen =>
      cases h
      refine FileSystem.refusal_of_openProgram ?_ hopen
      simp only [Bool.or_eq_true, not_or, Bool.not_eq_true] at hzero
      exact hzero.1
    · exact refusal_of_loadContent h

end World

/-! ## What is reported -/

namespace Launch

/-- A job fails and reports that its program is not found, with what a user can do about it. -/
def ReportsNotFound {α : Type} (tool : String) (program : Path) (outcome : Outcome α) : Prop :=
  ∃ failure, outcome.result = .error failure ∧ failure.report.code = "E_TOOL_NOT_FOUND" ∧
    failure.report.details = some (.object
      [("hint", .string ("build " ++ tool ++
          " first, or point the tool at the directory that contains it")),
       ("program", .string program.display), ("tool", .string tool)])

/-- A program that is refused is reported as not found exactly if it is unavailable. -/
theorem reportsNotFound_of_failure {α : Type} {tool : String} {program : Path} {error : IoError}
    {outcome : Outcome α} (hrefusal : Refusal error)
    (h : outcome.result = .error (failure tool program error)) :
    ReportsNotFound tool program outcome ↔ Unavailable error := by
  constructor
  · rintro ⟨reported, hreported, hcode, -⟩
    obtain rfl : failure tool program error = reported := Except.error.inj (h.symm.trans hreported)
    unfold failure at hcode
    split at hcode
    · next hreason =>
      rcases hreason with rfl | rfl | rfl
      · exact .noEntry
      · exact .accessDenied
      · exact absurd hrefusal not_refusal_notPermitted
    · exact absurd (show "E_UNEXPECTED" = "E_TOOL_NOT_FOUND" from hcode) (by decide)
  · intro hreason
    refine ⟨_, h, ?_⟩
    cases hreason <;> exact ⟨rfl, rfl⟩

section
variable (tool : String) (toErrors : Bool) {call : Call} {world : World} {error : IoError}

/-- A program that cannot be started is a failure of the job that keeps what it writes. -/
theorem captured_refused (hload : world.load call = .error error) :
    (captured tool call world).result = .error (failure tool call.program error) := by
  rw [captured_result, hload]

/-- A program that cannot be started is a failure of the job that passes on what it writes. -/
theorem attached_refused (hload : world.load call = .error error) :
    (attached tool call toErrors world).result = .error (failure tool call.program error) :=
  ((attached_ran tool call toErrors world).refused error hload).1

/-- A program that cannot be started is refused for one of the reasons, and no file is changed,
whether what it writes is kept or passed on. It is reported as not found exactly if it is
unavailable. -/
theorem reportsNotFound_iff (hload : world.load call = .error error) :
    Refusal error ∧
      (captured tool call world).files = world.files ∧
      (attached tool call toErrors world).files = world.files ∧
      (ReportsNotFound tool call.program (captured tool call world) ↔ Unavailable error) ∧
      (ReportsNotFound tool call.program (attached tool call toErrors world) ↔
        Unavailable error) := by
  have hfiles : world.filesAfter call = world.files := by rw [World.filesAfter, hload]
  have hrefusal := World.refusal_of_load hload
  refine ⟨hrefusal, ?_, ?_, ?_, ?_⟩
  · rw [captured_files, hfiles]
  · rw [(attached_ran tool call toErrors world).files, hfiles]
  · exact reportsNotFound_of_failure hrefusal (captured_refused tool hload)
  · exact reportsNotFound_of_failure hrefusal (attached_refused tool toErrors hload)

end

/-- A world with one file beside the root, which may be run. -/
def loneFile (name : String) (content : String) : World where
  files :=
    { entries :=
        [([], .directory none),
         ([Bytes.ofString name], .file 0o755 (Bytes.ofString content))]
      home := [] }
  programs := fun _ => none

/-- A script whose interpreter is not there is not found. -/
theorem reportsNotFound_iff_script :
    let world := loneFile "packer" "#!/bin/interpreter\n"
    let call : Call := ⟨.ofString "./packer", [Bytes.ofString "--theme"]⟩
    world.load call = .error (.os .noEntry) ∧
      ReportsNotFound "plpack" call.program (captured "plpack" call world) ∧
      ReportsNotFound "plpack" call.program (attached "plpack" call true world) := by
  intro world call
  have hload : world.load call = .error (.os .noEntry) := rfl
  obtain ⟨-, -, -, hcaptured, hattached⟩ := reportsNotFound_iff "plpack" true hload
  exact ⟨hload, hcaptured.2 .noEntry, hattached.2 .noEntry⟩

/-- A program that cannot be started need not be reported as not found: the directory that should
hold it may be a file. -/
theorem not_reportsNotFound : ¬ ∀ (tool : String) (call : Call) (toErrors : Bool) (world : World)
    (error : IoError), world.load call = .error error →
      ReportsNotFound tool call.program (captured tool call world) ∧
        ReportsNotFound tool call.program (attached tool call toErrors world) := by
  intro h
  have hload : (loneFile "ct" "").load ⟨.ofString "ct/ctpath", []⟩ =
    .error (.os .notDirectory) := rfl
  obtain ⟨hcaptured, -⟩ := h "ctpath" _ false _ _ hload
  have hunavailable := (reportsNotFound_of_failure (World.refusal_of_load hload)
    (captured_refused "ctpath" hload)).1 hcaptured
  exact hunavailable.not_unfit .notDirectory

end Launch

end ThemeSetup
