import ThemeSetup.World

/-!
# Laws of jobs

Jobs put together with `do` may be put together in another way (`Job.pure_bind`, `Job.bind_assoc`).
Three properties of jobs go from the parts to the whole: to leave the files alone
(`Job.KeepsFiles`), to take no step that an observer sees (`Job.Unseen`; for the observer of
deliveries `Job.DeliversNothing`) and to fail in certain ways alone (`Job.FailsWith`). What comes
after a job without changing a file leaves the files as that job left them (`Job.files_bind`).
-/

namespace ThemeSetup

/-- Two things that may fail succeed in a row exactly if each of them does. -/
theorem bind_eq_ok {ε α β : Type} {first : Except ε α} {next : α → Except ε β} {b : β} :
    first >>= next = .ok b ↔ ∃ a, first = .ok a ∧ next a = .ok b := by
  cases first <;> simp [Bind.bind, Except.bind]

/-- One of two things in a row fails if both together do. -/
theorem bind_eq_error {ε α β : Type} {first : Except ε α} {next : α → Except ε β} {e : ε}
    (h : first >>= next = .error e) : first = .error e ∨ ∃ a, next a = .error e := by
  cases first with
  | error e' =>
    cases h
    exact .inl rfl
  | ok a => exact .inr ⟨a, h⟩

/-- The deliveries of steps in a row. -/
theorem Step.deliveries_append (first second : List Step) :
    Step.deliveries (first ++ second) = Step.deliveries first ++ Step.deliveries second := by
  simp [Step.deliveries]

namespace Job

section
variable {α β γ : Type} {job : Job α} {next : α → Job β}

/-- Starting with nothing changes nothing. -/
theorem pure_bind (a : α) (next : α → Job β) : (Pure.pure a : Job α) >>= next = next a := by
  funext world
  rw [bind_ok (show ((Pure.pure a : Job α) world).result = .ok a from rfl)]
  rfl

/-- Jobs in a row may be grouped in either way. -/
theorem bind_assoc (job : Job α) (next : α → Job β) (last : β → Job γ) :
    job >>= next >>= last = job >>= fun a => next a >>= last := by
  funext world
  cases hfirst : (job world).result with
  | error failure =>
    have hboth : ((job >>= next) world).result = .error failure := by rw [bind_error hfirst]
    rw [bind_error hfirst, bind_error hboth, bind_error hfirst]
  | ok a =>
    cases hsecond : (next a { world with files := (job world).files }).result with
    | error failure =>
      have hboth : ((job >>= next) world).result = .error failure := by
        rw [bind_ok hfirst]
        exact hsecond
      rw [bind_ok hfirst, bind_error hsecond, bind_error hboth, bind_ok hfirst]
    | ok b =>
      have hboth : ((job >>= next) world).result = .ok b := by
        rw [bind_ok hfirst]
        exact hsecond
      rw [bind_ok hfirst, bind_ok hsecond, bind_ok hboth, bind_ok hfirst]
      simp only [List.append_assoc]

/-- A question is answered by the files that are there. -/
theorem askFiles_bind (question : FileSystem → α) (next : α → Job β) (world : World) :
    (Job.askFiles question >>= next) world = next (question world.files) world :=
  rfl

/-- Telling the log first adds a step and nothing else. -/
theorem log_bind (event : Log.Event) (next : Unit → Job β) (world : World) :
    (Job.log event >>= next) world =
      { next () world with steps := .log event :: (next () world).steps } :=
  rfl

/-! ## Jobs that leave the files alone -/

/-- A job leaves every file as it is, whatever its result. -/
def KeepsFiles (job : Job α) : Prop :=
  ∀ world, (job world).files = world.files

theorem KeepsFiles.pure (a : α) : KeepsFiles (Pure.pure a : Job α) :=
  fun _ => rfl

theorem KeepsFiles.fail (failure : Failure) : KeepsFiles (Job.fail failure : Job α) :=
  fun _ => rfl

theorem KeepsFiles.log (event : Log.Event) : KeepsFiles (Job.log event) :=
  fun _ => rfl

/-- What comes after a job and changes no file leaves the files as the job left them. -/
theorem files_bind (hnext : ∀ a, KeepsFiles (next a)) (world : World) :
    ((job >>= next) world).files = (job world).files := by
  cases h : (job world).result with
  | error failure => rw [bind_error h]
  | ok a =>
    rw [bind_ok h]
    exact hnext a _

theorem KeepsFiles.bind (h : KeepsFiles job) (hnext : ∀ a, KeepsFiles (next a)) :
    KeepsFiles (job >>= next) :=
  fun world => (files_bind hnext world).trans (h world)

/-! ## Jobs that are not seen -/

section
variable {ι : Type} {observe : Step → Option ι}

/-- An observer of steps sees nothing of a job, whatever its result. -/
def Unseen (observe : Step → Option ι) (job : Job α) : Prop :=
  ∀ world, (job world).steps.filterMap observe = []

theorem Unseen.pure (a : α) : Unseen observe (Pure.pure a : Job α) :=
  fun _ => rfl

theorem Unseen.fail (failure : Failure) : Unseen observe (Job.fail failure : Job α) :=
  fun _ => rfl

theorem Unseen.onFiles (change : FileSystem → Except Failure α × FileSystem) :
    Unseen observe (Job.onFiles change) :=
  fun _ => rfl

theorem Unseen.askFiles (question : FileSystem → α) : Unseen observe (Job.askFiles question) :=
  fun _ => rfl

theorem Unseen.attempt (h : Unseen observe job) : Unseen observe job.attempt :=
  h

theorem Unseen.step {step : Step} (h : observe step = none) : Unseen observe (Job.step step) :=
  fun _ => by simp [Job.step, h]

/-- What comes after a job without being seen leaves what was seen of the job. -/
theorem Unseen.steps_bind (hnext : ∀ a, Unseen observe (next a)) (world : World) :
    ((job >>= next) world).steps.filterMap observe = (job world).steps.filterMap observe := by
  cases hfirst : (job world).result with
  | error failure => rw [bind_error hfirst]
  | ok a =>
    rw [bind_ok hfirst]
    simp only [List.filterMap_append, hnext a _, List.append_nil]

theorem Unseen.bind (h : Unseen observe job) (hnext : ∀ a, Unseen observe (next a)) :
    Unseen observe (job >>= next) :=
  fun world => (steps_bind hnext world).trans (h world)

end

/-- A job delivers no item, whatever its result. -/
def DeliversNothing (job : Job α) : Prop :=
  ∀ world, Step.deliveries (job world).steps = []

/-! ## What jobs fail with -/

section
variable {allowed : Failure → Prop}

/-- Whatever a job fails with is allowed. -/
def FailsWith (allowed : Failure → Prop) (job : Job α) : Prop :=
  ∀ world failure, (job world).result = .error failure → allowed failure

theorem FailsWith.pure (a : α) : FailsWith allowed (Pure.pure a : Job α) :=
  fun _ _ h => by cases h

theorem FailsWith.fail {failure : Failure} (h : allowed failure) :
    FailsWith allowed (Job.fail failure : Job α) := by
  rintro _ _ ⟨⟩
  exact h

theorem FailsWith.step (step : Step) : FailsWith allowed (Job.step step) :=
  fun _ _ h => by cases h

theorem FailsWith.log (event : Log.Event) : FailsWith allowed (Job.log event) :=
  .step _

theorem FailsWith.onFiles {change : FileSystem → Except Failure α × FileSystem}
    (h : ∀ fs failure, (change fs).1 = .error failure → allowed failure) :
    FailsWith allowed (Job.onFiles change) :=
  fun world failure hfailure => h world.files failure hfailure

theorem FailsWith.askFiles (question : FileSystem → α) :
    FailsWith allowed (Job.askFiles question) :=
  fun _ _ h => by cases h

/-- An attempt does not fail. -/
theorem FailsWith.attempt (job : Job α) : FailsWith allowed job.attempt :=
  fun _ _ h => by cases h

theorem FailsWith.bind (h : FailsWith allowed job) (hnext : ∀ a, FailsWith allowed (next a)) :
    FailsWith allowed (job >>= next) := by
  intro world failure hfailure
  cases hfirst : (job world).result with
  | error _ =>
    rw [bind_error hfirst] at hfailure
    cases hfailure
    exact h world _ hfirst
  | ok a =>
    rw [bind_ok hfirst] at hfailure
    exact hnext a _ failure hfailure

end

end

end Job

end ThemeSetup
