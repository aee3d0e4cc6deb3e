import ThemeSetup.Proofs.HostRoot
import ThemeSetup.Tool.Options

/-!
# Which settings are a request

Settings are a request exactly if each required path option has a value that is not empty; the
request holds these values (`installRequest_eq_ok`, `packageRequest_eq_ok`). If they are none, that
is a cause of the tools' own.
-/

namespace ThemeSetup.Tool

open CommandLine (Settings)

/-- The value of a path option of settings is this path, and it is not empty. -/
structure Holds (settings : Settings) (long : String) (path : Path) : Prop where
  value : settings.path? long = some path.bytes
  nonempty : path.bytes ≠ []

/-- A required path is read exactly if its option holds it. -/
theorem Requirement.read_eq_ok {requirement : Requirement} {settings : Settings} {path : Path} :
    requirement.read settings = .ok path ↔ Holds settings requirement.long path := by
  unfold Requirement.read
  constructor
  · intro h
    match hvalue : settings.path? requirement.long with
    | none => simp [hvalue] at h
    | some [] => simp [hvalue] at h
    | some (first :: rest) =>
      simp only [hvalue] at h
      cases h
      exact ⟨hvalue, nofun⟩
  · rintro ⟨hvalue, hnonempty⟩
    obtain ⟨_ | ⟨first, rest⟩⟩ := path
    · exact absurd rfl hnonempty
    · simp only [hvalue]

/-- Settings that lack what is read after a required path, or the path itself, do so for a cause of
the tools' own. -/
theorem Requirement.unnoticed_bind {α : Type} {requirement : Requirement} {settings : Settings}
    {next : Path → Except Failure α}
    (h : ∀ path failure, next path = .error failure → failure.Unnoticed) (failure : Failure)
    (hfailure : requirement.read settings >>= next = .error failure) : failure.Unnoticed := by
  rcases bind_eq_error hfailure with hread | ⟨path, hnext⟩
  · unfold Requirement.read at hread
    split at hread <;> cases hread <;> exact nofun
  · exact h path failure hnext

/-- Settings that are no request to install are none for a cause of the tools' own. -/
theorem installRequest_unnoticed {settings : Settings} {failure : Failure}
    (h : installRequest settings = .error failure) : failure.Unnoticed :=
  Requirement.unnoticed_bind (fun _ => Requirement.unnoticed_bind fun _ =>
    Requirement.unnoticed_bind fun _ _ hnone => by cases hnone) failure h

/-- Settings that are no request to pack are none for a cause of the tools' own. -/
theorem packageRequest_unnoticed {settings : Settings} {failure : Failure}
    (h : packageRequest settings = .error failure) : failure.Unnoticed :=
  Requirement.unnoticed_bind (fun _ => Requirement.unnoticed_bind fun _ =>
    Requirement.unnoticed_bind fun _ => Requirement.unnoticed_bind fun _ _ hnone => by
      cases hnone) failure h

/-- Settings are a request to install exactly if they hold its three paths. -/
theorem installRequest_eq_ok {settings : Settings} {request : Install.Request} :
    installRequest settings = .ok request ↔ Holds settings "ct" request.helpers ∧
      Holds settings "local" request.sources ∧ Holds settings "lib" request.libraries := by
  simp only [installRequest, bind_eq_ok, Requirement.read_eq_ok]
  constructor
  · rintro ⟨helpers, hhelpers, sources, hsources, libraries, hlibraries, ⟨⟩⟩
    exact ⟨hhelpers, hsources, hlibraries⟩
  · rintro ⟨hhelpers, hsources, hlibraries⟩
    exact ⟨_, hhelpers, _, hsources, _, hlibraries, rfl⟩

/-- Settings are a request to pack exactly if they hold its four paths. -/
theorem packageRequest_eq_ok {settings : Settings} {request : Package.Request} :
    packageRequest settings = .ok request ↔ Holds settings "output" request.archive ∧
      Holds settings "local" request.sources ∧ Holds settings "bin" request.programs ∧
      Holds settings "lib" request.libraries := by
  simp only [packageRequest, bind_eq_ok, Requirement.read_eq_ok]
  constructor
  · rintro ⟨archive, harchive, sources, hsources, programs, hprograms, libraries, hlibraries, ⟨⟩⟩
    exact ⟨harchive, hsources, hprograms, hlibraries⟩
  · rintro ⟨harchive, hsources, hprograms, hlibraries⟩
    exact ⟨_, harchive, _, hsources, _, hprograms, _, hlibraries, rfl⟩

end ThemeSetup.Tool
