import ThemeSetup.Proofs.Files.Footprint
import ThemeSetup.Proofs.Path.Parent

/-!
# Making a directory again

A path that leads anywhere, be it to a free name, passes its parent, which is a directory
(`isDirectory_parent`). So a directory whose ancestors could not be made cannot be made either, and
making a directory with its ancestors a second time ends as it did the first time and changes
nothing (`makeDirectories_again`). If it failed, what was made before the failure is there, and
either the attempt that failed fails again or one for a directory below it does.
-/

namespace ThemeSetup.FileSystem

section
variable {fs : FileSystem} {here : Location} {purpose : Purpose} {component : Component}
  {rest tail : List Component}

/-! ## What a path passes -/

/-- A walk that goes on after some components passes a directory there, or a link before. -/
theorem walk_passes (htail : Tail tail) {front : List Component} {reached : Walk}
    (h : fs.walk purpose here (front ++ component :: rest) = .ok reached) :
    (∃ location refusal, fs.walk .use here (front ++ tail) = .ok (.ended (.found location)) ∧
      fs.node? location = some (.directory refusal)) ∨
    ∃ directory target after, reached = .link directory target (after ++ component :: rest) ∧
      fs.walk .use here (front ++ tail) = .ok (.link directory target (after ++ tail)) := by
  induction front generalizing here with
  | nil =>
    obtain ⟨refusal, hhere⟩ := walk_directory h
    exact .inl ⟨here, refusal, walk_tail htail hhere, hhere⟩
  | cons first front ih =>
    rw [List.cons_append] at h ⊢
    cases stride h with
    | stay hhere hstay h =>
      rw [walk_stay hhere hstay]
      exact ih h
    | up hhere h =>
      rw [walk_up hhere]
      exact ih h
    | vacant hrest | last hrest => simp at hrest
    | link hhere hshort hlink =>
      exact .inr ⟨here, _, front, rfl, walk_link hhere hshort hlink (by simp) (by simp)⟩
    | entry hhere hshort hentry hnode h =>
      rw [walk_entry hhere hshort hentry hnode (by simp)]
      exact ih h

/-- Following components that are not the last ones leads to a directory. -/
theorem follow_passes (htail : Tail tail) {place : Place} {links : Nat} {front : List Component}
    (h : fs.follow purpose links here (front ++ component :: rest) = .ok place) :
    ∃ location refusal, fs.follow .use links here (front ++ tail) = .ok (.found location) ∧
      fs.node? location = some (.directory refusal) := by
  rw [follow_eq_ok] at h
  generalize hwhole : front ++ component :: rest = whole at h
  induction h generalizing front with
  | ended hwalk =>
    subst hwhole
    rcases walk_passes htail hwalk with ⟨location, refusal, hpassed, hnode⟩ | ⟨_, _, _, hlink, -⟩
    · exact ⟨location, refusal, follow_ended hpassed, hnode⟩
    · cases hlink
  | link hwalk _ ih =>
    subst hwhole
    rcases walk_passes htail hwalk with
      ⟨location, refusal, hpassed, hnode⟩ | ⟨_, _, _, hlink, hpassed⟩
    · exact ⟨location, refusal, follow_ended hpassed, hnode⟩
    · cases hlink
      rw [follow_link hpassed, ← List.append_assoc]
      exact ih (List.append_assoc _ _ _)

/-- The parent of a path that leads anywhere is a directory. -/
theorem isDirectory_parent {path parent : Path} {place : Place}
    (hparent : path.parent? = some parent) (hne : parent.bytes ≠ [])
    (h : fs.resolve .make path = .ok place) : fs.isDirectory parent = true := by
  obtain ⟨hzero, hempty, hlong, hfollow⟩ := resolve_eq_ok.1 h
  obtain ⟨component, rest, hsteps⟩ := Path.steps_of_parent? hparent hne
  obtain ⟨tail, htail, hcomponents⟩ := components_eq_steps parent
  rw [stepsFor, if_pos rfl, hsteps] at hfollow
  obtain ⟨location, refusal, hpassed, hnode⟩ := follow_passes htail hfollow
  have hstart := Path.prefix_of_parent? hparent
  refine isDirectory_iff.2 ⟨location, refusal, resolve_eq_ok.2 ⟨?_, ?_, ?_, ?_⟩, hnode⟩
  · rw [List.contains_eq_mem, decide_eq_false_iff_not] at hzero ⊢
    exact fun hmem => hzero (hstart.subset hmem)
  · simpa using hne
  · exact Nat.lt_of_le_of_lt hstart.length_le hlong
  · rw [stepsFor, if_neg (by simp), hcomponents, origin, ← Path.isAbsolute_of_parent? hparent hne]
    exact hpassed

/-! ## A second time -/

variable {path parent : Path} {ancestors : List Path}

/-- An attempt that fails changes nothing. -/
theorem attempt_of_error {error : IoError} (h : (fs.attempt path).1 = .error error) :
    fs.attempt path = (.error error, fs) := by
  unfold attempt at h ⊢
  split
  · next hmade => simp [hmade] at h
  · next hmade =>
    simp only [hmade] at h
    split
    · next hthere => simp [hthere] at h
    · next hthere =>
      rw [if_neg hthere] at h
      rw [← h]

/-- An attempt fails where the path leads nowhere. -/
theorem attempt_of_resolve_error {error : IoError} (h : fs.resolve .make path = .error error) :
    fs.attempt path = (.error error, fs) := by
  have hthere : ¬ fs.isDirectory path = true := by
    intro hthere
    obtain ⟨location, refusal, hfound, -⟩ := isDirectory_iff.1 hthere
    obtain ⟨found, hmake⟩ := resolve_make_of_use hfound
    rw [h] at hmake
    cases hmake
  simp only [attempt, makeDirectory, h, if_neg hthere]

/-- An attempt fails where the parent is no directory. -/
theorem attempt_of_parent (hparent : path.parent? = some parent) (hne : parent.bytes ≠ [])
    (h : ¬ fs.isDirectory parent = true) : ∃ error, fs.attempt path = (.error error, fs) := by
  cases hresolve : fs.resolve .make path with
  | ok place => exact absurd (isDirectory_parent hparent hne hresolve) h
  | error error => exact ⟨error, attempt_of_resolve_error hresolve⟩

/-- An attempt fails where the way to the directory is missing. -/
theorem attempt_of_missing (h : fs.makeDirectory path = .error (.os .noEntry)) :
    fs.attempt path = (.error (.os .noEntry), fs) := by
  have hthere : ¬ fs.isDirectory path = true := by
    intro hthere
    rw [makeDirectory_of_isDirectory hthere, Except.error.injEq, IoError.os.injEq] at h
    exact absurd h (by decide)
  simp only [attempt, h, if_neg hthere]

/-- Making a directory again fails, and changes nothing, where an attempt fails and making the
ancestors changes nothing. -/
theorem makeLineage_of_attempt_error (hpath : path.bytes ≠ [])
    (hattempt : ∃ error, fs.attempt path = (.error error, fs))
    (habove : (fs.makeLineage ancestors).2 = fs) :
    ∃ error, fs.makeLineage (path :: ancestors) = (.error error, fs) := by
  by_cases hway : fs.makeDirectory path = .error (.os .noEntry)
  · rw [makeLineage_far ancestors hpath hway]
    rcases hlineage : fs.makeLineage ancestors with ⟨result, above⟩
    rw [hlineage] at habove
    obtain rfl : above = fs := habove
    cases result with
    | error error => exact ⟨error, rfl⟩
    | ok done => exact hattempt
  · rw [makeLineage_near ancestors hpath hway]
    exact hattempt

/-- An attempt fails where the ancestors cannot be made, if there are any. -/
theorem attempt_of_lineage_error (hchain : Path.IsLineage (path :: parent :: ancestors))
    (h : (fs.makeLineage (parent :: ancestors)).1.isOk = false) :
    ∃ error, fs.attempt path = (.error error, fs) := by
  obtain ⟨hparent, -⟩ := List.isChain_cons_cons.1 hchain
  refine attempt_of_parent hparent ?_ ?_
  · intro hempty
    simp [makeLineage, hempty, Except.isOk, Except.toBool] at h
  · intro hthere
    simp [makeLineage_of_isDirectory hthere, Except.isOk, Except.toBool] at h

/-- Making the first path of a lineage ends a second time as it did the first time, and changes
nothing. -/
theorem makeLineage_again : ∀ {paths : List Path} (fs : FileSystem), Path.IsLineage paths →
    ((fs.makeLineage paths).2.makeLineage paths).2 = (fs.makeLineage paths).2 ∧
      ((fs.makeLineage paths).2.makeLineage paths).1.isOk = (fs.makeLineage paths).1.isOk
  | [], fs, _ => ⟨rfl, rfl⟩
  | path :: ancestors, fs, hchain => by
    by_cases hempty : path.bytes = []
    · simp [makeLineage, hempty]
    cases hresult : (fs.makeLineage (path :: ancestors)).1 with
    | ok done =>
      rw [makeLineage_of_isDirectory (isDirectory_of_makeLineage hempty hresult)]
      exact ⟨rfl, rfl⟩
    | error error =>
      -- Making the ancestors failed, or an attempt that came after it, or the only attempt.
      suffices hagain : ∃ error', (fs.makeLineage (path :: ancestors)).2.makeLineage
          (path :: ancestors) = (.error error', (fs.makeLineage (path :: ancestors)).2) by
        obtain ⟨error', hagain⟩ := hagain
        rw [hagain]
        exact ⟨rfl, rfl⟩
      by_cases hway : fs.makeDirectory path = .error (.os .noEntry)
      · obtain ⟨hfiles, hok⟩ := makeLineage_again fs hchain.of_cons
        rw [makeLineage_far ancestors hempty hway] at hresult ⊢
        rcases hlineage : fs.makeLineage ancestors with ⟨result, above⟩
        rw [hlineage] at hfiles hok
        rw [hlineage] at hresult
        cases result with
        | error error =>
          refine makeLineage_of_attempt_error hempty ?_ hfiles
          -- The directory itself cannot be made before its parent is.
          cases ancestors with
          | nil =>
            obtain rfl : fs = above := congrArg Prod.snd hlineage
            exact ⟨_, attempt_of_missing hway⟩
          | cons parent ancestors => exact attempt_of_lineage_error hchain hok
        | ok done =>
          have hattempt := attempt_of_error hresult
          dsimp only
          rw [hattempt]
          exact makeLineage_of_attempt_error hempty ⟨_, hattempt⟩ hfiles
      · rw [makeLineage_near ancestors hempty hway] at hresult ⊢
        rw [attempt_of_error hresult]
        exact ⟨error, by rw [makeLineage_near ancestors hempty hway, attempt_of_error hresult]⟩

/-- Making a directory with its ancestors ends a second time as it did the first time, and changes
nothing. -/
theorem makeDirectories_again (fs : FileSystem) (path : Path) :
    ((fs.makeDirectories path).2.makeDirectories path).2 = (fs.makeDirectories path).2 ∧
      ((fs.makeDirectories path).2.makeDirectories path).1.isOk =
        (fs.makeDirectories path).1.isOk :=
  makeLineage_again fs (Path.isLineage_lineageUpTo _ path)

end

end ThemeSetup.FileSystem
