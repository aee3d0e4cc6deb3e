import ThemeSetup.CommandLine.Parse
import ThemeSetup.Proofs.Job

/-!
# Steps of reading

Reading a command line is made of a few steps: an option is set or waits for its value, an argument
is the value that an option waits for, the options end, or the command line is refused. A law that
holds of these steps, and of a step after another if it holds of both, holds of reading all
arguments (`ReadingLaw.readArguments`). A law may also be about certain flags alone; then no
argument may be another flag.

Two states can be read from side by side if what is set in them stays related: where setting an
option carries related settings to related ones, so does every step (`State.tracksLaw`).
-/

namespace ThemeSetup.CommandLine

/-- A law of steps of reading, where the flags that are set are these. -/
structure ReadingLaw (flags : Key → Prop) (law : (State → Except Refusal State) → Prop) : Prop where
  keep : law .ok
  refuse : ∀ refusal, law fun _ => .error refusal
  assign : ∀ key value, law (·.assign key value)
  raise : ∀ key, flags key → law (·.raise key)
  await : ∀ key, law (·.await key)
  value : ∀ argument, law (Grammar.readValue · argument)
  finish : law fun state => .ok { state with ended := true }
  bind : ∀ {read after : State → Except Refusal State}, law read → law after →
    law fun state => read state >>= after
  /-- Whether the options are ended decides between two steps. -/
  either : ∀ {read other : State → Except Refusal State}, law read → law other →
    law fun state => if state.ended then read state else other state

namespace ReadingLaw

variable {flags : Key → Prop} {law : (State → Except Refusal State) → Prop}
  (h : ReadingLaw flags law) (grammar : Grammar)
include h

/-- The law holds of reading a long option. -/
theorem readLong {argument : Bytes}
    (hflags : ∀ key, (Utf8.decode? argument).bind grammar.long? = some key → flags key) :
    law (grammar.readLong · argument) := by
  -- A flag is set only without an equals sign, and then the name is the whole argument.
  have hwhole : argument.dropWhile (· != equalsSign) = [] →
      argument.takeWhile (· != equalsSign) = argument := by
    intro hdrop
    have hparts : argument.takeWhile (· != equalsSign) ++ argument.dropWhile (· != equalsSign) =
        argument := List.takeWhile_append_dropWhile
    rwa [hdrop, List.append_nil] at hparts
  unfold Grammar.readLong
  generalize argument.takeWhile (· != equalsSign) = name at hwhole
  generalize argument.dropWhile (· != equalsSign) = tail at hwhole
  dsimp only
  cases hkey : (Utf8.decode? name).bind grammar.long? with
  | none => exact h.refuse _
  | some key =>
    dsimp only
    cases key.takesValue <;> cases tail
    · exact h.raise key (hflags key (hwhole rfl ▸ hkey))
    · exact h.refuse _
    · exact h.await key
    · exact h.assign key _

/-- The law holds of reading short options. -/
theorem readShort (hflags : ∀ c key, grammar.short? c = some key → flags key) (tail : Bytes)
    (text : List Char) : law (grammar.readShort tail · text) := by
  induction text with
  | nil =>
    unfold Grammar.readShort
    split
    · exact h.keep
    · exact h.refuse _
  | cons c rest ih =>
    unfold Grammar.readShort
    cases hkey : grammar.short? c with
    | none => exact h.refuse _
    | some key =>
      dsimp only
      split
      · cases Bytes.ofChars rest ++ tail with
        | nil => exact h.await key
        | cons first others => exact h.assign key _
      · exact h.bind (h.raise key (hflags c key hkey)) ih

/-- The law holds of reading an argument. -/
theorem readArgument {argument : Bytes}
    (hshort : ∀ c key, grammar.short? c = some key → flags key)
    (hlong : ∀ name key, argument = dash :: dash :: name →
      (Utf8.decode? name).bind grammar.long? = some key → flags key) :
    law (grammar.readArgument · argument) := by
  unfold Grammar.readArgument
  refine h.either (h.value argument) ?_
  split
  · exact h.finish
  unfold Grammar.readOption
  split
  · next first second rest _ =>
    by_cases hfirst : first = dash
    · subst hfirst
      simp only [ne_eq, not_true_eq_false, if_false]
      split
      · next hsecond => exact h.readLong grammar fun key hkey => hlong rest key (hsecond ▸ rfl) hkey
      · exact h.readShort grammar hshort _ _
    · simp only [ne_eq, hfirst, not_false_eq_true, if_true]
      exact h.value _
  · exact h.value _

/-- The law holds of reading arguments, if no argument is another flag. -/
theorem readArguments (hshort : ∀ c key, grammar.short? c = some key → flags key)
    {arguments : List Bytes}
    (hlong : ∀ name key, dash :: dash :: name ∈ arguments →
      (Utf8.decode? name).bind grammar.long? = some key → flags key) :
    law (grammar.readArguments · arguments) := by
  induction arguments with
  | nil => exact h.keep
  | cons argument rest ih =>
    refine h.bind (h.readArgument grammar hshort fun name key hargument hkey => ?_)
      (ih fun name key hmem => hlong name key (List.mem_cons_of_mem _ hmem))
    exact hlong name key (hargument ▸ List.mem_cons_self) hkey

end ReadingLaw

/-! ## Reading side by side -/

section
variable {related : Settings → Settings → Prop}

/-- A change that can be made to settings can be made to those that they are related to, and the
results are related. -/
def Settings.Carries (related : Settings → Settings → Prop)
    (change : Settings → Except Refusal Settings) : Prop :=
  ∀ settings other next, related settings other → change settings = .ok next →
    ∃ after, change other = .ok after ∧ related next after

/-- A state, and another one whose settings are related once the pending values are taken in. A
value may still be pending in one of them that was taken in in the other. -/
structure State.Beside (related : Settings → Settings → Prop) (state other : State) : Prop where
  ended : other.ended = state.ended
  settled : ∀ settings, state.settle = .ok settings →
    ∃ after, other.settle = .ok after ∧ related settings after
  /-- An option without its value waits for it in both. -/
  awaiting : ∀ key, state.pending = some (key, none) →
    other.pending = state.pending ∧ related state.settings other.settings

/-- A step of reading that can be taken in a state can be taken beside it. -/
def State.Tracks (related : Settings → Settings → Prop) (read : State → Except Refusal State) :
    Prop :=
  ∀ state other next, Beside related state other → read state = .ok next →
    ∃ after, read other = .ok after ∧ Beside related next after

namespace State

variable (hassign : ∀ key value, Settings.Carries related (·.assign key value))
include hassign

/-- Related settings are beside each other, whatever is pending. -/
theorem Beside.of_related {settings other : Settings} (h : related settings other)
    (pending : Option (Key × Option Bytes)) (ended : Bool) :
    Beside related ⟨settings, pending, ended⟩ ⟨other, pending, ended⟩ where
  ended := rfl
  settled settled hsettled := by
    match pending with
    | none =>
      cases hsettled
      exact ⟨other, rfl, h⟩
    | some (key, none) => cases hsettled
    | some (key, some value) => exact hassign key value settings other settled h hsettled
  awaiting _ _ := ⟨rfl, h⟩

/-- Taking in the value that is pending, and then changing the settings. -/
theorem Tracks.settled {change : Settings → Except Refusal Settings}
    (hchange : Settings.Carries related change) (pending : Option (Key × Option Bytes)) :
    Tracks related fun state => do
      let settings ← state.settle
      let settings ← change settings
      return { state with settings := settings, pending := pending } := by
  intro state other next h hnext
  obtain ⟨settled, hsettle, hnext⟩ := bind_eq_ok.1 hnext
  obtain ⟨changed, hchanged, hnext⟩ := bind_eq_ok.1 hnext
  cases hnext
  obtain ⟨otherSettled, hotherSettle, hsettled⟩ := h.settled settled hsettle
  obtain ⟨otherChanged, hotherChanged, hrelated⟩ := hchange _ _ _ hsettled hchanged
  refine ⟨_, bind_eq_ok.2 ⟨_, hotherSettle, bind_eq_ok.2 ⟨_, hotherChanged, rfl⟩⟩, ?_⟩
  rw [h.ended]
  exact .of_related hassign hrelated pending state.ended

/-- An argument that an option waits for is its value in both states. -/
theorem tracks_readValue (argument : Bytes) : Tracks related (Grammar.readValue · argument) := by
  rintro ⟨settings, pending, ended⟩ ⟨other, otherPending, otherEnded⟩ next h hnext
  obtain rfl : otherEnded = ended := h.ended
  match pending, otherEnded with
  | some (key, none), false =>
    cases hnext
    obtain ⟨rfl, hrelated⟩ := h.awaiting key rfl
    exact ⟨_, rfl, .of_related hassign hrelated _ _⟩
  | none, false => cases hnext
  | none, true => cases hnext
  | some (key, none), true => cases hnext
  | some (key, some value), false => cases hnext
  | some (key, some value), true => cases hnext

/-- Every step of reading can be taken side by side, if no flag is set but those that carry the
relation on. -/
theorem tracksLaw {flags : Key → Prop}
    (hraise : ∀ key, flags key → Settings.Carries related (·.raise key)) :
    ReadingLaw flags (Tracks related) where
  keep := by
    rintro state other _ h ⟨⟩
    exact ⟨other, rfl, h⟩
  refuse refusal := by rintro _ _ _ _ ⟨⟩
  assign key value := .settled hassign (hassign key value) none
  raise key hflag := .settled hassign (hraise key hflag) none
  await key := by
    have hkept : Settings.Carries related .ok := by
      rintro settings other _ hrelated ⟨⟩
      exact ⟨other, rfl, hrelated⟩
    exact .settled hassign hkept (some (key, none))
  value := tracks_readValue hassign
  finish := by
    rintro state other _ h ⟨⟩
    exact ⟨_, rfl, rfl, h.settled, h.awaiting⟩
  bind {read after} hread hafter := by
    intro state other next h hnext
    obtain ⟨middle, hmiddle, hnext⟩ := bind_eq_ok.1 hnext
    obtain ⟨otherMiddle, hother, h⟩ := hread state other middle h hmiddle
    obtain ⟨otherNext, hotherNext, h⟩ := hafter middle otherMiddle next h hnext
    exact ⟨otherNext, bind_eq_ok.2 ⟨_, hother, hotherNext⟩, h⟩
  either {read other} hread hother := by
    intro state beside next h hnext
    dsimp only at hnext ⊢
    rw [h.ended]
    split at hnext
    · next hended =>
      rw [if_pos hended]
      exact hread state beside next h hnext
    · next hended =>
      rw [if_neg hended]
      exact hother state beside next h hnext

end State

end

end ThemeSetup.CommandLine
