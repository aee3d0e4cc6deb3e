import ThemeSetup.Proofs.CommandLine.Steps
import ThemeSetup.Proofs.Job
import ThemeSetup.Proofs.Text.Written
import ThemeSetup.Tool.Run

/-!
# Leaving out the flag for a dry run

A command line that asks for a dry run holds the flag for it, and without the flag it is read in the
same way and sets the same options besides (`Tool.parse_erase`). The state after the flag differs
from the one before it in what it sets, and in that a pending value was taken in
(`State.Without`); every later step takes in what is pending first, so the difference stays as it is
(`State.Follows`).
-/

namespace ThemeSetup.CommandLine

/-- The settings without a dry run asked for. -/
def Settings.real (settings : Settings) : Settings :=
  { settings with dryRun := false }

namespace Settings

/-- A change of dry settings leaves them dry, and is the same without the dry run. -/
def KeepsDry (change : Settings → Except Refusal Settings) : Prop :=
  ∀ settings next, settings.dryRun = true → change settings = .ok next →
    next.dryRun = true ∧ change settings.real = .ok next.real

/-- Dry settings, and the same settings without the dry run. -/
def RealOf (settings other : Settings) : Prop :=
  settings.dryRun = true ∧ other = settings.real

/-- What leaves dry settings dry carries them on beside those without the dry run. -/
theorem KeepsDry.carries {change : Settings → Except Refusal Settings} (h : KeepsDry change) :
    Carries RealOf change := by
  rintro settings _ next ⟨hdry, rfl⟩ hnext
  obtain ⟨hnextDry, hreal⟩ := h settings next hdry hnext
  exact ⟨_, hreal, hnextDry, rfl⟩

/-- Setting an option to a value has nothing to do with dry runs. -/
theorem keepsDry_assign (key : Key) (value : Bytes) : KeepsDry (·.assign key value) := by
  intro settings next hdry hnext
  cases key with
  | path long =>
    by_cases hgiven : (settings.path? long).isSome = true
    · simp only [assign, hgiven, if_true] at hnext
      cases hnext
    · simp only [assign, hgiven] at hnext
      cases hnext
      exact ⟨hdry, if_neg hgiven⟩
  | platform =>
    by_cases hgiven : settings.platform.isSome = true
    · simp only [assign, hgiven, if_true] at hnext
      cases hnext
    · simp only [assign, hgiven] at hnext
      cases hnamed : (Utf8.decode? value).bind Platform.named? with
      | none =>
        simp only [hnamed] at hnext
        cases hnext
      | some platform =>
        simp only [hnamed] at hnext
        cases hnext
        refine ⟨hdry, ?_⟩
        simp only [assign, real, hgiven, hnamed]
        rfl
  | _ =>
    cases hnext
    exact ⟨hdry, rfl⟩

/-- A flag that may be set for a dry run is the same without. -/
theorem keepsDry_raise (key : Key) : KeepsDry (·.raise key) := by
  intro settings next hdry hnext
  cases key with
  | dryRun =>
    simp only [raise, hdry, if_true] at hnext
    cases hnext
  | json =>
    by_cases hgiven : settings.json = true
    · simp only [raise, hgiven, if_true] at hnext
      cases hnext
    · simp only [raise, hgiven] at hnext
      cases hnext
      exact ⟨hdry, if_neg hgiven⟩
  | help => cases hnext
  | version => cases hnext
  | _ =>
    cases hnext
    exact ⟨hdry, rfl⟩

end Settings

namespace State

/-- A state of a dry run, and the state where it was not asked for. A value may still be pending in
the second that was taken in in the first. -/
structure Without (state plain : State) : Prop where
  ended : plain.ended = state.ended
  settled : ∀ settings, state.settle = .ok settings →
    settings.dryRun = true ∧ plain.settle = .ok settings.real
  /-- An option without its value waits for it in both. -/
  awaiting : (∃ key, state.pending = some (key, none)) →
    state.settings.dryRun = true ∧ plain = { state with settings := state.settings.real }

/-- A state without the dry run is beside the state of the dry run, where dry settings are related
to the same settings without it. -/
theorem without_iff {state plain : State} :
    Without state plain ↔ Beside Settings.RealOf state plain := by
  constructor
  · intro h
    refine ⟨h.ended, fun settings hsettled => ?_, fun key hpending => ?_⟩
    · obtain ⟨hdry, hplain⟩ := h.settled settings hsettled
      exact ⟨_, hplain, hdry, rfl⟩
    · obtain ⟨hdry, rfl⟩ := h.awaiting ⟨key, hpending⟩
      exact ⟨rfl, hdry, rfl⟩
  · intro h
    refine ⟨h.ended, fun settings hsettled => ?_, fun ⟨key, hpending⟩ => ?_⟩
    · obtain ⟨_, hplain, hdry, rfl⟩ := h.settled settings hsettled
      exact ⟨hdry, hplain⟩
    · obtain ⟨hsame, hdry, hreal⟩ := h.awaiting key hpending
      obtain ⟨settings, pending, ended⟩ := state
      obtain ⟨other, otherPending, otherEnded⟩ := plain
      obtain rfl : otherEnded = ended := h.ended
      obtain rfl : otherPending = pending := hsame
      obtain rfl : other = settings.real := hreal
      exact ⟨hdry, rfl⟩

/-- A step of reading for a dry run is the same where the dry run was not asked for. -/
def Follows (read : State → Except Refusal State) : Prop :=
  ∀ state plain next, Without state plain → read state = .ok next →
    ∃ after, read plain = .ok after ∧ Without next after

/-- Every step of reading for a dry run is the same without. -/
theorem followsLaw : ReadingLaw (fun _ => True) Follows := by
  have hfollows : Follows = Tracks Settings.RealOf := by
    funext read
    simp only [Follows, Tracks, without_iff]
  rw [hfollows]
  exact tracksLaw (fun key value => (Settings.keepsDry_assign key value).carries)
    fun key _ => (Settings.keepsDry_raise key).carries

end State

/-! ## The flag -/

/-- The flag for a dry run. -/
def dryRunFlag : Bytes := Bytes.ofString "--dry-run"

/-- A step of reading that does not ask for a dry run. -/
def State.StaysReal (read : State → Except Refusal State) : Prop :=
  ∀ state next, read state = .ok next → state.settings.dryRun = false →
    next.settings.dryRun = false

/-- Setting an option to a value does not ask for a dry run. -/
theorem Settings.dryRun_assign {settings next : Settings} {key : Key} {value : Bytes}
    (h : settings.assign key value = .ok next) : next.dryRun = settings.dryRun := by
  unfold assign at h
  split at h
  · split at h <;> cases h
    rfl
  · split at h
    · cases h
    · split at h <;> cases h
      rfl
  · cases h
    rfl

/-- No other flag asks for a dry run. -/
theorem Settings.dryRun_raise {settings next : Settings} {key : Key} (hkey : key ≠ .dryRun)
    (h : settings.raise key = .ok next) : next.dryRun = settings.dryRun := by
  unfold raise at h
  split at h
  · exact absurd rfl hkey
  · split at h <;> cases h
    rfl
  · cases h
    rfl
  · cases h
  · cases h
  · cases h
    rfl
  · cases h
    rfl

/-- Taking in the value that is pending does not ask for a dry run. -/
theorem State.dryRun_settle {state : State} {settings : Settings}
    (h : state.settle = .ok settings) : settings.dryRun = state.settings.dryRun := by
  unfold settle at h
  split at h
  · cases h
    rfl
  · cases h
  · exact Settings.dryRun_assign h

/-- Taking in the value that is pending, and then changing the settings. -/
theorem State.StaysReal.settled {change : Settings → Except Refusal Settings}
    (hchange : ∀ settings next, change settings = .ok next → next.dryRun = settings.dryRun)
    (pending : Option (Key × Option Bytes)) :
    StaysReal fun state => do
      let settings ← state.settle
      let settings ← change settings
      return { state with settings := settings, pending := pending } := by
  intro state next hnext hreal
  obtain ⟨settled, hsettle, hnext⟩ := bind_eq_ok.1 hnext
  obtain ⟨changed, hchanged, hnext⟩ := bind_eq_ok.1 hnext
  cases hnext
  exact ((hchange settled changed hchanged).trans (dryRun_settle hsettle)).trans hreal

/-- No step of reading asks for a dry run, except for the flag itself. -/
theorem State.staysRealLaw : ReadingLaw (· ≠ .dryRun) StaysReal where
  keep := by
    rintro state _ ⟨⟩ hreal
    exact hreal
  refuse refusal := by rintro _ _ ⟨⟩
  assign key value := .settled (fun _ _ => Settings.dryRun_assign) none
  raise key hkey := .settled (fun _ _ => Settings.dryRun_raise hkey) none
  await key := by
    have hkept (settings next : Settings)
        (h : (.ok settings : Except Refusal Settings) = .ok next) :
        next.dryRun = settings.dryRun := by
      cases h
      rfl
    exact .settled hkept (some (key, none))
  value argument := by
    intro state next hnext hreal
    unfold Grammar.readValue at hnext
    dsimp only at hnext
    split at hnext <;> cases hnext
    exact hreal
  finish := by
    rintro state _ ⟨⟩ hreal
    exact hreal
  bind hread hafter := by
    intro state next hnext hreal
    obtain ⟨middle, hmiddle, hnext⟩ := bind_eq_ok.1 hnext
    exact hafter middle next hnext (hread state middle hmiddle hreal)
  either hread hother := by
    intro state next hnext hreal
    dsimp only at hnext
    split at hnext
    · exact hread state next hnext hreal
    · exact hother state next hnext hreal

namespace Grammar

variable {grammar : Grammar}

/-- The long name of the flag for a dry run. -/
theorem eq_of_long?_dryRun {name : String} (h : grammar.long? name = some .dryRun) :
    name = "dry-run" := by
  obtain ⟨before, after, hnames, -⟩ := List.lookup_eq_some_iff.1 h
  have hmem : (name, Key.dryRun) ∈ grammar.longNames := hnames ▸ by simp
  rcases List.mem_append.1 hmem with hpath | hshared
  · obtain ⟨option, -, hoption⟩ := List.mem_map.1 hpath
    cases hoption
  · simpa [sharedLongNames] using hshared

/-- The flag for a dry run has no short name. -/
theorem short?_ne_dryRun {c : Char} {key : Key} (h : grammar.short? c = some key) :
    key ≠ .dryRun := by
  rintro rfl
  obtain ⟨before, after, hnames, -⟩ := List.lookup_eq_some_iff.1 h
  have hmem : (c, Key.dryRun) ∈ grammar.shortNames := hnames ▸ by simp
  rcases List.mem_append.1 hmem with hpath | hshared
  · obtain ⟨option, -, hoption⟩ := List.mem_map.1 hpath
    cases hoption
  · simp [sharedShortNames] at hshared

/-- A command line that asks for a dry run holds the flag for it. -/
theorem dryRunFlag_mem {arguments : List Bytes} {settings : Settings}
    (h : grammar.parse arguments = .ok settings) (hdry : settings.dryRun = true) :
    dryRunFlag ∈ arguments := by
  refine Decidable.byContradiction fun hnone => ?_
  have hreal : State.StaysReal (grammar.readArguments · arguments) := by
    refine State.staysRealLaw.readArguments grammar (fun _ _ => short?_ne_dryRun) ?_
    rintro name _ hmem hkey rfl
    obtain ⟨text, htext, hlong⟩ := Option.bind_eq_some_iff.1 hkey
    rw [eq_of_long?_dryRun hlong] at htext
    rw [← Utf8.ofString_of_decode? htext] at hmem
    exact hnone hmem
  obtain ⟨state, hread, hsettle⟩ := bind_eq_ok.1 h
  rw [State.dryRun_settle hsettle, hreal _ _ hread rfl] at hdry
  cases hdry

/-- The state after the flag is that of a dry run, and the state before it is without. -/
theorem without_of_flag (hlong : grammar.long? "dry-run" = some .dryRun) {state next : State}
    (h : grammar.readArgument state dryRunFlag = .ok next) : next.Without state := by
  have hdecoded : Utf8.decode? ((Bytes.ofString "dry-run").takeWhile (· != equalsSign)) =
      some "dry-run" := by decide +kernel
  have hlast : (Bytes.ofString "dry-run").dropWhile (· != equalsSign) = [] := by decide +kernel
  have hread : grammar.readLong state (Bytes.ofString "dry-run") = state.raise .dryRun := by
    unfold readLong
    dsimp only
    rw [hdecoded, hlast, Option.bind_some, hlong]
    rfl
  obtain ⟨settings, pending, ended⟩ := state
  cases ended with
  -- After two dashes the flag is a value, and no option waits for one.
  | true =>
    match pending with
    | none => cases h
    | some (key, none) => cases h
    | some (key, some value) => cases h
  | false =>
    have hraise : State.raise ⟨settings, pending, false⟩ .dryRun = .ok next := hread ▸ h
    obtain ⟨settled, hsettle, hraise⟩ := bind_eq_ok.1 hraise
    obtain ⟨raised, hraised, hraise⟩ := bind_eq_ok.1 hraise
    cases hraise
    by_cases hgiven : settled.dryRun = true
    · simp only [Settings.raise, hgiven, if_true] at hraised
      cases hraised
    · simp only [Settings.raise, hgiven] at hraised
      cases hraised
      refine ⟨rfl, ?_, by rintro ⟨key, ⟨⟩⟩⟩
      rintro _ ⟨⟩
      have hreal : { settled with dryRun := false } = settled := by
        rw [← Bool.eq_false_iff.2 hgiven]
      exact ⟨rfl, hsettle.trans (congrArg _ hreal.symm)⟩

/-- Arguments after others are read from the state that these lead to. -/
theorem readArguments_append (state : State) (first second : List Bytes) :
    grammar.readArguments state (first ++ second) =
      grammar.readArguments state first >>= (grammar.readArguments · second) := by
  induction first generalizing state with
  | nil => rfl
  | cons argument rest ih =>
    rw [List.cons_append, readArguments, readArguments]
    cases grammar.readArgument state argument with
    | error refusal => rfl
    | ok next => exact ih next

/-- A command line that asks for a dry run sets the same options without the flag for it, and asks
for no dry run then. -/
theorem parse_erase (hlong : grammar.long? "dry-run" = some .dryRun) {arguments : List Bytes}
    {settings : Settings} (h : grammar.parse arguments = .ok settings)
    (hdry : settings.dryRun = true) :
    grammar.parse (arguments.erase dryRunFlag) = .ok settings.real := by
  obtain ⟨before, after, -, hline, herase⟩ :=
    List.exists_erase_eq (dryRunFlag_mem h hdry)
  obtain ⟨last, hread, hsettle⟩ := bind_eq_ok.1 h
  -- What comes before the flag is read alike, and what comes after it follows.
  rw [hline, readArguments_append] at hread
  obtain ⟨state, hbefore, hread⟩ := bind_eq_ok.1 hread
  obtain ⟨flagged, hflag, hafter⟩ := bind_eq_ok.1 hread
  have hfollows : State.Follows (grammar.readArguments · after) :=
    State.followsLaw.readArguments grammar (fun _ _ _ => trivial) fun _ _ _ _ => trivial
  obtain ⟨plain, hplain, hwithout⟩ :=
    hfollows flagged state last (without_of_flag hlong hflag) hafter
  rw [herase, parse, readArguments_append, hbefore]
  exact bind_eq_ok.2 ⟨plain, hplain, (hwithout.settled settings hsettle).2⟩

end Grammar

end ThemeSetup.CommandLine

namespace ThemeSetup.Tool

/-- A command line that asks for a dry run sets the same options without the flag for it. -/
theorem parse_erase (tool : Tool) {arguments : List Bytes} {settings : CommandLine.Settings}
    (h : tool.grammar.parse arguments = .ok settings) (hdry : settings.dryRun = true) :
    tool.grammar.parse (arguments.erase CommandLine.dryRunFlag) = .ok settings.real :=
  CommandLine.Grammar.parse_erase (by cases tool <;> rfl) h hdry

end ThemeSetup.Tool
