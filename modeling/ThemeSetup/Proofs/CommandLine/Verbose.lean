import ThemeSetup.Proofs.CommandLine.Words

/-!
# Leaving out the verbose flags

The verbose flags of a command line can be taken out of it (`withoutVerbose`): by their long name
they are arguments of their own, and their letters stand behind a dash, where other options may
follow. What is left is read in the same way and sets the same but for the number of the flags
(`Grammar.parse_withoutVerbose`), since that number is all that a verbose flag changes and no other
step of reading looks at it.
-/

namespace ThemeSetup.CommandLine

/-- The settings without verbose flags. -/
def Settings.quiet (settings : Settings) : Settings :=
  { settings with verbose := 0 }

/-- The letter of the verbose flag. -/
def verboseLetter : UInt8 := 0x76

/-- What is left of an argument without the verbose flags in it, if anything is. -/
def withoutVerbose (argument : Bytes) : Option Bytes :=
  match argument with
  | 0x2D :: 0x76 :: rest =>
    match rest.dropWhile (· == verboseLetter) with
    | [] => none
    | kept => some (dash :: kept)
  | _ => if argument = longFlag "verbose" then none else some argument

namespace Settings

/-- Settings that differ in the number of verbose flags at most. -/
def SameButVerbose (settings other : Settings) : Prop :=
  other.quiet = settings.quiet

/-- A change of settings that does not depend on the number of verbose flags. -/
def Blind (change : Settings → Except Refusal Settings) : Prop :=
  ∀ settings, (change settings.quiet).map quiet = (change settings).map quiet

/-- A change that does not depend on the verbose flags can be made to settings that differ in them
alone. -/
theorem Blind.carries {change : Settings → Except Refusal Settings} (h : Blind change) :
    Carries SameButVerbose change := by
  intro settings other next hsame hnext
  have hother := h other
  rw [hsame, h settings, hnext] at hother
  cases hafter : change other with
  | error refusal =>
    rw [hafter] at hother
    cases hother
  | ok after =>
    rw [hafter] at hother
    exact ⟨after, rfl, (Except.ok.inj hother).symm⟩

/-- Setting an option to a value does not depend on the verbose flags. -/
theorem blind_assign (key : Key) (value : Bytes) : Blind (·.assign key value) := by
  intro settings
  cases key with
  | path long =>
    simp only [assign, show settings.quiet.path? long = settings.path? long from rfl]
    split <;> rfl
  | platform =>
    simp only [assign, show settings.quiet.platform = settings.platform from rfl]
    split
    · rfl
    · split <;> rfl
  | _ => rfl

/-- Setting a flag does not depend on the verbose flags. -/
theorem blind_raise (key : Key) : Blind (·.raise key) := by
  intro settings
  cases key with
  | dryRun =>
    simp only [raise, show settings.quiet.dryRun = settings.dryRun from rfl]
    split <;> rfl
  | json =>
    simp only [raise, show settings.quiet.json = settings.json from rfl]
    split <;> rfl
  | _ => rfl

end Settings

namespace State

open Settings (SameButVerbose)

/-- Every step of reading can be taken beside one that differs in the verbose flags. -/
theorem verboseLaw : ReadingLaw (fun _ => True) (Tracks SameButVerbose) :=
  tracksLaw (fun key value => (Settings.blind_assign key value).carries)
    fun key _ => (Settings.blind_raise key).carries

/-- A verbose flag changes nothing but the number of verbose flags. -/
theorem Beside.raise {state other next : State} (h : Beside SameButVerbose state other)
    (hnext : state.raise .verbose = .ok next) : Beside SameButVerbose next other := by
  obtain ⟨settled, hsettle, hnext⟩ := bind_eq_ok.1 hnext
  obtain ⟨raised, ⟨⟩, ⟨⟩⟩ := bind_eq_ok.1 hnext
  obtain ⟨after, hafter, hsame⟩ := h.settled settled hsettle
  refine ⟨h.ended, ?_, nofun⟩
  rintro _ ⟨⟩
  exact ⟨after, hafter, hsame⟩

end State

namespace Grammar

open Settings (SameButVerbose)
open State (Beside Tracks)

variable {grammar : Grammar}

/-- Letters of the verbose flag change nothing but the number of verbose flags. -/
theorem beside_of_letters (hgrammar : grammar.Regular) {tail : Bytes} {rest : List Char} (n : Nat)
    {state other next : State} (h : Beside SameButVerbose state other)
    (hnext : grammar.readShort tail state (List.replicate n 'v' ++ rest) = .ok next) :
    ∃ middle, grammar.readShort tail middle rest = .ok next ∧
      Beside SameButVerbose middle other := by
  induction n generalizing state with
  | zero => exact ⟨state, hnext, h⟩
  | succ n ih =>
    rw [List.replicate_succ, List.cons_append, readShort_verbose hgrammar.verbose] at hnext
    obtain ⟨raised, hraised, hnext⟩ := bind_eq_ok.1 hnext
    exact ih (h.raise hraised) hnext

/-- Nothing is read after two dashes. -/
theorem going_of_readArgument {state next : State} {argument : Bytes}
    (h : grammar.readArgument state argument = .ok next) : state.ended = false := by
  obtain ⟨settings, pending, ended⟩ := state
  cases ended with
  | false => rfl
  | true =>
    match pending with
    | none => cases h
    | some (key, none) => cases h
    | some (key, some value) => cases h

/-- Octets start with the letters of the verbose flag, and go on with something else. -/
theorem eq_letters_append (rest : Bytes) : ∃ n,
    rest = Bytes.ofChars (List.replicate n 'v') ++ rest.dropWhile (· == verboseLetter) := by
  induction rest with
  | nil => exact ⟨0, rfl⟩
  | cons first rest ih =>
    by_cases hfirst : first = verboseLetter
    · obtain ⟨n, hn⟩ := ih
      refine ⟨n + 1, ?_⟩
      rw [List.dropWhile_cons_of_pos (by simp [hfirst]), List.replicate_succ]
      rw [hfirst]
      exact congrArg (verboseLetter :: ·) hn
    · exact ⟨0, by rw [List.dropWhile_cons_of_neg (by simp [hfirst])]; rfl⟩

/-- Short options that are read do not start with a dash. -/
theorem ne_dash_of_readShort (hgrammar : grammar.Regular) {first : UInt8} {others : Bytes}
    {state next : State} (h : grammar.readShort (Utf8.splitText (first :: others)).2 state
      (Utf8.splitText (first :: others)).1 = .ok next) : first ≠ dash := by
  rintro rfl
  rw [show dash :: others = Bytes.ofChars ['-'] ++ others from rfl, Utf8.splitText_ofChars,
    List.cons_append, readShort, hgrammar.noDash] at h
  cases h

/-- Reading an argument can be taken beside reading what is left of it without verbose flags. -/
theorem tracks_withoutVerbose (hgrammar : grammar.Regular) {argument : Bytes}
    {state other next : State} (h : Beside SameButVerbose state other)
    (hnext : grammar.readArgument state argument = .ok next) :
    ∃ after, grammar.readArguments other (withoutVerbose argument).toList = .ok after ∧
      Beside SameButVerbose next after := by
  have hgoing := going_of_readArgument hnext
  have hother : other.ended = false := h.ended.trans hgoing
  unfold withoutVerbose
  split
  · next rest =>
    obtain ⟨n, hrest⟩ := eq_letters_append rest
    have hargument : 0x2D :: 0x76 :: rest =
        shortFlags ('v' :: List.replicate n 'v') ++ rest.dropWhile (· == verboseLetter) :=
      congrArg (dash :: verboseLetter :: ·) hrest
    rw [hargument, readArgument_short hgoing (by decide)] at hnext
    obtain ⟨middle, hnext, hmiddle⟩ := beside_of_letters hgrammar (n + 1) h hnext
    split
    · next hdrop =>
      rw [hdrop] at hnext
      cases hnext
      exact ⟨other, rfl, hmiddle⟩
    · next kept hkept =>
      generalize rest.dropWhile (· == verboseLetter) = kept at hnext hkept
      obtain ⟨first, others, rfl⟩ := List.exists_cons_of_ne_nil hkept
      have hfirst : first ≠ dash := ne_dash_of_readShort hgrammar hnext
      have htracks : Tracks SameButVerbose (grammar.readShort (Utf8.splitText (first :: others)).2
          · (Utf8.splitText (first :: others)).1) :=
        State.verboseLaw.readShort grammar (fun _ _ _ => trivial) _ _
      obtain ⟨after, hafter, hbeside⟩ := htracks middle other next hmiddle hnext
      exact ⟨after, bind_eq_ok.2 ⟨after, (readArgument_dash hother hfirst _).trans hafter, rfl⟩,
        hbeside⟩
  · split
    · next hflag =>
      have hlong : grammar.long? "verbose" = some .verbose :=
        hgrammar.shared ("verbose", .verbose) (by decide)
      rw [hflag, readArgument_long hgoing (by decide) (by decide) hlong] at hnext
      exact ⟨other, rfl, h.raise hnext⟩
    · have htracks : Tracks SameButVerbose (grammar.readArgument · argument) :=
        State.verboseLaw.readArgument grammar (fun _ _ _ => trivial) fun _ _ _ _ => trivial
      obtain ⟨after, hafter, hbeside⟩ := htracks state other next h hnext
      exact ⟨after, bind_eq_ok.2 ⟨after, hafter, rfl⟩, hbeside⟩

/-- Reading a command line can be taken beside reading it without verbose flags. -/
theorem tracks_filterMap (hgrammar : grammar.Regular) {line : List Bytes} {state other next : State}
    (h : Beside SameButVerbose state other) (hnext : grammar.readArguments state line = .ok next) :
    ∃ after, grammar.readArguments other (line.filterMap withoutVerbose) = .ok after ∧
      Beside SameButVerbose next after := by
  induction line generalizing state other with
  | nil =>
    cases hnext
    exact ⟨other, rfl, h⟩
  | cons argument rest ih =>
    obtain ⟨middle, hmiddle, hnext⟩ := bind_eq_ok.1 hnext
    obtain ⟨otherMiddle, hother, hbeside⟩ := tracks_withoutVerbose hgrammar h hmiddle
    obtain ⟨after, hafter, hbeside⟩ := ih hbeside hnext
    refine ⟨after, ?_, hbeside⟩
    have hsplit : (argument :: rest).filterMap withoutVerbose =
        (withoutVerbose argument).toList ++ rest.filterMap withoutVerbose := by
      rw [List.filterMap_cons]
      cases withoutVerbose argument <;> rfl
    rw [hsplit, readArguments_append]
    exact bind_eq_ok.2 ⟨otherMiddle, hother, hafter⟩

/-- A command line without its verbose flags sets the same but for their number. -/
theorem parse_withoutVerbose (hgrammar : grammar.Regular) {line : List Bytes} {settings : Settings}
    (h : grammar.parse line = .ok settings) :
    ∃ plain, grammar.parse (line.filterMap withoutVerbose) = .ok plain ∧
      SameButVerbose settings plain := by
  obtain ⟨state, hread, hsettle⟩ := bind_eq_ok.1 h
  have hinitial : Beside SameButVerbose .initial .initial :=
    .of_related (fun key value => (Settings.blind_assign key value).carries) rfl none false
  obtain ⟨after, hafter, hbeside⟩ := tracks_filterMap hgrammar hinitial hread
  obtain ⟨plain, hplain, hsame⟩ := hbeside.settled settings hsettle
  exact ⟨plain, bind_eq_ok.2 ⟨after, hafter, hplain⟩, hsame⟩

end Grammar

end ThemeSetup.CommandLine

namespace ThemeSetup.Tool

open CommandLine

/-- Two command lines that are the same without their verbose flags set the same but for them. -/
theorem sameButVerbose (tool : Tool) {first second : List Bytes} {settings other : Settings}
    (hfirst : tool.grammar.parse first = .ok settings)
    (hsecond : tool.grammar.parse second = .ok other)
    (h : first.filterMap withoutVerbose = second.filterMap withoutVerbose) :
    settings.SameButVerbose other := by
  obtain ⟨plain, hplain, hsame⟩ := Grammar.parse_withoutVerbose tool.regular hfirst
  obtain ⟨plain', hplain', hsame'⟩ := Grammar.parse_withoutVerbose tool.regular hsecond
  rw [h, hplain'] at hplain
  cases hplain
  exact hsame'.symm.trans hsame

end ThemeSetup.Tool
