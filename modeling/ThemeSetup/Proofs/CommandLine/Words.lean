import ThemeSetup.Proofs.CommandLine.DryRun

/-!
# Command lines that set what is wanted

What a command line is to set (`Fields`) can be written in many ways: a value behind an equals sign
or as an argument of its own, the verbose flags apart or together, and all of it in any order
(`Writing`). Reading a word does what the word says (`Word.reads`), and a word that names an option
for the first time sets it and leaves the rest (`Told.step`). So any order of the words of some
fields is read as these fields (`Tool.parse_words`).

A value that is an argument of its own must not start with a dash, or it would be read as an option.
-/

namespace ThemeSetup.CommandLine

/-! ## Words -/

/-- How the value of a path option is written. -/
inductive Spelling where
  /-- Behind the long name and an equals sign. -/
  | joined
  /-- As the argument after the long name. -/
  | long
  /-- As the argument after the short name. -/
  | short
  deriving DecidableEq, Repr

/-- How the verbose flag is written. -/
inductive VerboseFlag where
  /-- Once, by its long name. -/
  | long
  /-- By its letter, and more of them behind the same dash. -/
  | letters (more : Nat)
  deriving DecidableEq, Repr

/-- How often the flag is given. -/
def VerboseFlag.count : VerboseFlag → Nat
  | long => 1
  | letters more => more + 1

/-- How often the flag is given by all of some flags. -/
def VerboseFlag.total : List VerboseFlag → Nat
  | [] => 0
  | flag :: flags => flag.count + total flags

/-- An option as it stands on a command line. -/
inductive Word where
  | path (option : PathOption) (value : Bytes) (spelling : Spelling)
  | platform (platform : Platform)
  | dryRun
  | json
  | verbose (flag : VerboseFlag)
  deriving DecidableEq, Repr

/-- The argument of a long name. -/
def longFlag (name : String) : Bytes :=
  dash :: dash :: Bytes.ofString name

/-- The argument of short names. -/
def shortFlags (letters : List Char) : Bytes :=
  dash :: Bytes.ofChars letters

namespace Word

/-- The arguments that a word is written as. -/
def arguments : Word → List Bytes
  | .path option value .joined => [longFlag option.long ++ equalsSign :: value]
  | .path option value .long => [longFlag option.long, value]
  | .path option value .short => [shortFlags [option.short], value]
  | .platform value => [longFlag "platform" ++ equalsSign :: Bytes.ofString value.name]
  | .dryRun => [longFlag "dry-run"]
  | .json => [longFlag "json"]
  | .verbose .long => [longFlag "verbose"]
  | .verbose (.letters more) => [shortFlags (List.replicate (more + 1) 'v')]

/-- A word of a grammar: an option of it, with a value that is not read as an option. -/
def Proper (grammar : Grammar) : Word → Prop
  | .path option value spelling =>
    option ∈ grammar.paths ∧ (value.head? = some dash → spelling = .joined)
  | _ => True

/-- The verbose flag that a word is. -/
def flag? : Word → Option VerboseFlag
  | .verbose flag => some flag
  | _ => none

/-- The option that a word sets, if it can be set only once. -/
def key? : Word → Option Key
  | .path option _ _ => some (.path option.long)
  | .platform _ => some .platform
  | .dryRun => some .dryRun
  | .json => some .json
  | .verbose _ => none

/-- What a word does to settings. -/
def set (settings : Settings) : Word → Except Refusal Settings
  | .path option value _ => settings.assign (.path option.long) value
  | .platform value => settings.assign .platform (Bytes.ofString value.name)
  | .dryRun => settings.raise .dryRun
  | .json => settings.raise .json
  | .verbose flag =>
    .ok { settings with verbose := min (settings.verbose + flag.count) verboseLimit }

end Word

/-! ## Reading a word -/

/-- A grammar whose options are found by their names: a long name can stand before an equals sign,
and no short name is a dash. -/
structure Grammar.Regular (grammar : Grammar) : Prop where
  long : ∀ option ∈ grammar.paths, grammar.long? option.long = some (.path option.long)
  short : ∀ option ∈ grammar.paths, grammar.short? option.short = some (.path option.long)
  shared : ∀ entry ∈ sharedLongNames, grammar.long? entry.1 = some entry.2
  verbose : grammar.short? 'v' = some .verbose
  named : ∀ option ∈ grammar.paths, option.long ≠ "" ∧ equalsSign ∉ Bytes.ofString option.long
  noDash : grammar.short? '-' = none
  distinct : (grammar.paths.map PathOption.long).Nodup

/-- The short name of a path option is no dash. -/
theorem Grammar.Regular.ne_dash {grammar : Grammar} (h : grammar.Regular) {option : PathOption}
    (hoption : option ∈ grammar.paths) : option.short ≠ '-' := by
  intro hdash
  have hshort := h.short option hoption
  rw [hdash, h.noDash] at hshort
  cases hshort

namespace State

/-- A state in which options are read, and these are the settings so far. -/
structure Reads (state : State) (settings : Settings) : Prop where
  going : state.ended = false
  settled : state.settle = .ok settings

variable {state : State} {settings next : Settings} {key : Key} {value : Bytes}

/-- An option that may be set to a value is set to it. -/
theorem Reads.assign (h : state.Reads settings) (hnext : settings.assign key value = .ok next) :
    ∃ after, state.assign key value = .ok after ∧ after.Reads next :=
  ⟨_, bind_eq_ok.2 ⟨_, h.settled, bind_eq_ok.2 ⟨_, hnext, rfl⟩⟩, h.going, rfl⟩

/-- A flag that may be set is set. -/
theorem Reads.raise (h : state.Reads settings) (hnext : settings.raise key = .ok next) :
    ∃ after, state.raise key = .ok after ∧ after.Reads next :=
  ⟨_, bind_eq_ok.2 ⟨_, h.settled, bind_eq_ok.2 ⟨_, hnext, rfl⟩⟩, h.going, rfl⟩

/-- A verbose flag is counted up to the limit. -/
theorem Reads.verbose (h : state.Reads settings) : ∃ after, state.raise .verbose = .ok after ∧
    after.Reads { settings with verbose := min (settings.verbose + 1) verboseLimit } :=
  h.raise rfl

/-- An argument that does not start with a dash is the value that an option waits for. -/
theorem Reads.await (h : state.Reads settings) (hnext : settings.assign key value = .ok next)
    (hvalue : value.head? ≠ some dash) (grammar : Grammar) :
    ∃ waiting after, state.await key = .ok waiting ∧
      grammar.readArgument waiting value = .ok after ∧ after.Reads next := by
  refine ⟨⟨settings, some (key, none), state.ended⟩, ⟨settings, some (key, some value), false⟩,
    bind_eq_ok.2 ⟨_, h.settled, rfl⟩, ?_, rfl, hnext⟩
  rw [h.going]
  have hvalue' : grammar.readOption ⟨settings, some (key, none), false⟩ value =
      Grammar.readValue ⟨settings, some (key, none), false⟩ value := by
    match value with
    | [] => rfl
    | [_] => rfl
    | first :: second :: rest => exact if_pos fun hdash => hvalue (congrArg some hdash)
  rw [Grammar.readArgument, if_neg Bool.false_ne_true, if_neg, hvalue']
  · rfl
  · rintro rfl
    exact hvalue rfl

end State

namespace Grammar

variable {grammar : Grammar} {state : State} {key : Key} {name : String}

/-- The name of a long option ends before the first equals sign. -/
theorem span_name (hname : equalsSign ∉ Bytes.ofString name) (rest : Bytes)
    (hrest : ∀ octet ∈ rest.head?, octet = equalsSign) :
    (Bytes.ofString name ++ rest).takeWhile (· != equalsSign) = Bytes.ofString name ∧
      (Bytes.ofString name ++ rest).dropWhile (· != equalsSign) = rest := by
  have hbefore : ∀ octet ∈ Bytes.ofString name, (octet != equalsSign) = true := by
    intro octet hoctet
    exact bne_iff_ne.2 fun heq => hname (heq ▸ hoctet)
  rw [List.takeWhile_append_of_pos hbefore, List.dropWhile_append_of_pos hbefore]
  cases rest with
  | nil => exact ⟨List.append_nil _, rfl⟩
  | cons octet rest =>
    obtain rfl := hrest octet rfl
    simp

/-- An option by its long name, with its value behind an equals sign. -/
theorem readArgument_joined (hgoing : state.ended = false)
    (hname : equalsSign ∉ Bytes.ofString name) (hkey : grammar.long? name = some key)
    (htakes : key.takesValue = true) (value : Bytes) :
    grammar.readArgument state (longFlag name ++ equalsSign :: value) = state.assign key value := by
  obtain ⟨htake, hdrop⟩ := span_name hname (equalsSign :: value) (by rintro _ ⟨⟩; rfl)
  have hlong : grammar.readLong state (Bytes.ofString name ++ equalsSign :: value) =
      state.assign key value := by
    unfold readLong
    simp only [htake, hdrop, Utf8.decode?_ofString, Option.bind_some, hkey, htakes]
  rw [readArgument, hgoing, if_neg Bool.false_ne_true, if_neg (by simp [longFlag])]
  exact hlong

/-- An option by its long name alone. -/
theorem readArgument_long (hgoing : state.ended = false) (hempty : name ≠ "")
    (hname : equalsSign ∉ Bytes.ofString name) (hkey : grammar.long? name = some key) :
    grammar.readArgument state (longFlag name) =
      if key.takesValue then state.await key else state.raise key := by
  obtain ⟨htake, hdrop⟩ := span_name hname [] (by rintro _ ⟨⟩)
  rw [List.append_nil] at htake hdrop
  have hlong : grammar.readLong state (Bytes.ofString name) =
      if key.takesValue then state.await key else state.raise key := by
    unfold readLong
    simp only [htake, hdrop, Utf8.decode?_ofString, Option.bind_some, hkey]
    cases key.takesValue <;> rfl
  have hflag : longFlag name ≠ [dash, dash] := by
    intro hflag
    have hnothing : Bytes.ofString name = [] := by simpa [longFlag] using hflag
    have htext := Utf8.decode?_ofString name
    rw [hnothing] at htext
    exact hempty (Option.some.inj htext).symm
  rw [readArgument, hgoing, if_neg Bool.false_ne_true, if_neg hflag]
  exact hlong

/-- An argument with one dash is short options, and octets that are no text after them. -/
theorem readArgument_dash (hgoing : state.ended = false) {first : UInt8} (hfirst : first ≠ dash)
    (others : Bytes) :
    grammar.readArgument state (dash :: first :: others) =
      grammar.readShort (Utf8.splitText (first :: others)).2 state
        (Utf8.splitText (first :: others)).1 := by
  rw [readArgument, hgoing, if_neg Bool.false_ne_true, if_neg (by simp [hfirst]), readOption,
    if_neg fun hne => hne rfl, if_neg hfirst]

/-- Short options behind a dash, and more octets. -/
theorem readArgument_short (hgoing : state.ended = false) {c : Char} (hc : c ≠ '-')
    (letters : List Char) (rest : Bytes) :
    grammar.readArgument state (shortFlags (c :: letters) ++ rest) =
      grammar.readShort (Utf8.splitText rest).2 state
        (c :: letters ++ (Utf8.splitText rest).1) := by
  obtain ⟨first, tail, ranges, hform, hfirst, htail, hvalue⟩ := Utf8.encodeChar_form c
  have hdash : first ≠ dash := by
    rintro rfl
    cases hfirst
    cases htail
    exact hc hvalue.symm
  have hoctets : Bytes.ofChars (c :: letters) ++ rest =
      first :: (tail ++ Bytes.ofChars letters ++ rest) := by
    simp [Bytes.ofChars, hform]
  have hargument : shortFlags (c :: letters) ++ rest =
      dash :: first :: (tail ++ Bytes.ofChars letters ++ rest) := by
    rw [shortFlags, List.cons_append, hoctets]
  rw [hargument, readArgument_dash hgoing hdash, ← hoctets, Utf8.splitText_ofChars]

/-- A path option by its short name waits for its value. -/
theorem readArgument_letter (hgoing : state.ended = false) {c : Char} (hc : c ≠ '-')
    (hkey : grammar.short? c = some key) (htakes : key.takesValue = true) :
    grammar.readArgument state (shortFlags [c]) = state.await key := by
  rw [← List.append_nil (shortFlags [c]), readArgument_short hgoing hc [] [],
    show Utf8.splitText [] = ([], []) from rfl]
  simp only [List.append_nil, readShort, hkey, htakes]
  rfl

/-- The letter of the verbose flag gives it once. -/
theorem readShort_verbose (hverbose : grammar.short? 'v' = some .verbose) (tail : Bytes)
    (state : State) (rest : List Char) :
    grammar.readShort tail state ('v' :: rest) =
      state.raise .verbose >>= (grammar.readShort tail · rest) := by
  rw [readShort, hverbose]
  rfl

/-- The letters of the verbose flag give it as often as there are letters. -/
theorem reads_letters (hverbose : grammar.short? 'v' = some .verbose) (more : Nat)
    {settings : Settings} (h : state.Reads settings) :
    ∃ after, grammar.readShort [] state (List.replicate (more + 1) 'v') = .ok after ∧
      after.Reads
        { settings with verbose := min (settings.verbose + (more + 1)) verboseLimit } := by
  induction more generalizing state settings with
  | zero =>
    obtain ⟨after, hafter, hreads⟩ := h.verbose
    refine ⟨after, ?_, hreads⟩
    rw [List.replicate_succ, readShort_verbose hverbose, hafter]
    rfl
  | succ more ih =>
    obtain ⟨middle, hmiddle, hreads⟩ := h.verbose
    obtain ⟨after, hafter, hreads⟩ := ih hreads
    refine ⟨after, ?_, ?_⟩
    · rw [List.replicate_succ, readShort_verbose hverbose, hmiddle]
      exact hafter
    · have hcount : min (min (settings.verbose + 1) verboseLimit + (more + 1)) verboseLimit =
          min (settings.verbose + (more + 1 + 1)) verboseLimit := by omega
      rw [← hcount]
      exact hreads

/-- One argument is read. -/
theorem readArguments_one {argument : Bytes} {after : State}
    (hread : grammar.readArgument state argument = .ok after) :
    grammar.readArguments state [argument] = .ok after :=
  bind_eq_ok.2 ⟨after, hread, rfl⟩

/-- Two arguments are read one after the other. -/
theorem readArguments_two {first second : Bytes} {middle after : State}
    (hfirst : grammar.readArgument state first = .ok middle)
    (hsecond : grammar.readArgument middle second = .ok after) :
    grammar.readArguments state [first, second] = .ok after :=
  bind_eq_ok.2 ⟨middle, hfirst, readArguments_one hsecond⟩

end Grammar

namespace Word

variable {grammar : Grammar} {state : State} {settings next : Settings}

/-- Reading a path option sets it, however it is spelled. -/
theorem reads_path (hgrammar : grammar.Regular) (h : state.Reads settings) {option : PathOption}
    {value : Bytes} {spelling : Spelling}
    (hproper : (Word.path option value spelling).Proper grammar)
    (hassign : settings.assign (.path option.long) value = .ok next) :
    ∃ after, grammar.readArguments state (Word.path option value spelling).arguments = .ok after ∧
      after.Reads next := by
  obtain ⟨hoption, hspelling⟩ := hproper
  obtain ⟨hempty, hname⟩ := hgrammar.named option hoption
  have hlong := hgrammar.long option hoption
  cases spelling with
  | joined =>
    obtain ⟨after, hafter, hreads⟩ := h.assign hassign
    have hread := Grammar.readArgument_joined h.going hname hlong rfl value
    exact ⟨after, Grammar.readArguments_one (hread.trans hafter), hreads⟩
  | long =>
    have hvalue : value.head? ≠ some dash := fun hdash => nomatch hspelling hdash
    obtain ⟨waiting, after, hwaiting, hafter, hreads⟩ := h.await hassign hvalue grammar
    have hread := Grammar.readArgument_long h.going hempty hname hlong
    exact ⟨after, Grammar.readArguments_two (hread.trans hwaiting) hafter, hreads⟩
  | short =>
    have hvalue : value.head? ≠ some dash := fun hdash => nomatch hspelling hdash
    obtain ⟨waiting, after, hwaiting, hafter, hreads⟩ := h.await hassign hvalue grammar
    have hread := Grammar.readArgument_letter h.going (hgrammar.ne_dash hoption)
      (hgrammar.short option hoption) rfl
    exact ⟨after, Grammar.readArguments_two (hread.trans hwaiting) hafter, hreads⟩

/-- Reading the long name of a flag that both tools have sets it. -/
theorem reads_flag (hgrammar : grammar.Regular) (h : state.Reads settings) {name : String}
    {key : Key} (hmem : (name, key) ∈ sharedLongNames) (hempty : name ≠ "")
    (hname : equalsSign ∉ Bytes.ofString name) (htakes : key.takesValue = false)
    (hraise : settings.raise key = .ok next) :
    ∃ after, grammar.readArguments state [longFlag name] = .ok after ∧ after.Reads next := by
  obtain ⟨after, hafter, hreads⟩ := h.raise hraise
  refine ⟨after, Grammar.readArguments_one ?_, hreads⟩
  rw [Grammar.readArgument_long h.going hempty hname (hgrammar.shared _ hmem), htakes]
  exact hafter

/-- Reading the arguments of a word does what the word says. -/
theorem reads (hgrammar : grammar.Regular) (h : state.Reads settings) {word : Word}
    (hproper : word.Proper grammar) (hnext : word.set settings = .ok next) :
    ∃ after, grammar.readArguments state word.arguments = .ok after ∧ after.Reads next := by
  cases word with
  | path option value spelling => exact reads_path hgrammar h hproper hnext
  | platform value =>
    have hassign : settings.assign .platform (Bytes.ofString value.name) = .ok next := hnext
    obtain ⟨after, hafter, hreads⟩ := h.assign hassign
    have hlong : grammar.long? "platform" = some .platform :=
      hgrammar.shared ("platform", .platform) (by decide)
    have hread := Grammar.readArgument_joined h.going (by decide) hlong rfl
      (Bytes.ofString value.name)
    exact ⟨after, Grammar.readArguments_one (hread.trans hafter), hreads⟩
  | dryRun =>
    have hraise : settings.raise .dryRun = .ok next := hnext
    exact reads_flag hgrammar h (by decide) (by decide) (by decide) rfl hraise
  | json =>
    have hraise : settings.raise .json = .ok next := hnext
    exact reads_flag hgrammar h (by decide) (by decide) (by decide) rfl hraise
  | verbose flag =>
    cases flag with
    | long =>
      have hraise : settings.raise .verbose = .ok next := hnext
      exact reads_flag hgrammar h (by decide) (by decide) (by decide) rfl hraise
    | letters more =>
      cases hnext
      obtain ⟨after, hafter, hreads⟩ := Grammar.reads_letters hgrammar.verbose more h
      have hread : grammar.readArgument state (shortFlags (List.replicate (more + 1) 'v')) =
          grammar.readShort [] state (List.replicate (more + 1) 'v') := by
        rw [List.replicate_succ, ← List.append_nil (shortFlags _),
          Grammar.readArgument_short h.going (by decide),
          show Utf8.splitText [] = ([], []) from rfl, List.append_nil]
      exact ⟨after, Grammar.readArguments_one (hread.trans hafter), hreads⟩

end Word

/-! ## Reading words -/

/-- The settings are what the words say, and nothing else. -/
structure Told (words : List Word) (settings : Settings) : Prop where
  path : ∀ long value, settings.path? long = some value ↔
    ∃ option spelling, .path option value spelling ∈ words ∧ option.long = long
  platform : ∀ value, settings.platform = some value ↔ .platform value ∈ words
  dryRun : settings.dryRun = true ↔ .dryRun ∈ words
  json : settings.json = true ↔ .json ∈ words
  verbose : settings.verbose = min (VerboseFlag.total (words.filterMap Word.flag?)) verboseLimit

/-- Flags after others are counted too. -/
theorem VerboseFlag.total_append (flags others : List VerboseFlag) :
    total (flags ++ others) = total flags + total others := by
  induction flags with
  | nil => simp [total]
  | cons flag flags ih => simp only [List.cons_append, total, ih, Nat.add_assoc]

/-- The order of flags does not matter. -/
theorem VerboseFlag.total_perm {flags others : List VerboseFlag} (h : flags.Perm others) :
    total flags = total others := by
  induction h with
  | nil => rfl
  | cons flag _ ih => simp only [total, ih]
  | swap flag other flags =>
    simp only [total]
    omega
  | trans _ _ ih ih' => exact ih.trans ih'

/-- A value for an option that has none is added to those that there are. -/
theorem Settings.path?_append {settings : Settings} {long : String}
    (h : settings.path? long = .none) (value : Bytes) (other : String) (given : Bytes) :
    { settings with paths := settings.paths ++ [(long, value)] }.path? other = some given ↔
      settings.path? other = some given ∨ (other = long ∧ given = value) := by
  simp only [path?, List.lookup_append] at h ⊢
  by_cases hother : other = long
  · subst hother
    simp [h, eq_comm]
  · have hnone : List.lookup other [(long, value)] = .none := by
      simpa using hother
    rw [hnone, Option.or_none]
    simp [hother]

namespace Told

variable {words others : List Word} {settings : Settings}

/-- Nothing is set where there are no words. -/
theorem nil : Told [] .none where
  path := by simp [Settings.path?, Settings.none]
  platform := by simp [Settings.none]
  dryRun := by simp [Settings.none]
  json := by simp [Settings.none]
  verbose := rfl

/-- The order of the words does not matter. -/
theorem perm (h : Told words settings) (hperm : words.Perm others) : Told others settings := by
  obtain ⟨hpath, hplatform, hdryRun, hjson, hverbose⟩ := h
  simp only [hperm.mem_iff] at hpath hplatform hdryRun hjson
  rw [VerboseFlag.total_perm (hperm.filterMap Word.flag?)] at hverbose
  exact ⟨hpath, hplatform, hdryRun, hjson, hverbose⟩

/-- A word for a path option that has no value gives it one. -/
theorem withPath (h : Told words settings) {option : PathOption}
    (hunset : settings.path? option.long = none) (value : Bytes) (spelling : Spelling) :
    Told (words ++ [.path option value spelling])
      { settings with paths := settings.paths ++ [(option.long, value)] } where
  path long given := by
    simp only [Settings.path?_append hunset, h.path, List.mem_append, List.mem_singleton,
      Word.path.injEq]
    constructor
    · rintro (⟨other, otherSpelling, hmem, hlong⟩ | ⟨rfl, rfl⟩)
      · exact ⟨other, otherSpelling, .inl hmem, hlong⟩
      · exact ⟨option, spelling, .inr ⟨rfl, rfl, rfl⟩, rfl⟩
    · rintro ⟨other, otherSpelling, hmem | ⟨rfl, rfl, rfl⟩, rfl⟩
      · exact .inl ⟨other, otherSpelling, hmem, rfl⟩
      · exact .inr ⟨rfl, rfl⟩
  platform := by simpa using h.platform
  dryRun := by simpa using h.dryRun
  json := by simpa using h.json
  verbose := by simpa [List.filterMap_cons, Word.flag?] using h.verbose

/-- A word for the platform gives one. -/
theorem withPlatform (h : Told words settings) (value : Platform)
    (hnew : ∀ given, .platform given ∉ words) :
    Told (words ++ [.platform value]) { settings with platform := some value } where
  path := by simpa [Settings.path?] using h.path
  platform given := by simp [hnew given, eq_comm]
  dryRun := by simpa using h.dryRun
  json := by simpa using h.json
  verbose := by simpa [List.filterMap_cons, Word.flag?] using h.verbose

/-- A word for the dry run asks for it. -/
theorem withDryRun (h : Told words settings) :
    Told (words ++ [.dryRun]) { settings with dryRun := true } where
  path := by simpa [Settings.path?] using h.path
  platform := by simpa using h.platform
  dryRun := by simp
  json := by simpa using h.json
  verbose := by simpa [List.filterMap_cons, Word.flag?] using h.verbose

/-- A word for JSON asks for it. -/
theorem withJson (h : Told words settings) :
    Told (words ++ [.json]) { settings with json := true } where
  path := by simpa [Settings.path?] using h.path
  platform := by simpa using h.platform
  dryRun := by simpa using h.dryRun
  json := by simp
  verbose := by simpa [List.filterMap_cons, Word.flag?] using h.verbose

/-- A verbose flag is counted. -/
theorem withVerbose (h : Told words settings) (flag : VerboseFlag) :
    Told (words ++ [.verbose flag])
      { settings with verbose := min (settings.verbose + flag.count) verboseLimit } where
  path := by simpa [Settings.path?] using h.path
  platform := by simpa using h.platform
  dryRun := by simpa using h.dryRun
  json := by simpa using h.json
  verbose := by
    rw [List.filterMap_append, VerboseFlag.total_append, h.verbose]
    show min (min _ _ + flag.count) _ = min (_ + (flag.count + 0)) _
    omega

/-- A word for an option that no word before it sets may be set, and leaves the rest. -/
theorem step (h : Told words settings) {word : Word}
    (hnew : ∀ key, word.key? = some key → key ∉ words.filterMap Word.key?) :
    ∃ next, word.set settings = .ok next ∧ Told (words ++ [word]) next := by
  -- No word sets the option of the new one.
  have hfresh {other : Word} {key : Key} (hword : word.key? = some key)
      (hother : other.key? = some key) : other ∉ words := by
    intro hmem
    exact hnew key hword (List.mem_filterMap.2 ⟨other, hmem, hother⟩)
  cases word with
  | path option value spelling =>
    have hunset : settings.path? option.long = none := by
      rw [Option.eq_none_iff_forall_ne_some]
      intro given hgiven
      obtain ⟨other, otherSpelling, hmem, hlong⟩ := (h.path _ _).1 hgiven
      have hkey : (Word.path other given otherSpelling).key? = some (.path option.long) := by
        rw [← hlong]
        rfl
      exact hfresh rfl hkey hmem
    refine ⟨_, ?_, h.withPath hunset value spelling⟩
    simp only [Word.set, Settings.assign, hunset]
    rfl
  | platform value =>
    have hunset : settings.platform = none := by
      rw [Option.eq_none_iff_forall_ne_some]
      intro given hgiven
      exact hfresh rfl rfl ((h.platform given).1 hgiven)
    refine ⟨_, ?_, h.withPlatform value fun given => hfresh rfl rfl⟩
    simp only [Word.set, Settings.assign, hunset, Utf8.decode?_ofString, Option.bind_some,
      Platform.named?_name]
    rfl
  | dryRun =>
    have hunset : ¬ settings.dryRun = true := fun hgiven => hfresh rfl rfl (h.dryRun.1 hgiven)
    exact ⟨_, if_neg hunset, h.withDryRun⟩
  | json =>
    have hunset : ¬ settings.json = true := fun hgiven => hfresh rfl rfl (h.json.1 hgiven)
    exact ⟨_, if_neg hunset, h.withJson⟩
  | verbose flag => exact ⟨_, rfl, h.withVerbose flag⟩

end Told

/-- Words that set different options are read one after the other as what they say. -/
theorem Told.run {grammar : Grammar} (hgrammar : grammar.Regular) {done words : List Word}
    (hproper : ∀ word ∈ words, word.Proper grammar)
    (hkeys : ((done ++ words).filterMap Word.key?).Nodup) {state : State} {settings : Settings}
    (hstate : state.Reads settings) (h : Told done settings) :
    ∃ after next, grammar.readArguments state (words.flatMap Word.arguments) = .ok after ∧
      after.Reads next ∧ Told (done ++ words) next := by
  induction words generalizing done state settings with
  | nil => exact ⟨state, settings, rfl, hstate, (List.append_nil done).symm ▸ h⟩
  | cons word words ih =>
    have hnew (key : Key) (hword : word.key? = some key) : key ∉ done.filterMap Word.key? := by
      intro hmem
      rw [List.filterMap_append, List.nodup_append] at hkeys
      exact hkeys.2.2 key hmem key (List.mem_filterMap.2 ⟨word, List.mem_cons_self, hword⟩) rfl
    obtain ⟨set, hset, htold⟩ := h.step hnew
    obtain ⟨middle, hmiddle, hreads⟩ :=
      Word.reads hgrammar hstate (hproper word List.mem_cons_self) hset
    obtain ⟨after, next, hafter, hnext, htold⟩ :=
      ih (fun other hother => hproper other (List.mem_cons_of_mem _ hother))
        (by rwa [List.append_assoc]) hreads htold
    refine ⟨after, next, ?_, hnext, ?_⟩
    · rw [List.flatMap_cons, Grammar.readArguments_append, hmiddle]
      exact hafter
    · rwa [List.append_assoc] at htold

/-! ## Fields -/

/-- What a command line is to set. -/
structure Fields where
  /-- The values of path options, by long name. -/
  path : String → Option Bytes
  platform : Option Platform
  dryRun : Bool
  json : Bool
  /-- The number of verbose flags. -/
  verbose : Nat

/-- How a command line is written. -/
structure Writing where
  /-- How the value of a path option is written, by long name. -/
  spelling : String → Spelling
  flags : List VerboseFlag

/-- A writing suits fields if it hides no value behind a dash and has as many verbose flags. -/
structure Writing.Suits (writing : Writing) (grammar : Grammar) (fields : Fields) : Prop where
  spelled : ∀ option ∈ grammar.paths, ∀ value, fields.path option.long = some value →
    value.head? = some dash → writing.spelling option.long = .joined
  counted : VerboseFlag.total writing.flags = fields.verbose

namespace Grammar

variable (grammar : Grammar) (fields : Fields) (writing : Writing)

/-- The words for the path options that have a value. -/
def pathWords : List Word :=
  grammar.paths.filterMap fun option => (fields.path option.long).map fun value =>
    .path option value (writing.spelling option.long)

/-- The words for fields, in one order. -/
def words : List Word :=
  grammar.pathWords fields writing ++ (fields.platform.map Word.platform).toList ++
    (if fields.dryRun then [.dryRun] else []) ++ (if fields.json then [.json] else []) ++
    writing.flags.map .verbose

/-- The settings that fields stand for; the verbose flags are counted up to a limit. -/
structure Sets (settings : Settings) : Prop where
  path : ∀ option ∈ grammar.paths, settings.path? option.long = fields.path option.long
  others : ∀ long, (∀ option ∈ grammar.paths, option.long ≠ long) → settings.path? long = none
  platform : settings.platform = fields.platform
  dryRun : settings.dryRun = fields.dryRun
  json : settings.json = fields.json
  verbose : settings.verbose = min fields.verbose verboseLimit

variable {grammar fields writing}

/-- The words for path options name them and their values. -/
theorem mem_pathWords {word : Word} : word ∈ grammar.pathWords fields writing ↔
    ∃ option value, option ∈ grammar.paths ∧ fields.path option.long = some value ∧
      word = .path option value (writing.spelling option.long) := by
  simp only [pathWords, List.mem_filterMap, Option.map_eq_some_iff]
  constructor
  · rintro ⟨option, hoption, value, hvalue, rfl⟩
    exact ⟨option, value, hoption, hvalue, rfl⟩
  · rintro ⟨option, value, hoption, hvalue, rfl⟩
    exact ⟨option, hoption, value, hvalue, rfl⟩

/-- The words for fields name each path option that has a value. -/
theorem path_mem_words {option : PathOption} {value : Bytes} {spelling : Spelling} :
    .path option value spelling ∈ grammar.words fields writing ↔ option ∈ grammar.paths ∧
      fields.path option.long = some value ∧ spelling = writing.spelling option.long := by
  simp only [words, List.mem_append, mem_pathWords]
  constructor
  · rintro ((((⟨_, _, hoption, hvalue, ⟨⟩⟩ | hmem) | hmem) | hmem) | hmem)
    · exact ⟨hoption, hvalue, rfl⟩
    · simp at hmem
    · simp at hmem
    · simp at hmem
    · simp at hmem
  · rintro ⟨hoption, hvalue, rfl⟩
    exact .inl (.inl (.inl (.inl ⟨option, value, hoption, hvalue, rfl⟩)))

/-- The verbose flags among the words for fields are those of the writing. -/
theorem flags_words :
    (grammar.words fields writing).filterMap Word.flag? = writing.flags := by
  have hpaths : (grammar.pathWords fields writing).filterMap Word.flag? = [] := by
    rw [List.filterMap_eq_nil_iff]
    intro word hword
    obtain ⟨option, value, -, -, rfl⟩ := mem_pathWords.1 hword
    rfl
  have hplatform : (fields.platform.map Word.platform).toList.filterMap Word.flag? = [] := by
    cases fields.platform <;> rfl
  have hflags : (writing.flags.map Word.verbose).filterMap Word.flag? = writing.flags := by
    simp [List.filterMap_map, Function.comp_def, Word.flag?]
  simp only [words, List.filterMap_append, hpaths, hplatform, hflags]
  cases fields.dryRun <;> cases fields.json <;> rfl

/-- Settings that the words for fields tell are what the fields stand for. -/
theorem sets_of_told (hsuits : writing.Suits grammar fields) {settings : Settings}
    (h : Told (grammar.words fields writing) settings) : grammar.Sets fields settings := by
  have hpath (long : String) (value : Bytes) : settings.path? long = some value ↔
      ∃ option ∈ grammar.paths, fields.path option.long = some value ∧ option.long = long := by
    refine (h.path long value).trans ?_
    simp only [path_mem_words]
    constructor
    · rintro ⟨option, _, ⟨hoption, hvalue, -⟩, hlong⟩
      exact ⟨option, hoption, hvalue, hlong⟩
    · rintro ⟨option, hoption, hvalue, hlong⟩
      exact ⟨option, _, ⟨hoption, hvalue, rfl⟩, hlong⟩
  refine ⟨fun option hoption => ?_, fun long hothers => ?_, ?_, ?_, ?_, ?_⟩
  · ext value
    rw [hpath]
    constructor
    · rintro ⟨other, -, hvalue, hlong⟩
      exact hlong ▸ hvalue
    · exact fun hvalue => ⟨option, hoption, hvalue, rfl⟩
  · rw [Option.eq_none_iff_forall_ne_some]
    intro value hvalue
    obtain ⟨option, hoption, -, hlong⟩ := (hpath long value).1 hvalue
    exact hothers option hoption hlong
  · ext value
    rw [h.platform]
    simp [words, mem_pathWords]
  · rw [Bool.eq_iff_iff, h.dryRun]
    simp [words, mem_pathWords]
  · rw [Bool.eq_iff_iff, h.json]
    simp [words, mem_pathWords]
  · rw [h.verbose, flags_words, hsuits.counted]

/-- The words for fields are words of the grammar. -/
theorem proper_of_mem_words (hsuits : writing.Suits grammar fields) {word : Word}
    (h : word ∈ grammar.words fields writing) : word.Proper grammar := by
  cases word with
  | path option value spelling =>
    obtain ⟨hoption, hvalue, rfl⟩ := path_mem_words.1 h
    exact ⟨hoption, hsuits.spelled option hoption value hvalue⟩
  | _ => trivial

/-- The words for fields set different options. -/
theorem nodup_keys_words (hgrammar : grammar.Regular) :
    ((grammar.words fields writing).filterMap Word.key?).Nodup := by
  have hpaths : ((grammar.pathWords fields writing).filterMap Word.key?).Sublist
      (grammar.paths.map fun option => .path option.long) := by
    unfold pathWords
    induction grammar.paths with
    | nil => exact .slnil
    | cons option rest ih =>
      cases hvalue : fields.path option.long with
      | none => simpa [hvalue] using ih.cons _
      | some value => simpa [hvalue, Word.key?] using ih
  have hplatform : ((fields.platform.map Word.platform).toList.filterMap Word.key?).Sublist
      [.platform] := by
    cases fields.platform <;> simp [Word.key?]
  have hdryRun : ((if fields.dryRun then [Word.dryRun] else []).filterMap Word.key?).Sublist
      [.dryRun] := by
    cases fields.dryRun <;> simp [Word.key?]
  have hjson : ((if fields.json then [Word.json] else []).filterMap Word.key?).Sublist [.json] := by
    cases fields.json <;> simp [Word.key?]
  have hflags : (writing.flags.map Word.verbose).filterMap Word.key? = [] := by
    simp [List.filterMap_map, Word.key?]
  have hnodup : (grammar.paths.map (fun option : PathOption => Key.path option.long) ++
      [Key.platform] ++ [Key.dryRun] ++ [Key.json]).Nodup := by
    have hlong : (grammar.paths.map fun option : PathOption => Key.path option.long).Nodup := by
      have hdistinct := hgrammar.distinct
      rw [List.nodup_iff_pairwise_ne, List.pairwise_map] at hdistinct ⊢
      exact hdistinct.imp fun hne heq => hne (Key.path.inj heq)
    simp [List.nodup_append, hlong]
  refine .sublist ?_ hnodup
  simp only [words, List.filterMap_append, hflags, List.append_nil]
  exact ((hpaths.append hplatform).append hdryRun).append hjson

/-- Any order of the words for fields is read as the fields. -/
theorem sets_of_perm (hgrammar : grammar.Regular) (hsuits : writing.Suits grammar fields)
    {line : List Word} (hline : line.Perm (grammar.words fields writing)) :
    ∃ settings, grammar.parse (line.flatMap Word.arguments) = .ok settings ∧
      grammar.Sets fields settings := by
  have hproper : ∀ word ∈ line, word.Proper grammar :=
    fun word hword => proper_of_mem_words hsuits (hline.mem_iff.1 hword)
  have hkeys : (([] ++ line).filterMap Word.key?).Nodup :=
    (hline.filterMap Word.key?).nodup_iff.2 (nodup_keys_words hgrammar)
  have hinitial : State.initial.Reads .none := ⟨rfl, rfl⟩
  obtain ⟨after, settings, hafter, hreads, htold⟩ :=
    Told.run hgrammar hproper hkeys hinitial .nil
  exact ⟨settings, bind_eq_ok.2 ⟨after, hafter, hreads.settled⟩,
    sets_of_told hsuits (htold.perm hline)⟩

end Grammar

end ThemeSetup.CommandLine

namespace ThemeSetup.Tool

open CommandLine

/-- The options of both tools are found by their names. -/
theorem regular (tool : Tool) : tool.grammar.Regular := by
  cases tool <;> constructor <;> decide

/-- Fields are read back from any of the command lines that they can be written as: in each spelling
of a value, with the verbose flags apart or together, and in any order. -/
theorem parse_words (tool : Tool) {fields : Fields} {writing : Writing}
    (hsuits : writing.Suits tool.grammar fields) {line : List Word}
    (hline : line.Perm (tool.grammar.words fields writing)) :
    ∃ settings, tool.grammar.parse (line.flatMap Word.arguments) = .ok settings ∧
      tool.grammar.Sets fields settings :=
  Grammar.sets_of_perm tool.regular hsuits hline

/-- Four paths of all kinds: one is not UTF-8 and holds an equals sign, one is empty, one starts
with a dash and one is left out. -/
def oddFields : Fields where
  path
    | "output" => some [0xFF, equalsSign, 0x61]
    | "local" => some []
    | "lib" => some (Bytes.ofString "-b")
    | _ => none
  platform := some .macos
  dryRun := true
  json := false
  verbose := 4

/-- A writing of the fields with each spelling. -/
def oddWriting : Writing where
  spelling
    | "output" => .short
    | "local" => .long
    | _ => .joined
  flags := [.letters 1, .long, .letters 0]

/-- A command line of the packer in no order sets a value that is empty, one that is not UTF-8 and
one that looks like an option. -/
theorem parse_words_odd :
    let line : List Word :=
      [.verbose (.letters 0), .path ⟨'i', "lib", "Directory containing the built theme library"⟩
        (Bytes.ofString "-b") .joined, .dryRun, .verbose (.letters 1),
       .path ⟨'l', "local", "Directory containing dark.theme.json"⟩ [] .long, .verbose .long,
       .platform .macos, .path ⟨'o', "output", "Output path of the plpack archive"⟩
        [0xFF, equalsSign, 0x61] .short]
    oddWriting.Suits packer.grammar oddFields ∧
      line.Perm (packer.grammar.words oddFields oddWriting) ∧
      line.flatMap Word.arguments =
        (["-v", "--lib=-b", "--dry-run", "-vv", "--local", "", "--verbose", "--platform=macos",
          "-o"].map Bytes.ofString ++ [[0xFF, equalsSign, 0x61]]) ∧
      ∃ settings, packer.grammar.parse (line.flatMap Word.arguments) = .ok settings ∧
        packer.grammar.Sets oddFields settings := by
  intro line
  have hsuits : oddWriting.Suits packer.grammar oddFields := by
    refine ⟨?_, rfl⟩
    intro option _ value hvalue hdash
    simp only [oddFields] at hvalue
    split at hvalue <;> cases hvalue
    · cases hdash
    · cases hdash
    · next hlong =>
      rw [hlong]
      rfl
  have hline : line.Perm (packer.grammar.words oddFields oddWriting) := by decide
  exact ⟨hsuits, hline, by decide, parse_words packer hsuits hline⟩

end ThemeSetup.Tool
