import ThemeSetup.Proofs.CommandLine.Steps
import ThemeSetup.Proofs.Job
import ThemeSetup.Tool.Run

/-!
# Asking for JSON as well

A command line that does not ask for JSON is read in the same way after the flag for it, and sets
the same options besides (`Tool.parse_jsonFlag`). A step of reading that ends without JSON started
without, and does the same where JSON is asked for (`State.Unaware`): only the flag itself looks at
what it sets, and no step takes back that it was given.
-/

namespace ThemeSetup.CommandLine

/-- The settings with JSON asked for. -/
def Settings.withJson (settings : Settings) : Settings :=
  { settings with json := true }

/-- The state with JSON asked for. -/
def State.withJson (state : State) : State :=
  { state with settings := state.settings.withJson }

namespace Settings

/-- A change of settings that ends without JSON started without, and is the same with it. -/
def Unaware (change : Settings → Except Refusal Settings) : Prop :=
  ∀ settings next, change settings = .ok next → next.json = false →
    settings.json = false ∧ change settings.withJson = .ok next.withJson

/-- Setting an option to a value has nothing to do with JSON. -/
theorem unaware_assign (key : Key) (value : Bytes) : Unaware (·.assign key value) := by
  intro settings next hnext hjson
  cases key with
  | path long =>
    by_cases hgiven : (settings.path? long).isSome = true
    · simp only [assign, hgiven, if_true] at hnext
      cases hnext
    · simp only [assign, hgiven] at hnext
      cases hnext
      exact ⟨hjson, if_neg hgiven⟩
  | platform =>
    by_cases hgiven : settings.platform.isSome = true
    · simp only [assign, hgiven, if_true] at hnext
      cases hnext
    · simp only [assign, hgiven] at hnext
      cases hnamed : (Utf8.decode? value).bind Platform.named? with
      | none =>
        simp only [hnamed] at hnext
        cases hnext
      | some platform =>
        simp only [hnamed] at hnext
        cases hnext
        refine ⟨hjson, ?_⟩
        simp only [assign, withJson, hgiven, hnamed]
        rfl
  | _ =>
    cases hnext
    exact ⟨hjson, rfl⟩

/-- Setting a flag does not look at the flag for JSON, unless it is that flag. -/
theorem unaware_raise (key : Key) : Unaware (·.raise key) := by
  intro settings next hnext hjson
  cases key with
  | dryRun =>
    by_cases hgiven : settings.dryRun = true
    · simp only [raise, hgiven, if_true] at hnext
      cases hnext
    · simp only [raise, hgiven] at hnext
      cases hnext
      exact ⟨hjson, if_neg hgiven⟩
  | json =>
    by_cases hgiven : settings.json = true
    · simp only [raise, hgiven, if_true] at hnext
      cases hnext
    · simp only [raise, hgiven] at hnext
      cases hnext
      cases hjson
  | help => cases hnext
  | version => cases hnext
  | _ =>
    cases hnext
    exact ⟨hjson, rfl⟩

end Settings

namespace State

/-- A step of reading that ends without JSON started without, and is the same with it. -/
def Unaware (read : State → Except Refusal State) : Prop :=
  ∀ state next, read state = .ok next → next.settings.json = false →
    state.settings.json = false ∧ read state.withJson = .ok next.withJson

/-- Taking in the value that is pending has nothing to do with JSON. -/
theorem settle_withJson {state : State} {settings : Settings} (h : state.settle = .ok settings)
    (hjson : settings.json = false) :
    state.settings.json = false ∧ state.withJson.settle = .ok settings.withJson := by
  obtain ⟨earlier, pending, ended⟩ := state
  match pending with
  | none =>
    cases h
    exact ⟨hjson, rfl⟩
  | some (key, none) => cases h
  | some (key, some value) => exact Settings.unaware_assign key value earlier settings h hjson

/-- Taking in the value that is pending, and then changing the settings; what else is known does not
change with JSON. -/
theorem Unaware.settled {change : Settings → Except Refusal Settings}
    (hchange : Settings.Unaware change) (pending : Option (Key × Option Bytes)) :
    Unaware fun state => do
      let settings ← state.settle
      let settings ← change settings
      return { state with settings := settings, pending := pending } := by
  intro state next hnext hjson
  obtain ⟨settled, hsettle, hnext⟩ := bind_eq_ok.1 hnext
  obtain ⟨changed, hchanged, hnext⟩ := bind_eq_ok.1 hnext
  cases hnext
  obtain ⟨hsettled, hchangedJson⟩ := hchange settled changed hchanged hjson
  obtain ⟨hstate, hsettleJson⟩ := settle_withJson hsettle hsettled
  exact ⟨hstate, bind_eq_ok.2 ⟨_, hsettleJson, bind_eq_ok.2 ⟨_, hchangedJson, rfl⟩⟩⟩

/-- Taking in a value as the one that an option waits for has nothing to do with JSON. -/
theorem unaware_readValue (argument : Bytes) : Unaware (Grammar.readValue · argument) := by
  rintro ⟨settings, pending, ended⟩ next hnext hjson
  match pending, ended with
  | some (key, none), false =>
    cases hnext
    exact ⟨hjson, rfl⟩
  | none, false => cases hnext
  | none, true => cases hnext
  | some (key, none), true => cases hnext
  | some (key, some value), false => cases hnext
  | some (key, some value), true => cases hnext

/-- No step of reading has to do with JSON, except for the flag itself. -/
theorem unawareLaw : ReadingLaw (fun _ => True) Unaware where
  keep := by
    rintro state _ ⟨⟩ hjson
    exact ⟨hjson, rfl⟩
  refuse refusal := by rintro _ _ ⟨⟩
  assign key value := .settled (Settings.unaware_assign key value) none
  raise key _ := .settled (Settings.unaware_raise key) none
  await key := by
    have hkept : Settings.Unaware .ok := by
      rintro settings _ ⟨⟩ hjson
      exact ⟨hjson, rfl⟩
    exact .settled hkept (some (key, none))
  value := unaware_readValue
  finish := by
    rintro state _ ⟨⟩ hjson
    exact ⟨hjson, rfl⟩
  bind {read after} hread hafter := by
    intro state next hnext hjson
    obtain ⟨middle, hmiddle, hnext⟩ := bind_eq_ok.1 hnext
    obtain ⟨hmiddleJson, hlast⟩ := hafter middle next hnext hjson
    obtain ⟨hstate, hfirst⟩ := hread state middle hmiddle hmiddleJson
    exact ⟨hstate, bind_eq_ok.2 ⟨_, hfirst, hlast⟩⟩
  either {read other} hread hother := by
    rintro ⟨settings, pending, ended⟩ next hnext hjson
    cases ended with
    | true => exact hread _ next hnext hjson
    | false => exact hother _ next hnext hjson

end State

namespace Grammar

variable (grammar : Grammar)

/-- Where the flag for JSON is read at the start as asking for it, a command line that does not ask
for JSON sets the same options after it. -/
theorem parse_withJson {flag : Bytes} {arguments : List Bytes} {settings : Settings}
    (hflag : grammar.readArgument .initial flag = .ok State.initial.withJson)
    (h : grammar.parse arguments = .ok settings) (hjson : settings.json = false) :
    grammar.parse (flag :: arguments) = .ok settings.withJson := by
  obtain ⟨state, hread, hsettle⟩ := bind_eq_ok.1 h
  obtain ⟨hstate, hsettled⟩ := State.settle_withJson hsettle hjson
  have hunaware : State.Unaware (grammar.readArguments · arguments) :=
    State.unawareLaw.readArguments grammar (fun _ _ _ => trivial) fun _ _ _ _ => trivial
  obtain ⟨-, hrest⟩ := hunaware _ _ hread hstate
  exact bind_eq_ok.2 ⟨_, bind_eq_ok.2 ⟨_, hflag, hrest⟩, hsettled⟩

end Grammar

end ThemeSetup.CommandLine

namespace ThemeSetup.Tool

/-- The flag for JSON. -/
def jsonFlag : Bytes := Bytes.ofString "--json"

/-- A command line that does not ask for JSON sets the same options after the flag for it. -/
theorem parse_jsonFlag (tool : Tool) {arguments : List Bytes} {settings : CommandLine.Settings}
    (h : tool.grammar.parse arguments = .ok settings) (hjson : settings.json = false) :
    tool.grammar.parse (jsonFlag :: arguments) = .ok settings.withJson :=
  tool.grammar.parse_withJson (by cases tool <;> rfl) h hjson

end ThemeSetup.Tool
