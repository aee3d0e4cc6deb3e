import ThemeSetup.Log.Event
import ThemeSetup.Log.Value
import ThemeSetup.Text.Blank
import ThemeSetup.Text.Letter

/-!
# Log filters

A filter is a list of rules separated by commas. A rule is a level, or a target with an optional
level after an equals sign; between the two, square brackets may hold the name of a span and, in
braces, the name of a field with an optional value after an equals sign; what follows another equals
sign is passed over.

A rule that names a span or a value of a field speaks of spans and selects no event. The other rules
select events by the start of their target and by the names of their fields; of the rules that
select an event the most specific one decides (`Filter.allows`), and of equally specific ones the
last.

Blank characters around a rule are passed over when it is read, but they count when its parts are
cut out: the positions found in the trimmed text are applied to the untrimmed one. So blanks before
a rule shift its parts, and a cut inside a character is no text at all.

Without a filter the verbose flags decide: `read_levelName` says that the level they name, read as a
filter, is the filter they stand for.
-/

namespace ThemeSetup.Log

/-- Why a filter cannot be used. -/
inductive FilterError where
  /-- The text is no filter. -/
  | malformed
  /-- A part would have to be cut inside a character. -/
  | misaligned
  deriving DecidableEq, Repr

/-- A rule that selects events. -/
structure Rule where
  /-- The start of the targets it selects; `none` selects all. -/
  target : Option String
  /-- The fields that an event must have. -/
  fields : List String
  /-- The greatest rank that is shown. -/
  verbosity : Nat
  deriving DecidableEq, Repr

/-- The verbosity that a number or a name stands for. -/
def verbosity? (text : String) : Option Nat :=
  let chars := text.toList
  let digits := if chars.head? = some '+' then chars.tail else chars
  if !digits.isEmpty && digits.all Char.isDigit then
    let n := digits.foldl (fun n c => n * 10 + (c.toNat - 48)) 0
    if n ≤ 5 then some n else none
  else match String.ofList (chars.map Char.toLower) with
    | "" => some 1
    | "off" => some 0
    | "error" => some 1
    | "warn" => some 2
    | "info" => some 3
    | "debug" => some 4
    | "trace" => some 5
    | _ => none

/-- The text between two positions in the octets of a text, both of which must be between two
characters. -/
def cut (text : Bytes) (start stop : Nat) : Except FilterError String :=
  match Utf8.decode? ((text.take stop).drop start), Utf8.decode? (text.take start) with
  | some part, some _ => .ok part
  | _, _ => .error .misaligned

/-- How far a rule is read. -/
inductive Reading where
  /-- Nothing is read yet. -/
  | start
  /-- A level or a target starts at a position. -/
  | levelOrTarget (start : Nat)
  /-- The name of a span starts at a position. -/
  | span (start : Nat)
  /-- A field starts at a position. -/
  | field (start : Nat)
  /-- The fields are complete. -/
  | fields
  /-- The brackets are complete. -/
  | bracketed
  /-- A level starts at a position. -/
  | level (start : Nat)
  deriving DecidableEq, Repr

/-- What is known of a rule while it is read. -/
structure Draft where
  target : Option String
  /-- Whether it names a span, or a value of a field. -/
  spansOnly : Bool
  fields : List String
  deriving DecidableEq, Repr

/-- Whether a rule may start with a character. -/
def startsRule (c : Char) : Bool :=
  c = '-' || c = ':' || c = '_' || Text.isAlphanumeric c

/-- Reads the character at a position. -/
def readChar (text : Bytes) (draft : Draft) (position : Nat) (c : Char) :
    Reading → Except FilterError (Draft × Reading)
  | .start =>
    if c = '[' then .ok (draft, .span (position + 1))
    else if startsRule c then .ok (draft, .levelOrTarget position)
    else .error .malformed
  | .levelOrTarget start =>
    if c = '=' then do
      let target ← cut text start position
      return ({ draft with target := some target }, .level (position + 1))
    else if c = '[' then do
      let target ← cut text start position
      return ({ draft with target := some target }, .span (position + 1))
    else .ok (draft, .levelOrTarget start)
  | .span start =>
    if c = ']' then do
      let _ ← cut text start position
      return ({ draft with spansOnly := true }, .bracketed)
    else if c = '\x7b' then do
      let name ← cut text start position
      return ({ draft with spansOnly := draft.spansOnly || name != "" }, .field (position + 1))
    else .ok (draft, .span start)
  | .field start =>
    if c = '\x7d' then do
      let field ← cut text start position
      if field = "" then .error .malformed
      else match field.toList.splitOn '=' with
        | name :: value :: _ =>
          if Value.isValue value then
            return ({ draft with
              fields := draft.fields ++ [String.ofList name], spansOnly := true }, .fields)
          else .error .malformed
        | _ => return ({ draft with fields := draft.fields ++ [field] }, .fields)
    else .ok (draft, .field start)
  | .fields => if c = ']' then .ok (draft, .bracketed) else .error .malformed
  | .bracketed =>
    if c = '=' then .ok (draft, .level (position + 1)) else .error .malformed
  | .level start => .ok (draft, .level start)

/-- Reads characters from a position on. -/
def readChars (text : Bytes) : Draft → Nat → Reading → List Char →
    Except FilterError (Draft × Reading)
  | draft, _, reading, [] => .ok (draft, reading)
  | draft, position, reading, c :: rest => do
    let (next, after) ← readChar text draft position c reading
    readChars text next (position + c.utf8Size) after rest

/-- Reads a rule; `none` is a rule that selects no event. -/
def readRule (text : String) : Except FilterError (Option Rule) := do
  let bytes := Bytes.ofString text
  let (draft, reading) ←
    readChars bytes ⟨none, false, []⟩ 0 .start (Text.trim Text.isBlank text.toList)
  let finish (target : Option String) (verbosity : Nat) : Option Rule :=
    if draft.spansOnly then none else some ⟨target, draft.fields, verbosity⟩
  match reading with
  | .levelOrTarget start =>
    let word ← cut bytes start bytes.length
    match verbosity? word with
    | some verbosity => return finish none verbosity
    | none => return finish (some word) 5
  | .level start =>
    let word ← cut bytes start bytes.length
    if word = "" then return finish draft.target 5
    else match verbosity? word with
      | some verbosity => return finish draft.target verbosity
      | none => .error .malformed
  | .bracketed => return finish draft.target 5
  | .start | .span _ | .field _ | .fields => .error .malformed

/-- Rules that select events, in the order in which they are given. -/
structure Filter where
  rules : List Rule
  deriving DecidableEq, Repr

namespace Filter

/-- The filter that shows everything up to a verbosity. -/
def upTo (verbosity : Nat) : Filter :=
  ⟨[⟨none, [], verbosity⟩]⟩

/-- Reads rules in turn, up to the first error. -/
def readRules : List String → Except FilterError (List Rule)
  | [] => .ok []
  | text :: rest => do
    let rule ← readRule text
    let rules ← readRules rest
    return rule.toList ++ rules

/-- Reads a filter. Empty rules are passed over. -/
def read (text : String) : Except FilterError Filter := do
  let parts := (text.toList.splitOn ',').filter (!·.isEmpty)
  let rules ← readRules (parts.map String.ofList)
  return ⟨rules⟩

/-- Whether a rule selects an event. -/
def selects (rule : Rule) (event : Event) : Bool :=
  (match rule.target with
    | none => true
    | some target => target.toList.isPrefixOf event.target.toList) &&
  rule.fields.all event.fieldNames.contains

/-- The length in octets of the target that a rule asks for; no target comes before an empty one. -/
def targetSize (rule : Rule) : Nat :=
  match rule.target with
  | none => 0
  | some target => target.utf8ByteSize + 1

/-- Whether a rule is at least as specific as another: by the length of its target, then by the
number of its fields, then by their names. -/
def asSpecific (rule other : Rule) : Bool :=
  if targetSize rule ≠ targetSize other then decide (targetSize other < targetSize rule)
  else if rule.fields.length ≠ other.fields.length then
    decide (other.fields.length < rule.fields.length)
  else !decide (rule.fields < other.fields)

/-- The rule that decides about an event. -/
def deciding (filter : Filter) (event : Event) : Option Rule :=
  (filter.rules.filter (selects · event)).foldl
    (fun best rule =>
      match best with
      | none => some rule
      | some other => if asSpecific rule other then some rule else best)
    none

/-- Whether an event is shown. -/
def allows (filter : Filter) (event : Event) : Bool :=
  match filter.deciding event with
  | some rule => decide (event.level.rank ≤ rule.verbosity)
  | none => false

end Filter

/-- The name of the level that a number of verbose flags asks for. -/
def levelName (verbose : Nat) : String :=
  match verbose with
  | 0 => "warn"
  | 1 => "info"
  | 2 => "debug"
  | _ => "trace"

/-- The filter that a number of verbose flags asks for. -/
def Filter.ofVerbose (verbose : Nat) : Filter :=
  .upTo (min verbose 3 + 2)

/-- The level that a number of verbose flags asks for is the filter that they ask for. -/
theorem read_levelName (verbose : Nat) :
    (Filter.read (levelName verbose)).toOption = some (.ofVerbose verbose) := by
  match verbose with
  | 0 => decide +kernel
  | 1 => decide +kernel
  | 2 => decide +kernel
  | n + 3 =>
    have h : min (n + 3) 3 = 3 := by omega
    simp only [levelName, Filter.ofVerbose, h]
    decide +kernel

/-- The filter of a run: what the log variable holds if it can be read, else what the verbose flags
ask for. -/
def Filter.choose (setting : Option Bytes) (verbose : Nat) : Except FilterError Filter :=
  match setting with
  | none => .ok (.ofVerbose verbose)
  | some value =>
    match Utf8.decode? value with
    | none => .ok (.ofVerbose verbose)
    | some text =>
      match Filter.read text with
      | .ok filter => .ok filter
      | .error .malformed => .ok (.ofVerbose verbose)
      | .error .misaligned => .error .misaligned

end ThemeSetup.Log
