/-!
# Text without terminal control sequences

Diagnostics are written without colour. Control sequences are taken out by the state machine that
terminals use to read them: an escape character starts a sequence, parameters and intermediates
continue it, a final character ends it. Outside sequences, printable characters and ASCII white
space stay; other control characters and U+007F go.
-/

namespace ThemeSetup.Text.Terminal

/-- Where a reader of terminal output is. -/
inductive Mode where
  | ground
  | escape
  | escapeIntermediate
  | csiEntry
  | csiParam
  | csiIntermediate
  | csiIgnore
  | dcsEntry
  | dcsParam
  | dcsIntermediate
  | dcsPassthrough
  | dcsIgnore
  | oscString
  | privateString
  deriving DecidableEq, Repr

/-- What a character does. -/
inductive Action where
  /-- It is shown. -/
  | print
  /-- It is a control function of its own. -/
  | execute
  /-- It belongs to a sequence, or does nothing. -/
  | absorb
  deriving DecidableEq, Repr

/-- Whether an octet is a control character that acts in most modes. -/
def isControl (b : UInt8) : Bool :=
  decide (b < 0x20) && b != 0x18 && b != 0x1A && b != 0x1B

/-- The next mode and the action of an ASCII character that is read in a mode. -/
def step (mode : Mode) (b : UInt8) : Mode × Action :=
  if b = 0x18 ∨ b = 0x1A then (.ground, .execute)
  else if b = 0x1B then (.escape, .absorb)
  else match mode with
  | .ground => (.ground, if isControl b then .execute else .print)
  | .escape =>
    if isControl b then (.escape, .execute)
    else if b < 0x30 then (.escapeIntermediate, .absorb)
    else if b = 0x50 then (.dcsEntry, .absorb)
    else if b = 0x58 ∨ b = 0x5E ∨ b = 0x5F then (.privateString, .absorb)
    else if b = 0x5B then (.csiEntry, .absorb)
    else if b = 0x5D then (.oscString, .absorb)
    else if b < 0x7F then (.ground, .absorb)
    else (.escape, .absorb)
  | .escapeIntermediate =>
    if isControl b then (.escapeIntermediate, .execute)
    else if 0x30 ≤ b ∧ b < 0x7F then (.ground, .absorb)
    else (.escapeIntermediate, .absorb)
  | .csiEntry =>
    if isControl b then (.csiEntry, .execute)
    else if b < 0x30 then (.csiIntermediate, .absorb)
    else if b < 0x40 then (.csiParam, .absorb)
    else if b < 0x7F then (.ground, .absorb)
    else (.csiEntry, .absorb)
  | .csiParam =>
    if isControl b then (.csiParam, .execute)
    else if b < 0x30 then (.csiIntermediate, .absorb)
    else if b < 0x3C then (.csiParam, .absorb)
    else if b < 0x40 then (.csiIgnore, .absorb)
    else if b < 0x7F then (.ground, .absorb)
    else (.csiParam, .absorb)
  | .csiIntermediate =>
    if isControl b then (.csiIntermediate, .execute)
    else if b < 0x30 then (.csiIntermediate, .absorb)
    else if b < 0x40 then (.csiIgnore, .absorb)
    else if b < 0x7F then (.ground, .absorb)
    else (.csiIntermediate, .absorb)
  | .csiIgnore =>
    if isControl b then (.csiIgnore, .execute)
    else if 0x40 ≤ b ∧ b < 0x7F then (.ground, .absorb)
    else (.csiIgnore, .absorb)
  | .dcsEntry =>
    if isControl b ∨ b = 0x7F then (.dcsEntry, .absorb)
    else if b < 0x30 then (.dcsIntermediate, .absorb)
    else if b = 0x3A then (.dcsIgnore, .absorb)
    else if b < 0x40 then (.dcsParam, .absorb)
    else (.dcsPassthrough, .absorb)
  | .dcsParam =>
    if isControl b ∨ b = 0x7F then (.dcsParam, .absorb)
    else if b < 0x30 then (.dcsIntermediate, .absorb)
    else if b = 0x3A ∨ (0x3C ≤ b ∧ b < 0x40) then (.dcsIgnore, .absorb)
    else if b < 0x40 then (.dcsParam, .absorb)
    else (.dcsPassthrough, .absorb)
  | .dcsIntermediate =>
    if isControl b ∨ b = 0x7F then (.dcsIntermediate, .absorb)
    else if b < 0x30 then (.dcsIntermediate, .absorb)
    else if b < 0x40 then (.dcsIgnore, .absorb)
    else (.dcsPassthrough, .absorb)
  | .oscString => (if b = 0x07 then .ground else .oscString, .absorb)
  | .dcsPassthrough | .dcsIgnore | .privateString => (mode, .absorb)

/-- Whether an octet is white space of ASCII. -/
def isAsciiBlank (b : UInt8) : Bool :=
  b = 0x20 || b = 0x09 || b = 0x0A || b = 0x0C || b = 0x0D

/-- Whether an ASCII character that is read in a mode stays in the text. -/
def stays (mode : Mode) (b : UInt8) : Bool :=
  match (step mode b).2 with
  | .print => b != 0x7F
  | .execute => isAsciiBlank b
  | .absorb => false

/-- The mode after a character beyond ASCII that is read in a mode. In a string that only its own
final octet ends, that octet counts in the form of any character. -/
def after (mode : Mode) (c : Char) : Mode :=
  match mode with
  | .dcsPassthrough | .dcsIgnore | .privateString =>
    if (String.utf8EncodeChar c).contains 0x9C then .ground else mode
  | _ => mode

/-- The characters that stay, read from a mode on. A character that stays ends any sequence. -/
def stripFrom (mode : Mode) : List Char → List Char
  | [] => []
  | c :: rest =>
    if 0x80 ≤ c.toNat then
      if mode = .ground then c :: stripFrom .ground rest else stripFrom (after mode c) rest
    else
      let b := c.toNat.toUInt8
      if stays mode b then c :: stripFrom .ground rest else stripFrom (step mode b).1 rest

/-- A text without terminal control sequences. -/
def strip (text : String) : String :=
  String.ofList (stripFrom .ground text.toList)

end ThemeSetup.Text.Terminal
