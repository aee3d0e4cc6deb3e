import ThemeSetup.Text.Blank

/-!
# The atoms of patterns

A pattern is a regular expression that is searched in text. This module reads its smallest parts:
characters, classes that have a name, and positions.

Text is well-formed UTF-8, and the only tables of characters at hand are those of ASCII. So what
needs a greater table is refused: a named class of characters, a position that word characters tell,
and a character that stands for both its cases. Where text is read as octets ASCII suffices, but
there nothing may stand for an octet beyond ASCII, which is no text of its own. `Atom.isAllowed`
states these rules.
-/

namespace ThemeSetup.Log.Pattern

/-- How a pattern is read from a place on. -/
structure Options where
  /-- A letter stands for both its cases. -/
  caseless : Bool
  /-- Text is read as characters, and else as octets. -/
  characters : Bool
  /-- Blanks and comments are passed over. -/
  spaced : Bool
  deriving DecidableEq, Repr

namespace Options

/-- How a pattern is read at its start. -/
def standard : Options :=
  ⟨false, true, false⟩

/-- The text after blanks and comments. A comment goes from a hash to the end of its line. -/
def afterBlanks (inComment : Bool) : List Char → List Char
  | [] => []
  | c :: rest =>
    if inComment then afterBlanks (c != '\n') rest
    else if Text.isBlank c then afterBlanks false rest
    else if c = '#' then afterBlanks true rest
    else c :: rest

/-- The text from the next character that counts. -/
def next (options : Options) (text : List Char) : List Char :=
  if options.spaced then afterBlanks false text else text

end Options

/-- A part of a pattern that holds no other. -/
inductive Atom where
  /-- A character; it may be written as an octet, with two hexadecimal digits. -/
  | character (c : Char) (asOctet : Bool)
  /-- The digits, the blanks or the word characters, or all characters but those. -/
  | named (negated : Bool)
  /-- A position; it may be one that the word characters around it tell. -/
  | position (byWords : Bool)
  deriving DecidableEq, Repr

namespace Atom

/-- Whether an atom can be searched for. -/
def isAllowed (options : Options) : Atom → Bool
  | .character c asOctet =>
    if options.characters then !options.caseless else !(asOctet && decide (0x80 ≤ c.toNat))
  | .named negated => !options.characters && !negated
  | .position byWords => !(byWords && options.characters)

/-- Whether an atom can be a member of a class in brackets. -/
def isMember (options : Options) : Atom → Bool
  | .character c _ =>
    if options.characters then !options.caseless else decide (c.toNat < 0x80)
  | .named negated => !options.characters && !negated
  | .position _ => false

/-- The value of a hexadecimal digit. -/
def hexDigit? (c : Char) : Option Nat :=
  if '0' ≤ c ∧ c ≤ '9' then some (c.toNat - 48)
  else if 'a' ≤ c ∧ c ≤ 'f' then some (c.toNat - 87)
  else if 'A' ≤ c ∧ c ≤ 'F' then some (c.toNat - 55)
  else none

/-- Reads a number of hexadecimal digits after a value. -/
def hexDigits? (options : Options) : Nat → Nat → List Char → Option (Nat × List Char)
  | 0, value, text => some (value, text)
  | count + 1, value, text =>
    match options.next text with
    | [] => none
    | c :: rest => do
      let digit ← hexDigit? c
      hexDigits? options count (value * 16 + digit) rest

/-- Reads the character whose code has a number of hexadecimal digits. -/
def coded? (options : Options) (digits : Nat) (text : List Char) : Option (Atom × List Char) := do
  let (code, rest) ← hexDigits? options digits 0 text
  if code.isValidChar then some (.character (Char.ofNat code) (digits == 2), rest) else none

/-- Whether a character stands for itself after a backslash: those of ASCII do but letters, digits
and angle brackets. -/
def isEscapable (c : Char) : Bool :=
  decide (c.toNat < 0x80) && !c.isAlphanum && c != '<' && c != '>'

/-- The characters that a letter after a backslash stands for. -/
def controls : List (Char × Char) :=
  [('a', '\x07'), ('f', '\x0c'), ('t', '\t'), ('n', '\n'), ('r', '\r'), ('v', '\x0b')]

/-- Reads what follows a backslash. Classes by a property of characters are refused. -/
def escaped? (options : Options) : List Char → Option (Atom × List Char)
  | [] => none
  | c :: rest =>
    match c with
    | 'x' => coded? options 2 rest
    | 'u' => coded? options 4 rest
    | 'U' => coded? options 8 rest
    | 'd' | 's' | 'w' => some (.named false, rest)
    | 'D' | 'S' | 'W' => some (.named true, rest)
    | 'A' | 'z' => some (.position false, rest)
    | 'b' | 'B' | '<' | '>' => some (.position true, rest)
    | _ =>
      if isEscapable c then some (.character c false, rest)
      else (controls.lookup c).map fun control => (.character control false, rest)

/-- Reads an atom that is a character or an escape. -/
def read? (options : Options) : List Char → Option (Atom × List Char)
  | [] => none
  | '\\' :: rest => escaped? options rest
  | c :: rest => some (.character c false, rest)

end Atom

end ThemeSetup.Log.Pattern
