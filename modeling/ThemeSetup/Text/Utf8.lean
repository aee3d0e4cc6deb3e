import ThemeSetup.Bytes

/-!
# UTF-8 text in octet strings

An octet string is read from the left into pieces. A piece is a character, or a *maximal invalid
part*: the longest run of octets that starts as a character does and cannot be continued to one.

* `Utf8.pieces` is the reading; every octet is in exactly one piece.
* `Utf8.decode` succeeds when every piece is a character, and otherwise names the first fault.
* `Utf8.lossy` puts one U+FFFD for each invalid part.
-/

namespace ThemeSetup.Utf8

/-- A piece of an octet string read as UTF-8. -/
inductive Piece where
  /-- A character in its UTF-8 form. -/
  | char (c : Char)
  /-- Octets that no character starts with, or a start that the next octet does not continue. -/
  | invalid (octets : Bytes)
  /-- The start of a character, cut off by the end of the input. -/
  | truncated (octets : Bytes)
  deriving DecidableEq, Repr

/-- An interval of octets, both ends included. -/
abbrev Range := UInt8 × UInt8

/-- Whether an octet lies in a range. -/
def Range.contains (range : Range) (octet : UInt8) : Bool :=
  decide (range.1 ≤ octet) && decide (octet ≤ range.2)

/-- The octets that continue any character. -/
def continuation : Range := (0x80, 0xBF)

/-- The ranges of the octets that follow a first octet, or `none` when no character starts with
it. Overlong forms, surrogates and values above U+10FFFF are cut off at the second octet. -/
def followers (first : UInt8) : Option (List Range) :=
  if first < 0x80 then some []
  else if first < 0xC2 then none
  else if first < 0xE0 then some [continuation]
  else if first = 0xE0 then some [(0xA0, 0xBF), continuation]
  else if first = 0xED then some [(0x80, 0x9F), continuation]
  else if first < 0xF0 then some [continuation, continuation]
  else if first = 0xF0 then some [(0x90, 0xBF), continuation, continuation]
  else if first < 0xF4 then some [continuation, continuation, continuation]
  else if first = 0xF4 then some [(0x80, 0x8F), continuation, continuation]
  else none

/-- The bits of the code point that a first octet holds. -/
def leadingBits (first : UInt8) : Nat :=
  if first < 0x80 then first.toNat
  else if first < 0xE0 then first.toNat % 32
  else if first < 0xF0 then first.toNat % 16
  else first.toNat % 8

/-- The character that a complete form stands for. -/
def character : Bytes → Char
  | [] => '\x00'
  | first :: rest =>
    Char.ofNat (rest.foldl (fun code octet => code * 64 + octet.toNat % 64) (leadingBits first))

/-- A character under way: the octets seen and the ranges still expected. -/
structure Pending where
  seen : Bytes
  expected : List Range

/-- No character is under way. -/
def Pending.idle : Pending := ⟨[], []⟩

/-- Reading an octet that starts a new piece. -/
def start (octet : UInt8) : List Piece × Pending :=
  match followers octet with
  | none => ([.invalid [octet]], .idle)
  | some [] => ([.char (character [octet])], .idle)
  | some expected => ([], ⟨[octet], expected⟩)

/-- Reading the next octet: the pieces that end with it, and what is under way after it. -/
def step (pending : Pending) (octet : UInt8) : List Piece × Pending :=
  match pending.expected with
  | [] => start octet
  | range :: later =>
    if range.contains octet then
      let seen := pending.seen ++ [octet]
      match later with
      | [] => ([.char (character seen)], .idle)
      | _ :: _ => ([], ⟨seen, later⟩)
    else
      let (pieces, next) := start octet
      (.invalid pending.seen :: pieces, next)

/-- The pieces of an octet string that follows what is under way. -/
def piecesFrom (pending : Pending) : Bytes → List Piece
  | [] =>
    match pending.seen with
    | [] => []
    | seen => [.truncated seen]
  | octet :: rest =>
    let (pieces, next) := step pending octet
    pieces ++ piecesFrom next rest

/-- The pieces of an octet string. -/
def pieces (octets : Bytes) : List Piece :=
  piecesFrom .idle octets

/-- Why an octet string is not UTF-8: the first piece that is no character. -/
structure Fault where
  /-- How many octets come before it. -/
  index : Nat
  /-- Its length, or `none` when the input ended inside a character. -/
  length : Option Nat
  deriving DecidableEq, Repr

/-- The wording of a fault. -/
def Fault.message (fault : Fault) : String :=
  match fault.length with
  | some n => s!"invalid utf-8 sequence of {n} bytes from index {fault.index}"
  | none => s!"incomplete utf-8 byte sequence from index {fault.index}"

/-- The characters of a list of pieces, or the first fault; `index` octets came before. -/
def textOf (index : Nat) : List Piece → Except Fault (List Char)
  | [] => .ok []
  | .char c :: rest =>
    match textOf (index + c.utf8Size) rest with
    | .ok text => .ok (c :: text)
    | .error fault => .error fault
  | .invalid octets :: _ => .error ⟨index, some octets.length⟩
  | .truncated _ :: _ => .error ⟨index, none⟩

/-- The characters of an octet string, or the first fault in it. -/
def decode (octets : Bytes) : Except Fault (List Char) :=
  textOf 0 (pieces octets)

/-- The text of an octet string, if it is UTF-8. -/
def decode? (octets : Bytes) : Option String :=
  match decode octets with
  | .ok text => some (String.ofList text)
  | .error _ => none

/-- The characters that a list of pieces starts with. -/
def leadingChars : List Piece → List Char
  | .char c :: rest => c :: leadingChars rest
  | _ => []

/-- The characters that an octet string starts with, and the octets from the first fault on. -/
def splitText (octets : Bytes) : List Char × Bytes :=
  let text := leadingChars (pieces octets)
  (text, octets.drop (Bytes.ofChars text).length)

/-- The character shown for a piece. -/
def Piece.shown : Piece → Char
  | .char c => c
  | .invalid _ => '\uFFFD'
  | .truncated _ => '\uFFFD'

/-- The text of an octet string, with one U+FFFD for each invalid part. -/
def lossy (octets : Bytes) : String :=
  String.ofList ((pieces octets).map Piece.shown)

end ThemeSetup.Utf8
