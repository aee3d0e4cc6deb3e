import ThemeSetup.Text.Printable
import ThemeSetup.Text.Utf8

/-!
# Quoted text

The form in which log lines show octet strings: between double quotes, with a backslash before
quotes and backslashes, short names for the commonest control characters, the number of every other
character that is not printable, and the octets of parts that are not UTF-8.
-/

namespace ThemeSetup.Text.Quoted

/-- The digits of a number in base sixteen, in small letters. -/
def hex (n : Nat) : List Char :=
  Nat.toDigits 16 n

/-- An octet as two digits in base sixteen, in capitals. -/
def octet (b : UInt8) : List Char :=
  let digits := (hex b.toNat).map Char.toUpper
  if b < 16 then '0' :: digits else digits

/-- A character in its quoted form. -/
def char (c : Char) : List Char :=
  if c = '\x00' then ['\\', '0']
  else if c = '\t' then ['\\', 't']
  else if c = '\r' then ['\\', 'r']
  else if c = '\n' then ['\\', 'n']
  else if c = '"' ∨ c = '\x27' ∨ c = '\\' then ['\\', c]
  else if isPrintable c then [c]
  else ['\\', 'u', '\x7b'] ++ hex c.toNat ++ ['\x7d']

/-- The octets of an invalid part, each by its number. -/
def octets (bytes : Bytes) : List Char :=
  bytes.flatMap fun b => ['\\', 'x'] ++ octet b

/-- A piece of an octet string in its quoted form. -/
def piece : Utf8.Piece → List Char
  | .char c => char c
  | .invalid bytes => octets bytes
  | .truncated bytes => octets bytes

/-- An octet string in its quoted form. -/
def encode (bytes : Bytes) : String :=
  String.ofList (['"'] ++ (Utf8.pieces bytes).flatMap piece ++ ['"'])

end ThemeSetup.Text.Quoted
