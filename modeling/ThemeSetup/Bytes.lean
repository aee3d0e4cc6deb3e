/-!
# Octet strings

Paths, program arguments, file contents and what programs write are octet strings: they need not
be text. `Bytes.ofString` is the UTF-8 form of a text; `ThemeSetup.Text.Utf8` reads it back.
-/

namespace ThemeSetup

/-- A string of octets. -/
abbrev Bytes := List UInt8

namespace Bytes

/-- The UTF-8 form of a list of characters. -/
def ofChars (text : List Char) : Bytes :=
  text.flatMap String.utf8EncodeChar

/-- The UTF-8 form of a text. -/
def ofString (text : String) : Bytes :=
  ofChars text.toList

@[simp]
theorem ofChars_nil : ofChars [] = [] := rfl

/-- The UTF-8 form goes character by character. -/
theorem ofChars_append (a b : List Char) : ofChars (a ++ b) = ofChars a ++ ofChars b := by
  simp [ofChars]

end Bytes

end ThemeSetup
