import ThemeSetup.Log.Pattern

/-!
# Values of fields

A rule can ask for the value of a field. What it asks for is a number or a pattern; the words for
true and false are patterns too. `Value.isValue` says which texts can be asked for.
-/

namespace ThemeSetup.Log.Value

/-- Whether a text is a power of ten after a letter. -/
def isExponent : List Char → Bool
  | [] => true
  | c :: rest =>
    let digits := if rest.head? = some '+' ∨ rest.head? = some '-' then rest.tail else rest
    (c == 'e' || c == 'E') && !digits.isEmpty && digits.all Char.isDigit

/-- Whether a text is a decimal number without sign: digits, with a point before, after or between
them, and a power of ten. -/
def isUnsigned (text : List Char) : Bool :=
  let whole := text.takeWhile Char.isDigit
  let rest := text.dropWhile Char.isDigit
  let hasPoint := decide (rest.head? = some '.')
  let places := if hasPoint then rest.tail.takeWhile Char.isDigit else []
  let rest := if hasPoint then rest.tail.dropWhile Char.isDigit else rest
  !(whole ++ places).isEmpty && isExponent rest

/-- Whether a text is a number: a decimal number, an infinite one or none, with an optional sign. -/
def isNumber (text : List Char) : Bool :=
  let text := if text.head? = some '+' ∨ text.head? = some '-' then text.tail else text
  isUnsigned text || ["inf", "infinity", "nan"].contains (String.ofList (text.map Char.toLower))

/-- Whether a text can be asked for as the value of a field. -/
def isValue (text : List Char) : Bool :=
  isNumber text || Pattern.isPattern text

end ThemeSetup.Log.Value
