import ThemeSetup.Json.Basic

/-!
# JSON text

One printer for two styles: `Json.compact` writes a value on one line without blanks, and
`Json.pretty` writes every item and field on a line of its own, indented by two blanks for each
level. Texts escape the quotation mark, the backslash and the characters below U+0020, and nothing
else.
-/

namespace ThemeSetup.Json

/-- What a style decides. -/
structure Style where
  /-- The text between an opening bracket, an item and a closing bracket, by nesting depth. -/
  lineBreak : Nat → List Char
  /-- The text between a key and its value. -/
  colon : List Char

/-- Everything on one line. -/
def Style.compact : Style :=
  ⟨fun _ => [], [':']⟩

/-- One line for each item, two blanks for each level. -/
def Style.pretty : Style :=
  ⟨fun depth => '\n' :: List.replicate (2 * depth) ' ', [':', ' ']⟩

/-- A character of a text in its written form. -/
def escape (c : Char) : List Char :=
  if c = '"' then ['\\', '"']
  else if c = '\\' then ['\\', '\\']
  else if c = '\x08' then ['\\', 'b']
  else if c = '\t' then ['\\', 't']
  else if c = '\n' then ['\\', 'n']
  else if c = '\x0c' then ['\\', 'f']
  else if c = '\r' then ['\\', 'r']
  else if c.toNat < 16 then ['\\', 'u', '0', '0', '0'] ++ Nat.toDigits 16 c.toNat
  else if c.toNat < 32 then ['\\', 'u', '0', '0'] ++ Nat.toDigits 16 c.toNat
  else [c]

/-- A text between quotation marks. -/
def quote (text : String) : List Char :=
  '"' :: text.toList.flatMap escape ++ ['"']

/-- The decimal digits of a natural number. -/
def digits (n : Nat) : List Char :=
  Nat.toDigits 10 n

/-- A number in its written form; a fraction has at least one digit after its point. -/
def Number.render : Number → List Char
  | .int value => (if value < 0 then ['-'] else []) ++ digits value.natAbs
  | .decimal mantissa places =>
    let unit := Nat.pow 10 places
    let fraction := digits (mantissa.natAbs % unit)
    (if mantissa < 0 then ['-'] else []) ++ digits (mantissa.natAbs / unit) ++ '.' ::
      (List.replicate (places - fraction.length) '0' ++ fraction)

mutual

/-- The written form of a value that stands at a nesting depth. -/
def render (style : Style) (depth : Nat) : Json → List Char
  | .null => ['n', 'u', 'l', 'l']
  | .bool true => ['t', 'r', 'u', 'e']
  | .bool false => ['f', 'a', 'l', 's', 'e']
  | .number value => value.render
  | .string value => quote value
  | .array [] => ['[', ']']
  | .array (item :: items) =>
    '[' :: style.lineBreak (depth + 1) ++ render style (depth + 1) item ++
      renderItems style (depth + 1) items ++ style.lineBreak depth ++ [']']
  | .object [] => ['\x7b', '\x7d']
  | .object ((key, value) :: fields) =>
    '\x7b' :: style.lineBreak (depth + 1) ++ quote key ++ style.colon ++
      render style (depth + 1) value ++ renderFields style (depth + 1) fields ++
      style.lineBreak depth ++ ['\x7d']

/-- The items of an array after the first. -/
def renderItems (style : Style) (depth : Nat) : List Json → List Char
  | [] => []
  | item :: items =>
    ',' :: style.lineBreak depth ++ render style depth item ++ renderItems style depth items

/-- The fields of an object after the first. -/
def renderFields (style : Style) (depth : Nat) : List (String × Json) → List Char
  | [] => []
  | (key, value) :: fields =>
    ',' :: style.lineBreak depth ++ quote key ++ style.colon ++ render style depth value ++
      renderFields style depth fields

end

/-- The value on one line. -/
def compact (value : Json) : String :=
  String.ofList (render .compact 0 value)

/-- The value with one line for each item. -/
def pretty (value : Json) : String :=
  String.ofList (render .pretty 0 value)

end ThemeSetup.Json
