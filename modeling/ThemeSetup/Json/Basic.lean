/-!
# JSON values

A JSON value with its object fields in order. Numbers are exact: integers, and decimal fractions
given by a mantissa and a number of places. `Json.sortKeys` puts the fields of every object in the
order of their keys, which is how free-form values are written.
-/

namespace ThemeSetup

/-- A number in a JSON document. -/
inductive Json.Number where
  /-- An integer. -/
  | int (value : Int)
  /-- The fraction `mantissa / 10 ^ places`. -/
  | decimal (mantissa : Int) (places : Nat)
  deriving DecidableEq, Repr

/-- A JSON value. -/
inductive Json where
  | null
  | bool (value : Bool)
  | number (value : Json.Number)
  | string (value : String)
  | array (items : List Json)
  | object (fields : List (String × Json))
  deriving Inhabited, Repr

namespace Json

/-- An integer as a JSON value. -/
def int (value : Int) : Json :=
  .number (.int value)

/-- A list of texts as a JSON value. -/
def strings (items : List String) : Json :=
  .array (items.map .string)

/-- Puts a field before the first one with a greater key; a field of the same key is replaced. -/
def insertField (field : String × Json) : List (String × Json) → List (String × Json)
  | [] => [field]
  | first :: rest =>
    if field.1 < first.1 then field :: first :: rest
    else if field.1 = first.1 then field :: rest
    else first :: insertField field rest

mutual

/-- The value with the fields of every object in the order of their keys. -/
def sortKeys : Json → Json
  | .array items => .array (sortItems items)
  | .object fields => .object (sortFields fields [])
  | value => value

/-- The items with the fields of every object in order. -/
def sortItems : List Json → List Json
  | [] => []
  | item :: rest => sortKeys item :: sortItems rest

/-- Fields inserted one by one into fields that are in order. -/
def sortFields : List (String × Json) → List (String × Json) → List (String × Json)
  | [], sorted => sorted
  | (key, value) :: rest, sorted => sortFields rest (insertField (key, sortKeys value) sorted)

end

/-- The value of a field of an object. -/
def field? (key : String) : Json → Option Json
  | .object fields => fields.lookup key
  | _ => none

/-- The text of a value, if it is a text. -/
def string? : Json → Option String
  | .string value => some value
  | _ => none

end Json

end ThemeSetup
