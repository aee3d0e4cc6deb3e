import ThemeSetup.Log.Pattern.Atom

/-!
# Classes in brackets

A class in brackets has members: characters, ranges of characters, named classes and further classes
in brackets. Two classes can be joined by an operation: what both have (two ampersands), what only
the first has (two dashes), what only one of them has (two tildes).

`Class.read?` reads a class up to its closing bracket and says how deep it nests.
-/

namespace ThemeSetup.Log.Pattern

namespace Class

/-- Whether all characters but the members can be searched for. Read as octets, they would have the
octets beyond ASCII. -/
def negates (options : Options) (negated : Bool) : Bool :=
  options.characters || !negated

/-- The names of classes of ASCII characters. -/
def asciiNames : List String :=
  ["alnum", "alpha", "ascii", "blank", "cntrl", "digit", "graph", "lower", "print", "punct",
   "space", "upper", "word", "xdigit"]

/-- Reads a class of ASCII characters after its opening bracket: a name between colons, which a
caret before it negates. Says whether the class is negated. -/
def ascii? : List Char → Option (Bool × List Char)
  | ':' :: text =>
    let negated := decide (text.head? = some '^')
    let text := if negated then text.tail else text
    match text.dropWhile (· != ':') with
    | ':' :: ']' :: rest =>
      if asciiNames.contains (String.ofList (text.takeWhile (· != ':'))) then some (negated, rest)
      else none
    | _ => none
  | _ => none

/-- The character after a dash that decides whether the dash makes a range. Blanks do not count
where they are passed over, nor does a hash, but what follows the hash does. -/
def afterDash? (options : Options) (text : List Char) : Option Char :=
  if options.spaced then
    let rest := text.dropWhile Text.isBlank
    let rest := if rest.head? = some '#' then rest.tail.dropWhile Text.isBlank else rest
    rest.head?.or text.head?
  else text.head?

/-- Reads a character, a range of characters or a named class. A dash makes no range before a
closing bracket or another dash. -/
def member? (options : Options) (text : List Char) : Option (List Char) := do
  let (first, rest) ← Atom.read? options text
  if !first.isMember options then none
  else match options.next rest with
    | [] => none
    | c :: after =>
      let follower := afterDash? options after
      if c != '-' || follower == some ']' || follower == some '-' then return c :: after
      else
        let (last, rest) ← Atom.read? options (options.next after)
        match first, last with
        | .character low _, .character high _ =>
          if low ≤ high && last.isMember options then return rest else none
        | _, _ => none

/-- A class that is being read. -/
structure Draft where
  /-- How deep the members since the last operation nest. -/
  members : List Nat
  /-- How deep what stands before the last operation nests. -/
  before : Option Nat
  /-- Whether only dashes are read yet. -/
  isFresh : Bool
  deriving DecidableEq, Repr

namespace Draft

/-- A class without members. -/
def empty : Draft :=
  ⟨[], none, true⟩

/-- The class with a further member. -/
def push (draft : Draft) (depth : Nat) : Draft :=
  { draft with members := depth :: draft.members, isFresh := false }

/-- How deep the class nests. Several members nest once more than the deepest, and so does an
operation. -/
def depth (draft : Draft) : Nat :=
  let members := draft.members.foldl max 0 + if 1 < draft.members.length then 1 else 0
  match draft.before with
  | none => members
  | some before => max before members + 1

/-- The class before an operation. -/
def operate (draft : Draft) : Draft :=
  ⟨[], some draft.depth, false⟩

end Draft

/-- Passes over the caret of a negated class after its opening bracket. -/
def open? (options : Options) (text : List Char) : Option (List Char) :=
  let text := options.next text
  let negated := decide (text.head? = some '^')
  if negates options negated then some (if negated then text.tail else text) else none

/-- Reads a class from a place on, inside others. At its start a class can have dashes as members,
or a closing bracket. The steps bound the reading; one is taken for each character at most. -/
def readFrom? (options : Options) :
    Nat → List Draft → Draft → List Char → Option (Nat × List Char)
  | 0, _, _, _ => none
  | steps + 1, outer, draft, text =>
    match options.next text with
    | [] => none
    | c :: rest =>
      if draft.isFresh && (c == '-' || (c == ']' && draft.members.isEmpty)) then
        if (Atom.character c false).isMember options then
          readFrom? options steps outer { draft.push 0 with isFresh := c == '-' } rest
        else none
      else if c = '[' then
        match ascii? rest with
        | some (negated, rest) =>
          if !(options.characters && options.caseless) && negates options negated then
            readFrom? options steps outer (draft.push 0) rest
          else none
        | none => do
          let inside ← open? options rest
          readFrom? options steps (draft :: outer) .empty inside
      else if c = ']' then
        match outer with
        | [] => some (draft.depth + 1, rest)
        | around :: outer => readFrom? options steps outer (around.push (draft.depth + 1)) rest
      else if (c == '&' || c == '-' || c == '~') && rest.head? == some c then
        readFrom? options steps outer draft.operate rest.tail
      else do
        let rest ← member? options (c :: rest)
        readFrom? options steps outer (draft.push 0) rest

/-- Reads a class after its opening bracket: how deep it nests, and the text after it. -/
def read? (options : Options) (text : List Char) : Option (Nat × List Char) := do
  let inside ← open? options text
  readFrom? options (inside.length + 1) [] .empty inside

end Class

end ThemeSetup.Log.Pattern
