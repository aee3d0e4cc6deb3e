import ThemeSetup.Log.Pattern.Class
import ThemeSetup.Text.Letter

/-!
# Patterns

A pattern is a regular expression. It has branches between bars; a branch has parts one after
another: characters, classes, positions, groups in round brackets and repetitions of those. At the
start of a group, or in a group of their own, letters change how the pattern is read up to the end
of the group.

`Pattern.depth?` says which texts are patterns that can be searched for and how deep they nest, and
`Pattern.isPattern` bounds the depth. Counted repetitions are between braces, but a closing brace
ends the field that the pattern is asked of; so an opening brace is refused unless it stands for
itself.
-/

namespace ThemeSetup.Log.Pattern

/-- The greatest depth to which a pattern may nest. -/
def depthLimit : Nat := 250

/-- A part of a branch. -/
structure Part where
  depth : Nat
  /-- Whether a repetition of it can be asked for. -/
  isRepeatable : Bool
  deriving DecidableEq, Repr

/-- How deep a branch nests. Several parts nest once more than the deepest. -/
def branchDepth (parts : List Part) : Nat :=
  (parts.map Part.depth).foldl max 0 + if 1 < parts.length then 1 else 0

/-- How deep branches nest. Several branches nest once more than the deepest. -/
def branchesDepth (branches : List Nat) : Nat :=
  branches.foldl max 0 + if 1 < branches.length then 1 else 0

/-- What is read of a group, or of the whole pattern. -/
structure Group where
  options : Options
  /-- The parts of the last branch, the last one first. -/
  parts : List Part
  /-- How deep the branches before the last one nest. -/
  branches : List Nat
  deriving DecidableEq, Repr

namespace Group

/-- A group of which nothing is read. -/
def start (options : Options) : Group :=
  ⟨options, [], []⟩

/-- The group with a further part. -/
def push (group : Group) (depth : Nat) : Group :=
  { group with parts := ⟨depth, true⟩ :: group.parts }

/-- How deep the group nests inside its brackets. -/
def depth (group : Group) : Nat :=
  branchesDepth (branchDepth group.parts :: group.branches)

/-- The group with a repetition of its last part. -/
def repeat? (group : Group) : Option Group :=
  match group.parts with
  | ⟨depth, true⟩ :: parts => some { group with parts := ⟨depth + 1, true⟩ :: parts }
  | _ => none

end Group

/-- What is read of a pattern. -/
structure Draft where
  /-- The group that is being read. -/
  group : Group
  /-- The groups around it, from the inside out. -/
  outer : List Group
  /-- The names of groups. -/
  names : List (List Char)
  deriving DecidableEq, Repr

namespace Draft

/-- The pattern with a further part of the group that is being read. -/
def push (draft : Draft) (depth : Nat) : Draft :=
  { draft with group := draft.group.push depth }

/-- Starts a group, which is read in its own way. -/
def enter (draft : Draft) (options : Options) : Draft :=
  { draft with group := .start options, outer := draft.group :: draft.outer }

/-- Ends the group that is being read. -/
def leave? (draft : Draft) : Option Draft :=
  match draft.outer with
  | [] => none
  | around :: outer =>
    some { draft with group := around.push (draft.group.depth + 1), outer := outer }

end Draft

/-- Whether a name can be the name of a group. -/
def isGroupName : List Char → Bool
  | [] => false
  | c :: rest =>
    (c == '_' || Text.isLetter c) &&
    rest.all fun c => c == '_' || c == '.' || c == '[' || c == ']' || Text.isAlphanumeric c

/-- Starts a group that has a name, which ends in a closing angle bracket. -/
def named? (draft : Draft) (text : List Char) : Option (Draft × List Char) :=
  let name := text.takeWhile (· != '>')
  match text.dropWhile (· != '>') with
  | [] => none
  | _ :: rest =>
    if isGroupName name && !draft.names.contains name then
      some ({ draft.enter draft.group.options with names := name :: draft.names }, rest)
    else none

/-- The options after a letter that sets or clears one of them. Letters that change what a pattern
matches, but not which texts are patterns, leave them as they are. -/
def set? (options : Options) (value : Bool) (letter : Char) : Option Options :=
  match letter with
  | 'i' => some { options with caseless := value }
  | 'u' => some { options with characters := value }
  | 'x' => some { options with spaced := value }
  | 'm' | 's' | 'U' | 'R' => some options
  | _ => none

/-- Reads letters that set options, and after a dash letters that clear them, up to a colon or a
closing bracket. Each comes once, and the dash is not the last. -/
def letters? (options : Options) (seen : List Char) :
    List Char → Option (Options × List Char × List Char)
  | [] => none
  | c :: rest =>
    if c = ':' ∨ c = ')' then
      if seen.head? = some '-' then none else some (options, seen, c :: rest)
    else if seen.contains c then none
    else if c = '-' then letters? options (c :: seen) rest
    else do
      let options ← set? options (!seen.contains '-') c
      letters? options (c :: seen) rest

/-- Reads the start of a group, or a group of letters alone. -/
def bracket? (draft : Draft) (text : List Char) : Option (Draft × List Char) :=
  match draft.group.options.next text with
  | '?' :: 'P' :: '<' :: rest => named? draft rest
  | '?' :: '<' :: rest => named? draft rest
  | '?' :: rest => do
    let (options, seen, rest) ← letters? draft.group.options [] rest
    match rest with
    | ':' :: rest => return (draft.enter options, rest)
    | _ :: rest =>
      if seen.isEmpty then none
      else
        let group :=
          { draft.group with options := options, parts := ⟨0, false⟩ :: draft.group.parts }
        return ({ draft with group := group }, rest)
    | [] => none
  | text => some (draft.enter draft.group.options, text)

/-- Reads the part of a pattern that starts with a character. -/
def part? (draft : Draft) (c : Char) (rest : List Char) : Option (Draft × List Char) :=
  let options := draft.group.options
  match c with
  | '(' => bracket? draft rest
  | ')' => draft.leave?.map (·, rest)
  | '|' =>
    let branches := branchDepth draft.group.parts :: draft.group.branches
    some ({ draft with group := ⟨options, [], branches⟩ }, rest)
  | '[' => do
    let (depth, rest) ← Class.read? options rest
    return (draft.push depth, rest)
  | '?' | '*' | '+' => do
    let group ← draft.group.repeat?
    return ({ draft with group := group }, if rest.head? = some '?' then rest.tail else rest)
  | '\x7b' => none
  | '.' => if options.characters then some (draft.push 0, rest) else none
  | '^' | '$' => some (draft.push 0, rest)
  | _ => do
    let (atom, rest) ← Atom.read? options (c :: rest)
    if atom.isAllowed options then some (draft.push 0, rest) else none

/-- Reads a pattern from a place on. The steps bound the reading; one is taken for each character at
most. -/
def readFrom? : Nat → Draft → List Char → Option Nat
  | 0, _, _ => none
  | steps + 1, draft, text =>
    match draft.group.options.next text with
    | [] => if draft.outer.isEmpty then some draft.group.depth else none
    | c :: rest => do
      let (draft, rest) ← part? draft c rest
      readFrom? steps draft rest

/-- How deep a pattern nests, if the text is a pattern that can be searched for. -/
def depth? (text : List Char) : Option Nat :=
  readFrom? (text.length + 1) ⟨.start .standard, [], []⟩ text

/-- Whether a text is a pattern. -/
def isPattern (text : List Char) : Bool :=
  (depth? text).any (decide <| · ≤ depthLimit)

end ThemeSetup.Log.Pattern
