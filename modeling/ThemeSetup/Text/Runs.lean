/-!
# Sets of code points as runs

A property of characters that has many ranges is written as the lengths of its runs: how many code
points from the start are outside the set, how many after them inside, how many outside, and so
on. `Runs.contains` reads such a list.
-/

namespace ThemeSetup.Text

/-- Lengths of the runs of code points outside and inside a set, in turn, from zero on. -/
abbrev Runs := List Nat

namespace Runs

/-- Whether a code point is in the set; past the last run nothing is. -/
def contains : Runs → Nat → Bool
  | outside :: inside :: rest, code =>
    if code < outside then false
    else if code < outside + inside then true
    else contains rest (code - outside - inside)
  | _, _ => false

end Runs

end ThemeSetup.Text
