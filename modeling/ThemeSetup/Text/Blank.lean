/-!
# Blank characters

The characters with the Unicode property White_Space, and the trimming of text by a class of
characters. `Text.trimEnd` and `Text.trim` work on lists of characters; their laws
(`trimEnd_append_takeWhile`, `getLast_trimEnd`) say that a run of the class is lost and no member
of it is left at the end.
-/

namespace ThemeSetup.Text

/-- The code points with the Unicode property White_Space, as closed intervals in order. -/
def blankRanges : List (Nat × Nat) :=
  [(0x09, 0x0D), (0x20, 0x20), (0x85, 0x85), (0xA0, 0xA0), (0x1680, 0x1680), (0x2000, 0x200A),
   (0x2028, 0x2029), (0x202F, 0x202F), (0x205F, 0x205F), (0x3000, 0x3000)]

/-- Whether a character is white space. -/
def isBlank (c : Char) : Bool :=
  blankRanges.any fun range => decide (range.1 ≤ c.toNat) && decide (c.toNat ≤ range.2)

/-- The text without the characters of a class at its end. -/
def trimEnd (p : Char → Bool) (text : List Char) : List Char :=
  (text.reverse.dropWhile p).reverse

/-- The text without the characters of a class at its start and its end. -/
def trim (p : Char → Bool) (text : List Char) : List Char :=
  trimEnd p (text.dropWhile p)

/-- Only a run of the class is lost at the end. -/
theorem trimEnd_append_takeWhile (p : Char → Bool) (text : List Char) :
    trimEnd p text ++ (text.reverse.takeWhile p).reverse = text := by
  rw [trimEnd, ← List.reverse_append, List.takeWhile_append_dropWhile, List.reverse_reverse]

/-- Trimming takes away a tail whose characters are all in the class. -/
theorem trimEnd_append_of_all {p : Char → Bool} (text : List Char) {tail : List Char}
    (h : ∀ c ∈ tail, p c = true) : trimEnd p (text ++ tail) = trimEnd p text := by
  have hall : ∀ c ∈ tail.reverse, p c = true := fun c hc => h c (by simpa using hc)
  simp [trimEnd, List.dropWhile_append_of_pos hall]

/-- Trimmed text does not end in a character of the class. -/
theorem getLast_trimEnd {p : Char → Bool} {text : List Char} (h : trimEnd p text ≠ []) :
    p ((trimEnd p text).getLast h) = false := by
  have hne : text.reverse.dropWhile p ≠ [] := by simpa [trimEnd] using h
  simpa [trimEnd, List.getLast_reverse] using List.head_dropWhile_not p hne

end ThemeSetup.Text
