import ThemeSetup.Proofs.Text.Utf8

/-!
# Reading loses nothing

The pieces of an octet string, written one after the other, are that octet string
(`Utf8.flatMap_octets_pieces`): a character that is read stands for the octets that it was read
from, since a first octet and octets that continue it are the UTF-8 form of their character
(`Utf8.encodeChar_character`). So an octet string is read as a text exactly if it is the UTF-8 form
of that text (`Utf8.decode_eq_ok_iff`, `Utf8.ofString_of_decode?`).
-/

namespace ThemeSetup.Utf8

/-! ## Writing the character of a form -/

/-- The number of the character of a number that stands for one. -/
theorem toNat_charOfNat {n : Nat} (h : n.isValidChar) : (Char.ofNat n).toNat = n := by
  rw [Char.ofNat, dif_pos h]
  rfl

/-- The octet of the number of an octet is that octet. -/
theorem ofNat_eq {n : Nat} (octet : UInt8) (h : n = octet.toNat) : UInt8.ofNat n = octet := by
  rw [h, UInt8.ofNat_toNat]

/-- Octets that continue a character start with one in the first range. -/
theorem Continues.uncons {range : Range} {later : List Range} {tail : Bytes}
    (h : Continues (range :: later) tail) :
    ∃ octet rest, tail = octet :: rest ∧
      (range.1.toNat ≤ octet.toNat ∧ octet.toNat ≤ range.2.toNat) ∧ Continues later rest := by
  cases h with
  | cons hoctet h => exact ⟨_, _, rfl, contains_iff.1 hoctet, h⟩

/-- An ASCII octet is written as it was read. -/
theorem encodeChar_one {a : UInt8} (ha : a.toNat < 0x80) :
    String.utf8EncodeChar (character [a]) = [a] := by
  have hcode : (character [a]).val.toNat = a.toNat := by
    rw [character, List.foldl_nil, leadingBits_eq, if_pos ha]
    exact toNat_charOfNat (.inl (by omega))
  rw [String.utf8EncodeChar, hcode, if_pos (by omega), ofNat_eq a rfl]

/-- A character of two octets is written as it was read. -/
theorem encodeChar_two {a b : UInt8} (ha : 0xC2 ≤ a.toNat ∧ a.toNat < 0xE0)
    (hb : 0x80 ≤ b.toNat ∧ b.toNat ≤ 0xBF) :
    String.utf8EncodeChar (character [a, b]) = [a, b] := by
  have hcode : (character [a, b]).val.toNat = a.toNat % 32 * 64 + b.toNat % 64 := by
    simp only [character, List.foldl_cons, List.foldl_nil]
    rw [leadingBits_eq, if_neg (by omega), if_pos ha.2]
    exact toNat_charOfNat (.inl (by omega))
  rw [String.utf8EncodeChar, hcode, if_neg (by omega), if_pos (by omega),
    ofNat_eq a (by omega), ofNat_eq b (by omega)]

/-- A character of three octets is written as it was read, since overlong forms and surrogates are
none. -/
theorem encodeChar_three {a b c : UInt8} (ha : 0xE0 ≤ a.toNat ∧ a.toNat < 0xF0)
    (hb : 0x80 ≤ b.toNat ∧ b.toNat ≤ 0xBF) (hc : 0x80 ≤ c.toNat ∧ c.toNat ≤ 0xBF)
    (hlong : a.toNat = 0xE0 → 0xA0 ≤ b.toNat) (hsurrogate : a.toNat = 0xED → b.toNat ≤ 0x9F) :
    String.utf8EncodeChar (character [a, b, c]) = [a, b, c] := by
  have hcode : (character [a, b, c]).val.toNat =
      (a.toNat % 16 * 64 + b.toNat % 64) * 64 + c.toNat % 64 := by
    simp only [character, List.foldl_cons, List.foldl_nil]
    rw [leadingBits_eq, if_neg (by omega), if_neg (by omega), if_pos ha.2]
    refine toNat_charOfNat ?_
    rw [Nat.isValidChar]
    omega
  rw [String.utf8EncodeChar, hcode, if_neg (by omega), if_neg (by omega), if_pos (by omega),
    ofNat_eq a (by omega), ofNat_eq b (by omega),
    ofNat_eq c (by omega)]

/-- A character of four octets is written as it was read, since overlong forms and numbers that are
too great are none. -/
theorem encodeChar_four {a b c d : UInt8} (ha : 0xF0 ≤ a.toNat ∧ a.toNat ≤ 0xF4)
    (hb : 0x80 ≤ b.toNat ∧ b.toNat ≤ 0xBF) (hc : 0x80 ≤ c.toNat ∧ c.toNat ≤ 0xBF)
    (hd : 0x80 ≤ d.toNat ∧ d.toNat ≤ 0xBF) (hlong : a.toNat = 0xF0 → 0x90 ≤ b.toNat)
    (hgreat : a.toNat = 0xF4 → b.toNat ≤ 0x8F) :
    String.utf8EncodeChar (character [a, b, c, d]) = [a, b, c, d] := by
  have hcode : (character [a, b, c, d]).val.toNat =
      ((a.toNat % 8 * 64 + b.toNat % 64) * 64 + c.toNat % 64) * 64 + d.toNat % 64 := by
    simp only [character, List.foldl_cons, List.foldl_nil]
    rw [leadingBits_eq, if_neg (by omega), if_neg (by omega), if_neg (by omega)]
    refine toNat_charOfNat ?_
    rw [Nat.isValidChar]
    omega
  rw [String.utf8EncodeChar, hcode, if_neg (by omega), if_neg (by omega), if_neg (by omega),
    ofNat_eq a (by omega), ofNat_eq b (by omega),
    ofNat_eq c (by omega), ofNat_eq d (by omega)]

/-- A first octet and octets that continue it are the UTF-8 form of their character. -/
theorem encodeChar_character {first : UInt8} {tail : Bytes} {ranges : List Range}
    (hfirst : followers first = some ranges) (h : Continues ranges tail) :
    String.utf8EncodeChar (character (first :: tail)) = first :: tail := by
  have hthree : ∀ {range : Range} {tail : Bytes}, Continues [range, continuation] tail →
      0xE0 ≤ first.toNat ∧ first.toNat < 0xF0 →
      0x80 ≤ range.1.toNat ∧ range.2.toNat ≤ 0xBF →
      (first.toNat = 0xE0 → 0xA0 ≤ range.1.toNat) →
      (first.toNat = 0xED → range.2.toNat ≤ 0x9F) →
      String.utf8EncodeChar (character (first :: tail)) = first :: tail := by
    intro range tail h hfirst hrange hlong hsurrogate
    obtain ⟨b, _, rfl, hb, h⟩ := h.uncons
    obtain ⟨c, _, rfl, hc, ⟨⟩⟩ := h.uncons
    exact encodeChar_three hfirst (by omega) hc (by omega) (by omega)
  have hfour : ∀ {range : Range} {tail : Bytes},
      Continues [range, continuation, continuation] tail →
      0xF0 ≤ first.toNat ∧ first.toNat ≤ 0xF4 →
      0x80 ≤ range.1.toNat ∧ range.2.toNat ≤ 0xBF →
      (first.toNat = 0xF0 → 0x90 ≤ range.1.toNat) →
      (first.toNat = 0xF4 → range.2.toNat ≤ 0x8F) →
      String.utf8EncodeChar (character (first :: tail)) = first :: tail := by
    intro range tail h hfirst hrange hlong hgreat
    obtain ⟨b, _, rfl, hb, h⟩ := h.uncons
    obtain ⟨c, _, rfl, hc, h⟩ := h.uncons
    obtain ⟨d, _, rfl, hd, ⟨⟩⟩ := h.uncons
    exact encodeChar_four hfirst (by omega) hc hd (by omega) (by omega)
  rw [followers_eq] at hfirst
  repeat' split at hfirst
  all_goals cases hfirst
  · cases h
    exact encodeChar_one (by assumption)
  · obtain ⟨b, _, rfl, hb, ⟨⟩⟩ := h.uncons
    exact encodeChar_two (by omega) hb
  · exact hthree h (by omega) (by decide) (fun _ => by decide) (by omega)
  · exact hthree h (by omega) (by decide) (by omega) (fun _ => by decide)
  · exact hthree h (by omega) (by decide) (by omega) (by omega)
  · exact hfour h (by omega) (by decide) (fun _ => by decide) (by omega)
  · exact hfour h (by omega) (by decide) (by omega) (by omega)
  · exact hfour h (by omega) (by decide) (by omega) (fun _ => by decide)

/-! ## Writing what was read -/

/-- The octets that a piece was read from. -/
def Piece.octets : Piece → Bytes
  | .char c => String.utf8EncodeChar c
  | .invalid octets | .truncated octets => octets

/-- More octets continue a character if the next one lies in the next range. -/
theorem Continues.snoc {ranges : List Range} {tail : Bytes} (h : Continues ranges tail)
    {range : Range} {octet : UInt8} (hoctet : range.contains octet = true) :
    Continues (ranges ++ [range]) (tail ++ [octet]) := by
  induction h with
  | nil => exact .cons hoctet .nil
  | cons hfirst _ ih => exact .cons hfirst ih

/-- What is under way is the start of a character, if it is anything: a first octet and octets that
continue it, with the ranges that the first octet asks for still to come. -/
inductive Pending.Formed : Pending → Prop
  | idle : Formed .idle
  | begun {first : UInt8} {tail : Bytes} {past expected : List Range} :
      followers first = some (past ++ expected) → Continues past tail → expected ≠ [] →
      Formed ⟨first :: tail, expected⟩

/-- An octet that starts a piece goes into it or is under way. -/
theorem start_octets (octet : UInt8) :
    (start octet).1.flatMap Piece.octets ++ (start octet).2.seen = [octet] ∧
      (start octet).2.Formed := by
  unfold start
  split
  · exact ⟨rfl, .idle⟩
  · next hfollowers =>
    exact ⟨by simp [Piece.octets, encodeChar_character hfollowers .nil, Pending.idle], .idle⟩
  · next expected hne hfollowers =>
    have hall : followers octet = some ([] ++ expected) := hfollowers
    exact ⟨rfl, .begun hall .nil fun h => hne (h ▸ rfl)⟩

/-- An octet goes into the pieces that end with it, or is under way after it. -/
theorem step_octets {pending : Pending} (h : pending.Formed) (octet : UInt8) :
    (step pending octet).1.flatMap Piece.octets ++ (step pending octet).2.seen =
        pending.seen ++ [octet] ∧ (step pending octet).2.Formed := by
  cases h with
  | idle => exact start_octets octet
  | @begun first tail past expected hfirst hpast hne =>
    cases expected with
    | nil => exact absurd rfl hne
    | cons range later =>
      cases hoctet : range.contains octet with
      | false =>
        obtain ⟨hstart, hformed⟩ := start_octets octet
        have hstep : step ⟨first :: tail, range :: later⟩ octet =
            (.invalid (first :: tail) :: (start octet).1, (start octet).2) := by
          simp [step, hoctet]
        rw [hstep, List.flatMap_cons, List.append_assoc, hstart]
        exact ⟨rfl, hformed⟩
      | true =>
        have htail := hpast.snoc hoctet
        cases later with
        | nil =>
          have hstep : step ⟨first :: tail, [range]⟩ octet =
              ([.char (character (first :: (tail ++ [octet])))], .idle) := by
            simp [step, hoctet]
          rw [hstep, List.flatMap_singleton, Piece.octets, encodeChar_character hfirst htail]
          exact ⟨List.append_nil _, .idle⟩
        | cons next rest =>
          have hstep : step ⟨first :: tail, range :: next :: rest⟩ octet =
              ([], ⟨first :: (tail ++ [octet]), next :: rest⟩) := by
            simp [step, hoctet]
          rw [hstep]
          have hranges : followers first = some (past ++ [range] ++ next :: rest) := by
            rw [hfirst, List.append_assoc]
            rfl
          exact ⟨rfl, .begun hranges htail (List.cons_ne_nil _ _)⟩

/-- What is under way and the octets after it are the octets of the pieces that they become. -/
theorem flatMap_octets_piecesFrom {pending : Pending} (h : pending.Formed) (octets : Bytes) :
    (piecesFrom pending octets).flatMap Piece.octets = pending.seen ++ octets := by
  induction octets generalizing pending with
  | nil =>
    rw [piecesFrom, List.append_nil]
    cases hseen : pending.seen with
    | nil => rfl
    | cons first rest => exact List.append_nil _
  | cons octet rest ih =>
    obtain ⟨hstep, hformed⟩ := step_octets h octet
    rw [piecesFrom_cons, List.flatMap_append, ih hformed, ← List.append_assoc, hstep,
      List.append_assoc]
    rfl

/-- The pieces of an octet string, one after the other, are the octet string. -/
theorem flatMap_octets_pieces (octets : Bytes) :
    (pieces octets).flatMap Piece.octets = octets :=
  flatMap_octets_piecesFrom .idle octets

/-- Pieces that are a text have the UTF-8 form of the text as their octets. -/
theorem flatMap_octets_of_textOf {index : Nat} {pieces : List Piece} {text : List Char}
    (h : textOf index pieces = .ok text) : pieces.flatMap Piece.octets = Bytes.ofChars text := by
  induction pieces generalizing index text with
  | nil =>
    cases h
    rfl
  | cons piece rest ih =>
    cases piece with
    | invalid octets => cases h
    | truncated octets => cases h
    | char c =>
      rw [textOf] at h
      cases hrest : textOf (index + c.utf8Size) rest with
      | error fault =>
        rw [hrest] at h
        cases h
      | ok others =>
        rw [hrest] at h
        cases h
        rw [List.flatMap_cons, ih hrest]
        rfl

/-- An octet string is read as a text exactly if it is the UTF-8 form of the text. -/
theorem decode_eq_ok_iff {octets : Bytes} {text : List Char} :
    decode octets = .ok text ↔ octets = Bytes.ofChars text := by
  constructor
  · intro h
    rw [← flatMap_octets_of_textOf h, flatMap_octets_pieces]
  · rintro rfl
    exact decode_ofChars text

/-- The text of an octet string that is UTF-8 is written as these octets. -/
theorem ofString_of_decode? {octets : Bytes} {text : String} (h : decode? octets = some text) :
    Bytes.ofString text = octets := by
  unfold decode? at h
  cases hdecode : decode octets with
  | error fault =>
    rw [hdecode] at h
    cases h
  | ok chars =>
    rw [hdecode] at h
    cases h
    rw [Bytes.ofString, String.toList_ofList, ← decode_eq_ok_iff.1 hdecode]

end ThemeSetup.Utf8
