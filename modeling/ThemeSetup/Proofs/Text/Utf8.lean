import ThemeSetup.Text.Utf8

/-!
# What is UTF-8

The UTF-8 form of a text is read back as that text (`Utf8.decode_ofChars`), since every character is
written as a first octet and octets that continue it (`Utf8.encodeChar_form`). An octet below 0x80
never continues a character, so whatever comes before it is read as it is read alone, but for a
character that is cut off (`Utf8.piecesFrom_append`). So an octet string with ASCII text behind it
is UTF-8 exactly if it is UTF-8 itself (`Utf8.isSome_decode?_append`).
-/

namespace ThemeSetup.Utf8

/-! ## Reading what was written -/

/-- Octets that continue a character: one in each range that is expected. -/
inductive Continues : List Range → Bytes → Prop
  | nil : Continues [] []
  | cons {range : Range} {octet : UInt8} {later : List Range} {tail : Bytes} :
      range.contains octet = true → Continues later tail →
      Continues (range :: later) (octet :: tail)

/-- Octets that are expected complete a character. -/
theorem piecesFrom_expected (rest : Bytes) {range : Range} {octet : UInt8} {later : List Range}
    {tail : Bytes} (hin : range.contains octet = true) (h : Continues later tail) (seen : Bytes) :
    piecesFrom ⟨seen, range :: later⟩ (octet :: tail ++ rest) =
      .char (character (seen ++ octet :: tail)) :: piecesFrom .idle rest := by
  induction h generalizing range octet seen with
  | nil => simp [piecesFrom, step, hin]
  | @cons range' octet' later tail hin' _ ih =>
    have hstep : step ⟨seen, range :: range' :: later⟩ octet =
        ([], ⟨seen ++ [octet], range' :: later⟩) := by simp [step, hin]
    rw [List.cons_append, piecesFrom, hstep]
    simpa using ih hin' (seen ++ [octet])

/-- A first octet and octets that continue it are read as a character. -/
theorem piecesFrom_form (rest : Bytes) {first : UInt8} {ranges : List Range} {tail : Bytes}
    (hfirst : followers first = some ranges) (h : Continues ranges tail) :
    piecesFrom .idle (first :: tail ++ rest) =
      .char (character (first :: tail)) :: piecesFrom .idle rest := by
  cases h with
  | nil => simp [piecesFrom, step, start, hfirst, Pending.idle]
  | @cons range octet later tail hin h =>
    have hstep : step .idle first = ([], ⟨[first], range :: later⟩) := by
      simp [step, start, hfirst, Pending.idle]
    rw [List.cons_append, piecesFrom, hstep]
    exact piecesFrom_expected rest hin h [first]

/-- An octet lies in a range if its number does. -/
theorem contains_iff {range : Range} {octet : UInt8} : range.contains octet = true ↔
    range.1.toNat ≤ octet.toNat ∧ octet.toNat ≤ range.2.toNat := by
  simp [Range.contains, UInt8.le_iff_toNat_le]

/-- The octet of a number below 256 has that number. -/
theorem toNat_ofNat {n : Nat} (h : n < 256) : (UInt8.ofNat n).toNat = n := by
  simp [Nat.mod_eq_of_lt h]

/-- What follows a first octet depends on its number. -/
theorem followers_eq (first : UInt8) : followers first =
    if first.toNat < 0x80 then some []
    else if first.toNat < 0xC2 then none
    else if first.toNat < 0xE0 then some [continuation]
    else if first.toNat = 0xE0 then some [(0xA0, 0xBF), continuation]
    else if first.toNat = 0xED then some [(0x80, 0x9F), continuation]
    else if first.toNat < 0xF0 then some [continuation, continuation]
    else if first.toNat = 0xF0 then some [(0x90, 0xBF), continuation, continuation]
    else if first.toNat < 0xF4 then some [continuation, continuation, continuation]
    else if first.toNat = 0xF4 then some [(0x80, 0x8F), continuation, continuation]
    else none := by
  simp only [followers, UInt8.lt_iff_toNat_lt, ← UInt8.toNat_inj]
  rfl

/-- The bits that a first octet holds depend on its number. -/
theorem leadingBits_eq (first : UInt8) : leadingBits first =
    if first.toNat < 0x80 then first.toNat
    else if first.toNat < 0xE0 then first.toNat % 32
    else if first.toNat < 0xF0 then first.toNat % 16
    else first.toNat % 8 := by
  simp only [leadingBits, UInt8.lt_iff_toNat_lt]
  rfl

/-- An octet that continues any character lies in its range. -/
theorem continuation_contains {n : Nat} (h : n < 64) :
    continuation.contains (UInt8.ofNat (n + 128)) = true := by
  rw [contains_iff, toNat_ofNat (by omega)]
  exact ⟨Nat.le_add_left _ _, Nat.le_of_lt_succ (Nat.add_lt_add_right h 128)⟩

/-- The bits that an octet which continues a character holds. -/
theorem toNat_continuation_mod {n : Nat} (h : n < 64) :
    (UInt8.ofNat (n + 128)).toNat % 64 = n := by
  rw [toNat_ofNat (by omega)]
  omega

/-- The second of three octets lies in the range that the first one asks for: overlong forms and
surrogates are no characters. -/
theorem followers_three {n : Nat} (hlow : 0x7FF < n) (hhigh : n ≤ 0xFFFF)
    (hvalid : n < 0xD800 ∨ 0xDFFF < n) :
    ∃ range, followers (UInt8.ofNat (n / 4096 % 16 + 224)) = some [range, continuation] ∧
      range.contains (UInt8.ofNat (n / 64 % 64 + 128)) = true := by
  rw [followers_eq, toNat_ofNat (by omega), if_neg (by omega), if_neg (by omega),
    if_neg (by omega)]
  by_cases hfirst : n / 4096 % 16 + 224 = 0xE0
  · refine ⟨_, by rw [if_pos hfirst], contains_iff.2 ?_⟩
    rw [toNat_ofNat (by omega)]
    show 0xA0 ≤ _ ∧ _ ≤ 0xBF
    omega
  by_cases hsurrogate : n / 4096 % 16 + 224 = 0xED
  · refine ⟨_, by rw [if_neg hfirst, if_pos hsurrogate], contains_iff.2 ?_⟩
    rw [toNat_ofNat (by omega)]
    show 0x80 ≤ _ ∧ _ ≤ 0x9F
    omega
  · exact ⟨_, by rw [if_neg hfirst, if_neg hsurrogate, if_pos (by omega)],
      continuation_contains (by omega)⟩

/-- The second of four octets lies in the range that the first one asks for: overlong forms and
numbers that are too great are no characters. -/
theorem followers_four {n : Nat} (hlow : 0xFFFF < n) (hhigh : n < 0x110000) :
    ∃ range, followers (UInt8.ofNat (n / 262144 % 8 + 240)) =
        some [range, continuation, continuation] ∧
      range.contains (UInt8.ofNat (n / 4096 % 64 + 128)) = true := by
  rw [followers_eq, toNat_ofNat (by omega), if_neg (by omega), if_neg (by omega),
    if_neg (by omega), if_neg (by omega), if_neg (by omega), if_neg (by omega)]
  by_cases hfirst : n / 262144 % 8 + 240 = 0xF0
  · refine ⟨_, by rw [if_pos hfirst], contains_iff.2 ?_⟩
    rw [toNat_ofNat (by omega)]
    show 0x90 ≤ _ ∧ _ ≤ 0xBF
    omega
  by_cases hlast : n / 262144 % 8 + 240 = 0xF4
  · refine ⟨_, by rw [if_neg hfirst, if_neg (by omega), if_pos hlast], contains_iff.2 ?_⟩
    rw [toNat_ofNat (by omega)]
    show 0x80 ≤ _ ∧ _ ≤ 0x8F
    omega
  · exact ⟨_, by rw [if_neg hfirst, if_pos (by omega)], continuation_contains (by omega)⟩

/-- The UTF-8 form of a character is a first octet and octets that continue it. -/
theorem encodeChar_form (c : Char) : ∃ (first : UInt8) (tail : Bytes) (ranges : List Range),
    String.utf8EncodeChar c = first :: tail ∧ followers first = some ranges ∧
      Continues ranges tail ∧ character (first :: tail) = c := by
  have hvalid : c.toNat < 0xD800 ∨ 0xDFFF < c.toNat ∧ c.toNat < 0x110000 := c.valid
  have hchar : c.val.toNat = c.toNat := rfl
  have hbits : ∀ n : Nat, n % 64 < 64 := fun n => Nat.mod_lt n (by decide)
  simp only [character, String.utf8EncodeChar, hchar]
  by_cases h1 : c.toNat ≤ 0x7F
  · refine ⟨_, [], [], by rw [if_pos h1], ?_, .nil, ?_⟩
    · rw [followers_eq, toNat_ofNat (by omega), if_pos (by omega)]
    · rw [List.foldl_nil, leadingBits_eq, toNat_ofNat (by omega), if_pos (by omega),
        Char.ofNat_toNat]
  by_cases h2 : c.toNat ≤ 0x7FF
  · refine ⟨_, _, [continuation], by rw [if_neg h1, if_pos h2], ?_,
      .cons (continuation_contains (hbits _)) .nil, ?_⟩
    · rw [followers_eq, toNat_ofNat (by omega), if_neg (by omega), if_neg (by omega),
        if_pos (by omega)]
    · simp only [List.foldl_cons, List.foldl_nil, toNat_continuation_mod (hbits _)]
      rw [leadingBits_eq, toNat_ofNat (by omega), if_neg (by omega), if_pos (by omega),
        show (c.toNat / 64 % 32 + 192) % 32 * 64 + c.toNat % 64 = c.toNat by omega,
        Char.ofNat_toNat]
  by_cases h3 : c.toNat ≤ 0xFFFF
  · obtain ⟨range, hfollowers, hin⟩ := followers_three (by omega) h3 (by omega)
    refine ⟨_, _, _, by rw [if_neg h1, if_neg h2, if_pos h3], hfollowers,
      .cons hin (.cons (continuation_contains (hbits _)) .nil), ?_⟩
    simp only [List.foldl_cons, List.foldl_nil, toNat_continuation_mod (hbits _)]
    rw [leadingBits_eq, toNat_ofNat (by omega), if_neg (by omega), if_neg (by omega),
      if_pos (by omega),
      show ((c.toNat / 4096 % 16 + 224) % 16 * 64 + c.toNat / 64 % 64) * 64 + c.toNat % 64 =
        c.toNat by omega,
      Char.ofNat_toNat]
  · obtain ⟨range, hfollowers, hin⟩ := followers_four (n := c.toNat) (by omega) (by omega)
    refine ⟨_, _, _, by rw [if_neg h1, if_neg h2, if_neg h3], hfollowers,
      .cons hin (.cons (continuation_contains (hbits _))
        (.cons (continuation_contains (hbits _)) .nil)), ?_⟩
    simp only [List.foldl_cons, List.foldl_nil, toNat_continuation_mod (hbits _)]
    rw [leadingBits_eq, toNat_ofNat (by omega), if_neg (by omega), if_neg (by omega),
      if_neg (by omega),
      show (((c.toNat / 262144 % 8 + 240) % 8 * 64 + c.toNat / 4096 % 64) * 64 +
        c.toNat / 64 % 64) * 64 + c.toNat % 64 = c.toNat by omega,
      Char.ofNat_toNat]

/-- The UTF-8 form of a text is read as its characters, and then what comes after it. -/
theorem pieces_ofChars (text : List Char) (rest : Bytes) :
    pieces (Bytes.ofChars text ++ rest) = text.map .char ++ pieces rest := by
  unfold pieces
  induction text with
  | nil => rfl
  | cons c text ih =>
    obtain ⟨first, tail, ranges, hform, hfirst, htail, hc⟩ := encodeChar_form c
    rw [show Bytes.ofChars (c :: text) = first :: tail ++ Bytes.ofChars text by
      rw [← hform]; rfl]
    rw [List.append_assoc, piecesFrom_form _ hfirst htail, hc, ih]
    rfl

/-- Pieces that are characters are a text. -/
theorem textOf_chars (index : Nat) (text : List Char) :
    textOf index (text.map .char) = .ok text := by
  induction text generalizing index with
  | nil => rfl
  | cons c text ih => simp [textOf, ih]

/-- The UTF-8 form of a text is read back as that text. -/
theorem decode_ofChars (text : List Char) : decode (Bytes.ofChars text) = .ok text := by
  have h := pieces_ofChars text []
  rw [List.append_nil, show pieces [] = [] from rfl, List.append_nil] at h
  rw [decode, h, textOf_chars]

/-- The UTF-8 form of a text is that text. -/
theorem decode?_ofString (text : String) : decode? (Bytes.ofString text) = some text := by
  rw [decode?, Bytes.ofString, decode_ofChars]
  exact congrArg some String.ofList_toList

/-- Pieces that are characters lead with them. -/
theorem leadingChars_append (text : List Char) (rest : List Piece) :
    leadingChars (text.map .char ++ rest) = text ++ leadingChars rest := by
  induction text with
  | nil => rfl
  | cons c text ih => exact congrArg (c :: ·) ih

/-- The characters that the UTF-8 form of a text leads with are that text, and then those of what
comes after it. -/
theorem splitText_ofChars (text : List Char) (rest : Bytes) :
    splitText (Bytes.ofChars text ++ rest) = (text ++ (splitText rest).1, (splitText rest).2) := by
  unfold splitText
  rw [pieces_ofChars, leadingChars_append]
  dsimp only
  rw [Bytes.ofChars_append, List.length_append, List.drop_length_add_append]

/-- Pieces that are a text are shown as that text. -/
theorem map_shown_of_textOf {index : Nat} {pieces : List Piece} {text : List Char}
    (h : textOf index pieces = .ok text) : pieces.map Piece.shown = text := by
  induction pieces generalizing index text with
  | nil =>
    cases h
    rfl
  | cons piece rest ih =>
    cases piece with
    | invalid octets => cases h
    | truncated octets => cases h
    | char c =>
      rw [textOf] at h
      cases hrest : textOf (index + c.utf8Size) rest with
      | error fault =>
        rw [hrest] at h
        cases h
      | ok others =>
        rw [hrest] at h
        cases h
        rw [List.map_cons, ih hrest, Piece.shown]

/-- An octet string that is UTF-8 is shown as its text. -/
theorem lossy_of_decode? {octets : Bytes} {text : String} (h : decode? octets = some text) :
    lossy octets = text := by
  unfold decode? at h
  cases hdecode : decode octets with
  | error fault =>
    rw [hdecode] at h
    cases h
  | ok chars =>
    rw [hdecode] at h
    cases h
    rw [lossy, map_shown_of_textOf hdecode]

/-! ## Text behind an octet string -/

/-- Whether a piece is a character. -/
def Piece.isChar : Piece → Bool
  | .char _ => true
  | .invalid _ | .truncated _ => false

/-- Pieces are a text exactly if all are characters. -/
theorem isOk_textOf (index : Nat) (pieces : List Piece) :
    (∃ text, textOf index pieces = .ok text) ↔ pieces.all Piece.isChar = true := by
  induction pieces generalizing index with
  | nil => exact iff_of_true ⟨[], rfl⟩ rfl
  | cons piece rest ih =>
    cases piece with
    | char c =>
      rw [List.all_cons, Piece.isChar, Bool.true_and, ← ih (index + c.utf8Size), textOf]
      cases textOf (index + c.utf8Size) rest with
      | ok text => exact iff_of_true ⟨_, rfl⟩ ⟨_, rfl⟩
      | error fault => exact iff_of_false nofun nofun
    | invalid octets => exact iff_of_false nofun nofun
    | truncated octets => exact iff_of_false nofun nofun

/-- An octet string is UTF-8 exactly if all its pieces are characters. -/
theorem isSome_decode?_iff {octets : Bytes} :
    (decode? octets).isSome = true ↔ (pieces octets).all Piece.isChar = true := by
  rw [← isOk_textOf 0, decode?, decode]
  cases textOf 0 (pieces octets) with
  | ok text => exact iff_of_true rfl ⟨text, rfl⟩
  | error fault => exact iff_of_false nofun nofun

/-- What can be under way: octets are seen exactly if more are expected, and what is expected is
beyond ASCII. -/
structure Pending.Sound (pending : Pending) : Prop where
  seen_iff : pending.seen = [] ↔ pending.expected = []
  beyond : ∀ range ∈ pending.expected, 0x80 ≤ range.1

/-- What follows a first octet is beyond ASCII. -/
theorem followers_beyond {first : UInt8} {ranges : List Range}
    (h : followers first = some ranges) : ∀ range ∈ ranges, 0x80 ≤ range.1 := by
  have hall : ranges.all (fun range => decide (0x80 ≤ range.1)) = true := by
    unfold followers at h
    repeat' split at h
    all_goals cases h
    all_goals rfl
  exact fun range hrange => of_decide_eq_true (List.all_eq_true.1 hall range hrange)

theorem Pending.Sound.idle : Pending.Sound .idle :=
  ⟨iff_of_true rfl rfl, nofun⟩

/-- An octet that starts a piece leaves what can be under way. -/
theorem Pending.Sound.start (octet : UInt8) : Pending.Sound (Utf8.start octet).2 := by
  unfold Utf8.start
  split
  · exact .idle
  · exact .idle
  · next expected hne hexpected =>
    exact ⟨iff_of_false nofun hne, followers_beyond hexpected⟩

/-- Reading an octet leaves what can be under way. -/
theorem Pending.Sound.step {pending : Pending} (h : pending.Sound) (octet : UInt8) :
    Pending.Sound (Utf8.step pending octet).2 := by
  unfold Utf8.step
  split
  · exact .start octet
  · next range later hexpected =>
    split
    · cases later with
      | nil => exact .idle
      | cons next rest =>
        refine ⟨iff_of_false (by simp) nofun, fun other hother => h.beyond other ?_⟩
        rw [hexpected]
        exact List.mem_cons_of_mem _ hother
    · exact .start octet

/-- A piece before an ASCII octet: what would be cut off is invalid. -/
def Piece.closed : Piece → Piece
  | .truncated octets => .invalid octets
  | piece => piece

theorem Piece.isChar_closed (piece : Piece) : piece.closed.isChar = piece.isChar := by
  cases piece <;> rfl

/-- No piece that is complete is changed. -/
theorem start_closed (octet : UInt8) : (start octet).1.map Piece.closed = (start octet).1 := by
  unfold start
  split <;> rfl

theorem step_closed (pending : Pending) (octet : UInt8) :
    (step pending octet).1.map Piece.closed = (step pending octet).1 := by
  unfold step
  split
  · exact start_closed octet
  · split
    · split <;> rfl
    · simp only [List.map_cons, start_closed, Piece.closed]

/-- An octet is read, and then the rest. -/
theorem piecesFrom_cons (pending : Pending) (octet : UInt8) (rest : Bytes) :
    piecesFrom pending (octet :: rest) =
      (step pending octet).1 ++ piecesFrom (step pending octet).2 rest :=
  rfl

/-- What comes before an ASCII octet is read as it is read alone. -/
theorem piecesFrom_append {pending : Pending} (h : pending.Sound) (octets rest : Bytes)
    {octet : UInt8} (hascii : octet < 0x80) :
    piecesFrom pending (octets ++ octet :: rest) =
      (piecesFrom pending octets).map Piece.closed ++ piecesFrom .idle (octet :: rest) := by
  induction octets generalizing pending with
  | cons first octets ih =>
    rw [List.cons_append, piecesFrom_cons, ih (h.step first), piecesFrom_cons pending first,
      List.map_append, step_closed, List.append_assoc]
  | nil =>
    obtain ⟨seen, expected⟩ := pending
    cases expected with
    | nil =>
      obtain rfl : seen = [] := h.seen_iff.2 rfl
      rfl
    | cons range later =>
      have hout : range.contains octet = false := by
        have hlow : 0x80 ≤ range.1 := h.beyond range List.mem_cons_self
        have hbelow : ¬ range.1 ≤ octet :=
          UInt8.not_le.2 (UInt8.lt_of_lt_of_le hascii hlow)
        simp [Range.contains, hbelow]
      cases seen with
      | nil => exact absurd (h.seen_iff.1 rfl) nofun
      | cons octet' seen =>
        rw [List.nil_append, piecesFrom_cons, piecesFrom_cons]
        simp only [step, hout]
        rfl

/-- ASCII octets are characters. -/
theorem all_isChar_ascii {text : Bytes} (hascii : ∀ octet ∈ text, octet < 0x80) :
    (pieces text).all Piece.isChar = true := by
  induction text with
  | nil => rfl
  | cons octet rest ih =>
    have hfollowers : followers octet = some [] := if_pos (hascii octet List.mem_cons_self)
    have hrest := ih fun other hother => hascii other (List.mem_cons_of_mem _ hother)
    rw [pieces, ← List.singleton_append, piecesFrom_form rest hfollowers .nil]
    exact hrest

/-- An octet string with ASCII text behind it is UTF-8 exactly if it is UTF-8 itself. -/
theorem isSome_decode?_append (octets : Bytes) {text : Bytes}
    (hascii : ∀ octet ∈ text, octet < 0x80) :
    (decode? (octets ++ text)).isSome = (decode? octets).isSome := by
  have htext := all_isChar_ascii hascii
  cases text with
  | nil => rw [List.append_nil]
  | cons octet rest =>
    rw [pieces] at htext
    rw [Bool.eq_iff_iff, isSome_decode?_iff, isSome_decode?_iff, pieces,
      piecesFrom_append .idle octets rest (hascii octet List.mem_cons_self), List.all_append, htext,
      Bool.and_true, List.all_map]
    simp only [Function.comp_def, Piece.isChar_closed]
    rfl

/-- A text has a UTF-8 form, which is UTF-8. -/
theorem isSome_decode?_ofChars (text : List Char) :
    (decode? (Bytes.ofChars text)).isSome = true := by
  rw [decode?, decode_ofChars]
  rfl

end ThemeSetup.Utf8
