import ThemeSetup.Proofs.Json.Mentions

/-!
# One value for each text

A value whose numbers are whole can be told from its written form: two such values that are printed
alike are equal (`Json.eq_of_printed`). The escapes form a prefix code
(`Json.eq_of_escape_isPrefix`), so the first quotation mark that is not escaped ends a text; the
first character of a value tells its kind (`Json.kind_render`); and a number ends before the first
character that is no digit (`Json.Follows`). So from a written form with something behind it both
are known: the value and what comes after it (`Json.render_append_inj`). An output that is such a
value printed therefore carries that value and no other (`Json.Carries`).

Decimal fractions are left out, since a fraction can be given in more than one way.
-/

namespace ThemeSetup.Json

/-! ## Texts -/

/-- The characters that are escaped. -/
def escaped : List Char :=
  ['"', '\\'] ++ (List.range 32).map Char.ofNat

/-- A character that is not escaped is written as it is. -/
theorem escape_of_not_mem {c : Char} (h : c ∉ escaped) : escape c = [c] := by
  have hcontrol : 32 ≤ c.toNat := by
    by_contra hlow
    refine h (List.mem_append_right _ (List.mem_map.2 ⟨c.toNat, ?_, c.ofNat_toNat⟩))
    exact List.mem_range.2 (Nat.lt_of_not_le hlow)
  have hne (d : Char) (hd : d ∈ escaped) : c ≠ d := by
    rintro rfl
    exact h hd
  unfold escape
  rw [if_neg (hne '"' (by decide)), if_neg (hne '\\' (by decide)), if_neg (hne '\x08' (by decide)),
    if_neg (hne '\t' (by decide)), if_neg (hne '\n' (by decide)), if_neg (hne '\x0c' (by decide)),
    if_neg (hne '\r' (by decide)), if_neg (by omega), if_neg (by omega)]

/-- An escape starts with a backslash, and any other character with itself. -/
theorem head?_escape (c : Char) :
    (escape c).head? = some (if c ∈ escaped then '\\' else c) := by
  by_cases hc : c ∈ escaped
  · have hall : escaped.all (fun c => (escape c).head? == some '\\') = true := by decide
    rw [if_pos hc]
    exact eq_of_beq (List.all_eq_true.1 hall c hc)
  · rw [if_neg hc, escape_of_not_mem hc]
    rfl

/-- Of the characters that are escaped none has an escape that another one's starts with. -/
theorem eq_of_escape_isPrefix_of_mem {c d : Char} (hc : c ∈ escaped) (hd : d ∈ escaped)
    (h : escape c <+: escape d) : c = d := by
  have hall : (escaped.all fun c => escaped.all fun d =>
      !(escape c).isPrefixOf (escape d) || c == d) = true := by decide +kernel
  have hpair := List.all_eq_true.1 (List.all_eq_true.1 hall c hc) d hd
  rw [List.isPrefixOf_iff_prefix.2 h] at hpair
  exact eq_of_beq hpair

/-- No written form of a character is the start of another's. -/
theorem eq_of_escape_isPrefix {c d : Char} (h : escape c <+: escape d) : c = d := by
  have hhead : (escape c).head? = (escape d).head? := by
    obtain ⟨tail, htail⟩ := h
    rw [← htail, List.head?_append, head?_escape, Option.some_or]
  rw [head?_escape, head?_escape, Option.some.injEq] at hhead
  have hbackslash : '\\' ∈ escaped := by decide
  by_cases hc : c ∈ escaped <;> by_cases hd : d ∈ escaped
  · exact eq_of_escape_isPrefix_of_mem hc hd h
  · rw [if_pos hc, if_neg hd] at hhead
    exact absurd (hhead ▸ hbackslash) hd
  · rw [if_neg hc, if_pos hd] at hhead
    exact absurd (hhead ▸ hbackslash) hc
  · rwa [if_neg hc, if_neg hd] at hhead

/-- From the written form of a character and what comes after it both are known. -/
theorem escape_append_inj {c d : Char} {rest rest' : List Char}
    (h : escape c ++ rest = escape d ++ rest') : c = d ∧ rest = rest' := by
  obtain rfl : c = d := by
    have hc : escape c <+: escape d ++ rest' := ⟨rest, h⟩
    rcases List.prefix_or_prefix_of_prefix hc (List.prefix_append _ _) with hc | hd
    · exact eq_of_escape_isPrefix hc
    · exact (eq_of_escape_isPrefix hd).symm
  exact ⟨rfl, List.append_cancel_left h⟩

/-- No written form of a character starts with the quotation mark. -/
theorem escape_append_ne (c : Char) (rest rest' : List Char) :
    escape c ++ rest ≠ '"' :: rest' := by
  intro h
  have hhead := congrArg List.head? h
  rw [List.head?_append, head?_escape, Option.some_or, List.head?_cons, Option.some.injEq] at hhead
  split at hhead
  · exact absurd hhead (by decide)
  · next hc => exact hc (hhead ▸ by decide)

/-- A text ends with the first quotation mark that is not escaped. -/
theorem flatMap_escape_append_inj {text other rest rest' : List Char}
    (h : text.flatMap escape ++ '"' :: rest = other.flatMap escape ++ '"' :: rest') :
    text = other ∧ rest = rest' := by
  induction text generalizing other with
  | nil =>
    cases other with
    | nil => exact ⟨rfl, List.tail_eq_of_cons_eq h⟩
    | cons d other =>
      rw [List.flatMap_cons, List.append_assoc] at h
      exact absurd h.symm (escape_append_ne d _ _)
  | cons c text ih =>
    cases other with
    | nil =>
      rw [List.flatMap_cons, List.append_assoc] at h
      exact absurd h (escape_append_ne c _ _)
    | cons d other =>
      rw [List.flatMap_cons, List.flatMap_cons, List.append_assoc, List.append_assoc] at h
      obtain ⟨rfl, htail⟩ := escape_append_inj h
      obtain ⟨rfl, hrest⟩ := ih htail
      exact ⟨rfl, hrest⟩

/-- From a text between quotation marks and what comes after it both are known. -/
theorem quote_append_inj {text other : String} {rest rest' : List Char}
    (h : quote text ++ rest = quote other ++ rest') : text = other ∧ rest = rest' := by
  simp only [quote, List.cons_append, List.append_assoc, List.nil_append, List.cons.injEq,
    true_and] at h
  obtain ⟨htext, hrest⟩ := flatMap_escape_append_inj h
  exact ⟨String.toList_inj.1 htext, hrest⟩

/-! ## Numbers -/

/-- What can come after a value: it does not start with a digit. -/
def Follows (rest : List Char) : Prop :=
  ∀ c ∈ rest.head?, c.isDigit = false

theorem Follows.nil : Follows [] := by
  rintro c ⟨⟩

theorem Follows.cons {c : Char} (h : c.isDigit = false) (rest : List Char) :
    Follows (c :: rest) := by
  rintro _ ⟨⟩
  exact h

/-- The digits of a number are digits. -/
theorem isDigit_of_mem_digits {n : Nat} {c : Char} (h : c ∈ digits n) : c.isDigit = true :=
  Nat.isDigit_of_mem_toDigits (by decide) (by decide) h

/-- A number has a first digit. -/
theorem digits_eq_cons (n : Nat) : ∃ c tail, digits n = c :: tail ∧ c.isDigit = true := by
  obtain ⟨c, tail, hdigits⟩ := List.exists_cons_of_ne_nil (Nat.toDigits_ne_nil (n := n) (b := 10))
  exact ⟨c, tail, hdigits, isDigit_of_mem_digits (hdigits ▸ List.mem_cons_self)⟩

/-- The digits of a number are those that a text starts with. -/
theorem takeWhile_digits (n : Nat) {rest : List Char} (hrest : Follows rest) :
    (digits n ++ rest).takeWhile Char.isDigit = digits n := by
  have hnone : rest.takeWhile Char.isDigit = [] := by
    cases rest with
    | nil => rfl
    | cons c rest => exact List.takeWhile_cons_of_neg (by simp [hrest c rfl])
  rw [List.takeWhile_append_of_pos fun _ => isDigit_of_mem_digits, hnone, List.append_nil]

/-- From the digits of a number and what comes after them both are known. -/
theorem digits_append_inj {n m : Nat} {rest rest' : List Char} (hrest : Follows rest)
    (hrest' : Follows rest') (h : digits n ++ rest = digits m ++ rest') :
    n = m ∧ rest = rest' := by
  have hdigits : digits n = digits m := by
    rw [← takeWhile_digits n hrest, h, takeWhile_digits m hrest']
  obtain rfl : n = m := by
    have hvalue := congrArg (Nat.ofDigitChars 10 · 0) hdigits
    simpa [digits, Nat.ofDigitChars_ten_toDigits] using hvalue
  exact ⟨rfl, List.append_cancel_left h⟩

/-- Digits do not start with a sign. -/
theorem digits_append_ne (n : Nat) (rest rest' : List Char) : digits n ++ rest ≠ '-' :: rest' := by
  intro h
  obtain ⟨c, tail, hdigits, hdigit⟩ := digits_eq_cons n
  rw [hdigits, List.cons_append, List.cons.injEq] at h
  rw [h.1] at hdigit
  exact absurd hdigit (by decide)

/-- From an integer and what comes after it both are known. -/
theorem int_append_inj {v w : Int} {rest rest' : List Char} (hrest : Follows rest)
    (hrest' : Follows rest')
    (h : (Number.int v).render ++ rest = (Number.int w).render ++ rest') :
    v = w ∧ rest = rest' := by
  simp only [Number.render] at h
  by_cases hv : v < 0 <;> by_cases hw : w < 0 <;>
    simp only [hv, hw, if_true, if_false, List.nil_append, List.cons_append] at h
  · obtain ⟨hvalue, htail⟩ := digits_append_inj hrest hrest' (List.tail_eq_of_cons_eq h)
    exact ⟨by omega, htail⟩
  · exact absurd h.symm (digits_append_ne _ _ _)
  · exact absurd h (digits_append_ne _ _ _)
  · obtain ⟨hvalue, htail⟩ := digits_append_inj hrest hrest' h
    exact ⟨by omega, htail⟩

/-! ## Values -/

/-- The kinds of values. -/
inductive Kind where
  | null
  | bool
  | number
  | string
  | array
  | object
  deriving DecidableEq, Repr

/-- The kind of a value. -/
def kind : Json → Kind
  | .null => .null
  | .bool _ => .bool
  | .number _ => .number
  | .string _ => .string
  | .array _ => .array
  | .object _ => .object

/-- The kind of the values that are written with a first character. -/
def Kind.ofChar (c : Char) : Kind :=
  if c = 'n' then .null
  else if c = 't' ∨ c = 'f' then .bool
  else if c = '"' then .string
  else if c = '[' then .array
  else if c = '\x7b' then .object
  else .number

/-- A digit starts a number. -/
theorem Kind.ofChar_digit {c : Char} (h : c.isDigit = true) : ofChar c = .number := by
  have hne (d : Char) (hd : d.isDigit = false) : c ≠ d := by
    rintro rfl
    rw [h] at hd
    cases hd
  simp only [ofChar, hne 'n' rfl, hne 't' rfl, hne 'f' rfl, hne '"' rfl, hne '[' rfl,
    hne '\x7b' rfl, or_self, if_false]

/-- A number starts with a sign or a digit. -/
theorem kind_number (value : Number) (rest : List Char) :
    (value.render ++ rest).head?.map Kind.ofChar = some .number := by
  -- In both forms a sign may come first, and then there is a digit.
  have hstarts (negative : Prop) [Decidable negative] (n : Nat) (tail : List Char) :
      ((if negative then ['-'] else []) ++ digits n ++ tail).head?.map Kind.ofChar =
        some .number := by
    obtain ⟨c, others, hdigits, hdigit⟩ := digits_eq_cons n
    split
    · rfl
    · rw [hdigits]
      exact congrArg some (Kind.ofChar_digit hdigit)
  cases value with
  | int value => exact hstarts _ _ _
  | decimal mantissa places =>
    simp only [Number.render]
    rw [List.append_assoc]
    exact hstarts _ _ _

/-- The first character of a value tells its kind. -/
theorem kind_render (style : Style) (depth : Nat) (value : Json) (rest : List Char) :
    (render style depth value ++ rest).head?.map Kind.ofChar = some value.kind := by
  cases value with
  | null => rfl
  | bool value => cases value <;> rfl
  | number value => exact kind_number value rest
  | string value => rfl
  | array items => cases items <;> rfl
  | object fields => cases fields <;> rfl

/-- Values with the same first character are of one kind. -/
theorem kind_eq {style : Style} {depth : Nat} {a b : Json} {rest rest' : List Char}
    (h : render style depth a ++ rest = render style depth b ++ rest') : a.kind = b.kind := by
  have hkind := congrArg (·.head?.map Kind.ofChar) h
  simp only [kind_render, Option.some.injEq] at hkind
  exact hkind

mutual

/-- Whether all numbers in a value are integers. -/
def isWhole : Json → Bool
  | .number (.decimal _ _) => false
  | .array items => areWhole items
  | .object fields => fieldsAreWhole fields
  | _ => true

/-- Whether all numbers in items are integers. -/
def areWhole : List Json → Bool
  | [] => true
  | item :: items => isWhole item && areWhole items

/-- Whether all numbers in fields are integers. -/
def fieldsAreWhole : List (String × Json) → Bool
  | [] => true
  | (_, value) :: fields => isWhole value && fieldsAreWhole fields

end

/-- Items are whole exactly if each of them is. -/
theorem areWhole_iff {items : List Json} :
    areWhole items = true ↔ ∀ item ∈ items, item.isWhole = true := by
  induction items with
  | nil => simp [areWhole]
  | cons item items ih => simp [areWhole, ih]

/-- Fields are whole exactly if the value of each of them is. -/
theorem fieldsAreWhole_iff {fields : List (String × Json)} :
    fieldsAreWhole fields = true ↔ ∀ field ∈ fields, field.2.isWhole = true := by
  induction fields with
  | nil => simp [fieldsAreWhole]
  | cons field fields ih => simp [fieldsAreWhole, ih]

/-- A line is broken by a line feed and the margin of its depth. -/
theorem lineBreak_pretty (depth : Nat) :
    Style.pretty.lineBreak depth = '\n' :: List.replicate (2 * depth) ' ' :=
  rfl

/-- After an item comes a comma or a line feed. -/
theorem follows_renderItems (depth : Nat) (items : List Json) (rest : List Char) :
    Follows (renderItems .pretty depth items ++ '\n' :: rest) := by
  cases items with
  | nil => exact .cons (by decide) _
  | cons item items =>
    rw [renderItems]
    exact .cons (by decide) _

/-- After a field comes a comma or a line feed. -/
theorem follows_renderFields (depth : Nat) (fields : List (String × Json)) (rest : List Char) :
    Follows (renderFields .pretty depth fields ++ '\n' :: rest) := by
  cases fields with
  | nil => exact .cons (by decide) _
  | cons field fields =>
    rw [renderFields]
    exact .cons (by decide) _

mutual

/-- From the written form of a value and what comes after it both are known. -/
theorem render_append_inj {depth : Nat} {a b : Json} {rest rest' : List Char}
    (ha : a.isWhole = true) (hb : b.isWhole = true) (hrest : Follows rest) (hrest' : Follows rest')
    (h : render .pretty depth a ++ rest = render .pretty depth b ++ rest') :
    a = b ∧ rest = rest' := by
  have hkind := kind_eq h
  match a with
  | .null =>
    cases b with
    | null => exact ⟨rfl, List.append_cancel_left h⟩
    | _ => cases hkind
  | .bool value =>
    cases b with
    | bool other =>
      cases value <;> cases other <;> first | exact ⟨rfl, List.append_cancel_left h⟩ | cases h
    | _ => cases hkind
  | .number (.int value) =>
    cases b with
    | number other =>
      cases other with
      | int other =>
        obtain ⟨rfl, htail⟩ := int_append_inj hrest hrest' h
        exact ⟨rfl, htail⟩
      | decimal mantissa places => cases hb
    | _ => cases hkind
  | .number (.decimal _ _) => cases ha
  | .string value =>
    cases b with
    | string other =>
      obtain ⟨rfl, htail⟩ := quote_append_inj h
      exact ⟨rfl, htail⟩
    | _ => cases hkind
  | .array [] =>
    cases b with
    | array items =>
      cases items with
      | nil => exact ⟨rfl, List.append_cancel_left h⟩
      | cons item items => simp [render, lineBreak_pretty] at h
    | _ => cases hkind
  | .array (item :: items) =>
    cases b with
    | array others =>
      cases others with
      | nil => simp [render, lineBreak_pretty] at h
      | cons other others =>
        -- But for the bracket these are items after a first one.
        have hitems : renderItems .pretty (depth + 1) (item :: items) ++
              '\n' :: (List.replicate (2 * depth) ' ' ++ ']' :: rest) =
            renderItems .pretty (depth + 1) (other :: others) ++
              '\n' :: (List.replicate (2 * depth) ' ' ++ ']' :: rest') := by
          simpa [render, renderItems, lineBreak_pretty] using h
        obtain ⟨hvalues, htail⟩ := renderItems_append_inj ha hb hitems
        exact ⟨congrArg _ hvalues, List.tail_eq_of_cons_eq (List.append_cancel_left htail)⟩
    | _ => cases hkind
  | .object [] =>
    cases b with
    | object fields =>
      cases fields with
      | nil => exact ⟨rfl, List.append_cancel_left h⟩
      | cons field fields => simp [render, lineBreak_pretty] at h
    | _ => cases hkind
  | .object ((key, value) :: fields) =>
    cases b with
    | object others =>
      cases others with
      | nil => simp [render, lineBreak_pretty] at h
      | cons other others =>
        have hfields : renderFields .pretty (depth + 1) ((key, value) :: fields) ++
              '\n' :: (List.replicate (2 * depth) ' ' ++ '\x7d' :: rest) =
            renderFields .pretty (depth + 1) (other :: others) ++
              '\n' :: (List.replicate (2 * depth) ' ' ++ '\x7d' :: rest') := by
          simpa [render, renderFields, lineBreak_pretty] using h
        obtain ⟨hvalues, htail⟩ := renderFields_append_inj ha hb hfields
        exact ⟨congrArg _ hvalues, List.tail_eq_of_cons_eq (List.append_cancel_left htail)⟩
    | _ => cases hkind

/-- From the items after the first and the line feed after them all are known. -/
theorem renderItems_append_inj {depth : Nat} {items others : List Json} {rest rest' : List Char}
    (ha : areWhole items = true) (hb : areWhole others = true)
    (h : renderItems .pretty depth items ++ '\n' :: rest =
      renderItems .pretty depth others ++ '\n' :: rest') :
    items = others ∧ rest = rest' := by
  match items with
  | [] =>
    cases others with
    | nil => exact ⟨rfl, List.tail_eq_of_cons_eq h⟩
    | cons other others => simp [renderItems] at h
  | item :: items =>
    cases others with
    | nil => simp [renderItems] at h
    | cons other others =>
      simp only [areWhole, Bool.and_eq_true] at ha hb
      simp only [renderItems, lineBreak_pretty, List.cons_append, List.append_assoc,
        List.cons.injEq, true_and, List.append_cancel_left_eq] at h
      obtain ⟨rfl, htail⟩ := render_append_inj ha.1 hb.1 (follows_renderItems _ _ _)
        (follows_renderItems _ _ _) h
      obtain ⟨rfl, hrest⟩ := renderItems_append_inj ha.2 hb.2 htail
      exact ⟨rfl, hrest⟩

/-- From the fields after the first and the line feed after them all are known. -/
theorem renderFields_append_inj {depth : Nat} {fields others : List (String × Json)}
    {rest rest' : List Char} (ha : fieldsAreWhole fields = true)
    (hb : fieldsAreWhole others = true)
    (h : renderFields .pretty depth fields ++ '\n' :: rest =
      renderFields .pretty depth others ++ '\n' :: rest') :
    fields = others ∧ rest = rest' := by
  match fields with
  | [] =>
    cases others with
    | nil => exact ⟨rfl, List.tail_eq_of_cons_eq h⟩
    | cons other others => simp [renderFields] at h
  | (key, value) :: fields =>
    cases others with
    | nil => simp [renderFields] at h
    | cons other others =>
      obtain ⟨otherKey, otherValue⟩ := other
      simp only [fieldsAreWhole, Bool.and_eq_true] at ha hb
      simp only [renderFields, lineBreak_pretty, List.cons_append, List.append_assoc,
        List.cons.injEq, true_and, List.append_cancel_left_eq] at h
      obtain ⟨rfl, hvalue⟩ := quote_append_inj h
      obtain ⟨rfl, htail⟩ := render_append_inj ha.1 hb.1 (follows_renderFields _ _ _)
        (follows_renderFields _ _ _) (List.append_cancel_left hvalue)
      obtain ⟨rfl, hrest⟩ := renderFields_append_inj ha.2 hb.2 htail
      exact ⟨rfl, hrest⟩

end

/-- Values whose numbers are integers are equal if they are printed alike. -/
theorem eq_of_printed {a b : Json} (ha : a.isWhole = true) (hb : b.isWhole = true) {rest : String}
    (h : Bytes.ofString (a.pretty ++ rest) = Bytes.ofString (b.pretty ++ rest)) : a = b := by
  have hrender := render_eq_of_printed h
  have hnothing : render .pretty 0 a ++ [] = render .pretty 0 b ++ [] := by rw [hrender]
  exact (render_append_inj ha hb .nil .nil hnothing).1

/-- The output is the written form of a document and a line end, and of no other document whose
numbers are integers. -/
structure Carries (output : Bytes) (document : Json) : Prop where
  printed : output = Bytes.ofString (document.pretty ++ "\n")
  whole : document.isWhole = true
  only : ∀ other : Json, other.isWhole = true →
    output = Bytes.ofString (other.pretty ++ "\n") → other = document

/-- A document whose numbers are integers is carried by what is printed of it. -/
theorem Carries.of_printed {output : Bytes} {document : Json} (hwhole : document.isWhole = true)
    (h : output = Bytes.ofString (document.pretty ++ "\n")) : Carries output document :=
  ⟨h, hwhole, fun _ hother hprinted => eq_of_printed hother hwhole (hprinted.symm.trans h)⟩

/-! ## Keys in order -/

/-- The fields after an insertion are the one that is inserted and some of those before. -/
theorem mem_of_mem_insertField {field found : String × Json} :
    ∀ {fields : List (String × Json)}, found ∈ insertField field fields →
      found = field ∨ found ∈ fields
  | [], h => .inl (List.mem_singleton.1 h)
  | first :: rest, h => by
    unfold insertField at h
    split at h
    · exact List.mem_cons.1 h
    split at h
    · exact (List.mem_cons.1 h).imp_right (List.mem_cons_of_mem first)
    · rcases List.mem_cons.1 h with rfl | hrest
      · exact .inr List.mem_cons_self
      · exact (mem_of_mem_insertField hrest).imp_right (List.mem_cons_of_mem first)

mutual

/-- A value is whole if its keys are put in order. -/
theorem isWhole_sortKeys : ∀ {value : Json}, value.isWhole = true → value.sortKeys.isWhole = true
  | .array items, h => by
    rw [sortKeys, isWhole, areWhole_iff]
    rw [isWhole, areWhole_iff] at h
    exact isWhole_sortItems h
  | .object fields, h => by
    rw [sortKeys, isWhole, fieldsAreWhole_iff]
    rw [isWhole, fieldsAreWhole_iff] at h
    exact isWhole_sortFields h nofun
  | .null, h | .bool _, h | .number _, h | .string _, h => h

/-- Items are whole if their keys are put in order. -/
theorem isWhole_sortItems : ∀ {items : List Json}, (∀ item ∈ items, item.isWhole = true) →
    ∀ item ∈ sortItems items, item.isWhole = true
  | [], _ => nofun
  | first :: rest, h => by
    rw [sortItems, List.forall_mem_cons]
    rw [List.forall_mem_cons] at h
    exact ⟨isWhole_sortKeys h.1, isWhole_sortItems h.2⟩

/-- Fields are whole if they are put in order. -/
theorem isWhole_sortFields : ∀ {fields sorted : List (String × Json)},
    (∀ field ∈ fields, field.2.isWhole = true) → (∀ field ∈ sorted, field.2.isWhole = true) →
      ∀ field ∈ sortFields fields sorted, field.2.isWhole = true
  | [], _, _, hsorted => hsorted
  | (key, value) :: rest, sorted, h, hsorted => by
    rw [List.forall_mem_cons] at h
    rw [sortFields]
    refine isWhole_sortFields h.2 fun field hfield => ?_
    rcases mem_of_mem_insertField hfield with rfl | hold
    · exact isWhole_sortKeys h.1
    · exact hsorted field hold

end

end ThemeSetup.Json
