import Mathlib.Data.List.Infix
import ThemeSetup.Json.Printer
import ThemeSetup.Proofs.Text.Utf8

/-!
# What a JSON text holds

A value mentions its texts and its keys, at any depth (`Json.Mentions`). Each of them stands between
quotation marks in the written form of the value (`Json.Mentions.quoted`), and the written form can
be told from what is printed (`Json.render_eq_of_printed`). So a text that is nowhere in the written
form of a document is not mentioned by any document that is printed alike (`Json.Shown.quoted`).
-/

namespace ThemeSetup.Json

/-- A text is a value or a key somewhere in a value. -/
inductive Mentions (text : String) : Json → Prop
  | string : Mentions text (.string text)
  | item {items : List Json} {item : Json} :
      item ∈ items → Mentions text item → Mentions text (.array items)
  | key {fields : List (String × Json)} {value : Json} :
      (text, value) ∈ fields → Mentions text (.object fields)
  | value {fields : List (String × Json)} {key : String} {value : Json} :
      (key, value) ∈ fields → Mentions text value → Mentions text (.object fields)

section
variable (style : Style) (depth : Nat)

/-- An item stands in the written form of the items after the first. -/
theorem infix_renderItems {items : List Json} {item : Json} (h : item ∈ items) :
    render style depth item <:+: renderItems style depth items := by
  induction items with
  | nil => cases h
  | cons first rest ih =>
    rw [renderItems]
    cases h with
    | head => exact ⟨',' :: style.lineBreak depth, renderItems style depth rest, rfl⟩
    | tail _ h => exact (ih h).trans (List.suffix_append _ _).isInfix

/-- A key and its value stand in the written form of the fields after the first. -/
theorem infix_renderFields {fields : List (String × Json)} {key : String} {value : Json}
    (h : (key, value) ∈ fields) :
    quote key ++ style.colon ++ render style depth value <:+: renderFields style depth fields := by
  induction fields with
  | nil => cases h
  | cons first rest ih =>
    rw [renderFields]
    cases h with
    | head => exact ⟨',' :: style.lineBreak depth, renderFields style depth rest, by simp⟩
    | tail _ h => exact (ih h).trans (List.suffix_append _ _).isInfix

/-- An item stands in the written form of its array. -/
theorem infix_render_array {items : List Json} {item : Json} (h : item ∈ items) :
    render style (depth + 1) item <:+: render style depth (.array items) := by
  cases h with
  | head rest =>
    exact ⟨'[' :: style.lineBreak (depth + 1),
      renderItems style (depth + 1) rest ++ style.lineBreak depth ++ [']'], by simp [render]⟩
  | @tail first rest h =>
    refine (infix_renderItems style (depth + 1) h).trans ?_
    exact ⟨'[' :: style.lineBreak (depth + 1) ++ render style (depth + 1) first,
      style.lineBreak depth ++ [']'], by simp [render]⟩

/-- A key and its value stand in the written form of their object. -/
theorem infix_render_object {fields : List (String × Json)} {key : String} {value : Json}
    (h : (key, value) ∈ fields) :
    quote key ++ style.colon ++ render style (depth + 1) value <:+:
      render style depth (.object fields) := by
  cases h with
  | head rest =>
    exact ⟨'\x7b' :: style.lineBreak (depth + 1),
      renderFields style (depth + 1) rest ++ style.lineBreak depth ++ ['\x7d'], by simp [render]⟩
  | @tail first rest h =>
    refine (infix_renderFields style (depth + 1) h).trans ?_
    exact ⟨'\x7b' :: style.lineBreak (depth + 1) ++ quote first.1 ++ style.colon ++
      render style (depth + 1) first.2, style.lineBreak depth ++ ['\x7d'], by simp [render]⟩

end

/-- What a value mentions stands between quotation marks in its written form. -/
theorem Mentions.quoted {text : String} {value : Json} (h : Mentions text value) (style : Style)
    (depth : Nat) : quote text <:+: render style depth value := by
  induction h generalizing depth with
  | string => exact List.infix_rfl
  | item hitem _ ih => exact (ih (depth + 1)).trans (infix_render_array style depth hitem)
  | @key fields value hfield =>
    refine List.IsInfix.trans ?_ (infix_render_object style depth hfield)
    exact ⟨[], style.colon ++ render style (depth + 1) value, by simp⟩
  | value hfield _ ih =>
    refine (ih (depth + 1)).trans (List.IsInfix.trans ?_ (infix_render_object style depth hfield))
    exact (List.suffix_append _ _).isInfix

/-- Documents that are printed alike are written alike. -/
theorem render_eq_of_printed {document other : Json} {rest : String}
    (h : Bytes.ofString (document.pretty ++ rest) = Bytes.ofString (other.pretty ++ rest)) :
    render .pretty 0 document = render .pretty 0 other := by
  have hdecoded := congrArg Utf8.decode h
  rw [Bytes.ofString, Bytes.ofString, Utf8.decode_ofChars, Utf8.decode_ofChars] at hdecoded
  have htexts := String.toList_inj.1 (Except.ok.inj hdecoded)
  exact String.ofList_injective ((String.append_left_inj rest).1 htexts)

/-- A value mentions what one of its fields mentions. -/
theorem Mentions.of_field? {text : String} {found : Json} (h : Mentions text found) {value : Json}
    {key : String} (hfield : value.field? key = some found) : Mentions text value := by
  cases value with
  | object fields =>
    obtain ⟨before, after, rfl, -⟩ := List.lookup_eq_some_iff.1 hfield
    exact .value (List.mem_append_right before List.mem_cons_self) h
  | _ => cases hfield

/-- The output is one document, in which a key has this value. -/
def Shown (output : Bytes) (key : String) (value : Json) : Prop :=
  ∃ document : Json, output = Bytes.ofString (document.pretty ++ "\n") ∧
    document.field? key = some value

/-- What a value mentions that is shown in the output stands between quotation marks in the written
form of every document that is printed so. -/
theorem Shown.quoted {document value : Json} {key text : String}
    (h : Shown (Bytes.ofString (document.pretty ++ "\n")) key value)
    (hmentions : Mentions text value) :
    quote text <:+: render .pretty 0 document := by
  obtain ⟨other, hprinted, hfield⟩ := h
  rw [render_eq_of_printed hprinted]
  exact (hmentions.of_field? hfield).quoted .pretty 0

end ThemeSetup.Json
