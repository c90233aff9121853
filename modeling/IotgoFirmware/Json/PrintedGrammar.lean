import IotgoFirmware.Library.JsonGrammar
import IotgoFirmware.Json.DecimalTexts

/-!
# Printed texts are JSON

What `print_value` makes of an item has a derivation in the grammar of JSON, unless a number
has a sign behind its point. In strings the grammar has any byte from 32 on: it does not look at
the encoding of the characters.
-/

namespace IotgoFirmware.Json.PrintedGrammar

open IotgoFirmware.Library.CStrings IotgoFirmware.Library.CFaults IotgoFirmware.Library.Doubles
open IotgoFirmware.Library.CJsonItems IotgoFirmware.Library.CJsonTrees
open IotgoFirmware.Library.JsonGrammar IotgoFirmware.Json.StringTexts
open IotgoFirmware.Json.DecimalTexts IotgoFirmware.Json.ItemPrinting
open IotgoFirmware.Json.ItemReading IotgoFirmware.Json.RoundTrips

set_option autoImplicit false

section Strings

variable {text : List UInt8}

theorem lower_hex_is_hex {digit : Nat} (small : digit < 16) : IsHex (lowerHex digit) := by
  unfold IsHex
  interval_cases digit <;> decide

/-- Letters of an escape are the ones that JSON has. -/
theorem escape_letter_known {token letter : UInt8} (letters : escapeByte token = [92, letter]) :
    letter ∈ asciiBytes "\"\\/bfnrt" := by
  unfold escapeByte at letters
  split_ifs at letters <;> cases letters <;> decide

theorem string_body_escape_byte {token : UInt8} (present : token ≠ 0) {rest : List UInt8}
    (later : StringBody rest) : StringBody (escapeByte token ++ rest) := by
  rcases escape_byte_cases token with ⟨same, quote, backslash⟩ | ⟨letter, letters, -, -⟩ |
    ⟨digits, -⟩
  · have printable : 32 ≤ token := by
      unfold escapeByte at same
      by_cases plain : 31 < token ∧ token ≠ 34 ∧ token ≠ 92
      · have above := plain.1
        rw [UInt8.lt_iff_toNat_lt] at above
        rw [UInt8.le_iff_toNat_le]
        simp only [UInt8.reduceToNat] at above ⊢
        omega
      · rw [if_neg plain] at same
        split_ifs at same <;> cases same
    rw [same]
    exact .plain printable ⟨quote, backslash⟩ later
  · rw [letters]
    exact .escape (escape_letter_known letters) later
  · have high := lower_hex_is_hex (show token.toNat / 16 < 16 by have := token.toNat_lt; omega)
    have low := lower_hex_is_hex (show token.toNat % 16 < 16 by omega)
    rw [digits]
    refine @StringBody.unicode [48, 48, lowerHex (token.toNat / 16), lowerHex (token.toNat % 16)]
      rest rfl ?_ later
    intro digit member
    simp only [List.mem_cons, List.not_mem_nil, or_false] at member
    rcases member with rfl | rfl | rfl | rfl
    · exact .inl (by decide)
    · exact .inl (by decide)
    · exact high
    · exact low

theorem string_body_escaped (nulFree : (0 : UInt8) ∉ text) :
    StringBody (text.flatMap escapeByte) := by
  induction text with
  | nil => exact .nil
  | cons token text ih =>
      rw [List.mem_cons, not_or] at nulFree
      exact string_body_escape_byte (Ne.symm nulFree.1) (ih nulFree.2)

end Strings

section Numbers

theorem is_digit_bounds {byte : UInt8} (digit : isDigit byte = true) : 48 ≤ byte ∧ byte ≤ 57 := by
  simpa only [UInt8.le_iff_toNat_le, UInt8.reduceToNat] using (is_digit_iff byte).1 digit

theorem decimal_text_is_digits (number : Nat) : IsDigits (decimalText number) := by
  exact ⟨decimal_text_ne_nil number, fun byte member =>
    is_digit_bounds (decimal_text_digits number byte member)⟩

/-- No numeral but that of zero begins with a zero. -/
theorem decimal_text_whole (number : Nat) :
    decimalText number = [48] ∨ IsDigits (decimalText number) ∧
      (decimalText number).head? ≠ some 48 := by
  rcases Nat.eq_zero_or_pos number with rfl | positive
  · left
    rw [decimalText, if_pos (by decide)]
    rfl
  · right
    refine ⟨decimal_text_is_digits number, ?_⟩
    obtain ⟨first, tail, text, lower, -⟩ := decimal_text_first positive
    rw [text, List.head?_cons]
    intro zero
    rw [Option.some.inj zero] at lower
    exact absurd lower (by decide)

theorem int_text_number (value : Int) {fraction : List UInt8}
    (digits : fraction = [] ∨ ∃ digits, fraction = 46 :: digits ∧ IsDigits digits) :
    IsNumber (intText value ++ fraction) := by
  constructor
  by_cases negative : value < 0
  · refine ⟨[45], decimalText value.natAbs, fraction, [], ?_, .inr rfl,
      decimal_text_whole value.natAbs, digits, .inl rfl⟩
    rw [intText, if_pos negative]
    simp
  · refine ⟨[], decimalText value.natAbs, fraction, [], ?_, .inl rfl,
      decimal_text_whole value.natAbs, digits, .inl rfl⟩
    rw [intText, if_neg negative]
    simp

theorem number_text_number {double : CDouble} {valueint : Int} {valuedouble : Rat}
    (decimal : Decimal double valueint valuedouble) :
    IsNumber (numberText double valueint valuedouble) := by
  unfold numberText
  split
  · exact ⟨[], [48], [], [], rfl, .inl rfl, .inl rfl, .inl rfl, .inl rfl⟩
  · rename_i zero
    split
    · have whole := int_text_number valueint (.inl rfl)
      rwa [List.append_nil] at whole
    · rename_i broken
      have signless := (decimal.resolve_left zero).resolve_left broken
      obtain ⟨digits, text, some, all⟩ := two_digits_plain signless
      rw [text]
      exact int_text_number valueint (.inr ⟨digits, rfl, some, fun byte member =>
        is_digit_bounds (all byte member)⟩)

end Numbers

section Layout

variable {fmt : Bool} {text : List UInt8}

theorem is_blank_nil : IsBlank [] :=
  fun _ absent => absurd absent List.not_mem_nil

theorem is_blank_append {front back : List UInt8} (first : IsBlank front) (second : IsBlank back) :
    IsBlank (front ++ back) := by
  intro byte member
  rcases List.mem_append.1 member with member | member
  · exact first byte member
  · exact second byte member

theorem is_blank_tabs (fmt : Bool) (count : Nat) : IsBlank (tabs fmt count) := by
  unfold tabs
  split
  · intro byte member
    rw [List.eq_of_mem_replicate member]
    decide
  · exact is_blank_nil

theorem is_blank_line_end (fmt : Bool) : IsBlank (lineEnd fmt) := by
  unfold lineEnd
  split
  · intro byte member
    rw [List.mem_singleton.1 member]
    decide
  · exact is_blank_nil

theorem is_blank_space (fmt : Bool) : IsBlank (if fmt then [32] else []) := by
  split
  · intro byte member
    rw [List.mem_singleton.1 member]
    decide
  · exact is_blank_nil

theorem json_padded_front {front : List UInt8} (blank : IsBlank front) (json : JsonText text) :
    JsonText (front ++ text) := by
  have padded := JsonText.padded blank is_blank_nil json
  rwa [List.append_nil] at padded

/-- The entries of an array, with the blanks that stand behind the commas. -/
theorem array_text_joined (entry : List UInt8) (rest : List (List UInt8)) :
    arrayText fmt (entry :: rest) =
      joined (entry :: rest.map fun later => (if fmt then [32] else []) ++ later) := by
  induction rest generalizing entry with
  | nil => simp [arrayText, joined]
  | cons next rest ih =>
      rw [array_text_cons, ih]
      cases rest with
      | nil => simp [joined]
      | cons other rest => simp [joined]

/-- What a member has to be in the grammar. -/
def IsMember (member : List UInt8 × List UInt8) : Prop :=
  IsName member.1 ∧ JsonText member.2

theorem joined_cons (text next : List UInt8) (rest : List (List UInt8)) :
    joined (text :: next :: rest) = text ++ 44 :: joined (next :: rest) :=
  rfl

theorem is_member_padded {before body value after : List UInt8} (front : IsBlank before)
    (string : StringBody body) (json : JsonText value) (back : IsBlank after) :
    IsMember (before ++ 34 :: (body ++ [34]), tabs fmt 1 ++ (value ++ after)) := by
  refine ⟨⟨before, body, [], rfl, front, string, is_blank_nil⟩, ?_⟩
  have padded := JsonText.padded (is_blank_tabs fmt 1) back json
  rwa [List.append_assoc] at padded

/-- The members of an object: the blanks in front of a name belong to it, those behind the
last value to the value. -/
theorem object_text_joined {depth : Nat} {last : List UInt8} (blank : IsBlank last)
    (child : List UInt8 × CJsonItem) (children : List (List UInt8 × CJsonItem))
    {texts : CJsonItem → List UInt8}
    (each : ∀ child' ∈ child :: children, JsonText (texts child'.2)) :
    ∃ first pairs, lineEnd fmt ++ objectText fmt depth ((child :: children).map fun child' =>
        (quoted (cString child'.1), texts child'.2)) ++ last =
      joined ((first :: pairs).map Library.JsonGrammar.memberText) ∧
        ∀ member ∈ first :: pairs, IsMember member := by
  induction children generalizing child with
  | nil =>
      refine ⟨(lineEnd fmt ++ tabs fmt depth ++ quoted (cString child.1),
        tabs fmt 1 ++ (texts child.2 ++ (lineEnd fmt ++ last))), [], ?_, ?_⟩
      · simp [objectText, joined, Library.JsonGrammar.memberText, Json.ItemPrinting.memberText]
      · intro member listed
        rw [List.mem_singleton.1 listed]
        exact is_member_padded (is_blank_append (is_blank_line_end fmt) (is_blank_tabs fmt depth))
          (string_body_escaped (c_string_nul_free child.1)) (each child List.mem_cons_self)
          (is_blank_append (is_blank_line_end fmt) blank)
  | cons next children ih =>
      obtain ⟨first, pairs, same, members⟩ :=
        ih next fun other member => each other (List.mem_cons_of_mem child member)
      refine ⟨(lineEnd fmt ++ tabs fmt depth ++ quoted (cString child.1),
        tabs fmt 1 ++ (texts child.2 ++ [])), first :: pairs, ?_, ?_⟩
      · rw [List.map_cons] at same
        rw [List.map_cons, List.map_cons, object_text_cons, List.map_cons, List.map_cons,
          joined_cons, ← List.map_cons, ← same]
        simp [Library.JsonGrammar.memberText, Json.ItemPrinting.memberText]
      · intro member listed
        rcases List.mem_cons.1 listed with rfl | listed
        · exact is_member_padded (is_blank_append (is_blank_line_end fmt) (is_blank_tabs fmt depth))
            (string_body_escaped (c_string_nul_free child.1)) (each child List.mem_cons_self)
            is_blank_nil
        · exact members member listed

end Layout

section Items

variable {double : CDouble} {fmt : Bool}

theorem item_text_json (fmt : Bool) {item : CJsonItem}
    (decimal : Every (Decimal double) (fun _ => True) item) (depth : Nat) :
    JsonText (itemText double fmt depth item) := by
  induction item using item_induction generalizing depth with
  | isFalse =>
      exact @JsonText.literal (asciiBytes "false") (by decide)
  | isTrue =>
      exact @JsonText.literal (asciiBytes "true") (by decide)
  | isNull =>
      exact @JsonText.literal (asciiBytes "null") (by decide)
  | number valueint valuedouble =>
      exact .number (number_text_number (every_number_iff.1 decimal))
  | string valuestring => exact .string (string_body_escaped (c_string_nul_free valuestring))
  | array children each =>
      rw [itemText, entry_texts_eq]
      cases children with
      | nil => exact .blankArray is_blank_nil
      | cons child children =>
          rw [List.map_cons, array_text_joined]
          apply JsonText.array
          intro entry listed
          rcases List.mem_cons.1 listed with rfl | listed
          · exact each child List.mem_cons_self (every_array decimal child List.mem_cons_self) _
          · obtain ⟨text, known, rfl⟩ := List.mem_map.1 listed
            obtain ⟨other, member, rfl⟩ := List.mem_map.1 known
            have inside := List.mem_cons_of_mem child member
            exact json_padded_front (is_blank_space fmt)
              (each other inside (every_array decimal other inside) _)
  | object children each =>
      rw [itemText, member_texts_eq]
      cases children with
      | nil =>
          refine JsonText.blankObject ?_
          rw [List.map_nil, objectText, List.append_nil]
          exact is_blank_append (is_blank_line_end fmt) (is_blank_tabs fmt depth)
      | cons child children =>
          obtain ⟨first, pairs, same, members⟩ :=
            @object_text_joined fmt (depth + 1) (tabs fmt depth) (is_blank_tabs fmt depth) child
              children (itemText double fmt (depth + 1)) fun other member =>
                each other member (every_object decimal other member).2 (depth + 1)
          rw [same]
          exact .object (fun member listed => (members member listed).1)
            fun member listed => (members member listed).2

/-- An item with integers is printed as a JSON text, formatted or not, whatever bytes its strings
hold. -/
theorem printed_json (exact : double.Exact) (fmt : Bool) {item : CJsonItem}
    (whole : Every Whole (fun _ => True) item) (depth : Nat) :
    ∃ text, printValue double fmt depth item = .ok text ∧ JsonText text :=
  ⟨itemText double fmt depth item, print_value_ok double fmt (whole_is_int whole) depth,
    item_text_json fmt (every_mono (fun _ _ => whole_decimal exact) (fun _ is => is) whole) depth⟩

end Items

theorem printed_json_quote :
    ∃ text, printValue unrounded true 0 (.object [([34], .number 3 3)]) = .ok text ∧
      JsonText text := by
  refine printed_json unrounded_exact true (.object ?_ ?_) 0
  · exact fun _ _ => trivial
  · intro child member
    rw [List.mem_singleton.1 member]
    exact .number ⟨by unfold IsInt; decide, by norm_num⟩

end IotgoFirmware.Json.PrintedGrammar
