import IotgoFirmware.Json.RoundTrips

/-!
# Numbers with a point

A number that is not an integer is printed with two digits behind a point, unless what stands
there has a sign. Behind the sign no parser goes on.
-/

namespace IotgoFirmware.Json.DecimalTexts

open IotgoFirmware.Library.CStrings IotgoFirmware.Library.CFaults IotgoFirmware.Library.Doubles
open IotgoFirmware.Library.CJsonItems IotgoFirmware.Library.CJsonTrees
open IotgoFirmware.Json.StringTexts IotgoFirmware.Json.StringSafety
open IotgoFirmware.Json.ItemPrinting IotgoFirmware.Json.ItemParsing
open IotgoFirmware.Json.ItemReading IotgoFirmware.Json.RoundTrips

set_option autoImplicit false

/-- What is printed behind the point of the number, if there is one, has no sign. -/
def Decimal (double : CDouble) (valueint : Int) (valuedouble : Rat) : Prop :=
  valuedouble = 0 ∨ IsWhole double valueint valuedouble ∨
    0 ≤ hundredths double valueint valuedouble

instance (double : CDouble) (valueint : Int) (valuedouble : Rat) :
    Decidable (Decimal double valueint valuedouble) :=
  inferInstanceAs (Decidable (_ ∨ _ ∨ _))

section Digits

variable {double : CDouble} {rest : List UInt8}

theorem whole_decimal (exact : double.Exact) {valueint : Int} {valuedouble : Rat}
    (whole : Whole valueint valuedouble) : Decimal double valueint valuedouble := by
  by_cases zero : valuedouble = 0
  · exact .inl zero
  · exact .inr (.inl (is_whole_of_whole exact whole))

theorem two_digits_plain {value : Int} (signless : 0 ≤ value) :
    ∃ digits, twoDigits value = digits ∧ digits ≠ [] ∧ ∀ byte ∈ digits, isDigit byte = true := by
  have numeral : intText value = decimalText value.natAbs := if_neg (Int.not_lt.2 signless)
  refine ⟨_, rfl, ?_, ?_⟩
  · unfold twoDigits
    rw [numeral]
    split
    · exact List.cons_ne_nil _ _
    · exact decimal_text_ne_nil _
  · unfold twoDigits
    rw [numeral]
    split
    · exact List.forall_mem_cons.2 ⟨by decide, decimal_text_digits _⟩
    · exact decimal_text_digits _

theorem two_digits_signed {value : Int} (signed : ¬0 ≤ value) :
    twoDigits value = 45 :: decimalText value.natAbs := by
  unfold twoDigits
  rw [if_neg fun both => signed both.1, intText, if_pos (Int.not_le.1 signed)]

theorem read_digits_end {digits : List UInt8} (all : ∀ byte ∈ digits, isDigit byte = true)
    {byte : UInt8} (other : isDigit byte = false) (n : Rat) (count : Nat) :
    ∃ value, readDigits double n count (digits ++ byte :: rest) =
      .ok (value, count + digits.length, byte :: rest) := by
  induction digits generalizing n count with
  | nil =>
      refine ⟨n, ?_⟩
      rw [List.nil_append, readDigits, if_neg (by rw [other]; exact Bool.false_ne_true)]
      rfl
  | cons digit digits ih =>
      obtain ⟨value, read⟩ := ih (fun byte member => all byte (List.mem_cons_of_mem digit member))
        (double.round (double.round (n * 10) + (digit.toNat - 48 : Nat))) (count + 1)
      refine ⟨value, ?_⟩
      rw [List.cons_append, readDigits, if_pos (all digit List.mem_cons_self), read,
        List.length_cons, Nat.add_assoc, Nat.add_comm 1]

theorem parse_whole_end (number : Nat) (more : List UInt8) :
    ∃ first tail n, decimalText number ++ 46 :: more = first :: tail ∧ isDigit first = true ∧
      parseWhole double (if first = 48 then (first :: tail).drop 1 else first :: tail) =
        .ok (n, 46 :: more) := by
  rcases Nat.eq_zero_or_pos number with rfl | positive
  · have zero : decimalText 0 = [48] := by
      rw [decimalText, if_pos (by decide)]
      rfl
    refine ⟨48, 46 :: more, 0, by rw [zero]; rfl, rfl, ?_⟩
    rw [if_pos rfl, List.drop_one, List.tail_cons, parseWhole]
    rfl
  · obtain ⟨first, tail, text, range⟩ := decimal_text_first positive
    have all := decimal_text_digits number
    obtain ⟨n, digits⟩ := @read_digits_end double more _ all 46 rfl 0 0
    have other : first ≠ 48 := by
      rintro rfl
      exact absurd range.1 (by decide)
    refine ⟨first, tail ++ 46 :: more, n, by rw [text]; rfl, all first (by rw [text]; simp), ?_⟩
    have read : byteAt (first :: (tail ++ 46 :: more)) 0 = .ok first := rfl
    rw [text, List.cons_append] at digits
    rw [if_neg other, parseWhole, read, bind_ok, if_pos range, digits]
    rfl

theorem parse_number_point (value : Int) {more behind : List UInt8}
    (fraction : ∀ n, ∃ m, parseFraction double n (46 :: more) = .ok (m, behind)) :
    ∃ item, parseNumber double (intText value ++ 46 :: more) = .ok (item, behind) := by
  obtain ⟨first, tail, n, text, digit, whole⟩ := @parse_whole_end double value.natAbs more
  obtain ⟨m, read⟩ := fraction n
  have here : byteAt (first :: tail) 0 = .ok first := rfl
  by_cases negative : value < 0
  · have sign : byteAt (45 :: (decimalText value.natAbs ++ 46 :: more)) 0 = .ok 45 := rfl
    rw [intText, if_pos negative, parseNumber, List.cons_append, sign, bind_ok]
    dsimp only
    rw [if_pos rfl, List.drop_one, List.tail_cons, text, here, bind_ok, whole, bind_ok]
    dsimp only
    rw [read]
    exact ⟨_, rfl⟩
  · have plain : first ≠ 45 := by
      rintro rfl
      exact absurd digit (by decide)
    rw [intText, if_neg negative, parseNumber, text, here, bind_ok]
    dsimp only
    rw [if_neg plain, here, bind_ok, whole, bind_ok]
    dsimp only
    rw [read]
    exact ⟨_, rfl⟩

theorem parse_fraction_digits {digits : List UInt8} (some : digits ≠ [])
    (all : ∀ byte ∈ digits, isDigit byte = true) (follows : Follows rest) (n : Rat) :
    ∃ m, parseFraction double n (46 :: (digits ++ rest)) = .ok (m, rest) := by
  obtain ⟨digit, digits, rfl⟩ := List.exists_cons_of_ne_nil some
  obtain ⟨byte, more, rfl, other, -⟩ := follows
  obtain ⟨m, read⟩ := @read_digits_end double more _ all byte other n 0
  have point : byteAt (46 :: (digit :: digits ++ byte :: more)) 0 = .ok 46 := rfl
  have next : byteAt (46 :: (digit :: digits ++ byte :: more)) 1 = .ok digit := rfl
  unfold parseFraction
  rw [point, bind_ok, if_neg (not_not.2 rfl), next, bind_ok, if_pos (all digit List.mem_cons_self),
    List.drop_one, List.tail_cons, read]
  exact ⟨_, rfl⟩

theorem parse_fraction_sign (more : List UInt8) (n : Rat) :
    ∃ m, parseFraction double n (46 :: 45 :: more) = .ok (m, 46 :: 45 :: more) :=
  ⟨n, rfl⟩

end Digits

section Items

variable {double : CDouble} {fmt : Bool}

theorem number_ends (exact : double.Exact) {valueint : Int} (range : IsInt valueint)
    (valuedouble : Rat) (fmt : Bool) :
    ParsesBack double fmt (Decimal double valueint valuedouble) (fun _ => True)
      (.number valueint valuedouble) := by
  intro depth rest calls follows enough
  obtain ⟨calls, rfl⟩ : ∃ more, calls = more + 1 := ⟨calls - 1, by omega⟩
  rw [itemText, numberText]
  by_cases zero : valuedouble = 0
  · have text : intText 0 = [48] := by
      rw [intText, if_neg (by decide), Int.natAbs_zero, decimalText, if_pos (by decide)]
      rfl
    have parsed := @parse_number_text double rest exact follows 0 (by unfold IsInt; decide)
    rw [if_pos zero, ← text]
    exact ends_mono (iff_of_true trivial (.inl zero)) (fun _ is => is)
      (ends_of_run (parse_value_numeral parsed) trivial)
  · rw [if_neg zero]
    by_cases whole : IsWhole double valueint valuedouble
    · rw [if_pos whole]
      exact ends_mono (iff_of_true trivial (.inr (.inl whole))) (fun _ is => is)
        (ends_of_run (parse_value_numeral (parse_number_text exact follows range)) trivial)
    · rw [if_neg whole, List.append_assoc, List.cons_append]
      by_cases signless : 0 ≤ hundredths double valueint valuedouble
      · obtain ⟨digits, text, some, all⟩ := two_digits_plain signless
        obtain ⟨item, parsed⟩ := @parse_number_point double valueint _ rest
          (parse_fraction_digits some all follows)
        rw [text]
        exact ends_mono (iff_of_true trivial (.inr (.inr signless))) (fun _ is => is)
          (ends_of_run (parse_value_numeral parsed) trivial)
      · obtain ⟨item, parsed⟩ := @parse_number_point double valueint _ _
          (parse_fraction_sign (decimalText (hundredths double valueint valuedouble).natAbs ++ rest))
        rw [two_digits_signed signless, List.cons_append]
        constructor
        · rintro (none | (is | is))
          · exact absurd none zero
          · exact absurd is whole
          · exact absurd is signless
        · exact fun _ => .inr ⟨item, _, parse_value_numeral parsed⟩

variable {item : CJsonItem}

theorem item_ends (exact : double.Exact)
    (ints : Every (fun valueint _ => IsInt valueint) (fun _ => True) item) (fmt : Bool) :
    ParsesBack double fmt (Every (Decimal double) (fun _ => True) item) (fun _ => True) item := by
  induction item using item_induction with
  | isFalse =>
      intro depth rest calls follows enough
      exact ends_mono (iff_of_true trivial .isFalse) (fun _ _ => trivial)
        (literal_parses_back (.inr (.inl rfl)) double fmt depth rest calls follows enough)
  | isTrue =>
      intro depth rest calls follows enough
      exact ends_mono (iff_of_true trivial .isTrue) (fun _ _ => trivial)
        (literal_parses_back (.inr (.inr rfl)) double fmt depth rest calls follows enough)
  | isNull =>
      intro depth rest calls follows enough
      exact ends_mono (iff_of_true trivial .isNull) (fun _ _ => trivial)
        (literal_parses_back (.inl rfl) double fmt depth rest calls follows enough)
  | number valueint valuedouble =>
      intro depth rest calls follows enough
      cases ints with
      | number range =>
          exact ends_mono every_number_iff.symm (fun _ is => is)
            (number_ends exact range valuedouble fmt depth rest calls follows enough)
  | string valuestring =>
      intro depth rest calls follows enough
      exact ends_mono (iff_of_true trivial (.string trivial)) (fun _ _ => trivial)
        (string_parses_back double fmt valuestring depth rest calls follows enough)
  | array children each =>
      intro depth rest calls _ enough
      have backs := fun child member => each child member (every_array ints child member)
      exact ends_mono every_array_iff.symm (fun _ _ => trivial)
        (ends_of_reads (array_reads backs depth rest enough))
  | object children each =>
      intro depth rest calls _ enough
      have backs := fun child member => each child member (every_object ints child member).2
      exact ends_mono every_object_iff.symm (fun _ _ => trivial)
        (ends_of_reads (@object_reads double fmt calls (Every (Decimal double) fun _ => True)
          (fun _ _ => True) children backs depth rest enough))

/-- An object is parsed from its text if and only if no number of it has a sign behind the
point. -/
theorem object_read_iff (exact : double.Exact)
    (ints : Every (fun valueint _ => IsInt valueint) (fun _ => True) item)
    (object : item.type = .object) (fmt : Bool) (depth : Nat) :
    (∃ read, cJSONParse double (itemText double fmt depth item ++ [0]) = .ok (some read)) ↔
      Every (Decimal double) (fun _ => True) item := by
  cases item with
  | object children =>
      have reads := @object_reads double fmt
        (2 * (itemText double fmt depth (.object children) ++ [0]).length + 1)
        (Every (Decimal double) fun _ => True) (fun _ _ => True) children
        (fun child member => item_ends exact (every_object ints child member).2 fmt) depth [0]
        (by rw [List.length_append]; omega)
      have skipped : skip (itemText double fmt depth (.object children) ++ [0]) =
          .ok (itemText double fmt depth (.object children) ++ [0]) := by
        obtain ⟨first, tail, begins, stands, -⟩ :=
          item_text_first double fmt (.object children) depth
        rw [begins, List.cons_append]
        exact skip_stands stands _
      unfold cJSONParse cJSONParseWithOpts
      rw [skipped, bind_ok, every_object_iff]
      constructor
      · rintro ⟨read, parsed⟩
        by_contra fails
        rw [reads.refuses fails] at parsed
        cases parsed
      · intro holds
        obtain ⟨value, parsed, -⟩ := reads.read holds
        rw [parsed]
        exact ⟨value, rfl⟩
  | _ => cases object

theorem parse_text_iff (exact : double.Exact)
    (ints : Every (fun valueint _ => IsInt valueint) (fun _ => True) item)
    (object : item.type = .object) :
    (∃ read, parseText double (cString (printText double item)) = some read) ↔
      Every (Decimal double) (fun _ => True) item := by
  rw [← object_read_iff exact ints object false 0, c_string_print_text ints]
  unfold parseText
  cases cJSONParse double (itemText double false 0 item ++ [0]) with
  | error fault => simp [Except.toOption]
  | ok parsed => simp [Except.toOption]

/-- Ten nines do not fit in an `int`, and are printed with a sign behind the point. -/
example : ¬Decimal unrounded 2147483647 9999999999 := by decide +kernel

end Items

end IotgoFirmware.Json.DecimalTexts
