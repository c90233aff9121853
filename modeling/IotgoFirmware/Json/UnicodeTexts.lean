import IotgoFirmware.Json.StringSafety
import Mathlib.Data.List.Forall2

/-!
# Strings of other printers

A printer of JSON may write a character as it is, as an escape with a letter, or as one or two
escapes with a code. However the characters are written, `parse_string` reads their UTF-8
text.
-/

namespace IotgoFirmware.Json.UnicodeTexts

open IotgoFirmware.Library.CStrings IotgoFirmware.Library.CFaults
open IotgoFirmware.Json.StringTexts IotgoFirmware.Json.StringSafety

set_option autoImplicit false

/-- Four digits, in capitals or not, with the value `code`. -/
structure HexText (digits : List UInt8) (code : Nat) : Prop where
  four : digits.length = 4
  hex : ∀ digit ∈ digits, hexValue digit ≠ none
  value : parseHex4 digits = .ok code

def letters : List (UInt8 × Char) :=
  [(34, '"'), (92, '\\'), (47, '/'), (98, Char.ofNat 8), (102, Char.ofNat 12), (110, '\n'),
    (114, '\r'), (116, '\t')]

/-- The ways in which JSON lets a character be written; a control character as it is would not
be JSON, and is read all the same. -/
inductive IsWritten (character : Char) : List UInt8 → Prop where
  | plain (quote : character ≠ '"') (backslash : character ≠ '\\') :
      IsWritten character (String.utf8EncodeChar character)
  | letter {letter : UInt8} (known : (letter, character) ∈ letters) :
      IsWritten character [92, letter]
  | code {digits : List UInt8} (small : character.toNat < 0x10000)
      (text : HexText digits character.toNat) : IsWritten character (92 :: 117 :: digits)
  | pair {high low : List UInt8} (large : 0x10000 ≤ character.toNat)
      (first : HexText high (0xD800 + (character.toNat - 0x10000) / 1024))
      (second : HexText low (0xDC00 + (character.toNat - 0x10000) % 1024)) :
      IsWritten character (92 :: 117 :: (high ++ 92 :: 117 :: low))

section Encoding

theorem marked_low : ∀ byte < 256, (byte ||| 0x80) &&& 0xBF = byte % 0x40 + 0x80 := by
  decide +kernel

theorem marked_byte_eq (uc : Nat) : markedByte uc = UInt8.ofNat (uc % 64 + 128) := by
  have cut : ((uc ||| 0x80) &&& 0xBF) % 2 ^ 8 = (uc % 2 ^ 8 ||| 0x80) &&& 0xBF := by
    rw [Nat.and_mod_two_pow, Nat.or_mod_two_pow]
  apply UInt8.toNat.inj
  rw [markedByte, UInt8.toNat_ofNat', UInt8.toNat_ofNat', cut,
    marked_low (uc % 2 ^ 8) (Nat.mod_lt uc (by decide))]
  omega

theorem char_range (character : Char) :
    character.toNat < 0xD800 ∨ (0xDFFF < character.toNat ∧ character.toNat < 0x110000) :=
  character.valid

theorem utf8_encode_char (character : Char) :
    String.utf8EncodeChar character =
      if character.toNat ≤ 127 then [UInt8.ofNat character.toNat]
      else if character.toNat ≤ 2047 then
        [UInt8.ofNat (character.toNat / 64 % 32 + 192), UInt8.ofNat (character.toNat % 64 + 128)]
      else if character.toNat ≤ 65535 then
        [UInt8.ofNat (character.toNat / 4096 % 16 + 224),
          UInt8.ofNat (character.toNat / 64 % 64 + 128), UInt8.ofNat (character.toNat % 64 + 128)]
      else
        [UInt8.ofNat (character.toNat / 262144 % 8 + 240),
          UInt8.ofNat (character.toNat / 4096 % 64 + 128),
          UInt8.ofNat (character.toNat / 64 % 64 + 128), UInt8.ofNat (character.toNat % 64 + 128)] :=
  rfl

theorem first_mark {value bound mark : Nat} (small : value < bound)
    (disjoint : ∀ other < bound, other ||| mark = other % bound + mark) :
    UInt8.ofNat (value ||| mark) = UInt8.ofNat (value % bound + mark) := by
  rw [disjoint value small]

theorem utf8_bytes_char (character : Char) :
    utf8Bytes character.toNat = String.utf8EncodeChar character := by
  have range : character.toNat < 0x110000 := by
    rcases char_range character with low | high
    · omega
    · exact high.2
  rw [utf8_encode_char]
  generalize character.toNat = uc at range ⊢
  have once : uc >>> 6 = uc / 64 := Nat.shiftRight_eq_div_pow uc 6
  have twice : uc >>> 6 >>> 6 = uc / 4096 := by
    rw [once, Nat.shiftRight_eq_div_pow, Nat.div_div_eq_div_mul]
  have thrice : uc >>> 6 >>> 6 >>> 6 = uc / 262144 := by
    rw [twice, Nat.shiftRight_eq_div_pow, Nat.div_div_eq_div_mul]
  unfold utf8Bytes
  rw [thrice, twice, once, marked_byte_eq, marked_byte_eq, marked_byte_eq]
  by_cases one : uc < 0x80
  · rw [if_pos one, if_pos (by omega), Nat.or_zero]
  rw [if_neg one, if_neg (show ¬ uc ≤ 127 by omega)]
  by_cases two : uc < 0x800
  · rw [if_pos two, if_pos (by omega),
      first_mark (show uc / 64 < 32 by omega) (by decide)]
  rw [if_neg two, if_neg (show ¬ uc ≤ 2047 by omega)]
  by_cases three : uc < 0x10000
  · rw [if_pos three, if_pos (by omega),
      first_mark (show uc / 4096 < 16 by omega) (by decide)]
  · rw [if_neg three, if_neg (show ¬ uc ≤ 65535 by omega),
      first_mark (show uc / 262144 < 8 by omega) (by decide)]

theorem byte_above (code : Nat) {mark : Nat} (high : 128 ≤ mark) (fits : code + mark < 256) :
    128 ≤ (UInt8.ofNat (code + mark)).toNat := by
  rw [UInt8.toNat_ofNat']
  omega

theorem plain_of_above {byte : UInt8} (above : 128 ≤ byte.toNat) :
    ¬ (byte = 34 ∨ byte = 0) ∧ byte ≠ 92 := by
  refine ⟨?_, ?_⟩
  · rintro (rfl | rfl) <;> simp at above
  · rintro rfl
    simp at above

/-- The bytes of a character end no string and begin no escape, but for the two characters
that do. -/
theorem char_bytes_plain {character : Char} (quote : character ≠ '"')
    (backslash : character ≠ '\\') (present : character ≠ Char.ofNat 0) :
    ∀ byte ∈ String.utf8EncodeChar character, ¬ (byte = 34 ∨ byte = 0) ∧ byte ≠ 92 := by
  have same : ∀ other : Char, character ≠ other → character.toNat ≠ other.toNat :=
    fun other apart same => apart (Char.ext (UInt32.toNat.inj same))
  have apart34 := same _ quote
  have apart92 := same _ backslash
  have apart0 := same _ present
  have marked : ∀ code, 128 ≤ (UInt8.ofNat (code % 64 + 128)).toNat :=
    fun code => byte_above (code % 64) (Nat.le_refl 128) (by omega)
  intro byte member
  rw [utf8_encode_char] at member
  generalize character.toNat = uc at apart34 apart92 apart0 member
  by_cases one : uc ≤ 127
  · rw [if_pos one, List.mem_singleton] at member
    have value : byte.toNat = uc := by
      rw [member, UInt8.toNat_ofNat']
      omega
    refine ⟨?_, ?_⟩
    · rintro (rfl | rfl)
      · exact apart34 value.symm
      · exact apart0 value.symm
    · rintro rfl
      exact apart92 value.symm
  · rw [if_neg one] at member
    apply plain_of_above
    by_cases two : uc ≤ 2047
    · rw [if_pos two] at member
      simp only [List.mem_cons, List.not_mem_nil, or_false] at member
      rcases member with rfl | rfl
      · exact byte_above _ (by decide) (by omega)
      · exact marked _
    · rw [if_neg two] at member
      split_ifs at member <;>
        simp only [List.mem_cons, List.not_mem_nil, or_false] at member
      · rcases member with rfl | rfl | rfl
        · exact byte_above _ (by decide) (by omega)
        · exact marked _
        · exact marked _
      · rcases member with rfl | rfl | rfl | rfl
        · exact byte_above _ (by decide) (by omega)
        · exact marked _
        · exact marked _
        · exact marked _

theorem pair_code {code : Nat} (large : 0x10000 ≤ code) (small : code < 0x110000) :
    0x10000 + (((0xD800 + (code - 0x10000) / 1024) &&& 0x3FF) <<< 10 |||
      ((0xDC00 + (code - 0x10000) % 1024) &&& 0x3FF)) = code := by
  have mask : ∀ value : Nat, value &&& 0x3FF = value % 1024 :=
    fun value => Nat.and_two_pow_sub_one_eq_mod value 10
  rw [mask, mask, ← Nat.shiftLeft_add_eq_or_of_lt (Nat.mod_lt _ (by decide)),
    Nat.shiftLeft_eq]
  omega

end Encoding

section Reading

variable {character : Char} {digits text rest : List UInt8} {code left room : Nat}

theorem hex_digits_append {count h : Nat} (length : digits.length = count)
    (hex : ∀ digit ∈ digits, hexValue digit ≠ none) (rest : List UInt8) :
    hexDigits count h (digits ++ rest) = hexDigits count h digits := by
  induction digits generalizing count h with
  | nil =>
      subst length
      rfl
  | cons digit digits ih =>
      obtain ⟨value, known⟩ := Option.ne_none_iff_exists'.1 (hex digit List.mem_cons_self)
      subst length
      simp only [List.length_cons, List.cons_append, hexDigits, known]
      exact ih rfl fun other member => hex other (List.mem_cons_of_mem digit member)

theorem HexText.read (hexText : HexText digits code) (rest : List UInt8) :
    parseHex4 (digits ++ rest) = .ok code := by
  rw [parseHex4, hex_digits_append hexText.four hexText.hex rest]
  exact hexText.value

theorem HexText.ends (hexText : HexText digits code) (rest : List UInt8) :
    stringEnd (92 :: 117 :: (digits ++ rest)) = (stringEnd rest).map (advanced 6 5) := by
  rw [string_end_escape, string_end_front fun digit member =>
    hex_value_plain (hexText.hex digit member), map_advanced, hexText.four]

theorem surrogate_pair_read (second : HexText digits code) (low : 0xDC00 ≤ code)
    (high : code ≤ 0xDFFF) {front : List UInt8} (four : front.length = 4) (uc : Nat)
    (rest : List UInt8) :
    surrogatePair uc (front ++ 92 :: 117 :: (digits ++ rest)) =
      .ok (some (utf8Bytes (0x10000 + ((uc &&& 0x3FF) <<< 10 ||| (code &&& 0x3FF))), 11)) := by
  have backslash := byte_at_append front 92 (117 :: (digits ++ rest))
  have letter := byte_at_append (front ++ [92]) 117 (digits ++ rest)
  have dropped := @List.drop_left _ (front ++ [92, 117]) (digits ++ rest)
  rw [List.length_append, four, List.append_assoc] at letter dropped
  change byteAt (front ++ ([92] ++ 117 :: (digits ++ rest))) 5 = _ at letter
  change (front ++ ([92, 117] ++ (digits ++ rest))).drop 6 = _ at dropped
  rw [four] at backslash
  unfold surrogatePair
  rw [backslash, bind_ok, if_neg (not_not.2 rfl)]
  change (do let byte ← byteAt (front ++ ([92] ++ 117 :: (digits ++ rest))) 5; _) = _
  rw [letter, bind_ok, if_neg (not_not.2 rfl)]
  change (do let uc2 ← parseHex4 ((front ++ ([92, 117] ++ (digits ++ rest))).drop 6); _) = _
  rw [dropped, second.read, bind_ok, if_neg (by omega)]
  rfl

theorem unescape_front (plain : ∀ byte ∈ text, ¬ (byte = 34 ∨ byte = 0) ∧ byte ≠ 92)
    (fits : text.length ≤ room) (rest : List UInt8) :
    unescape 0 (left + text.length) room (text ++ rest) =
      writing text (unescape 0 left (room - text.length) rest) := by
  induction text generalizing room with
  | nil =>
      change unescape 0 left room rest = writing [] (unescape 0 left room rest)
      cases run : unescape 0 left room rest with
      | error fault => rfl
      | ok read =>
          cases read <;> rfl
  | cons byte text ih =>
      rw [List.length_cons] at fits ⊢
      rw [List.cons_append, ← Nat.add_assoc, unescape_plain (plain byte List.mem_cons_self).2
        (by omega), ih (fun other member => plain other (List.mem_cons_of_mem byte member))
        (by omega), Nat.sub_sub, Nat.add_comm 1]
      cases unescape 0 left (room - (text.length + 1)) rest with
      | error fault => rfl
      | ok read =>
          cases read <;> rfl

theorem letter_byte {letter : UInt8} (known : (letter, character) ∈ letters) :
    letter ≠ 117 ∧ String.utf8EncodeChar character = [escapedByte letter] := by
  revert known
  simp only [letters, List.mem_cons, List.not_mem_nil, or_false, Prod.mk.injEq]
  rintro (⟨rfl, rfl⟩ | ⟨rfl, rfl⟩ | ⟨rfl, rfl⟩ | ⟨rfl, rfl⟩ | ⟨rfl, rfl⟩ | ⟨rfl, rfl⟩ |
    ⟨rfl, rfl⟩ | ⟨rfl, rfl⟩) <;> exact ⟨by decide, rfl⟩

theorem unescape_character (present : character ≠ Char.ofNat 0) (written : IsWritten character text)
    (fits : (String.utf8EncodeChar character).length ≤ room) (rest : List UInt8) :
    unescape 0 (left + text.length) room (text ++ rest) =
      writing (String.utf8EncodeChar character)
        (unescape 0 left (room - (String.utf8EncodeChar character).length) rest) := by
  have nonzero : character.toNat ≠ 0 := fun zero => present (Char.ext (UInt32.toNat.inj zero))
  have range := char_range character
  cases written with
  | plain quote backslash =>
      exact unescape_front (char_bytes_plain quote backslash present) fits rest
  | @letter letter known =>
      obtain ⟨other, bytes⟩ := letter_byte known
      rw [bytes] at fits ⊢
      have read : escape (left + 1) ([letter] ++ rest) =
          .ok (some ([escapedByte letter], [letter].length)) := if_neg other
      exact unescape_escape fits read
  | @code digits small hexText =>
      have read : escape (left + 5) ((117 :: digits) ++ rest) =
          .ok (some (String.utf8EncodeChar character, 5)) := by
        change unicodeEscape (left + 5) (digits ++ rest) = _
        unfold unicodeEscape
        rw [hexText.read, bind_ok, if_neg (by omega), if_neg (by omega), if_neg (by omega),
          utf8_bytes_char]
        rfl
      have length : (117 :: digits).length = 5 := by rw [List.length_cons, hexText.four]
      rw [← length] at read
      rw [List.length_cons, length]
      change unescape 0 (left + 5 + 1) room (92 :: ((117 :: digits) ++ rest)) = _
      rw [unescape_escape fits (by rw [length] at read ⊢; exact read), length, Nat.add_sub_cancel]
  | @pair high low large first second =>
      have read : escape (left + 11) ((117 :: (high ++ 92 :: 117 :: low)) ++ rest) =
          .ok (some (String.utf8EncodeChar character, 11)) := by
        change unicodeEscape (left + 11) ((high ++ 92 :: 117 :: low) ++ rest) = _
        have split : (high ++ 92 :: 117 :: low) ++ rest = high ++ 92 :: 117 :: (low ++ rest) := by
          simp
        unfold unicodeEscape
        rw [split, first.read, bind_ok, if_neg (by omega), if_neg (by omega), if_pos (by omega),
          if_neg (by omega), surrogate_pair_read second (by omega) (by omega) first.four,
          pair_code large (by omega), utf8_bytes_char]
      have length : (117 :: (high ++ 92 :: 117 :: low)).length = 11 := by
        simp [first.four, second.four]
      rw [List.length_cons, length]
      change unescape 0 (left + 11 + 1) room
        (92 :: ((117 :: (high ++ 92 :: 117 :: low)) ++ rest)) = _
      rw [unescape_escape fits (by rw [length]; exact read), length, Nat.add_sub_cancel]

theorem string_end_character (present : character ≠ Char.ofNat 0)
    (written : IsWritten character text) (rest : List UInt8) :
    ∃ grown, (String.utf8EncodeChar character).length ≤ grown ∧
      stringEnd (text ++ rest) = (stringEnd rest).map (advanced text.length grown) := by
  cases written with
  | plain quote backslash =>
      exact ⟨_, Nat.le_refl _, string_end_front (char_bytes_plain quote backslash present) rest⟩
  | @letter letter known =>
      obtain ⟨-, bytes⟩ := letter_byte known
      refine ⟨1, ?_, string_end_escape letter rest⟩
      rw [bytes]
      exact Nat.le_refl 1
  | @code digits small hexText =>
      refine ⟨5, ?_, ?_⟩
      · have short := utf8_bytes_short small
        rw [utf8_bytes_char] at short
        omega
      · rw [List.length_cons, List.length_cons, hexText.four]
        exact hexText.ends rest
  | @pair high low large first second =>
      refine ⟨10, ?_, ?_⟩
      · have short := utf8_bytes_length character.toNat
        rw [utf8_bytes_char] at short
        omega
      · have split : (92 :: 117 :: (high ++ 92 :: 117 :: low)) ++ rest =
            92 :: 117 :: (high ++ 92 :: 117 :: (low ++ rest)) := by
          simp
        rw [split, first.ends, second.ends, map_advanced]
        simp [first.four, second.four]

theorem written_text_read {characters : List Char} {texts : List (List UInt8)}
    (written : List.Forall₂ IsWritten characters texts)
    (present : ∀ character ∈ characters, character ≠ Char.ofNat 0) (rest : List UInt8) :
    ∃ len, (characters.flatMap String.utf8EncodeChar).length ≤ len ∧
      stringEnd (texts.flatten ++ 34 :: rest) = .ok (texts.flatten.length, len) ∧
      ∀ room, (characters.flatMap String.utf8EncodeChar).length < room →
        unescape 0 texts.flatten.length room (texts.flatten ++ 34 :: rest) =
          .ok (some (characters.flatMap String.utf8EncodeChar, 34 :: rest)) := by
  induction written with
  | nil =>
      exact ⟨0, Nat.le_refl 0, string_end_stop (.inl rfl) rest,
        fun room positive => unescape_done room positive _⟩
  | @cons character text characters texts written later ih =>
      obtain ⟨len, enough, ended, read⟩ := ih fun other member =>
        present other (List.mem_cons_of_mem character member)
      obtain ⟨grown, short, first⟩ := string_end_character (present character List.mem_cons_self)
        written (texts.flatten ++ 34 :: rest)
      refine ⟨len + grown, ?_, ?_, ?_⟩
      · rw [List.flatMap_cons, List.length_append]
        omega
      · rw [List.flatten_cons, List.append_assoc, first, ended, List.length_append,
          Nat.add_comm text.length]
        rfl
      · intro room fits
        rw [List.flatMap_cons, List.length_append] at fits
        rw [List.flatten_cons, List.append_assoc, List.length_append, Nat.add_comm text.length,
          unescape_character (present character List.mem_cons_self) written (by omega),
          read _ (by omega)]
        rfl

/-- A string is read as the UTF-8 text of its characters, each written as JSON lets it be. -/
theorem parse_string_characters {characters : List Char} {texts : List (List UInt8)}
    (written : List.Forall₂ IsWritten characters texts)
    (present : ∀ character ∈ characters, character ≠ Char.ofNat 0) (rest : List UInt8) :
    parseString (34 :: (texts.flatten ++ 34 :: rest)) =
      .ok (some (characters.flatMap String.utf8EncodeChar, rest)) := by
  obtain ⟨len, enough, ended, read⟩ := written_text_read written present rest
  have first : byteAt (34 :: (texts.flatten ++ 34 :: rest)) 0 = .ok 34 := rfl
  unfold parseString
  rw [first, bind_ok, if_neg (not_not.2 rfl), List.drop_one, List.tail_cons, ended, bind_ok]
  dsimp only
  rw [read (len + 1) (by omega), bind_ok]
  rfl

end Reading

theorem hex_text_of_all {digits : List UInt8} {code : Nat} (four : digits.length = 4)
    (checked : (digits.all fun digit => (hexValue digit).isSome) = true)
    (value : parseHex4 digits = .ok code) : HexText digits code where
  four := four
  hex digit member := Option.isSome_iff_ne_none.1 (List.all_eq_true.1 checked digit member)
  value := value

/-- A letter as it is, and a character that needs two escapes. -/
theorem parse_string_characters_pair :
    parseString (34 :: ([[97], asciiBytes "\\ud83D\\uDe00"].flatten ++ 34 :: [0])) =
      .ok (some ([97, 0xF0, 0x9F, 0x98, 0x80], [0])) := by
  refine @parse_string_characters ['a', Char.ofNat 0x1F600] _ ?_ ?_ [0]
  · refine .cons (.plain (by decide) (by decide)) (.cons ?_ .nil)
    exact @IsWritten.pair _ (asciiBytes "d83D") (asciiBytes "De00") (by decide)
      (hex_text_of_all rfl (by rfl) (by rfl)) (hex_text_of_all rfl (by rfl) (by rfl))
  · intro character member
    rcases List.mem_cons.1 member with rfl | last
    · decide
    · rw [List.mem_singleton.1 last]
      decide

end IotgoFirmware.Json.UnicodeTexts
