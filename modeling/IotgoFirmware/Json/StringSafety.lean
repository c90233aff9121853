import IotgoFirmware.Json.StringTexts
import Mathlib.Tactic.Ring

/-!
# Strings of cJSON in any text

The loop that looks for the end of a string passes over the byte behind a backslash, whatever
it is. In a text that does not end with a backslash it never passes over the terminator, and
what is written fits the memory that was taken for it.
-/

namespace IotgoFirmware.Json.StringSafety

open IotgoFirmware.Library.CStrings IotgoFirmware.Library.CFaults
open IotgoFirmware.Json.StringTexts

set_option autoImplicit false

/-- Memory up to the terminator of a text that does not end with a backslash. -/
def Terminated : List UInt8 → Prop
  | [] => False
  | [byte] => byte = 0
  | byte :: next :: rest => byte ≠ 0 ∧ (byte = 92 → next ≠ 0) ∧ Terminated (next :: rest)

section Memory

variable {byte next : UInt8} {text ptr front rest : List UInt8}

theorem terminated_of_text (nulFree : (0 : UInt8) ∉ text) (ends : text.getLast? ≠ some 92) :
    Terminated (text ++ [0]) := by
  induction text with
  | nil => rfl
  | cons byte text ih =>
      rw [List.mem_cons, not_or] at nulFree
      cases text with
      | nil =>
          refine ⟨Ne.symm nulFree.1, ?_, rfl⟩
          rintro rfl
          exact absurd rfl ends
      | cons next text =>
          rw [List.getLast?_cons_cons] at ends
          have other : next ≠ 0 := fun zero => nulFree.2 (zero ▸ List.mem_cons_self)
          exact ⟨Ne.symm nulFree.1, fun _ => other, ih nulFree.2 ends⟩

theorem terminated_ne_nil (terminated : Terminated ptr) : ptr ≠ [] := by
  rintro rfl
  exact terminated

theorem terminated_tail (terminated : Terminated (byte :: ptr)) (present : byte ≠ 0) :
    Terminated ptr := by
  cases ptr with
  | nil => exact absurd terminated present
  | cons next rest => exact terminated.2.2

/-- Behind a backslash there is a byte of the text. -/
theorem terminated_escape (terminated : Terminated (92 :: ptr)) :
    ∃ next rest, ptr = next :: rest ∧ next ≠ 0 ∧ Terminated rest := by
  cases ptr with
  | nil => exact absurd (show (92 : UInt8) = 0 from terminated) (by decide)
  | cons next rest =>
      have present := terminated.2.1 rfl
      exact ⟨next, rest, rfl, present, terminated_tail terminated.2.2 present⟩

theorem terminated_append (terminated : Terminated (front ++ ptr)) (nulFree : (0 : UInt8) ∉ front) :
    Terminated ptr := by
  induction front with
  | nil => exact terminated
  | cons byte front ih =>
      rw [List.mem_cons, not_or] at nulFree
      exact ih (terminated_tail terminated (Ne.symm nulFree.1)) nulFree.2

end Memory

section Digits

variable {str : List UInt8} {uc : Nat}

theorem hex_value_zero : hexValue 0 = none := rfl

/-- Digits end before the terminator. -/
theorem hex_digits_complete (count h : Nat) (terminated : Terminated str) :
    Completes (hexDigits count h str) := by
  induction count generalizing h str with
  | zero => exact completes_ok h
  | succ count ih =>
      obtain ⟨byte, str, rfl⟩ := List.exists_cons_of_ne_nil (terminated_ne_nil terminated)
      unfold hexDigits
      cases value : hexValue byte with
      | none => exact completes_ok 0
      | some digit =>
          have present : byte ≠ 0 := by
            rintro rfl
            rw [hex_value_zero] at value
            cases value
          exact ih _ (terminated_tail terminated present)

theorem hex_value_lt {byte : UInt8} {digit : Nat} (value : hexValue byte = some digit) :
    digit < 16 := by
  unfold hexValue at value
  simp only [UInt8.le_iff_toNat_le, UInt8.reduceToNat] at value
  split_ifs at value <;> cases value <;> omega

/-- A result other than zero comes from as many digits as were asked for. -/
theorem hex_digits_read {count h : Nat} (read : hexDigits count h str = .ok uc)
    (nonzero : uc ≠ 0) :
    ∃ front rest, str = front ++ rest ∧ front.length = count ∧
      (∀ byte ∈ front, hexValue byte ≠ none) ∧ uc < (h + 1) * 16 ^ count := by
  induction count generalizing h str with
  | zero =>
      cases read
      exact ⟨[], str, rfl, rfl, fun _ absent => absurd absent List.not_mem_nil, by simp⟩
  | succ count ih =>
      cases str with
      | nil => cases read
      | cons byte str =>
          unfold hexDigits at read
          cases value : hexValue byte with
          | none =>
              rw [value] at read
              cases read
              exact absurd rfl nonzero
          | some digit =>
              rw [value] at read
              obtain ⟨front, rest, rfl, length, digits, bound⟩ := ih read
              have small := hex_value_lt value
              refine ⟨byte :: front, rest, rfl, by simp [length], ?_, ?_⟩
              · intro other member
                rcases List.mem_cons.1 member with rfl | member
                · rw [value]
                  exact Option.some_ne_none digit
                · exact digits other member
              · have shifted : h <<< 4 + digit + 1 ≤ (h + 1) * 16 := by
                  rw [Nat.shiftLeft_eq]
                  omega
                calc uc < (h <<< 4 + digit + 1) * 16 ^ count := bound
                  _ ≤ (h + 1) * 16 * 16 ^ count := Nat.mul_le_mul_right _ shifted
                  _ = (h + 1) * 16 ^ (count + 1) := by ring

theorem parse_hex4_read (read : parseHex4 str = .ok uc) (nonzero : uc ≠ 0) :
    ∃ front rest, str = front ++ rest ∧ front.length = 4 ∧
      (∀ byte ∈ front, hexValue byte ≠ none) ∧ uc < 0x10000 :=
  hex_digits_read read nonzero

theorem hex_value_plain {byte : UInt8} (digit : hexValue byte ≠ none) :
    ¬ (byte = 34 ∨ byte = 0) ∧ byte ≠ 92 := by
  refine ⟨?_, ?_⟩
  · rintro (rfl | rfl) <;> exact digit rfl
  · rintro rfl
    exact digit rfl

end Digits

section Bytes

theorem marked_byte_ne_zero (uc : Nat) : markedByte uc ≠ 0 := by
  intro zero
  have value : ((uc ||| 0x80) &&& 0xBF) % 256 = 0 := by
    have read := congrArg UInt8.toNat zero
    rwa [markedByte, UInt8.toNat_ofNat'] at read
  have bit : (((uc ||| 0x80) &&& 0xBF) % 2 ^ 8).testBit 7 = true := by
    have mark : Nat.testBit 0x80 7 = true := by decide
    have mask : Nat.testBit 0xBF 7 = true := by decide
    rw [Nat.testBit_mod_two_pow, Nat.testBit_and, Nat.testBit_or, mark, mask]
    simp
  rw [show (2 : Nat) ^ 8 = 256 from rfl, value] at bit
  simp at bit

/-- The mark has the highest bit of the byte. -/
theorem first_byte_ne_zero (uc mark : Nat) (high : mark.testBit 7 = true) :
    UInt8.ofNat (uc ||| mark) ≠ 0 := by
  intro zero
  have value : (uc ||| mark) % 256 = 0 := by
    have read := congrArg UInt8.toNat zero
    rwa [UInt8.toNat_ofNat'] at read
  have bit : ((uc ||| mark) % 2 ^ 8).testBit 7 = true := by
    rw [Nat.testBit_mod_two_pow, Nat.testBit_or, high]
    simp
  rw [show (2 : Nat) ^ 8 = 256 from rfl, value] at bit
  simp at bit

theorem utf8_bytes_nul_free {uc : Nat} (nonzero : uc ≠ 0) : (0 : UInt8) ∉ utf8Bytes uc := by
  have marked : ∀ code, (0 : UInt8) ≠ markedByte code := fun code => (marked_byte_ne_zero code).symm
  unfold utf8Bytes
  split
  · rename_i small
    rw [Nat.or_zero, List.mem_singleton]
    intro zero
    have value := congrArg UInt8.toNat zero
    rw [UInt8.toNat_ofNat'] at value
    simp only [UInt8.reduceToNat] at value
    omega
  · split
    · simpa [marked] using (first_byte_ne_zero (uc >>> 6) 0xC0 (by decide)).symm
    · split
      · simpa [marked] using (first_byte_ne_zero (uc >>> 6 >>> 6) 0xE0 (by decide)).symm
      · simpa [marked] using
          (first_byte_ne_zero (uc >>> 6 >>> 6 >>> 6) 0xF0 (by decide)).symm

theorem utf8_bytes_length (uc : Nat) : (utf8Bytes uc).length ≤ 4 := by
  unfold utf8Bytes
  split_ifs <;> simp

theorem utf8_bytes_short {uc : Nat} (small : uc < 0x10000) : (utf8Bytes uc).length ≤ 3 := by
  unfold utf8Bytes
  rw [if_pos small]
  split_ifs <;> simp

end Bytes

section Escapes

variable {byte : UInt8} {ptr str front rest : List UInt8} {distance len left room : Nat}

theorem map_ok_iff {Value Result : Type} {run : Checked Value} {make : Value → Result}
    {result : Result} :
    run.map make = .ok result ↔ ∃ value, run = .ok value ∧ result = make value := by
  cases run with
  | error fault =>
      constructor
      · intro mapped
        cases mapped
      · rintro ⟨value, absent, -⟩
        cases absent
  | ok value =>
      constructor
      · intro mapped
        cases mapped
        exact ⟨value, rfl, rfl⟩
      · rintro ⟨other, same, rfl⟩
        cases same
        rfl

theorem string_end_front (plain : ∀ byte ∈ front, ¬ (byte = 34 ∨ byte = 0) ∧ byte ≠ 92)
    (rest : List UInt8) :
    stringEnd (front ++ rest) =
      (stringEnd rest).map (advanced front.length front.length) := by
  induction front with
  | nil =>
      cases ended : stringEnd rest with
      | error fault => rw [List.nil_append, ended]; rfl
      | ok ends => rw [List.nil_append, ended]; rfl
  | cons byte front ih =>
      have first := plain byte List.mem_cons_self
      rw [List.cons_append, string_end_plain first.1 first.2,
        ih fun other member => plain other (List.mem_cons_of_mem byte member), map_advanced]
      rfl

/-- What an escape of a code writes and takes, of a string that ends after `distance` bytes. -/
structure Taken (str : List UInt8) (distance len : Nat) (bytes front : List UInt8) : Prop where
  nulFree : (0 : UInt8) ∉ bytes
  behind : ∃ rest, str = front ++ rest ∧ Terminated rest ∧ ∃ further more,
    stringEnd rest = .ok (further, more) ∧ distance = further + front.length ∧
      bytes.length + more ≤ len + 1

theorem taken_of_plain {bytes : List UInt8} (terminated : Terminated (front ++ rest))
    (digits : ∀ byte ∈ front, hexValue byte ≠ none) (nulFree : (0 : UInt8) ∉ bytes)
    (short : bytes.length ≤ front.length + 1)
    (ended : stringEnd (front ++ rest) = .ok (distance, len)) :
    Taken (front ++ rest) distance len bytes front := by
  rw [string_end_front fun byte member => hex_value_plain (digits byte member), map_ok_iff]
    at ended
  obtain ⟨⟨further, more⟩, rests, same⟩ := ended
  cases same
  have behind := terminated_append terminated fun member => digits 0 member rfl
  exact ⟨nulFree, rest, rfl, behind, further, more, rests, rfl, by omega⟩

theorem byte_at_append (front : List UInt8) (byte : UInt8) (rest : List UInt8) :
    byteAt (front ++ byte :: rest) front.length = .ok byte := by
  unfold byteAt
  rw [List.getElem?_append_right (Nat.le_refl _), Nat.sub_self]
  rfl

/-- Nothing is taken, or what `Taken` says. -/
def Fitting (str : List UInt8) (distance len : Nat)
    (run : Checked (Option (List UInt8 × Nat))) : Prop :=
  run = .ok none ∨ ∃ bytes taken, run = .ok (some (bytes, taken.length + 1)) ∧
    Taken str distance len bytes taken

theorem surrogate_pair_fitting (terminated : Terminated (front ++ rest)) (four : front.length = 4)
    (digits : ∀ byte ∈ front, hexValue byte ≠ none)
    (ended : stringEnd (front ++ rest) = .ok (distance, len)) (uc : Nat) :
    Fitting (front ++ rest) distance len (surrogatePair uc (front ++ rest)) := by
  have behind := terminated_append terminated fun member => digits 0 member rfl
  obtain ⟨byte, more, rfl⟩ := List.exists_cons_of_ne_nil (terminated_ne_nil behind)
  have first : byteAt (front ++ byte :: more) 4 = .ok byte := by
    rw [← four]
    exact byte_at_append front byte more
  unfold surrogatePair
  rw [first, bind_ok]
  by_cases backslash : byte = 92
  swap
  · exact .inl (if_pos backslash)
  subst backslash
  obtain ⟨next, str, rfl, present, later⟩ := terminated_escape behind
  have second : byteAt (front ++ 92 :: next :: str) 5 = .ok next := by
    have read := byte_at_append (front ++ [92]) next str
    rwa [List.length_append, four, List.append_assoc] at read
  rw [if_neg (not_not.2 rfl), second, bind_ok]
  by_cases letter : next = 117
  swap
  · exact .inl (if_pos letter)
  subst letter
  have dropped : (front ++ 92 :: 117 :: str).drop 6 = str := by
    have split := @List.drop_left _ (front ++ [92, 117]) str
    rwa [List.length_append, four, List.append_assoc] at split
  obtain ⟨uc2, read⟩ := hex_digits_complete 4 0 later
  rw [if_neg (not_not.2 rfl), dropped, parseHex4, read, bind_ok]
  split
  · exact .inl rfl
  · rename_i range
    obtain ⟨digits2, rest, rfl, four2, hex2, -⟩ := parse_hex4_read read (by omega)
    have rests := terminated_append later fun member => hex2 0 member rfl
    rw [string_end_front fun byte member => hex_value_plain (digits byte member),
      string_end_escape, string_end_front fun byte member => hex_value_plain (hex2 byte member),
      map_advanced, map_advanced, map_ok_iff] at ended
    obtain ⟨⟨further, more⟩, readRest, same⟩ := ended
    cases same
    have short := utf8_bytes_length (0x10000 + ((uc &&& 0x3FF) <<< 10 ||| (uc2 &&& 0x3FF)))
    have length : (front ++ 92 :: 117 :: digits2).length = 10 := by
      simp [four, four2]
    right
    refine ⟨utf8Bytes (0x10000 + ((uc &&& 0x3FF) <<< 10 ||| (uc2 &&& 0x3FF))),
      front ++ 92 :: 117 :: digits2, by rw [length]; rfl, utf8_bytes_nul_free (by omega),
      rest, by simp, rests, further, more, readRest, ?_, by omega⟩
    rw [length, four, four2]

/-- An escape with a code writes no more bytes than `len` counts for it. -/
theorem unicode_escape_fitting (terminated : Terminated str)
    (ended : stringEnd str = .ok (distance, len)) (left : Nat) :
    Fitting str distance len (unicodeEscape left str) := by
  obtain ⟨uc, read⟩ := hex_digits_complete 4 0 terminated
  unfold unicodeEscape
  rw [parseHex4, read, bind_ok]
  split
  · exact .inl rfl
  · split
    · exact .inl rfl
    · rename_i valid
      rw [not_or] at valid
      obtain ⟨front, rest, rfl, four, digits, small⟩ := parse_hex4_read read valid.2
      split
      · split
        · exact .inl rfl
        · exact surrogate_pair_fitting terminated four digits ended uc
      · have short := utf8_bytes_short small
        right
        refine ⟨utf8Bytes uc, front, by rw [four]; rfl, ?_⟩
        exact taken_of_plain terminated digits (utf8_bytes_nul_free valid.2) (by omega) ended

theorem escaped_byte_ne_zero (present : byte ≠ 0) : escapedByte byte ≠ 0 := by
  unfold escapedByte
  split_ifs <;> first | decide | exact present

theorem escape_fitting (terminated : Terminated (92 :: str))
    (ended : stringEnd (92 :: str) = .ok (distance, len)) (left : Nat) :
    escape left str = .ok none ∨ ∃ bytes front rest further more,
      escape left str = .ok (some (bytes, front.length)) ∧ str = front ++ rest ∧
        (0 : UInt8) ∉ bytes ∧ Terminated rest ∧ stringEnd rest = .ok (further, more) ∧
        distance = further + front.length + 1 ∧ bytes.length + more ≤ len := by
  obtain ⟨next, str, rfl, present, later⟩ := terminated_escape terminated
  rw [string_end_escape, map_ok_iff] at ended
  obtain ⟨⟨further, more⟩, readRest, same⟩ := ended
  cases same
  by_cases letter : next = 117
  · subst letter
    rcases unicode_escape_fitting later readRest left with refused |
      ⟨bytes, front, written, nulFree, rest, rfl, behind, further, more, readBehind, rfl, short⟩
    · exact .inl refused
    · right
      refine ⟨bytes, 117 :: front, rest, further, more, written, rfl, nulFree, behind,
        readBehind, ?_, short⟩
      simp only [List.length_cons]
      omega
  · right
    refine ⟨[escapedByte next], [next], str, further, more, if_neg letter, rfl, ?_, later,
      readRest, rfl, ?_⟩
    · rw [List.mem_singleton]
      exact (escaped_byte_ne_zero present).symm
    · simp only [List.length_singleton]
      omega

/-- What the loop returns, for a string that starts at `ptr`. -/
structure Unescaped (ptr : List UInt8) (distance : Nat)
    (result : Option (List UInt8 × List UInt8)) : Prop where
  read : ∀ out rest, result = some (out, rest) →
    (0 : UInt8) ∉ out ∧ rest = ptr.drop distance ∧ Terminated rest

theorem unescaped_none (ptr : List UInt8) (distance : Nat) : Unescaped ptr distance none :=
  ⟨fun _ _ absent => by cases absent⟩

theorem unescaped_writing {bytes : List UInt8} {result : Option (List UInt8 × List UInt8)}
    (nulFree : (0 : UInt8) ∉ bytes) (later : Unescaped rest distance result) (front : List UInt8) :
    Unescaped (front ++ rest) (distance + front.length)
      (result.map fun read => (bytes ++ read.1, read.2)) := by
  constructor
  intro out behind same
  obtain ⟨⟨written, place⟩, known, pair⟩ := Option.map_eq_some_iff.1 same
  cases pair
  obtain ⟨free, drop, terminated⟩ := later.read written place known
  refine ⟨?_, ?_, terminated⟩
  · rw [List.mem_append, not_or]
    exact ⟨nulFree, free⟩
  · change place = _
    rw [drop, Nat.add_comm, ← List.drop_drop, List.drop_left]

/-- In a terminated text the loop of `parse_string` neither reads nor writes outside. -/
theorem unescape_completes (terminated : Terminated ptr)
    (ended : stringEnd ptr = .ok (distance, len)) (fits : len < room) :
    ∃ result, unescape 0 distance room ptr = .ok result ∧ Unescaped ptr distance result := by
  obtain ⟨bound, small⟩ : ∃ bound, ptr.length ≤ bound := ⟨_, Nat.le_refl _⟩
  induction bound generalizing ptr distance len room with
  | zero => exact absurd (List.eq_nil_of_length_eq_zero (by omega)) (terminated_ne_nil terminated)
  | succ bound ih =>
      obtain ⟨byte, str, rfl⟩ := List.exists_cons_of_ne_nil (terminated_ne_nil terminated)
      rw [List.length_cons] at small
      by_cases stop : byte = 34 ∨ byte = 0
      · rw [string_end_stop stop] at ended
        cases ended
        refine ⟨some ([], byte :: str), unescape_done room (by omega) _, ⟨?_⟩⟩
        intro out rest same
        cases same
        exact ⟨List.not_mem_nil, rfl, terminated⟩
      · have present : byte ≠ 0 := fun zero => stop (.inr zero)
        by_cases backslash : byte = 92
        · subst backslash
          obtain ⟨further, rfl⟩ : ∃ further, distance = further + 1 := by
            obtain ⟨next, rest, rfl, -, -⟩ := terminated_escape terminated
            rw [string_end_escape, map_ok_iff] at ended
            obtain ⟨ends, -, same⟩ := ended
            cases same
            exact ⟨ends.1 + 1, rfl⟩
          rcases escape_fitting terminated ended further with refused |
            ⟨bytes, front, rest, left, more, written, rfl, nulFree, behind, readRest, steps, short⟩
          · refine ⟨none, ?_, unescaped_none _ _⟩
            rw [unescape, if_neg (not_not.2 rfl), refused]
          · have shorter : rest.length ≤ bound := by
              rw [List.length_append] at small
              omega
            obtain ⟨result, run, unescaped⟩ :=
              ih behind readRest (show more < room - bytes.length by omega) shorter
            have left' : further - front.length = left := by omega
            refine ⟨result.map fun read => (bytes ++ read.1, read.2), ?_, ?_⟩
            · rw [unescape_escape (by omega) written, left', run]
              rfl
            · have whole := unescaped_writing nulFree unescaped (92 :: front)
              rwa [List.length_cons, ← Nat.add_assoc, ← steps] at whole
        · rw [string_end_plain stop backslash, map_ok_iff] at ended
          obtain ⟨⟨further, more⟩, readRest, same⟩ := ended
          cases same
          obtain ⟨result, run, unescaped⟩ := ih (terminated_tail terminated present) readRest
            (show more < room - 1 by omega) (by omega)
          refine ⟨result.map fun read => ([byte] ++ read.1, read.2), ?_, ?_⟩
          · change unescape 0 (further + 1) room (byte :: str) = _
            rw [unescape_plain backslash (by omega), run]
            rfl
          · exact unescaped_writing (by simpa using Ne.symm present) unescaped [byte]

theorem string_end_completes (terminated : Terminated ptr) : Completes (stringEnd ptr) := by
  obtain ⟨bound, small⟩ : ∃ bound, ptr.length ≤ bound := ⟨_, Nat.le_refl _⟩
  induction bound generalizing ptr with
  | zero => exact absurd (List.eq_nil_of_length_eq_zero (by omega)) (terminated_ne_nil terminated)
  | succ bound ih =>
      obtain ⟨byte, str, rfl⟩ := List.exists_cons_of_ne_nil (terminated_ne_nil terminated)
      rw [List.length_cons] at small
      by_cases stop : byte = 34 ∨ byte = 0
      · exact ⟨(0, 0), string_end_stop stop str⟩
      · by_cases backslash : byte = 92
        · subst backslash
          obtain ⟨next, rest, rfl, -, later⟩ := terminated_escape terminated
          rw [List.length_cons] at small
          obtain ⟨ends, read⟩ := ih later (by omega)
          exact ⟨advanced 2 1 ends, by rw [string_end_escape, read]; rfl⟩
        · have present : byte ≠ 0 := fun zero => stop (.inr zero)
          obtain ⟨ends, read⟩ := ih (terminated_tail terminated present) (by omega)
          exact ⟨advanced 1 1 ends, by rw [string_end_plain stop backslash, read]; rfl⟩

/-- Of any terminated text `parse_string` takes a string, or refuses it. -/
theorem parse_string_completes (terminated : Terminated str) :
    ∃ result, parseString str = .ok result ∧ ∀ text rest, result = some (text, rest) →
      (0 : UInt8) ∉ text ∧ Terminated rest ∧ ∃ front, str = front ++ rest ∧ front ≠ [] := by
  obtain ⟨byte, str, rfl⟩ := List.exists_cons_of_ne_nil (terminated_ne_nil terminated)
  have first : byteAt (byte :: str) 0 = .ok byte := rfl
  unfold parseString
  rw [first, bind_ok]
  by_cases quote : byte = 34
  swap
  · rw [if_pos quote]
    exact ⟨none, rfl, fun _ _ absent => by cases absent⟩
  subst quote
  have behind := terminated_tail terminated (by decide)
  obtain ⟨⟨distance, len⟩, ended⟩ := string_end_completes behind
  obtain ⟨result, run, unescaped⟩ := unescape_completes behind ended (Nat.lt_succ_self len)
  rw [if_neg (not_not.2 rfl), List.drop_one, List.tail_cons, ended, bind_ok]
  dsimp only
  rw [run, bind_ok]
  cases result with
  | none => exact ⟨none, rfl, fun _ _ absent => by cases absent⟩
  | some read =>
      obtain ⟨out, ptr⟩ := read
      obtain ⟨nulFree, place, later⟩ := unescaped.read out ptr rfl
      obtain ⟨last, more, rfl⟩ := List.exists_cons_of_ne_nil (terminated_ne_nil later)
      have seen : byteAt (last :: more) 0 = .ok last := rfl
      have split : (34 :: str) = (34 :: str.take distance) ++ last :: more := by
        rw [place, List.cons_append, List.take_append_drop]
      dsimp only
      rw [seen, bind_ok]
      split
      · rename_i closing
        refine ⟨some (out, more), rfl, ?_⟩
        intro text rest same
        cases same
        refine ⟨nulFree, terminated_tail later (by rw [closing]; decide),
          34 :: str.take distance ++ [last], ?_, by simp⟩
        simpa using split
      · refine ⟨some (out, last :: more), rfl, ?_⟩
        intro text rest same
        cases same
        exact ⟨nulFree, later, 34 :: str.take distance, split, by simp⟩

end Escapes

end IotgoFirmware.Json.StringSafety
