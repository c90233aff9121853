import IotgoFirmware.Library.CFaults
import Mathlib.Tactic.IntervalCases

/-!
# Strings of cJSON

`parse_string` and `print_string_ptr`. A pointer is the memory from it on; a read behind the
end of the memory and a write behind the end of the block that was allocated are faults.
What is printed is read back, and a text that does not end with a backslash is read without
a fault, whatever it holds.
-/

namespace IotgoFirmware.Json.StringTexts

open IotgoFirmware.Library.CStrings IotgoFirmware.Library.CFaults

set_option autoImplicit false

def byteAt (memory : List UInt8) (offset : Nat) : Checked UInt8 :=
  match memory[offset]? with
  | some byte => .ok byte
  | none => .error .outside

/-- The bytes and a terminator are written into a block of `len` bytes. -/
def allocated (len : Nat) (bytes : List UInt8) : Checked (List UInt8) :=
  if bytes.length < len then .ok bytes else .error .outside

def hexValue (byte : UInt8) : Option Nat :=
  if 48 ≤ byte ∧ byte ≤ 57 then some (byte.toNat - 48)
  else if 65 ≤ byte ∧ byte ≤ 70 then some (10 + byte.toNat - 65)
  else if 97 ≤ byte ∧ byte ≤ 102 then some (10 + byte.toNat - 97)
  else none

/-- `count` digits behind those that make `h`; another byte makes the result zero. -/
def hexDigits : Nat → Nat → List UInt8 → Checked Nat
  | 0, h, _ => .ok h
  | _ + 1, _, [] => .error .outside
  | count + 1, h, byte :: str =>
      match hexValue byte with
      | some digit => hexDigits count (h <<< 4 + digit) str
      | none => .ok 0

def parseHex4 (str : List UInt8) : Checked Nat :=
  hexDigits 4 0 str

/-- A byte behind the first one: `(uc | 0x80) & 0xBF`. -/
def markedByte (uc : Nat) : UInt8 :=
  UInt8.ofNat ((uc ||| 0x80) &&& 0xBF)

/-- The first byte has the mark of `firstByteMark`. -/
def utf8Bytes (uc : Nat) : List UInt8 :=
  if uc < 0x80 then [UInt8.ofNat (uc ||| 0x00)]
  else if uc < 0x800 then [UInt8.ofNat (uc >>> 6 ||| 0xC0), markedByte uc]
  else if uc < 0x10000 then
    [UInt8.ofNat (uc >>> 6 >>> 6 ||| 0xE0), markedByte (uc >>> 6), markedByte uc]
  else
    [UInt8.ofNat (uc >>> 6 >>> 6 >>> 6 ||| 0xF0), markedByte (uc >>> 6 >>> 6),
      markedByte (uc >>> 6), markedByte uc]

/-- Behind the first code of a surrogate pair, at `str`, stands the escape of the second. -/
def surrogatePair (uc : Nat) (str : List UInt8) : Checked (Option (List UInt8 × Nat)) := do
  if (← byteAt str 4) ≠ 92 then
    return none
  else if (← byteAt str 5) ≠ 117 then
    return none
  else
    let uc2 ← parseHex4 (str.drop 6)
    if uc2 < 0xDC00 ∨ 0xDFFF < uc2 then
      return none
    else
      return some (utf8Bytes (0x10000 + ((uc &&& 0x3FF) <<< 10 ||| (uc2 &&& 0x3FF))), 11)

/-- Behind the `u` of an escape; `left` bytes are between the `u` and the end of the string.
The result is what is written, and how many bytes it took from the `u` on. -/
def unicodeEscape (left : Nat) (str : List UInt8) : Checked (Option (List UInt8 × Nat)) := do
  let uc ← parseHex4 str
  if left ≤ 4 then
    return none
  else if (0xDC00 ≤ uc ∧ uc ≤ 0xDFFF) ∨ uc = 0 then
    return none
  else if 0xD800 ≤ uc ∧ uc ≤ 0xDBFF then
    if left < 10 then
      return none
    else
      surrogatePair uc str
  else
    return some (utf8Bytes uc, 5)

def escapedByte (byte : UInt8) : UInt8 :=
  if byte = 98 then 8
  else if byte = 102 then 12
  else if byte = 110 then 10
  else if byte = 114 then 13
  else if byte = 116 then 9
  else byte

/-- Behind a backslash. -/
def escape (left : Nat) : List UInt8 → Checked (Option (List UInt8 × Nat))
  | [] => .error .outside
  | byte :: str =>
      if byte = 117 then unicodeEscape left str else .ok (some ([escapedByte byte], 1))

/-- The distance to the end of the string, and the length for which memory is taken. -/
def stringEnd : List UInt8 → Checked (Nat × Nat)
  | [] => .error .outside
  | [byte] => if byte = 34 ∨ byte = 0 then .ok (0, 0) else .error .outside
  | byte :: next :: str =>
      if byte = 34 ∨ byte = 0 then .ok (0, 0)
      else if byte = 92 then do
        let (distance, len) ← stringEnd str
        return (distance + 2, len + 1)
      else do
        let (distance, len) ← stringEnd (next :: str)
        return (distance + 1, len + 1)

/-- The loop of `parse_string`: `left` bytes are before the end of the string, of which the
first `skip` are taken already, and `room` bytes are free in the block at `out`. -/
def unescape : Nat → Nat → Nat → List UInt8 → Checked (Option (List UInt8 × List UInt8))
  | 0, 0, room, ptr => if 0 < room then .ok (some ([], ptr)) else .error .outside
  | _, _, _, [] => .error .outside
  | skip + 1, left, room, _ :: ptr => unescape skip (left - 1) room ptr
  | 0, left + 1, room, byte :: ptr =>
      if byte ≠ 92 then
        if 0 < room then do
          let result ← unescape 0 left (room - 1) ptr
          return result.map fun (out, rest) => (byte :: out, rest)
        else .error .outside
      else
        match escape left ptr with
        | .error fault => .error fault
        | .ok none => .ok none
        | .ok (some (bytes, taken)) =>
            if bytes.length ≤ room then do
              let result ← unescape taken left (room - bytes.length) ptr
              return result.map fun (out, rest) => (bytes ++ out, rest)
            else .error .outside

/-- The string and the pointer behind it; `none` is a string that is refused. -/
def parseString (str : List UInt8) : Checked (Option (List UInt8 × List UInt8)) := do
  if (← byteAt str 0) ≠ 34 then
    return none
  else
    let (distance, len) ← stringEnd (str.drop 1)
    match ← unescape 0 distance (len + 1) (str.drop 1) with
    | none => return none
    | some (out, ptr) =>
        if (← byteAt ptr 0) = 34 then return some (out, ptr.drop 1) else return some (out, ptr)

/-- A digit of `%x`. -/
def lowerHex (digit : Nat) : UInt8 :=
  if digit < 10 then UInt8.ofNat (48 + digit) else UInt8.ofNat (87 + digit)

def isSpecial (token : UInt8) : Bool :=
  token ∈ [34, 92, 8, 12, 10, 13, 9]

/-- What is printed for a byte; `u%04x` for the control characters that have no letter. -/
def escapeByte (token : UInt8) : List UInt8 :=
  if 31 < token ∧ token ≠ 34 ∧ token ≠ 92 then [token]
  else if token = 92 then [92, 92]
  else if token = 34 then [92, 34]
  else if token = 8 then [92, 98]
  else if token = 12 then [92, 102]
  else if token = 10 then [92, 110]
  else if token = 13 then [92, 114]
  else if token = 9 then [92, 116]
  else [92, 117, 48, 48, lowerHex (token.toNat / 16), lowerHex (token.toNat % 16)]

def escapeSize (token : UInt8) : Nat :=
  if isSpecial token then 2 else if token < 32 then 6 else 1

/-- A text without anything to escape is copied at once. -/
def printStringPtr (str : List UInt8) : Checked (List UInt8) :=
  let text := cString str
  if text.any fun byte => (0 < byte && byte < 32) || byte == 34 || byte == 92 then
    allocated ((text.map escapeSize).sum + 3) (34 :: (text.flatMap escapeByte ++ [34]))
  else
    allocated (text.length + 3) (34 :: (text ++ [34]))

/-- The text of a string in quotation marks. -/
def quoted (text : List UInt8) : List UInt8 :=
  34 :: (text.flatMap escapeByte ++ [34])

section Printing

variable {token : UInt8} {text str : List UInt8}

theorem escape_byte_length (token : UInt8) : (escapeByte token).length = escapeSize token := by
  unfold escapeByte escapeSize isSpecial
  grind

theorem escape_byte_plain (present : token ≠ 0)
    (plain : ((0 < token && token < 32) || token == 34 || token == 92) = false) :
    escapeByte token = [token] := by
  unfold escapeByte
  simp only [Bool.or_eq_false_iff, Bool.and_eq_false_iff, decide_eq_false_iff_not,
    beq_eq_false_iff_ne, UInt8.lt_iff_toNat_lt] at plain
  have positive : token.toNat ≠ 0 := fun zero => present (UInt8.toNat.inj zero)
  have above : 31 < token := by
    rw [UInt8.lt_iff_toNat_lt]
    simp only [UInt8.reduceToNat] at plain ⊢
    omega
  rw [if_pos ⟨above, plain.1.2, plain.2⟩]

theorem flat_map_escape_length (text : List UInt8) :
    (text.flatMap escapeByte).length = (text.map escapeSize).sum := by
  rw [List.length_flatMap]
  congr 1
  exact List.map_congr_left fun token _ => escape_byte_length token

/-- The memory that is taken for a printed string holds it, and the copied text is the one
that would have been made byte by byte. -/
theorem print_string_ok (str : List UInt8) :
    printStringPtr str = .ok (quoted (cString str)) := by
  have nulFree := c_string_nul_free str
  unfold printStringPtr
  dsimp only
  split
  · rw [allocated, if_pos, quoted]
    simp only [List.length_cons, List.length_append, flat_map_escape_length,
      List.length_nil]
    omega
  · rename_i ordinary
    have same : (cString str).flatMap escapeByte = cString str := by
      conv_rhs => rw [← List.flatMap_singleton' (cString str)]
      apply List.flatMap_congr
      intro token member
      apply escape_byte_plain (ne_of_mem_of_not_mem member nulFree)
      rw [Bool.not_eq_true, List.any_eq_false] at ordinary
      simpa using ordinary token member
    rw [allocated, if_pos, quoted, same]
    simp

end Printing

section Reading

variable {byte token : UInt8} {text ptr rest : List UInt8} {left room : Nat}

/-- The string goes on by `steps` bytes, for which `len` grows by `grown`. -/
def advanced (steps grown : Nat) (ends : Nat × Nat) : Nat × Nat :=
  (ends.1 + steps, ends.2 + grown)

theorem string_end_stop (stop : byte = 34 ∨ byte = 0) (rest : List UInt8) :
    stringEnd (byte :: rest) = .ok (0, 0) := by
  cases rest with
  | nil => exact if_pos stop
  | cons next rest => exact if_pos stop

theorem string_end_plain (plain : ¬ (byte = 34 ∨ byte = 0)) (other : byte ≠ 92)
    (rest : List UInt8) : stringEnd (byte :: rest) = (stringEnd rest).map (advanced 1 1) := by
  cases rest with
  | nil => exact if_neg plain
  | cons next rest =>
      rw [stringEnd, if_neg plain, if_neg other]
      cases stringEnd (next :: rest) <;> rfl

theorem string_end_escape (next : UInt8) (rest : List UInt8) :
    stringEnd (92 :: next :: rest) = (stringEnd rest).map (advanced 2 1) := by
  rw [stringEnd, if_neg (by decide), if_pos rfl]
  cases stringEnd rest <;> rfl

theorem map_advanced (first grown second more : Nat) (run : Checked (Nat × Nat)) :
    (run.map (advanced first grown)).map (advanced second more) =
      run.map (advanced (first + second) (grown + more)) := by
  cases run with
  | error fault => rfl
  | ok ends =>
      change Except.ok _ = Except.ok _
      simp [advanced, Nat.add_assoc]

theorem unescape_done (room : Nat) (positive : 0 < room) (ptr : List UInt8) :
    unescape 0 0 room ptr = .ok (some ([], ptr)) := by
  unfold unescape
  exact if_pos positive

theorem unescape_skip (front ptr : List UInt8) (left room : Nat) :
    unescape front.length left room (front ++ ptr) = unescape 0 (left - front.length) room ptr := by
  induction front generalizing left with
  | nil => rfl
  | cons byte front ih =>
      rw [List.length_cons, List.cons_append, unescape, ih]
      congr 1
      omega

/-- Bytes are written, and the rest of the string follows. -/
def writing (bytes : List UInt8) (run : Checked (Option (List UInt8 × List UInt8))) :
    Checked (Option (List UInt8 × List UInt8)) :=
  run.map (Option.map fun read => (bytes ++ read.1, read.2))

theorem unescape_plain (other : byte ≠ 92) (positive : 0 < room) (ptr : List UInt8) :
    unescape 0 (left + 1) room (byte :: ptr) =
      writing [byte] (unescape 0 left (room - 1) ptr) := by
  rw [unescape, if_pos other, if_pos positive]
  cases unescape 0 left (room - 1) ptr <;> rfl

theorem unescape_escape {bytes front : List UInt8} (fits : bytes.length ≤ room)
    (read : escape left (front ++ ptr) = .ok (some (bytes, front.length))) :
    unescape 0 (left + 1) room (92 :: (front ++ ptr)) =
      writing bytes (unescape 0 (left - front.length) (room - bytes.length) ptr) := by
  rw [unescape, if_neg (not_not.2 rfl), read]
  dsimp only
  rw [if_pos fits, unescape_skip]
  cases unescape 0 (left - front.length) (room - bytes.length) ptr <;> rfl

theorem hex_value_lower {digit : Nat} (small : digit < 16) :
    hexValue (lowerHex digit) = some digit := by
  interval_cases digit <;> rfl

theorem unicode_escape_control (small : token < 32) (present : token ≠ 0) (far : 4 < left)
    (ptr : List UInt8) :
    unicodeEscape left (48 :: 48 :: lowerHex (token.toNat / 16) :: lowerHex (token.toNat % 16) ::
      ptr) = .ok (some ([token], 5)) := by
  have bound : token.toNat < 32 := by
    simpa [UInt8.lt_iff_toNat_lt] using small
  have positive : token.toNat ≠ 0 := fun zero => present (UInt8.toNat.inj zero)
  have digits : parseHex4 (48 :: 48 :: lowerHex (token.toNat / 16) ::
      lowerHex (token.toNat % 16) :: ptr) = .ok token.toNat := by
    have zero : hexValue 48 = some 0 := rfl
    have high := hex_value_lower (show token.toNat / 16 < 16 by omega)
    have low := hex_value_lower (show token.toNat % 16 < 16 by omega)
    simp only [parseHex4, hexDigits, zero, high, low]
    congr 1
    simp only [Nat.shiftLeft_eq]
    omega
  unfold unicodeEscape
  rw [digits, bind_ok, if_neg (by omega), if_neg (by omega), if_neg (by omega)]
  have same : utf8Bytes token.toNat = [token] := by
    rw [utf8Bytes, if_pos (by omega), Nat.or_zero, UInt8.ofNat_toNat]
  rw [same]
  rfl

theorem escape_byte_cases (token : UInt8) :
    (escapeByte token = [token] ∧ token ≠ 34 ∧ token ≠ 92) ∨
      (∃ letter, escapeByte token = [92, letter] ∧ letter ≠ 117 ∧ escapedByte letter = token) ∨
      (escapeByte token = [92, 117, 48, 48, lowerHex (token.toNat / 16),
        lowerHex (token.toNat % 16)] ∧ token < 32) := by
  by_cases plain : 31 < token ∧ token ≠ 34 ∧ token ≠ 92
  · exact .inl ⟨if_pos plain, plain.2⟩
  · right
    by_cases special : isSpecial token = true
    · left
      simp only [isSpecial, List.mem_cons, List.not_mem_nil, or_false, decide_eq_true_eq]
        at special
      rcases special with rfl | rfl | rfl | rfl | rfl | rfl | rfl
      · exact ⟨34, rfl, by decide, rfl⟩
      · exact ⟨92, rfl, by decide, rfl⟩
      · exact ⟨98, rfl, by decide, rfl⟩
      · exact ⟨102, rfl, by decide, rfl⟩
      · exact ⟨110, rfl, by decide, rfl⟩
      · exact ⟨114, rfl, by decide, rfl⟩
      · exact ⟨116, rfl, by decide, rfl⟩
    · right
      simp only [isSpecial, List.mem_cons, List.not_mem_nil, or_false, decide_eq_true_eq,
        not_or] at special
      obtain ⟨quote, backslash, back, feed, line, carriage, tab⟩ := special
      refine ⟨?_, ?_⟩
      · rw [escapeByte, if_neg plain, if_neg backslash, if_neg quote, if_neg back, if_neg feed,
          if_neg line, if_neg carriage, if_neg tab]
      · by_contra large
        apply plain
        refine ⟨?_, quote, backslash⟩
        simp only [UInt8.lt_iff_toNat_lt, UInt8.reduceToNat] at large ⊢
        omega

theorem hex_digit_goes_on {digit : Nat} (small : digit < 16) :
    ¬ (lowerHex digit = 34 ∨ lowerHex digit = 0) ∧ lowerHex digit ≠ 92 := by
  interval_cases digit <;> decide

theorem string_end_escape_byte (present : token ≠ 0) (rest : List UInt8) :
    ∃ grown, 1 ≤ grown ∧ stringEnd (escapeByte token ++ rest) =
      (stringEnd rest).map (advanced (escapeByte token).length grown) := by
  rcases escape_byte_cases token with ⟨text, quote, backslash⟩ | ⟨letter, text, -, -⟩ |
    ⟨text, -⟩
  · rw [text]
    exact ⟨1, Nat.le_refl 1, string_end_plain (not_or.2 ⟨quote, present⟩) backslash rest⟩
  · rw [text]
    exact ⟨1, Nat.le_refl 1, string_end_escape letter rest⟩
  · have high := hex_digit_goes_on (show token.toNat / 16 < 16 by have := token.toNat_lt; omega)
    have low := hex_digit_goes_on (show token.toNat % 16 < 16 by omega)
    rw [text]
    refine ⟨5, by decide, ?_⟩
    simp only [List.cons_append, List.nil_append]
    rw [string_end_escape, string_end_plain (by decide) (by decide),
      string_end_plain (by decide) (by decide), string_end_plain high.1 high.2,
      string_end_plain low.1 low.2, map_advanced, map_advanced, map_advanced, map_advanced]
    rfl

theorem unescape_escape_byte (present : token ≠ 0) (positive : 0 < room) (left : Nat)
    (ptr : List UInt8) :
    unescape 0 (left + (escapeByte token).length) room (escapeByte token ++ ptr) =
      writing [token] (unescape 0 left (room - 1) ptr) := by
  rcases escape_byte_cases token with ⟨text, -, backslash⟩ | ⟨letter, text, other, same⟩ |
    ⟨text, small⟩
  · rw [text]
    exact unescape_plain backslash positive ptr
  · have read : escape (left + 1) ([letter] ++ ptr) = .ok (some ([token], [letter].length)) := by
      change (if letter = 117 then _ else _) = _
      rw [if_neg other, same]
      rfl
    rw [text]
    exact unescape_escape positive read
  · have read : escape (left + 5) ([117, 48, 48, lowerHex (token.toNat / 16),
        lowerHex (token.toNat % 16)] ++ ptr) = .ok (some ([token], 5)) :=
      unicode_escape_control small present (by omega) ptr
    rw [text]
    exact unescape_escape positive read

theorem string_end_flat_map (nulFree : (0 : UInt8) ∉ text) (rest : List UInt8) :
    ∃ len, text.length ≤ len ∧ stringEnd (text.flatMap escapeByte ++ 34 :: rest) =
      .ok ((text.flatMap escapeByte).length, len) := by
  induction text with
  | nil => exact ⟨0, Nat.le_refl 0, string_end_stop (.inl rfl) rest⟩
  | cons token text ih =>
      rw [List.mem_cons, not_or] at nulFree
      obtain ⟨len, enough, ended⟩ := ih nulFree.2
      obtain ⟨grown, positive, step⟩ := string_end_escape_byte (Ne.symm nulFree.1)
        (text.flatMap escapeByte ++ 34 :: rest)
      refine ⟨len + grown, by simp only [List.length_cons]; omega, ?_⟩
      rw [List.flatMap_cons, List.append_assoc, step, ended, List.length_append,
        Nat.add_comm (escapeByte token).length]
      rfl

theorem unescape_flat_map (nulFree : (0 : UInt8) ∉ text) (fits : text.length < room)
    (ptr : List UInt8) :
    unescape 0 (text.flatMap escapeByte).length room (text.flatMap escapeByte ++ ptr) =
      .ok (some (text, ptr)) := by
  induction text generalizing room with
  | nil => exact unescape_done room fits ptr
  | cons token text ih =>
      rw [List.mem_cons, not_or] at nulFree
      rw [List.length_cons] at fits
      rw [List.flatMap_cons, List.append_assoc, List.length_append,
        Nat.add_comm (escapeByte token).length,
        unescape_escape_byte (Ne.symm nulFree.1) (by omega), ih nulFree.2 (by omega)]
      rfl

theorem parse_string_quoted (nulFree : (0 : UInt8) ∉ text) (rest : List UInt8) :
    parseString (quoted text ++ rest) = .ok (some (text, rest)) := by
  obtain ⟨len, enough, ended⟩ := string_end_flat_map nulFree rest
  have whole : quoted text ++ rest = 34 :: (text.flatMap escapeByte ++ 34 :: rest) := by
    simp [quoted]
  have first : byteAt (quoted text ++ rest) 0 = .ok 34 := by
    rw [whole]
    rfl
  have behind : (quoted text ++ rest).drop 1 = text.flatMap escapeByte ++ 34 :: rest := by
    rw [whole]
    rfl
  unfold parseString
  rw [first, bind_ok, if_neg (not_not.2 rfl), behind, ended, bind_ok]
  dsimp only
  rw [unescape_flat_map nulFree (by omega), bind_ok]
  rfl

end Reading

end IotgoFirmware.Json.StringTexts
