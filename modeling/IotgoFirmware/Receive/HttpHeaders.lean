import IotgoFirmware.Receive.SproHttp

/-!
# Numbers in HTTP headers

What a header says of the length of its package: where it ends, and the number of its
`Content-Length`. The number counts with its low 16 bits only, and these as a signed number.
-/

namespace IotgoFirmware.Receive.HttpHeaders

open IotgoFirmware.Library.CIntegers
open IotgoFirmware.Library.CStrings
open IotgoFirmware.Receive.SproHttp

set_option autoImplicit false

/-- The text behind the name and its blank. Where no blank stands behind the name it is the text
from the 15th byte of the buffer on. -/
def behindName (memory : List UInt8) : List UInt8 :=
  (cString memory).drop (((strstr memory contentLengthIs).map (· + 16)).getD 15)

/-- What stands there up to the end of the line. -/
def headerValue (memory : List UInt8) : List UInt8 :=
  (behindName memory).take ((findText crlf (behindName memory)).getD 0)

/-- A value of more than ten characters counts as 0. -/
def headerNumber (memory : List UInt8) : Int :=
  if 10 < (headerValue memory).length then 0 else atoi (headerValue memory)

def lowBits (number : Int) : Nat :=
  uint16 number

/-- The header ends at the position; one that a `sint16` takes for -1 does not count. -/
def HeaderEnds (memory : List UInt8) (position : Nat) : Prop :=
  strstr memory crlfcrlf = some position ∧ sint16 position ≠ -1

/-- `Content-Length` stands in front of the end of the header, for a `sint16`. -/
def Numbered (memory : List UInt8) (position : Nat) : Prop :=
  ∃ name, strstr memory contentLength = some name ∧ sint16 name ≠ -1 ∧ sint16 name ≤ sint16 position

/-- Of the packages that the buffer holds each one has a sound header. Without a number it lies
within the buffered bytes. A number is no harm while the bytes that it asks for are missing, or
if its low 16 bits are below 32768. Any other is to be taken back from the header: it leaves
something of it, or it goes below zero by so much that the bytes are there again. -/
inductive SoundHeaders : List UInt8 → Nat → Prop where
  | headless {memory : List UInt8} {available : Nat}
      (none : ∀ position, ¬HeaderEnds memory position) : SoundHeaders memory available
  | plain {memory : List UInt8} {available position : Nat} (ends : HeaderEnds memory position)
      (unnumbered : ¬Numbered memory position) (positive : 0 < (position + 4) % 65536)
      (inside : (position + 4) % 65536 ≤ available)
      (rest : SoundHeaders ((memory.take available).drop ((position + 4) % 65536))
        (available - (position + 4) % 65536)) : SoundHeaders memory available
  | waiting {memory : List UInt8} {available position : Nat} (ends : HeaderEnds memory position)
      (numbered : Numbered memory position)
      (short : (available : Int) < position + 4 + sint16 (headerNumber memory)) :
      SoundHeaders memory available
  | whole {memory : List UInt8} {available position : Nat} (ends : HeaderEnds memory position)
      (numbered : Numbered memory position)
      (complete : position + 4 + sint16 (headerNumber memory) ≤ (available : Int))
      (sound : lowBits (headerNumber memory) < 32768 ∨
        65536 < position + 4 + lowBits (headerNumber memory) ∨
        position + 4 + lowBits (headerNumber memory) ≤ available)
      (rest : SoundHeaders
        ((memory.take available).drop ((position + 4 + lowBits (headerNumber memory)) % 65536))
        (available - (position + 4 + lowBits (headerNumber memory)) % 65536)) :
      SoundHeaders memory available

section Values

variable {memory : List UInt8}

theorem value_start_inside (long : 15 ≤ strlen memory) :
    indexOf memory contentLengthIs + contentLengthIs.length =
        (((strstr memory contentLengthIs).map (· + 16)).getD 15 : Nat) ∧
      ((strstr memory contentLengthIs).map (· + 16)).getD 15 ≤ strlen memory := by
  have width : contentLengthIs.length = 16 := by decide
  cases found : strstr memory contentLengthIs with
  | none =>
      rw [index_of_none found, width]
      exact ⟨rfl, long⟩
  | some position =>
      have room := find_text_bound found
      rw [width] at room
      rw [index_of_some found, width]
      exact ⟨rfl, room⟩

theorem atoi_terminated {text : List UInt8} (more : List UInt8) : atoi (text ++ 0 :: more) = atoi text := by
  rw [atoi, atoi, c_string_append_nul]

theorem char_to_num_value (long : 15 ≤ strlen memory) :
    charToNum memory contentLengthIs crlf = headerNumber memory := by
  obtain ⟨start, inside⟩ := value_start_inside long
  have text : (cString memory).length = strlen memory := rfl
  unfold charToNum headerNumber headerValue behindName
  generalize ((strstr memory contentLengthIs).map (· + 16)).getD 15 = first at start inside ⊢
  rw [start]
  dsimp only
  rw [Int.toNat_natCast]
  have tail : strstr (memory.drop first) crlf = findText crlf ((cString memory).drop first) := by
    rw [strstr, c_string_drop inside]
  rcases found : findText crlf ((cString memory).drop first) with _ | stop
  · have nothing : subString (List.replicate 30 0) (cString memory) first (-1 + first) =
        [] ++ 0 :: List.replicate 29 0 := by
      have none : (min (-1 + (first : Int)) (strlen memory) - first).toNat = 0 := by omega
      unfold subString
      rw [strlen_c_string, if_neg (by omega)]
      dsimp only
      rw [none, List.take_zero]
      rfl
    rw [index_of_none (tail.trans found), sub_string_c_string inside, nothing, atoi_terminated,
      if_neg (by decide), Option.getD_none, List.take_zero]
    rfl
  · have room := find_text_bound found
    have width : crlf.length = 2 := rfl
    rw [List.length_drop, width] at room
    have length : (((cString memory).drop first).take stop).length = stop := by
      rw [List.length_take, List.length_drop]
      omega
    rw [index_of_some (tail.trans found), Option.getD_some, length]
    by_cases many : 10 < stop
    · rw [if_pos (by omega), if_pos many]
    · have count : (min ((stop : Int) + first) (strlen memory) - first).toNat = stop := by omega
      rw [if_neg (by omega), if_neg many, sub_string_c_string inside]
      unfold subString
      rw [strlen_c_string, if_neg (by omega)]
      dsimp only
      rw [count, Int.toNat_natCast, atoi_terminated]

end Values

section Verdicts

variable {memory : List UInt8} {available position : Nat}

theorem head_headless (none : ∀ position, ¬HeaderEnds memory position) :
    httpHead memory available = .noTerminator := by
  rw [http_no_terminator_iff]
  cases found : strstr memory crlfcrlf with
  | none => rw [index_of_none found]; rfl
  | some position =>
      rw [index_of_some found]
      by_contra ends
      exact none position ⟨found, ends⟩

theorem head_plain (ends : HeaderEnds memory position) (unnumbered : ¬Numbered memory position) :
    httpHead memory available = .package (position + 4) := by
  unfold httpHead
  rw [index_of_some ends.1]
  dsimp only
  rw [if_neg ends.2]
  cases named : strstr memory contentLength with
  | none =>
      rw [index_of_none named]
      exact if_neg (not_not.2 rfl)
  | some name =>
      rw [index_of_some named]
      by_cases counts : sint16 name = -1
      · rw [if_neg (not_not.2 counts)]
      · rw [if_pos counts, if_pos]
        by_contra before
        exact unnumbered ⟨name, named, counts, Int.not_lt.1 before⟩

theorem head_numbered (ends : HeaderEnds memory position) (numbered : Numbered memory position) :
    httpHead memory available =
      if position + 4 + sint16 (headerNumber memory) ≤ available then
        .package (sint16 (headerNumber memory) + position + 4)
      else .incomplete := by
  obtain ⟨name, named, counts, before⟩ := numbered
  unfold httpHead
  rw [index_of_some ends.1, index_of_some named,
    char_to_num_value (both_found_length ends.1 named)]
  dsimp only
  rw [if_neg ends.2, if_pos counts, if_neg (Int.not_lt.2 before)]
  refine if_congr ?_ rfl rfl
  omega

theorem uint16_of_low (number : Int) (position : Nat) :
    uint16 (sint16 number + position + 4) = (position + 4 + lowBits number) % 65536 := by
  unfold lowBits uint16 sint16
  omega

theorem uint16_of_position (position : Nat) :
    uint16 ((position : Int) + 4) = (position + 4) % 65536 := by
  unfold uint16
  omega

theorem sound_iff (small : available < 65536) {number : Int}
    (complete : position + 4 + sint16 number ≤ (available : Int)) :
    (0 < (position + 4 + lowBits number) % 65536 ∧
        (position + 4 + lowBits number) % 65536 ≤ available) ↔
      lowBits number < 32768 ∨ 65536 < position + 4 + lowBits number ∨
        position + 4 + lowBits number ≤ available := by
  have low : (sint16 number = lowBits number ∧ lowBits number < 32768) ∨
      (sint16 number = (lowBits number : Int) - 65536 ∧ 32768 ≤ lowBits number ∧
        lowBits number < 65536) := by
    unfold lowBits uint16 sint16
    omega
  rcases low with ⟨same, below⟩ | ⟨same, above, below⟩ <;> rw [same] at complete <;> omega

end Verdicts

end IotgoFirmware.Receive.HttpHeaders
