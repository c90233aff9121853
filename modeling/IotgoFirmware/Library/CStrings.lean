import Mathlib.Data.List.Infix
import Mathlib.Data.List.TakeWhile
import Mathlib.Algebra.Order.Group.Nat
import Mathlib.Tactic.Linarith

/-!
# NUL-terminated strings in memory

A pointer is the list of bytes found from it on; the C string there is what
precedes the first NUL. A list that ends without a NUL is read as if one
followed. `atoi` is the conversion of the C library: blanks, a sign, decimal
digits, and a result clamped to 32 bits.
-/

namespace IotgoFirmware.Library.CStrings

set_option autoImplicit false

def cString (memory : List UInt8) : List UInt8 :=
  memory.takeWhile (· ≠ 0)

def asciiBytes (text : String) : List UInt8 :=
  text.toList.map fun character => UInt8.ofNat character.toNat

def strlen (memory : List UInt8) : Nat :=
  (cString memory).length

/-- The first position at which the pattern stands. -/
def findText (pattern text : List UInt8) : Option Nat :=
  text.tails.findIdx? fun tail => pattern.isPrefixOf tail

def strstr (memory pattern : List UInt8) : Option Nat :=
  findText pattern (cString memory)

def isBlank (byte : UInt8) : Bool :=
  byte = 32 || (9 ≤ byte && byte ≤ 13)

def isDigit (byte : UInt8) : Bool :=
  48 ≤ byte && byte ≤ 57

def digitsValue (digits : List UInt8) : Nat :=
  digits.foldl (fun value digit => 10 * value + (digit.toNat - 48)) 0

def clampInt (value : Int) : Int :=
  max (-2147483648) (min 2147483647 value)

def atoi (memory : List UInt8) : Int :=
  match (cString memory).dropWhile isBlank with
  | 45 :: rest => clampInt (-(digitsValue (rest.takeWhile isDigit) : Int))
  | 43 :: rest => clampInt (digitsValue (rest.takeWhile isDigit))
  | text => clampInt (digitsValue (text.takeWhile isDigit))

theorem find_text_some_iff {pattern text : List UInt8} {index : Nat} :
    findText pattern text = some index ↔
      index ≤ text.length ∧ pattern <+: text.drop index ∧
        ∀ earlier < index, ¬ pattern <+: text.drop earlier := by
  rw [findText, List.findIdx?_eq_some_iff_getElem]
  simp only [List.length_tails, List.getElem_tails, List.isPrefixOf_iff_prefix]
  constructor
  · rintro ⟨bound, here, first⟩
    exact ⟨Nat.le_of_lt_succ bound, here, first⟩
  · rintro ⟨bound, here, first⟩
    exact ⟨Nat.lt_succ_of_le bound, here, first⟩

theorem find_text_none_iff {pattern text : List UInt8} :
    findText pattern text = none ↔ ∀ index ≤ text.length, ¬ pattern <+: text.drop index := by
  rw [findText, List.findIdx?_eq_none_iff]
  constructor
  · intro absent index bound here
    have listed := absent _ ((List.mem_tails _ _).2 (List.drop_suffix index text))
    rw [List.isPrefixOf_iff_prefix.2 here] at listed
    exact absurd listed (by decide)
  · intro absent tail listed
    rw [Bool.eq_false_iff]
    intro here
    obtain ⟨front, split⟩ := (List.mem_tails _ _).1 listed
    refine absent front.length (by simp [← split]) ?_
    rw [← split, List.drop_left]
    exact List.isPrefixOf_iff_prefix.1 here

theorem find_text_bound {pattern text : List UInt8} {index : Nat}
    (found : findText pattern text = some index) : index + pattern.length ≤ text.length := by
  obtain ⟨bound, here, -⟩ := find_text_some_iff.1 found
  have fits := here.length_le
  simp only [List.length_drop] at fits
  omega

/-- A first occurrence stays the first when more text follows. -/
theorem find_text_append {pattern text : List UInt8} {index : Nat} (more : List UInt8)
    (found : findText pattern text = some index) :
    findText pattern (text ++ more) = some index := by
  have room := find_text_bound found
  obtain ⟨bound, here, first⟩ := find_text_some_iff.1 found
  refine find_text_some_iff.2 ⟨by simp; omega, ?_, ?_⟩
  · rw [List.drop_append_of_le_length bound]
    exact here.trans (List.prefix_append _ _)
  · intro earlier before here'
    refine first earlier before ?_
    rw [List.drop_append_of_le_length (by omega)] at here'
    exact List.prefix_of_prefix_length_le here' (List.prefix_append _ _) (by simp; omega)

/-- Text without the pattern contains it, once extended, only past its end. -/
theorem find_text_past {pattern text more : List UInt8} {index : Nat}
    (absent : findText pattern text = none)
    (found : findText pattern (text ++ more) = some index) :
    text.length < index + pattern.length := by
  by_contra inside
  have room : index ≤ text.length := by omega
  obtain ⟨-, here, -⟩ := find_text_some_iff.1 found
  rw [List.drop_append_of_le_length room] at here
  exact find_text_none_iff.1 absent index room
    (List.prefix_of_prefix_length_le here (List.prefix_append _ _) (by simp; omega))

/-- A pattern stands first where its first byte does. -/
theorem find_text_first {first : UInt8} {front : List UInt8} (pattern more : List UInt8)
    (absent : first ∉ front) :
    findText (first :: pattern) (front ++ (first :: pattern ++ more)) = some front.length := by
  apply find_text_some_iff.2
  constructor
  · simp
  · constructor
    · rw [List.drop_left]
      exact List.prefix_append _ _
    · intro earlier before here
      have byte := here.getElem (show 0 < (first :: pattern).length by simp)
      rw [List.getElem_cons_zero, List.getElem_drop, List.getElem_append_left (by omega)] at byte
      exact absent (byte ▸ List.getElem_mem _)

/-- A pattern cannot reach across a byte it does not have. -/
theorem find_text_behind {pattern text more : List UInt8} {last : UInt8} {index : Nat}
    (ends : text.getLast? = some last) (foreign : last ∉ pattern)
    (absent : findText pattern text = none)
    (found : findText pattern (text ++ more) = some index) : text.length ≤ index := by
  by_contra inside
  have past := find_text_past absent found
  rcases find_text_some_iff.1 found with ⟨-, here, -⟩
  have reached : text.length - 1 - index < pattern.length := by omega
  have byte := here.getElem reached
  rw [List.getLast?_eq_getElem?] at ends
  rcases List.getElem?_eq_some_iff.1 ends with ⟨bound, same⟩
  have position : index + (text.length - 1 - index) = text.length - 1 := by omega
  simp only [List.getElem_drop, position] at byte
  rw [List.getElem_append_left bound, same] at byte
  exact foreign (byte ▸ List.getElem_mem reached)

theorem c_string_nul_free (memory : List UInt8) : (0 : UInt8) ∉ cString memory := by
  intro member
  simpa using List.mem_takeWhile_imp member

theorem c_string_of_nul_free {text : List UInt8} (nulFree : (0 : UInt8) ∉ text) :
    cString text = text := by
  refine List.takeWhile_eq_self_iff.2 fun byte member => ?_
  simpa using ne_of_mem_of_not_mem member nulFree

theorem c_string_terminated {text : List UInt8} (more : List UInt8)
    (nulFree : (0 : UInt8) ∉ text) : cString (text ++ 0 :: more) = text := by
  rw [cString, List.takeWhile_append_of_pos]
  · simp
  · intro byte member
    simpa using ne_of_mem_of_not_mem member nulFree

@[simp] theorem c_string_idem (memory : List UInt8) : cString (cString memory) = cString memory :=
  c_string_of_nul_free (c_string_nul_free memory)

theorem c_string_append_nul (text more : List UInt8) :
    cString (text ++ 0 :: more) = cString text := by
  induction text with
  | nil => simp [cString]
  | cons byte text ih =>
      by_cases zero : byte = 0
      · simp [cString, zero]
      · simpa [cString, zero] using ih

theorem c_string_append {text : List UInt8} (more : List UInt8) (nulFree : (0 : UInt8) ∉ text) :
    cString (text ++ more) = text ++ cString more := by
  rw [cString, List.takeWhile_append_of_pos]
  · rfl
  · intro byte member
    simpa using ne_of_mem_of_not_mem member nulFree

/-- A byte is found where it stands first. -/
theorem strstr_byte {byte : UInt8} {front more : List UInt8} (nulFree : (0 : UInt8) ∉ front)
    (present : byte ≠ 0) (absent : byte ∉ front) :
    strstr (front ++ byte :: more) [byte] = some front.length := by
  have whole : cString (byte :: more) = byte :: cString more := by
    simp [cString, present]
  rw [strstr, c_string_append _ nulFree, whole]
  exact find_text_first [] (cString more) absent

theorem strstr_byte_none {byte : UInt8} {text : List UInt8} (absent : byte ∉ cString text) :
    strstr text [byte] = none := by
  apply find_text_none_iff.2
  intro index bound here
  have member := here.subset (List.mem_singleton_self byte)
  exact absent (List.mem_of_mem_drop member)

/-- A NUL, or the end of memory, behind the text. -/
theorem c_string_append_empty (text : List UInt8) {more : List UInt8} (empty : cString more = []) :
    cString (text ++ more) = cString text := by
  cases more with
  | nil => rw [List.append_nil]
  | cons byte more =>
      have nul : byte = 0 := by
        by_contra other
        simp [cString, other] at empty
      rw [nul]
      exact c_string_append_nul text more

theorem c_string_drop {memory : List UInt8} {index : Nat} (inside : index ≤ strlen memory) :
    cString (memory.drop index) = (cString memory).drop index := by
  induction index generalizing memory with
  | zero => simp
  | succ index ih =>
      cases memory with
      | nil => simp [cString]
      | cons byte memory =>
          by_cases zero : byte = 0
          · simp [strlen, cString, zero] at inside
          · have tail : index ≤ strlen memory := by
              simpa [strlen, cString, zero] using inside
            have rest := ih tail
            simpa [cString, zero] using rest

theorem c_string_front (memory : List UInt8) : cString memory <+: memory :=
  List.takeWhile_prefix _

@[simp] theorem strstr_c_string (memory pattern : List UInt8) :
    strstr (cString memory) pattern = strstr memory pattern := by
  simp [strstr]

theorem strlen_le_length (memory : List UInt8) : strlen memory ≤ memory.length :=
  (List.takeWhile_prefix _).length_le

@[simp] theorem strlen_c_string (memory : List UInt8) :
    strlen (cString memory) = strlen memory := by
  simp [strlen]

def decimalText (number : Nat) : List UInt8 :=
  if number < 10 then [UInt8.ofNat (48 + number)]
  else decimalText (number / 10) ++ [UInt8.ofNat (48 + number % 10)]

theorem digit_byte {digit : Nat} (small : digit < 10) :
    (UInt8.ofNat (48 + digit)).toNat = 48 + digit := by
  rw [UInt8.toNat_ofNat']
  omega

theorem is_digit_iff (byte : UInt8) :
    isDigit byte = true ↔ 48 ≤ byte.toNat ∧ byte.toNat ≤ 57 := by
  simp [isDigit, UInt8.le_iff_toNat_le]

theorem decimal_text_digits (number : Nat) : ∀ byte ∈ decimalText number, isDigit byte = true := by
  induction number using Nat.strongRecOn with
  | ind number ih =>
      intro byte member
      rw [decimalText] at member
      split at member
      · rename_i small
        rw [List.mem_singleton] at member
        subst member
        rw [is_digit_iff, digit_byte small]
        omega
      · rcases List.mem_append.1 member with front | last
        · exact ih (number / 10) (by omega) byte front
        · rw [List.mem_singleton] at last
          subst last
          rw [is_digit_iff, digit_byte (Nat.mod_lt _ (by decide))]
          omega

theorem decimal_text_value (number : Nat) : digitsValue (decimalText number) = number := by
  induction number using Nat.strongRecOn with
  | ind number ih =>
      rw [decimalText]
      split
      · rename_i small
        simp only [digitsValue, List.foldl_cons, List.foldl_nil, digit_byte small]
        omega
      · have front := ih (number / 10) (by omega)
        simp only [digitsValue] at front ⊢
        rw [List.foldl_append, front]
        simp only [List.foldl_cons, List.foldl_nil,
          digit_byte (Nat.mod_lt number (by decide : 10 > 0))]
        omega

theorem decimal_text_ne_nil (number : Nat) : decimalText number ≠ [] := by
  rw [decimalText]
  split <;> simp

theorem decimal_text_length {number width : Nat} (positive : 0 < width)
    (small : number < 10 ^ width) : (decimalText number).length ≤ width := by
  induction width generalizing number with
  | zero => omega
  | succ width ih =>
      rw [decimalText]
      split
      · simp
      · have wide : 0 < width := by
          rcases Nat.eq_zero_or_pos width with rfl | wide
          · omega
          · exact wide
        have quotient : number / 10 < 10 ^ width :=
          (Nat.div_lt_iff_lt_mul (by decide)).2 (by simpa [pow_succ] using small)
        have shorter := ih wide quotient
        simpa using shorter

theorem clamp_int_le (value : Int) : clampInt value ≤ 2147483647 := by
  unfold clampInt
  omega

theorem atoi_le (memory : List UInt8) : atoi memory ≤ 2147483647 := by
  unfold atoi
  split <;> exact clamp_int_le _

theorem digit_not_blank {byte : UInt8} (digit : isDigit byte = true) : isBlank byte = false := by
  have bounds := (is_digit_iff byte).1 digit
  simp only [isBlank, Bool.or_eq_false_iff, decide_eq_false_iff_not, Bool.and_eq_false_iff,
    UInt8.le_iff_toNat_le]
  refine ⟨?_, .inr ?_⟩
  · rintro rfl
    simp at bounds
  · simp only [UInt8.reduceToNat]
    omega

/-- `atoi` reads the digits up to the first other byte. -/
theorem atoi_digits {digits more : List UInt8} (present : digits ≠ [])
    (all : ∀ byte ∈ digits, isDigit byte = true)
    (stop : ∀ byte ∈ (cString more).head?, isDigit byte = false) :
    atoi (digits ++ more) = clampInt (digitsValue digits) := by
  have nulFree : (0 : UInt8) ∉ digits := by
    intro member
    exact absurd (all 0 member) (by decide)
  have notBlank : (digits ++ cString more).dropWhile isBlank = digits ++ cString more := by
    obtain ⟨first, rest, split⟩ := List.exists_cons_of_ne_nil present
    have ordinary := digit_not_blank (all first (by simp [split]))
    rw [split, List.cons_append, List.dropWhile_cons_of_neg (by simp [ordinary])]
  have taken : (digits ++ cString more).takeWhile isDigit = digits := by
    rw [List.takeWhile_append_of_pos all]
    cases behind : cString more with
    | nil => simp
    | cons byte rest =>
        rw [behind] at stop
        rw [List.takeWhile_cons_of_neg (by simp [stop byte rfl]), List.append_nil]
  rw [atoi, c_string_append more nulFree, notBlank]
  split
  · rename_i rest split
    obtain ⟨first, others, known⟩ := List.exists_cons_of_ne_nil present
    rw [known, List.cons_append, List.cons.injEq] at split
    exact absurd (all first (by simp [known])) (by rw [split.1]; decide)
  · rename_i rest split
    obtain ⟨first, others, known⟩ := List.exists_cons_of_ne_nil present
    rw [known, List.cons_append, List.cons.injEq] at split
    exact absurd (all first (by simp [known])) (by rw [split.1]; decide)
  · rw [taken]

/-- `atoi` reads a numeral that is followed by a NUL. -/
theorem atoi_decimal_text {number : Nat} (more : List UInt8) (small : number ≤ 2147483647) :
    atoi (decimalText number ++ 0 :: more) = number := by
  rw [atoi_digits (decimal_text_ne_nil number) (decimal_text_digits number)]
  · rw [decimal_text_value]
    simp only [clampInt]
    omega
  · intro byte absent
    cases absent

theorem digits_value_append (digits : List UInt8) (digit : UInt8) :
    digitsValue (digits ++ [digit]) = 10 * digitsValue digits + (digit.toNat - 48) := by
  unfold digitsValue
  rw [List.foldl_append]
  rfl

theorem digits_value_lt {digits : List UInt8} (all : ∀ byte ∈ digits, isDigit byte = true) :
    digitsValue digits < 10 ^ digits.length := by
  induction digits using List.reverseRecOn with
  | nil => decide
  | append_singleton digits digit ih =>
      have front := ih fun byte member => all byte (List.mem_append_left _ member)
      have bounds := (is_digit_iff digit).1 (all digit (by simp))
      rw [digits_value_append, List.length_append, List.length_singleton, Nat.pow_succ]
      omega

/-- A sign takes the place of a digit. -/
theorem atoi_range {memory : List UInt8} {width : Nat} (short : memory.length ≤ width + 1) :
    -((10 ^ width : Nat) : Int) < atoi memory ∧ atoi memory < ((10 ^ (width + 1) : Nat) : Int) := by
  have read : ∀ {text : List UInt8} {count : Nat}, text.length ≤ count →
      digitsValue (text.takeWhile isDigit) < 10 ^ count := by
    intro text count bound
    apply Nat.lt_of_lt_of_le (digits_value_lt fun byte member => List.mem_takeWhile_imp member)
    exact Nat.pow_le_pow_right (by decide) (Nat.le_trans (List.takeWhile_prefix _).length_le bound)
  have positive : 0 < 10 ^ width := Nat.pow_pos (by decide)
  have wider : 10 ^ (width + 1) = 10 ^ width * 10 := pow_succ 10 width
  have seen : ((cString memory).dropWhile isBlank).length ≤ width + 1 :=
    Nat.le_trans (Nat.le_trans (List.dropWhile_suffix _).length_le (strlen_le_length memory)) short
  unfold atoi
  split
  · rename_i rest sign
    rw [sign, List.length_cons] at seen
    have small := read (Nat.le_of_succ_le_succ seen)
    unfold clampInt
    omega
  · rename_i rest sign
    rw [sign, List.length_cons] at seen
    have small := read (Nat.le_of_succ_le_succ seen)
    unfold clampInt
    omega
  · have small := read seen
    unfold clampInt
    omega

/-- A number in decimal digits. -/
structure WritesNumber (digits : List UInt8) (value : Nat) : Prop where
  present : digits ≠ []
  all : ∀ byte ∈ digits, isDigit byte = true
  number : digitsValue digits = value

theorem atoi_written {digits more : List UInt8} {value : Nat} (written : WritesNumber digits value)
    (small : value ≤ 2147483647) (stop : ∀ byte ∈ (cString more).head?, isDigit byte = false) :
    atoi (digits ++ more) = value := by
  rw [atoi_digits written.present written.all stop, written.number]
  simp only [clampInt]
  omega

end IotgoFirmware.Library.CStrings
