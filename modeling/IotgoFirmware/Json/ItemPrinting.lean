import IotgoFirmware.Library.CIntegers
import IotgoFirmware.Library.CJsonTrees
import IotgoFirmware.Library.Doubles
import IotgoFirmware.Json.StringTexts

/-!
# Printing of cJSON items

`print_value` without a print buffer: every item is printed into a block of memory of its own,
and an array or an object is put together from the blocks of its children. The length for
which memory is taken is computed beforehand; the text that is composed never exceeds it.
-/

namespace IotgoFirmware.Json.ItemPrinting

open IotgoFirmware.Library.CStrings IotgoFirmware.Library.CFaults IotgoFirmware.Library.CIntegers
open IotgoFirmware.Library.Doubles IotgoFirmware.Library.CJsonItems
open IotgoFirmware.Library.CJsonTrees IotgoFirmware.Json.StringTexts

set_option autoImplicit false

/-- `%d` -/
def intText (value : Int) : List UInt8 :=
  if value < 0 then 45 :: decimalText value.natAbs else decimalText value.natAbs

/-- `%02d` -/
def twoDigits (value : Int) : List UInt8 :=
  if 0 ≤ value ∧ value < 10 then 48 :: intText value else intText value

/-- The number behind the point, of at least two digits. -/
def hundredths (double : CDouble) (valueint : Int) (valuedouble : Rat) : Int :=
  let valueTemp := sint32 (valueint * 100)
  let d := double.cast (double.round (valuedouble * 100))
  if valueTemp < d then sint32 (d - valueTemp) else sint32 (valueTemp - d)

/-- The number is printed as an integer. -/
def IsWhole (double : CDouble) (valueint : Int) (valuedouble : Rat) : Prop :=
  double.round (valueint - valuedouble) ≤ 1 / 2 ^ 52 ∧
    double.round (valuedouble - valueint) ≤ 1 / 2 ^ 52 ∧
    valuedouble ≤ 2147483647 ∧ -2147483648 ≤ valuedouble

instance (double : CDouble) (valueint : Int) (valuedouble : Rat) :
    Decidable (IsWhole double valueint valuedouble) :=
  inferInstanceAs (Decidable (_ ∧ _ ∧ _ ∧ _))

def printNumber (double : CDouble) (valueint : Int) (valuedouble : Rat) :
    Checked (List UInt8) :=
  if valuedouble = 0 then allocated 2 [48]
  else if IsWhole double valueint valuedouble then allocated 21 (intText valueint)
  else allocated 64 (intText valueint ++ 46 :: twoDigits (hundredths double valueint valuedouble))

/-- Commas between the entries, and blanks behind them in a formatted text. -/
def composeArray (fmt : Bool) : List (List UInt8) → List UInt8
  | [] => []
  | [entry] => cString entry
  | entry :: rest => cString entry ++ 44 :: ((if fmt then [32] else []) ++ composeArray fmt rest)

def tabs (fmt : Bool) (count : Nat) : List UInt8 :=
  if fmt then List.replicate count 9 else []

def composeMember (fmt : Bool) (depth : Nat) (name entry : List UInt8) : List UInt8 :=
  tabs fmt depth ++ cString name ++ 58 :: (tabs fmt 1 ++ cString entry)

def lineEnd (fmt : Bool) : List UInt8 :=
  if fmt then [10] else []

/-- Names and entries; `depth` is that of the members. -/
def composeObject (fmt : Bool) (depth : Nat) : List (List UInt8 × List UInt8) → List UInt8
  | [] => []
  | [(name, entry)] => composeMember fmt depth name entry ++ lineEnd fmt
  | (name, entry) :: rest =>
      composeMember fmt depth name entry ++ 44 :: (lineEnd fmt ++ composeObject fmt depth rest)

def arraySize (fmt : Bool) (entries : List (List UInt8)) : Nat :=
  5 + (entries.map fun entry => strlen entry + 2 + if fmt then 1 else 0).sum

def objectSize (fmt : Bool) (depth : Nat) (members : List (List UInt8 × List UInt8)) : Nat :=
  7 + (if fmt then depth else 0) + (members.map fun member =>
    strlen member.2 + strlen member.1 + 2 + if fmt then 2 + depth else 0).sum

mutual

def printValue (double : CDouble) (fmt : Bool) : Nat → CJsonItem → Checked (List UInt8)
  | _, .null => .ok (asciiBytes "null")
  | _, .false => .ok (asciiBytes "false")
  | _, .true => .ok (asciiBytes "true")
  | _, .number valueint valuedouble => printNumber double valueint valuedouble
  | _, .string valuestring => printStringPtr valuestring
  | _, .array [] => allocated 3 [91, 93]
  | depth, .array (child :: children) => do
      let entries ← printEntries double fmt (depth + 1) (child :: children)
      allocated (arraySize fmt entries) (91 :: (composeArray fmt entries ++ [93]))
  | depth, .object [] =>
      allocated (if fmt then depth + 4 else 3)
        (123 :: (lineEnd fmt ++ tabs fmt depth ++ [125]))
  | depth, .object (child :: children) => do
      let members ← printMembers double fmt (depth + 1) (child :: children)
      allocated (objectSize fmt (depth + 1) members)
        (123 :: (lineEnd fmt ++ composeObject fmt (depth + 1) members ++ tabs fmt depth ++ [125]))

def printEntries (double : CDouble) (fmt : Bool) :
    Nat → List CJsonItem → Checked (List (List UInt8))
  | _, [] => .ok []
  | depth, child :: children => do
      let entry ← printValue double fmt depth child
      let entries ← printEntries double fmt depth children
      return entry :: entries

def printMembers (double : CDouble) (fmt : Bool) :
    Nat → List (List UInt8 × CJsonItem) → Checked (List (List UInt8 × List UInt8))
  | _, [] => .ok []
  | depth, (string, child) :: children => do
      let name ← printStringPtr string
      let entry ← printValue double fmt depth child
      let members ← printMembers double fmt depth children
      return (name, entry) :: members

end

def cJSONPrintUnformatted (double : CDouble) (item : CJsonItem) : Checked (List UInt8) :=
  printValue double false 0 item

def numberText (double : CDouble) (valueint : Int) (valuedouble : Rat) : List UInt8 :=
  if valuedouble = 0 then [48]
  else if IsWhole double valueint valuedouble then intText valueint
  else intText valueint ++ 46 :: twoDigits (hundredths double valueint valuedouble)

def arrayText (fmt : Bool) : List (List UInt8) → List UInt8
  | [] => []
  | entry :: rest => entry ++ rest.flatMap fun later => 44 :: ((if fmt then [32] else []) ++ later)

def memberText (fmt : Bool) (depth : Nat) (member : List UInt8 × List UInt8) : List UInt8 :=
  tabs fmt depth ++ member.1 ++ 58 :: (tabs fmt 1 ++ member.2)

def objectText (fmt : Bool) (depth : Nat) : List (List UInt8 × List UInt8) → List UInt8
  | [] => []
  | member :: rest =>
      memberText fmt depth member ++ ((rest.flatMap fun later =>
        44 :: (lineEnd fmt ++ memberText fmt depth later)) ++ lineEnd fmt)

mutual

def itemText (double : CDouble) (fmt : Bool) : Nat → CJsonItem → List UInt8
  | _, .null => asciiBytes "null"
  | _, .false => asciiBytes "false"
  | _, .true => asciiBytes "true"
  | _, .number valueint valuedouble => numberText double valueint valuedouble
  | _, .string valuestring => quoted (cString valuestring)
  | depth, .array children =>
      91 :: (arrayText fmt (entryTexts double fmt (depth + 1) children) ++ [93])
  | depth, .object children =>
      123 :: (lineEnd fmt ++ objectText fmt (depth + 1) (memberTexts double fmt (depth + 1)
        children) ++ tabs fmt depth ++ [125])

def entryTexts (double : CDouble) (fmt : Bool) : Nat → List CJsonItem → List (List UInt8)
  | _, [] => []
  | depth, child :: children =>
      itemText double fmt depth child :: entryTexts double fmt depth children

def memberTexts (double : CDouble) (fmt : Bool) :
    Nat → List (List UInt8 × CJsonItem) → List (List UInt8 × List UInt8)
  | _, [] => []
  | depth, (string, child) :: children =>
      (quoted (cString string), itemText double fmt depth child) ::
        memberTexts double fmt depth children

end

section Texts

variable {double : CDouble} {fmt : Bool} {depth : Nat}

theorem decimal_text_nul_free (number : Nat) : (0 : UInt8) ∉ decimalText number :=
  fun member => absurd (decimal_text_digits number 0 member) (by decide)

theorem int_text_nul_free (value : Int) : (0 : UInt8) ∉ intText value := by
  unfold intText
  split
  · rw [List.mem_cons, not_or]
    exact ⟨by decide, decimal_text_nul_free _⟩
  · exact decimal_text_nul_free _

theorem two_digits_nul_free (value : Int) : (0 : UInt8) ∉ twoDigits value := by
  unfold twoDigits
  split
  · rw [List.mem_cons, not_or]
    exact ⟨by decide, int_text_nul_free value⟩
  · exact int_text_nul_free value

theorem number_text_nul_free (valueint : Int) (valuedouble : Rat) :
    (0 : UInt8) ∉ numberText double valueint valuedouble := by
  unfold numberText
  split
  · decide
  · split
    · exact int_text_nul_free valueint
    · rw [List.mem_append, List.mem_cons, not_or, not_or]
      exact ⟨int_text_nul_free _, by decide, two_digits_nul_free _⟩

theorem escape_byte_nul_free (token : UInt8) (present : token ≠ 0) :
    (0 : UInt8) ∉ escapeByte token := by
  rcases escape_byte_cases token with ⟨text, -, -⟩ | ⟨letter, text, -, same⟩ | ⟨text, -⟩
  · rw [text, List.mem_singleton]
    exact present.symm
  · rw [text, List.mem_cons, List.mem_singleton, not_or]
    refine ⟨by decide, ?_⟩
    rintro rfl
    exact present same.symm
  · have high := (hex_digit_goes_on
      (show token.toNat / 16 < 16 by have := token.toNat_lt; omega)).1
    have low := (hex_digit_goes_on (show token.toNat % 16 < 16 by omega)).1
    rw [not_or] at high low
    rw [text]
    simp [Ne.symm high.2, Ne.symm low.2]

theorem quoted_nul_free {text : List UInt8} (nulFree : (0 : UInt8) ∉ text) :
    (0 : UInt8) ∉ quoted text := by
  have inside : (0 : UInt8) ∉ text.flatMap escapeByte := by
    intro member
    obtain ⟨token, listed, inner⟩ := List.mem_flatMap.1 member
    exact escape_byte_nul_free token (ne_of_mem_of_not_mem listed nulFree) inner
  unfold quoted
  rw [List.mem_cons, List.mem_append, List.mem_singleton, not_or, not_or]
  exact ⟨by decide, inside, by decide⟩

theorem tabs_nul_free (fmt : Bool) (count : Nat) : (0 : UInt8) ∉ tabs fmt count := by
  unfold tabs
  split
  · intro member
    exact absurd (List.eq_of_mem_replicate member) (by decide)
  · exact List.not_mem_nil

theorem line_end_nul_free (fmt : Bool) : (0 : UInt8) ∉ lineEnd fmt := by
  cases fmt <;> decide

theorem blank_nul_free (fmt : Bool) : (0 : UInt8) ∉ (if fmt then [32] else [] : List UInt8) := by
  cases fmt <;> decide

theorem array_text_nul_free {entries : List (List UInt8)}
    (each : ∀ entry ∈ entries, (0 : UInt8) ∉ entry) : (0 : UInt8) ∉ arrayText fmt entries := by
  cases entries with
  | nil => exact List.not_mem_nil
  | cons entry rest =>
      rw [arrayText, List.mem_append, not_or]
      refine ⟨each entry List.mem_cons_self, ?_⟩
      intro member
      obtain ⟨later, listed, inner⟩ := List.mem_flatMap.1 member
      rw [List.mem_cons, List.mem_append] at inner
      rcases inner with comma | blank | inner
      · exact absurd comma (by decide)
      · exact blank_nul_free fmt blank
      · exact each later (List.mem_cons_of_mem entry listed) inner

theorem member_text_nul_free {member : List UInt8 × List UInt8} (name : (0 : UInt8) ∉ member.1)
    (entry : (0 : UInt8) ∉ member.2) : (0 : UInt8) ∉ memberText fmt depth member := by
  unfold memberText
  simp only [List.mem_append, List.mem_cons, not_or]
  exact ⟨⟨tabs_nul_free _ _, name⟩, by decide, tabs_nul_free _ _, entry⟩

theorem object_text_nul_free {members : List (List UInt8 × List UInt8)}
    (each : ∀ member ∈ members, (0 : UInt8) ∉ member.1 ∧ (0 : UInt8) ∉ member.2) :
    (0 : UInt8) ∉ objectText fmt depth members := by
  cases members with
  | nil => exact List.not_mem_nil
  | cons member rest =>
      have first := each member List.mem_cons_self
      rw [objectText, List.mem_append, List.mem_append, not_or, not_or]
      refine ⟨member_text_nul_free first.1 first.2, ?_, line_end_nul_free fmt⟩
      intro listed
      obtain ⟨later, known, inner⟩ := List.mem_flatMap.1 listed
      have free := each later (List.mem_cons_of_mem member known)
      rw [List.mem_cons, List.mem_append] at inner
      rcases inner with comma | line | inner
      · exact absurd comma (by decide)
      · exact line_end_nul_free fmt line
      · exact member_text_nul_free free.1 free.2 inner

theorem entry_texts_eq (depth : Nat) (children : List CJsonItem) :
    entryTexts double fmt depth children = children.map (itemText double fmt depth) := by
  induction children with
  | nil => rfl
  | cons child children ih => rw [entryTexts, ih, List.map_cons]

theorem member_texts_eq (depth : Nat) (children : List (List UInt8 × CJsonItem)) :
    memberTexts double fmt depth children = children.map fun child =>
      (quoted (cString child.1), itemText double fmt depth child.2) := by
  induction children with
  | nil => rfl
  | cons child children ih => rw [memberTexts, ih, List.map_cons]

theorem item_text_nul_free (double : CDouble) (fmt : Bool) (item : CJsonItem) :
    ∀ depth, (0 : UInt8) ∉ itemText double fmt depth item := by
  induction item using item_induction with
  | isFalse => exact fun depth => (by decide : (0 : UInt8) ∉ asciiBytes "false")
  | isTrue => exact fun depth => (by decide : (0 : UInt8) ∉ asciiBytes "true")
  | isNull => exact fun depth => (by decide : (0 : UInt8) ∉ asciiBytes "null")
  | number valueint valuedouble => exact fun depth => number_text_nul_free valueint valuedouble
  | string valuestring => exact fun depth => quoted_nul_free (c_string_nul_free valuestring)
  | array children each =>
      intro depth
      rw [itemText, entry_texts_eq, List.mem_cons, List.mem_append, List.mem_singleton, not_or,
        not_or]
      refine ⟨by decide, array_text_nul_free ?_, by decide⟩
      intro entry listed
      obtain ⟨child, member, rfl⟩ := List.mem_map.1 listed
      exact each child member (depth + 1)
  | object children each =>
      intro depth
      rw [itemText, member_texts_eq]
      simp only [List.mem_cons, List.mem_append, List.not_mem_nil, or_false, not_or]
      refine ⟨by decide, ⟨⟨line_end_nul_free fmt, object_text_nul_free ?_⟩, tabs_nul_free _ _⟩,
        by decide⟩
      intro entry listed
      obtain ⟨child, member, rfl⟩ := List.mem_map.1 listed
      exact ⟨quoted_nul_free (c_string_nul_free child.1), each child member (depth + 1)⟩

end Texts

/-- A value of `int`. -/
def IsInt (valueint : Int) : Prop :=
  -2147483648 ≤ valueint ∧ valueint ≤ 2147483647

section Memory

variable {double : CDouble} {fmt : Bool} {depth : Nat}

theorem int_text_length {value : Int} (range : IsInt value) : (intText value).length ≤ 11 := by
  have digits := @decimal_text_length value.natAbs 10 (by decide)
    (by unfold IsInt at range; omega)
  unfold intText
  split
  · rw [List.length_cons]
    omega
  · omega

theorem sint32_is_int (value : Int) : IsInt (sint32 value) := by
  unfold IsInt sint32
  omega

theorem hundredths_is_int (double : CDouble) (valueint : Int) (valuedouble : Rat) :
    IsInt (hundredths double valueint valuedouble) := by
  unfold hundredths
  dsimp only
  split <;> exact sint32_is_int _

theorem two_digits_length {value : Int} (range : IsInt value) :
    (twoDigits value).length ≤ 12 := by
  have digits := int_text_length range
  unfold twoDigits
  split
  · rw [List.length_cons]
    omega
  · omega

theorem print_number_ok {valueint : Int} (range : IsInt valueint) (valuedouble : Rat) :
    printNumber double valueint valuedouble = .ok (numberText double valueint valuedouble) := by
  have digits := int_text_length range
  have behind := two_digits_length (hundredths_is_int double valueint valuedouble)
  unfold printNumber numberText
  split
  · rfl
  · split
    · exact if_pos (by omega)
    · refine if_pos ?_
      rw [List.length_append, List.length_cons]
      omega

theorem strlen_nul_free {text : List UInt8} (nulFree : (0 : UInt8) ∉ text) :
    strlen text = text.length := by
  rw [strlen, c_string_of_nul_free nulFree]

theorem compose_array_eq {entries : List (List UInt8)}
    (nulFree : ∀ entry ∈ entries, (0 : UInt8) ∉ entry) :
    composeArray fmt entries = arrayText fmt entries := by
  induction entries with
  | nil => rfl
  | cons entry rest ih =>
      have first := c_string_of_nul_free (nulFree entry List.mem_cons_self)
      have later := ih fun other member => nulFree other (List.mem_cons_of_mem entry member)
      cases rest with
      | nil => simp [composeArray, arrayText, first]
      | cons next rest =>
          rw [composeArray, first, later]
          · simp [arrayText]
          · exact List.cons_ne_nil _ _

theorem compose_object_eq {members : List (List UInt8 × List UInt8)}
    (nulFree : ∀ member ∈ members, (0 : UInt8) ∉ member.1 ∧ (0 : UInt8) ∉ member.2) :
    composeObject fmt depth members = objectText fmt depth members := by
  induction members with
  | nil => rfl
  | cons member rest ih =>
      obtain ⟨name, entry⟩ := member
      have free := nulFree (name, entry) List.mem_cons_self
      have first : composeMember fmt depth name entry = memberText fmt depth (name, entry) := by
        rw [composeMember, memberText, c_string_of_nul_free free.1, c_string_of_nul_free free.2]
      have later := ih fun other member =>
        nulFree other (List.mem_cons_of_mem (name, entry) member)
      cases rest with
      | nil => simp [composeObject, objectText, first]
      | cons next rest =>
          rw [composeObject, first, later]
          · simp [objectText]
          · exact List.cons_ne_nil _ _

/-- Every entry is counted with its comma. -/
theorem array_text_length (fmt : Bool) {entries : List (List UInt8)}
    (nulFree : ∀ entry ∈ entries, (0 : UInt8) ∉ entry) :
    (arrayText fmt entries).length + 5 ≤ arraySize fmt entries := by
  have blank : (if fmt then [32] else [] : List UInt8).length = if fmt then 1 else 0 := by
    cases fmt <;> rfl
  have each : ∀ rest : List (List UInt8), (∀ entry ∈ rest, (0 : UInt8) ∉ entry) →
      (rest.flatMap fun later => 44 :: ((if fmt then [32] else []) ++ later)).length ≤
        (rest.map fun entry => strlen entry + 2 + if fmt then 1 else 0).sum := by
    intro rest free
    induction rest with
    | nil => exact Nat.le_refl 0
    | cons entry rest ih =>
        have length := strlen_nul_free (free entry List.mem_cons_self)
        have later := ih fun other member => free other (List.mem_cons_of_mem entry member)
        simp only [List.flatMap_cons, List.length_append, List.length_cons, blank, List.map_cons,
          List.sum_cons]
        omega
  cases entries with
  | nil => exact Nat.le_refl 5
  | cons entry rest =>
      have length := strlen_nul_free (nulFree entry List.mem_cons_self)
      have later := each rest fun other member => nulFree other (List.mem_cons_of_mem entry member)
      simp only [arrayText, arraySize, List.length_append, List.map_cons, List.sum_cons]
      omega

theorem tabs_length (fmt : Bool) (count : Nat) :
    (tabs fmt count).length = if fmt then count else 0 := by
  cases fmt <;> simp [tabs]

theorem line_end_length (fmt : Bool) : (lineEnd fmt).length = if fmt then 1 else 0 := by
  cases fmt <;> rfl

theorem member_text_length (member : List UInt8 × List UInt8) :
    (memberText fmt depth member).length =
      member.2.length + member.1.length + 1 + if fmt then 1 + depth else 0 := by
  simp only [memberText, List.length_append, List.length_cons, tabs_length]
  cases fmt
  · simp only [Bool.false_eq_true, if_false]
    omega
  · simp only [if_true]
    omega

theorem object_text_length (fmt : Bool) (depth : Nat) {members : List (List UInt8 × List UInt8)}
    (nulFree : ∀ member ∈ members, (0 : UInt8) ∉ member.1 ∧ (0 : UInt8) ∉ member.2) :
    (objectText fmt depth members).length + 7 + (if fmt then depth else 0) ≤
      objectSize fmt depth members := by
  have each : ∀ rest : List (List UInt8 × List UInt8),
      (∀ member ∈ rest, (0 : UInt8) ∉ member.1 ∧ (0 : UInt8) ∉ member.2) →
      (rest.flatMap fun later => 44 :: (lineEnd fmt ++ memberText fmt depth later)).length ≤
        (rest.map fun member =>
          strlen member.2 + strlen member.1 + 2 + if fmt then 2 + depth else 0).sum := by
    intro rest free
    induction rest with
    | nil => exact Nat.le_refl 0
    | cons member rest ih =>
        have name := strlen_nul_free (free member List.mem_cons_self).1
        have entry := strlen_nul_free (free member List.mem_cons_self).2
        have later := ih fun other listed => free other (List.mem_cons_of_mem member listed)
        simp only [List.flatMap_cons, List.length_append, List.length_cons, line_end_length,
          member_text_length, List.map_cons, List.sum_cons]
        cases fmt
        · simp only [Bool.false_eq_true, if_false] at later ⊢
          omega
        · simp only [if_true] at later ⊢
          omega
  cases members with
  | nil =>
      simp only [objectText, objectSize, List.length_nil, List.map_nil, List.sum_nil]
      omega
  | cons member rest =>
      have name := strlen_nul_free (nulFree member List.mem_cons_self).1
      have entry := strlen_nul_free (nulFree member List.mem_cons_self).2
      have later := each rest fun other listed => nulFree other (List.mem_cons_of_mem member listed)
      simp only [objectText, objectSize, List.length_append, line_end_length, member_text_length,
        List.map_cons, List.sum_cons]
      cases fmt
      · simp only [Bool.false_eq_true, if_false] at later ⊢
        omega
      · simp only [if_true] at later ⊢
        omega

theorem print_entries_ok {children : List CJsonItem}
    (each : ∀ child ∈ children, printValue double fmt depth child =
      .ok (itemText double fmt depth child)) :
    printEntries double fmt depth children = .ok (entryTexts double fmt depth children) := by
  induction children with
  | nil => rfl
  | cons child children ih =>
      rw [printEntries, each child List.mem_cons_self, bind_ok,
        ih fun other member => each other (List.mem_cons_of_mem child member), bind_ok]
      rfl

theorem print_members_ok {children : List (List UInt8 × CJsonItem)}
    (each : ∀ child ∈ children, printValue double fmt depth child.2 =
      .ok (itemText double fmt depth child.2)) :
    printMembers double fmt depth children = .ok (memberTexts double fmt depth children) := by
  induction children with
  | nil => rfl
  | cons child children ih =>
      obtain ⟨string, item⟩ := child
      rw [printMembers, print_string_ok, bind_ok, each (string, item) List.mem_cons_self, bind_ok,
        ih fun other member => each other (List.mem_cons_of_mem (string, item) member), bind_ok]
      rfl

theorem entry_texts_nul_free (depth : Nat) (children : List CJsonItem) :
    ∀ entry ∈ entryTexts double fmt depth children, (0 : UInt8) ∉ entry := by
  rw [entry_texts_eq]
  intro entry listed
  obtain ⟨child, -, rfl⟩ := List.mem_map.1 listed
  exact item_text_nul_free double fmt child depth

theorem member_texts_nul_free (depth : Nat) (children : List (List UInt8 × CJsonItem)) :
    ∀ member ∈ memberTexts double fmt depth children,
      (0 : UInt8) ∉ member.1 ∧ (0 : UInt8) ∉ member.2 := by
  rw [member_texts_eq]
  intro member listed
  obtain ⟨child, -, rfl⟩ := List.mem_map.1 listed
  exact ⟨quoted_nul_free (c_string_nul_free child.1), item_text_nul_free double fmt child.2 depth⟩

end Memory

/-- Printing never writes outside the memory that was taken, and makes the text of the item,
at any depth, formatted or not. -/
theorem print_value_ok (double : CDouble) (fmt : Bool) {item : CJsonItem}
    (every : Every (fun valueint _ => IsInt valueint) (fun _ => True) item) (depth : Nat) :
    printValue double fmt depth item = .ok (itemText double fmt depth item) := by
  induction item using item_induction generalizing depth with
  | isFalse => rfl
  | isTrue => rfl
  | isNull => rfl
  | number valueint valuedouble =>
      cases every with
      | number range => exact print_number_ok range valuedouble
  | string valuestring => exact print_string_ok valuestring
  | array children each =>
      cases children with
      | nil => rfl
      | cons child children =>
          have printed := print_entries_ok fun other member =>
            each other member (every_array every other member) (depth + 1)
          have nulFree := @entry_texts_nul_free double fmt (depth + 1) (child :: children)
          have short := array_text_length fmt nulFree
          rw [printValue, printed, bind_ok, compose_array_eq nulFree, itemText, allocated, if_pos]
          simp only [List.length_cons, List.length_append, List.length_nil]
          omega
  | object children each =>
      cases children with
      | nil =>
          rw [printValue, itemText, allocated, if_pos]
          · simp [memberTexts, objectText]
          · simp only [List.length_cons, List.length_append, List.length_nil, line_end_length,
              tabs_length]
            cases fmt
            · simp
            · simp only [if_true]
              omega
      | cons child children =>
          have printed := print_members_ok fun other member =>
            each other member (every_object every other member).2 (depth + 1)
          have nulFree := @member_texts_nul_free double fmt (depth + 1) (child :: children)
          have short := object_text_length fmt (depth + 1) nulFree
          rw [printValue, printed, bind_ok, compose_object_eq nulFree, itemText, allocated, if_pos]
          simp only [List.length_cons, List.length_append, List.length_nil, line_end_length,
            tabs_length]
          cases fmt
          · simp only [Bool.false_eq_true, if_false] at short ⊢
            omega
          · simp only [if_true] at short ⊢
            omega

end IotgoFirmware.Json.ItemPrinting
