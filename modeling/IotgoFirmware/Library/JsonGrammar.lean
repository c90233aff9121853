import IotgoFirmware.Library.CStrings

/-!
# JSON texts

The grammar of JSON over bytes. Of a text that a printer has made it is enough to know that
it is one: it can be put into an array with others, while an array with nothing behind its
last comma has no derivation.
-/

namespace IotgoFirmware.Library.JsonGrammar

open IotgoFirmware.Library.CStrings

set_option autoImplicit false

def IsBlank (text : List UInt8) : Prop :=
  ∀ byte ∈ text, byte ∈ ([32, 9, 10, 13] : List UInt8)

def IsDigits (text : List UInt8) : Prop :=
  text ≠ [] ∧ ∀ byte ∈ text, 48 ≤ byte ∧ byte ≤ 57

def IsHex (byte : UInt8) : Prop :=
  (48 ≤ byte ∧ byte ≤ 57) ∨ (65 ≤ byte ∧ byte ≤ 70) ∨ (97 ≤ byte ∧ byte ≤ 102)

/-- What stands between the quotation marks of a string. -/
inductive StringBody : List UInt8 → Prop where
  | nil : StringBody []
  | plain {byte : UInt8} {rest : List UInt8} (printable : 32 ≤ byte)
      (plain : byte ≠ 34 ∧ byte ≠ 92) (later : StringBody rest) : StringBody (byte :: rest)
  | escape {byte : UInt8} {rest : List UInt8} (known : byte ∈ asciiBytes "\"\\/bfnrt")
      (later : StringBody rest) : StringBody (92 :: byte :: rest)
  | unicode {digits rest : List UInt8} (four : digits.length = 4)
      (hex : ∀ digit ∈ digits, IsHex digit) (later : StringBody rest) :
      StringBody (92 :: 117 :: (digits ++ rest))

/-- A sign, digits without a leading zero, a fraction and an exponent. -/
structure IsNumber (text : List UInt8) : Prop where
  parts : ∃ sign whole fraction exponent : List UInt8,
    text = sign ++ whole ++ fraction ++ exponent ∧ (sign = [] ∨ sign = [45]) ∧
      (whole = [48] ∨ IsDigits whole ∧ whole.head? ≠ some 48) ∧
      (fraction = [] ∨ ∃ digits, fraction = 46 :: digits ∧ IsDigits digits) ∧
      (exponent = [] ∨ ∃ mark sign digits, exponent = mark :: (sign ++ digits) ∧
        (mark = 69 ∨ mark = 101) ∧ (sign = [] ∨ sign = [43] ∨ sign = [45]) ∧ IsDigits digits)

def joined : List (List UInt8) → List UInt8
  | [] => []
  | [text] => text
  | text :: rest => text ++ 44 :: joined rest

/-- A name in quotation marks, with blanks around it. -/
structure IsName (text : List UInt8) : Prop where
  parts : ∃ before body after, text = before ++ 34 :: (body ++ 34 :: after) ∧ IsBlank before ∧
    StringBody body ∧ IsBlank after

def memberText (member : List UInt8 × List UInt8) : List UInt8 :=
  member.1 ++ 58 :: member.2

inductive JsonText : List UInt8 → Prop where
  | literal {text : List UInt8}
      (known : text ∈ [asciiBytes "true", asciiBytes "false", asciiBytes "null"]) : JsonText text
  | number {text : List UInt8} (number : IsNumber text) : JsonText text
  | string {body : List UInt8} (string : StringBody body) : JsonText (34 :: (body ++ [34]))
  | array {items : List (List UInt8)} (each : ∀ item ∈ items, JsonText item) :
      JsonText (91 :: (joined items ++ [93]))
  | blankArray {blank : List UInt8} (empty : IsBlank blank) : JsonText (91 :: (blank ++ [93]))
  | object {members : List (List UInt8 × List UInt8)} (names : ∀ member ∈ members, IsName member.1)
      (values : ∀ member ∈ members, JsonText member.2) :
      JsonText (123 :: (joined (members.map memberText) ++ [125]))
  | blankObject {blank : List UInt8} (empty : IsBlank blank) : JsonText (123 :: (blank ++ [125]))
  | padded {before text after : List UInt8} (front : IsBlank before) (back : IsBlank after)
      (inside : JsonText text) : JsonText (before ++ text ++ after)

section Commas

variable {text : List UInt8}

theorem digits_no_comma (digits : IsDigits text) : (44 : UInt8) ∉ text := by
  intro comma
  exact absurd (digits.2 44 comma).1 (by decide)

theorem blank_no_comma (blank : IsBlank text) : (44 : UInt8) ∉ text := by
  intro comma
  exact absurd (blank 44 comma) (by decide)

theorem number_no_comma (number : IsNumber text) : (44 : UInt8) ∉ text := by
  obtain ⟨sign, whole, fraction, exponent, rfl, signs, wholes, fractions, exponents⟩ := number.parts
  have noSign : (44 : UInt8) ∉ sign := by
    rcases signs with rfl | rfl <;> decide
  have noWhole : (44 : UInt8) ∉ whole := by
    rcases wholes with rfl | ⟨digits, -⟩
    · decide
    · exact digits_no_comma digits
  have noFraction : (44 : UInt8) ∉ fraction := by
    rcases fractions with rfl | ⟨digits, rfl, behind⟩
    · decide
    · rw [List.mem_cons, not_or]
      exact ⟨by decide, digits_no_comma behind⟩
  have noExponent : (44 : UInt8) ∉ exponent := by
    rcases exponents with rfl | ⟨mark, sign', digits, rfl, marks, signs', behind⟩
    · decide
    · rw [List.mem_cons, List.mem_append, not_or, not_or]
      refine ⟨?_, ?_, digits_no_comma behind⟩
      · rcases marks with rfl | rfl <;> decide
      · rcases signs' with rfl | rfl | rfl <;> decide
  simp only [List.mem_append, not_or]
  exact ⟨⟨⟨noSign, noWhole⟩, noFraction⟩, noExponent⟩

theorem number_ne_nil (number : IsNumber text) : text ≠ [] := by
  obtain ⟨sign, whole, fraction, exponent, rfl, -, wholes, -, -⟩ := number.parts
  have whole' : whole ≠ [] := by
    rcases wholes with rfl | ⟨digits, -⟩
    · exact List.cons_ne_nil _ _
    · exact digits.1
  simp [whole']

/-- There is a text, and it does not end with a comma. -/
def EndsWell (text : List UInt8) : Prop :=
  text ≠ [] ∧ text.getLast? ≠ some 44

theorem ends_well_of_no_comma (present : text ≠ []) (noComma : (44 : UInt8) ∉ text) :
    EndsWell text :=
  ⟨present, fun last => noComma (List.mem_of_getLast? last)⟩

theorem ends_well_last (front : List UInt8) {byte : UInt8} (other : byte ≠ 44) :
    EndsWell (front ++ [byte]) := by
  refine ⟨by simp, ?_⟩
  rw [List.getLast?_concat]
  exact fun comma => other (Option.some.inj comma)

theorem ends_well_append (front : List UInt8) (ends : EndsWell text) : EndsWell (front ++ text) := by
  refine ⟨by simp [ends.1], ?_⟩
  rw [List.getLast?_append_of_ne_nil _ ends.1]
  exact ends.2

theorem joined_ends_well {items : List (List UInt8)} (present : items ≠ [])
    (each : ∀ item ∈ items, EndsWell item) : EndsWell (joined items) := by
  induction items with
  | nil => exact absurd rfl present
  | cons item rest ih =>
      cases rest with
      | nil => exact each item List.mem_cons_self
      | cons next rest =>
          have later := ih (List.cons_ne_nil next rest)
            fun other member => each other (List.mem_cons_of_mem item member)
          exact ends_well_append item (ends_well_append [44] later)

theorem json_text_ends_well (json : JsonText text) : EndsWell text := by
  induction json with
  | literal known =>
      rw [List.mem_cons, List.mem_cons, List.mem_singleton] at known
      rcases known with rfl | rfl | rfl <;> exact ⟨by decide, by decide⟩
  | number number => exact ends_well_of_no_comma (number_ne_nil number) (number_no_comma number)
  | @string body string => exact ends_well_last (34 :: body) (by decide)
  | @array items each ih => exact ends_well_last (91 :: joined items) (by decide)
  | @blankArray blank empty => exact ends_well_last (91 :: blank) (by decide)
  | @object members names values ih =>
      exact ends_well_last (123 :: joined (members.map memberText)) (by decide)
  | @blankObject blank empty => exact ends_well_last (123 :: blank) (by decide)
  | @padded before text after front back inside ih =>
      cases after with
      | nil =>
          rw [List.append_nil]
          exact ends_well_append before ih
      | cons byte rest =>
          exact ends_well_append (before ++ text)
            (ends_well_of_no_comma (List.cons_ne_nil byte rest) (blank_no_comma back))

/-- Behind the last comma of an array there is an item. -/
theorem no_trailing_comma (json : JsonText text) (front : List UInt8) :
    text ≠ 91 :: (front ++ [44, 93]) := by
  have split : front ++ [44, 93] = (front ++ [44]) ++ [93] := by simp
  induction json generalizing front with
  | literal known =>
      rw [List.mem_cons, List.mem_cons, List.mem_singleton] at known
      rcases known with rfl | rfl | rfl <;>
        exact fun same => absurd (List.cons.inj same).1 (by decide)
  | number number =>
      rintro rfl
      exact number_no_comma number (by simp)
  | string string => exact fun same => absurd (List.cons.inj same).1 (by decide)
  | @array items each ih =>
      intro same
      rw [split] at same
      have inside := List.append_cancel_right (List.cons.inj same).2
      by_cases none : items = []
      · rw [none] at inside
        cases front <;> cases inside
      · have ends := joined_ends_well none fun item member => json_text_ends_well (each item member)
        rw [inside] at ends
        exact ends.2 List.getLast?_concat
  | blankArray empty =>
      intro same
      rw [split] at same
      have inside := List.append_cancel_right (List.cons.inj same).2
      rw [inside] at empty
      exact blank_no_comma empty (by simp)
  | object names values ih => exact fun same => absurd (List.cons.inj same).1 (by decide)
  | blankObject empty => exact fun same => absurd (List.cons.inj same).1 (by decide)
  | @padded before text after front' back inside ih =>
      intro same
      cases before with
      | cons byte rest =>
          have first : byte = 91 := (List.cons.inj same).1
          exact absurd (front' byte List.mem_cons_self) (by rw [first]; decide)
      | nil =>
          rw [List.nil_append] at same
          rcases List.eq_nil_or_concat after with rfl | ⟨rest, byte, rfl⟩
          · rw [List.append_nil] at same
            exact ih front split same
          · have whole : (text ++ rest) ++ [byte] = (91 :: (front ++ [44])) ++ [93] := by
              simpa using same
            have last : byte = 93 := List.singleton_inj.1 (List.append_inj_right' whole rfl)
            exact absurd (back byte (by simp)) (by rw [last]; decide)

end Commas

/-- A byte that stands for itself in a string. -/
def isPlain (byte : UInt8) : Bool :=
  decide (32 ≤ byte ∧ byte ≠ 34 ∧ byte ≠ 92)

theorem string_body_of_plain {text : List UInt8} (plain : text.all isPlain = true) :
    StringBody text := by
  induction text with
  | nil => exact .nil
  | cons byte rest ih =>
      rw [List.all_cons, Bool.and_eq_true] at plain
      obtain ⟨printable, ordinary⟩ := of_decide_eq_true plain.1
      exact .plain printable ordinary (ih plain.2)

/-- A string and another text as the items of an array. -/
theorem json_pair {body text : List UInt8} (string : StringBody body) (json : JsonText text) :
    JsonText (91 :: (joined [34 :: (body ++ [34]), text] ++ [93])) := by
  apply JsonText.array
  intro item member
  rw [List.mem_cons, List.mem_singleton] at member
  rcases member with rfl | rfl
  · exact .string string
  · exact json

end IotgoFirmware.Library.JsonGrammar
