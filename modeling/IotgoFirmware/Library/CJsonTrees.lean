import IotgoFirmware.Library.CJsonItems

/-!
# Trees of cJSON items

What holds of an item if it holds of its children holds of every item.
-/

namespace IotgoFirmware.Library.CJsonTrees

open IotgoFirmware.Library.CJsonItems

set_option autoImplicit false

theorem item_induction {motive : CJsonItem → Prop} (isFalse : motive .false)
    (isTrue : motive .true) (isNull : motive .null)
    (number : ∀ valueint valuedouble, motive (.number valueint valuedouble))
    (string : ∀ valuestring, motive (.string valuestring))
    (array : ∀ children, (∀ child ∈ children, motive child) → motive (.array children))
    (object : ∀ children, (∀ child ∈ children, motive child.2) → motive (.object children))
    (item : CJsonItem) : motive item := by
  apply @CJsonItem.rec motive (fun children => ∀ child ∈ children, motive child)
    (fun children => ∀ child ∈ children, motive child.2) (fun child => motive child.2)
  · exact isFalse
  · exact isTrue
  · exact isNull
  · exact number
  · exact string
  · exact array
  · exact object
  · exact fun child absent => absurd absent List.not_mem_nil
  · intro head tail first later child member
    rcases List.mem_cons.1 member with rfl | member
    · exact first
    · exact later child member
  · exact fun child absent => absurd absent List.not_mem_nil
  · intro head tail first later child member
    rcases List.mem_cons.1 member with rfl | member
    · exact first
    · exact later child member
  · exact fun name child holds => holds

/-- All numbers, and all strings and names, of a tree are of some kind. -/
inductive Every (number : Int → Rat → Prop) (string : List UInt8 → Prop) : CJsonItem → Prop where
  | isFalse : Every number string .false
  | isTrue : Every number string .true
  | isNull : Every number string .null
  | number {valueint : Int} {valuedouble : Rat} (holds : number valueint valuedouble) :
      Every number string (.number valueint valuedouble)
  | string {valuestring : List UInt8} (holds : string valuestring) :
      Every number string (.string valuestring)
  | array {children : List CJsonItem} (each : ∀ child ∈ children, Every number string child) :
      Every number string (.array children)
  | object {children : List (List UInt8 × CJsonItem)} (names : ∀ child ∈ children, string child.1)
      (each : ∀ child ∈ children, Every number string child.2) :
      Every number string (.object children)

section Kinds

variable {number other : Int → Rat → Prop} {string : List UInt8 → Prop}

theorem every_array {children : List CJsonItem} (every : Every number string (.array children)) :
    ∀ child ∈ children, Every number string child := by
  cases every with
  | array each => exact each

theorem every_object {children : List (List UInt8 × CJsonItem)}
    (every : Every number string (.object children)) :
    ∀ child ∈ children, string child.1 ∧ Every number string child.2 := by
  cases every with
  | object names each => exact fun child member => ⟨names child member, each child member⟩

theorem every_number_iff {valueint : Int} {valuedouble : Rat} :
    Every number string (.number valueint valuedouble) ↔ number valueint valuedouble := by
  constructor
  · intro every
    cases every with
    | number holds => exact holds
  · exact .number

theorem every_array_iff {children : List CJsonItem} :
    Every number string (.array children) ↔ ∀ child ∈ children, Every number string child :=
  ⟨every_array, .array⟩

theorem every_object_iff {children : List (List UInt8 × CJsonItem)} :
    Every number (fun _ => True) (.object children) ↔
      ∀ child ∈ children, Every number (fun _ => True) child.2 :=
  ⟨fun every child member => (every_object every child member).2,
    fun each => .object (fun _ _ => trivial) each⟩

theorem every_mono {item : CJsonItem} {anyString : List UInt8 → Prop}
    (numbers : ∀ valueint valuedouble, number valueint valuedouble → other valueint valuedouble)
    (strings : ∀ text, string text → anyString text) (every : Every number string item) :
    Every other anyString item := by
  induction every with
  | isFalse => exact .isFalse
  | isTrue => exact .isTrue
  | isNull => exact .isNull
  | number holds => exact .number (numbers _ _ holds)
  | string holds => exact .string (strings _ holds)
  | array each later => exact .array later
  | object names each later =>
      exact .object (fun child member => strings _ (names child member)) later

end Kinds

end IotgoFirmware.Library.CJsonTrees
