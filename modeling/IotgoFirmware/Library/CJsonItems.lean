import IotgoFirmware.Library.CStrings

/-!
# Items of cJSON

A parsed document is a tree of items. Every item has a type, and the members that
its type does not use are zero: only a string has a `valuestring`, and only arrays
and objects have children. Names are looked up without regard to case, and the
first child of the name is taken.
-/

namespace IotgoFirmware.Library.CJsonItems

open IotgoFirmware.Library.CStrings

set_option autoImplicit false

inductive CJsonType where
  | false
  | true
  | null
  | number
  | string
  | array
  | object
deriving DecidableEq

/-- The children of an object stand with their `string`; those of an array have none. -/
inductive CJsonItem where
  | false
  | true
  | null
  | number (valueint : Int) (valuedouble : Rat)
  | string (valuestring : List UInt8)
  | array (children : List CJsonItem)
  | object (children : List (List UInt8 × CJsonItem))

def CJsonItem.type : CJsonItem → CJsonType
  | .false => .false
  | .true => .true
  | .null => .null
  | .number _ _ => .number
  | .string _ => .string
  | .array _ => .array
  | .object _ => .object

/-- `none` is the `NULL` pointer. -/
def CJsonItem.valuestring : CJsonItem → Option (List UInt8)
  | .string valuestring => some valuestring
  | _ => none

def CJsonItem.valueint : CJsonItem → Int
  | .number valueint _ => valueint
  | .true => 1
  | _ => 0

/-- The list at `child`. -/
def CJsonItem.child : CJsonItem → List CJsonItem
  | .array children => children
  | .object children => children.map Prod.snd
  | _ => []

def cJSONGetArraySize (array : CJsonItem) : Nat :=
  array.child.length

def cJSONGetArrayItem (array : CJsonItem) (item : Nat) : Option CJsonItem :=
  array.child[item]?

def toLower (byte : UInt8) : UInt8 :=
  if 65 ≤ byte ∧ byte ≤ 90 then byte + 32 else byte

/-- `cJSON_strcasecmp` finds no difference. -/
def sameName (left right : List UInt8) : Bool :=
  decide (left.map toLower = right.map toLower)

def cJSONGetObjectItem (object : CJsonItem) (string : List UInt8) : Option CJsonItem :=
  match object with
  | .object children => (children.find? fun child => sameName child.1 string).map Prod.snd
  | _ => none

/-- An item that is not there changes nothing. -/
def cJSONDeleteItemFromObject (object : CJsonItem) (string : List UInt8) : CJsonItem :=
  match object with
  | .object children => .object (children.eraseP fun child => sameName child.1 string)
  | other => other

/-- The new item is the last one. -/
def cJSONAddItemToObject (object : CJsonItem) (string : List UInt8) (item : CJsonItem) :
    CJsonItem :=
  match object with
  | .object children => .object (children ++ [(string, item)])
  | other => other

def cJSONAddStringToObject (object : CJsonItem) (name text : List UInt8) : CJsonItem :=
  cJSONAddItemToObject object name (.string text)

def cJSONAddNumberToObject (object : CJsonItem) (name : List UInt8) (number : Int) : CJsonItem :=
  cJSONAddItemToObject object name (.number number number)

def cJSONCreateObject : CJsonItem :=
  .object []

theorem valuestring_some_iff {item : CJsonItem} {text : List UInt8} :
    item.valuestring = some text ↔ item = .string text := by
  cases item <;> simp [CJsonItem.valuestring]

theorem valuestring_none_iff {item : CJsonItem} :
    item.valuestring = none ↔ item.type ≠ .string := by
  cases item <;> simp [CJsonItem.valuestring, CJsonItem.type]

theorem valuestring_of_string {item : CJsonItem} (string : item.type = .string) :
    ∃ text, item.valuestring = some text := by
  cases item with
  | string text => exact ⟨text, rfl⟩
  | _ => cases string

theorem item_of_size {array : CJsonItem} {index : Nat} (inside : index < cJSONGetArraySize array) :
    ∃ item, cJSONGetArrayItem array index = some item :=
  ⟨array.child[index], List.getElem?_eq_getElem inside⟩

end IotgoFirmware.Library.CJsonItems
