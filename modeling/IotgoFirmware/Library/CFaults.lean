import IotgoFirmware.Library.CStrings

/-!
# Checked memory accesses

A computation of C that reads through pointers and copies strings into arrays ends
with a fault where it reads through a null pointer or writes outside an array.
-/

namespace IotgoFirmware.Library.CFaults

open IotgoFirmware.Library.CStrings

set_option autoImplicit false

inductive CFault where
  | null
  | outside
deriving DecidableEq

abbrev Checked (Value : Type) := Except CFault Value

section Accesses

variable {Value : Type}

/-- A read through a pointer; `none` is the null pointer. -/
def deref : Option Value → Checked Value
  | some value => .ok value
  | none => .error .null

/-- `strcpy` into an array of `size` bytes. -/
def strcpy (size : Nat) (memory : List UInt8) : Checked (List UInt8) :=
  if strlen memory < size then .ok (cString memory) else .error .outside

/-- `strncpy` of `count` bytes into an array, which puts zeros behind a shorter text. -/
def strncpy (array memory : List UInt8) (count : Nat) : Checked (List UInt8) :=
  if count ≤ array.length then
    .ok ((cString memory).take count ++ List.replicate (count - strlen memory) 0 ++
      array.drop count)
  else .error .outside

/-- Bytes are copied into an array from an offset on. -/
def storeAt (array : List UInt8) (offset : Nat) (bytes : List UInt8) : Checked (List UInt8) :=
  if offset + bytes.length ≤ array.length then
    .ok (array.take offset ++ bytes ++ array.drop (offset + bytes.length))
  else .error .outside

/-- A write to one element of an array. -/
def writeTo (size index : Nat) : Checked Unit :=
  if index < size then .ok () else .error .outside

end Accesses

def Completes {Value : Type} (run : Checked Value) : Prop :=
  ∃ value, run = .ok value

section Rules

variable {Value Result : Type} {run : Checked Value} {next : Value → Checked Result}

theorem bind_ok (value : Value) (next : Value → Checked Result) :
    ((Except.ok value : Checked Value) >>= next) = next value :=
  rfl

theorem bind_ok_iff {result : Result} :
    (run >>= next) = .ok result ↔ ∃ value, run = .ok value ∧ next value = .ok result := by
  cases run with
  | error fault =>
      constructor
      · intro ended
        cases ended
      · rintro ⟨value, ended, -⟩
        cases ended
  | ok value =>
      constructor
      · intro ended
        exact ⟨value, rfl, ended⟩
      · rintro ⟨other, same, ended⟩
        cases same
        exact ended

theorem completes_ok (value : Value) : Completes (.ok value : Checked Value) :=
  ⟨value, rfl⟩

theorem completes_pure (value : Value) : Completes (pure value : Checked Value) :=
  ⟨value, rfl⟩

theorem not_completes_error (fault : CFault) : ¬ Completes (.error fault : Checked Value) := by
  rintro ⟨value, ended⟩
  cases ended

theorem completes_bind_iff :
    Completes (run >>= next) ↔ ∃ value, run = .ok value ∧ Completes (next value) := by
  constructor
  · rintro ⟨result, ended⟩
    rcases bind_ok_iff.1 ended with ⟨value, first, later⟩
    exact ⟨value, first, result, later⟩
  · rintro ⟨value, first, result, later⟩
    exact ⟨result, bind_ok_iff.2 ⟨value, first, later⟩⟩

theorem completes_bind_of_total (total : ∀ value, Completes (next value)) :
    Completes (run >>= next) ↔ Completes run := by
  rw [completes_bind_iff]
  constructor
  · rintro ⟨value, first, -⟩
    exact ⟨value, first⟩
  · rintro ⟨value, first⟩
    exact ⟨value, first, total value⟩

theorem completes_bind_iff_and {fits : Prop}
    (later : ∀ value, run = .ok value → (Completes (next value) ↔ fits)) :
    Completes (run >>= next) ↔ Completes run ∧ fits := by
  rw [completes_bind_iff]
  constructor
  · rintro ⟨value, first, completes⟩
    exact ⟨⟨value, first⟩, (later value first).1 completes⟩
  · rintro ⟨⟨value, first⟩, holds⟩
    exact ⟨value, first, (later value first).2 holds⟩

theorem completes_ite {condition : Prop} [Decidable condition] {left right : Checked Value} :
    Completes (if condition then left else right) ↔
      (condition → Completes left) ∧ (¬ condition → Completes right) := by
  split
  · rename_i holds
    exact ⟨fun ended => ⟨fun _ => ended, fun not => absurd holds not⟩, fun both => both.1 holds⟩
  · rename_i fails
    exact ⟨fun ended => ⟨fun holds => absurd holds fails, fun _ => ended⟩,
      fun both => both.2 fails⟩

@[simp] theorem deref_ok_iff {pointer : Option Value} {value : Value} :
    deref pointer = .ok value ↔ pointer = some value := by
  cases pointer with
  | none => simp [deref]
  | some other => simp [deref]

@[simp] theorem completes_deref_iff {pointer : Option Value} :
    Completes (deref pointer) ↔ pointer ≠ none := by
  cases pointer with
  | none => simp [deref, not_completes_error]
  | some value => simp [deref, completes_ok]

@[simp] theorem strcpy_ok_iff {size : Nat} {memory text : List UInt8} :
    strcpy size memory = .ok text ↔ strlen memory < size ∧ text = cString memory := by
  unfold strcpy
  split
  · rename_i fits
    simp [fits, eq_comm]
  · rename_i long
    simp [long]

@[simp] theorem completes_strcpy_iff {size : Nat} {memory : List UInt8} :
    Completes (strcpy size memory) ↔ strlen memory < size := by
  simp [Completes]

theorem strncpy_ok_iff {array memory copied : List UInt8} {count : Nat} :
    strncpy array memory count = .ok copied ↔ count ≤ array.length ∧
      copied = (cString memory).take count ++ List.replicate (count - strlen memory) 0 ++
        array.drop count := by
  unfold strncpy
  split
  · rename_i fits
    simp [fits, eq_comm]
  · rename_i long
    simp [long]

@[simp] theorem completes_strncpy_iff {array memory : List UInt8} {count : Nat} :
    Completes (strncpy array memory count) ↔ count ≤ array.length := by
  simp [Completes, strncpy_ok_iff]

theorem strncpy_cleared {memory : List UInt8} {size count : Nat} (inside : count ≤ strlen memory)
    (fits : count ≤ size) :
    strncpy (List.replicate size 0) memory count =
      .ok ((cString memory).take count ++ List.replicate (size - count) 0) := by
  rw [strncpy_ok_iff, List.length_replicate, Nat.sub_eq_zero_of_le inside, List.drop_replicate]
  exact ⟨fits, by simp⟩

theorem store_at_ok_iff {array bytes stored : List UInt8} {offset : Nat} :
    storeAt array offset bytes = .ok stored ↔ offset + bytes.length ≤ array.length ∧
      stored = array.take offset ++ bytes ++ array.drop (offset + bytes.length) := by
  unfold storeAt
  split
  · rename_i fits
    simp [fits, eq_comm]
  · rename_i long
    simp [long]

@[simp] theorem completes_write_iff {size index : Nat} :
    Completes (writeTo size index) ↔ index < size := by
  unfold writeTo
  split
  · rename_i inside
    exact iff_of_true (completes_ok ()) inside
  · rename_i beyond
    exact iff_of_false (not_completes_error .outside) beyond

theorem strcpy_congr {left right : List UInt8} (same : cString left = cString right) (size : Nat) :
    strcpy size left = strcpy size right := by
  rw [strcpy, strcpy, strlen, strlen, same]

end Rules

end IotgoFirmware.Library.CFaults
