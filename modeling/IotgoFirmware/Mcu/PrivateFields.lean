import IotgoFirmware.Library.WalkDeletes
import IotgoFirmware.Mcu.FlowControl

/-!
# The private fields of a request

`deleteField` strips what the server sent for the module alone, the members with
`zyx_` in their names, before a request goes on to the MCU. It deletes them by
name, and a name is found without regard to its letter case: a member that only
looks like a private one is deleted in its place when it stands before it.
-/

namespace IotgoFirmware.Mcu.PrivateFields

open IotgoFirmware.Library.CStrings
open IotgoFirmware.Library.CJsonItems
open IotgoFirmware.Library.WalkDeletes
open IotgoFirmware.Mcu.FlowControl (deleteField)

set_option autoImplicit false

abbrev Member := List UInt8 × CJsonItem

/-- The key contains `zyx_`. -/
def isPrivate (member : Member) : Bool :=
  (strstr member.1 (asciiBytes "zyx_")).isSome

/-- `cJSON_DeleteItemFromObject` takes the one for the other. -/
def sameMember (left right : Member) : Bool :=
  sameName left.1 right.1

theorem same_member_self (member : Member) : sameMember member member = true := by
  simp [sameMember, sameName]

section Deletion

theorem delete_field_walk (walk children : List Member) :
    (walk.map Prod.fst).foldl (fun kept name =>
        if (strstr name (asciiBytes "zyx_")).isSome then cJSONDeleteItemFromObject kept name
        else kept) (.object children) =
      .object (walkDelete isPrivate sameMember walk children) := by
  induction walk generalizing children with
  | nil => rfl
  | cons member walk ih =>
      have step : (if (strstr member.1 (asciiBytes "zyx_")).isSome then
          cJSONDeleteItemFromObject (.object children) member.1 else .object children) =
            .object (deleteAt isPrivate sameMember children member) := by
        unfold deleteAt isPrivate
        by_cases picked : (strstr member.1 (asciiBytes "zyx_")).isSome = true
        · rw [if_pos picked, if_pos picked]
          rfl
        · rw [if_neg picked, if_neg picked]
      rw [List.map_cons, List.foldl_cons, step, ih]
      rfl

theorem delete_field_object (children : List Member) :
    deleteField (.object children) =
      (true, .object (walkDelete isPrivate sameMember children children)) := by
  rw [deleteField, delete_field_walk]

end Deletion

/-- Just the private members go, unless one that is not private stands before a
private one of the same name but for the letter case. -/
theorem delete_field_exact_iff (children : List Member) :
    deleteField (.object children) =
        (true, .object (children.filter fun member => !isPrivate member)) ↔
      children.Pairwise fun earlier member =>
        isPrivate earlier = false → isPrivate member = true →
          sameName earlier.1 member.1 = false := by
  rw [delete_field_object, Prod.mk.injEq, CJsonItem.object.injEq,
    walk_delete_eq_filter_iff isPrivate same_member_self]
  exact and_iff_right rfl

/-- `Zyx_a` is deleted for `zyx_a`, which stays. -/
theorem delete_field_takes_namesake :
    deleteField (.object [(asciiBytes "Zyx_a", .number 1 1), (asciiBytes "zyx_a", .number 2 2)]) =
        (true, .object [(asciiBytes "zyx_a", .number 2 2)]) ∧
      ¬ ∀ children : List Member, deleteField (.object children) =
        (true, .object (children.filter fun member => !isPrivate member)) := by
  have run : deleteField
      (.object [(asciiBytes "Zyx_a", .number 1 1), (asciiBytes "zyx_a", .number 2 2)]) =
        (true, .object [(asciiBytes "zyx_a", .number 2 2)]) := rfl
  refine ⟨run, fun exactly => ?_⟩
  have stripped := run.symm.trans (exactly _)
  have kept : [(asciiBytes "Zyx_a", CJsonItem.number 1 1), (asciiBytes "zyx_a", .number 2 2)].filter
      (fun member => !isPrivate member) = [(asciiBytes "Zyx_a", .number 1 1)] := rfl
  rw [kept, Prod.mk.injEq, CJsonItem.object.injEq] at stripped
  have names : asciiBytes "zyx_a" ≠ asciiBytes "Zyx_a" := by decide
  simp [names] at stripped

end IotgoFirmware.Mcu.PrivateFields
