import Mathlib.Data.List.FinRange
import Mathlib.Logic.Function.Basic

/-!
# Tables whose entries are marked as used

A value is put into the first entry that is not used, and is dropped where there is none. What
is added to an empty table one after another is there up to its size.
-/

namespace IotgoFirmware.Library.SlotTables

set_option autoImplicit false

variable {Value : Type*} {size : Nat}

def usedEntries (used : Value → Bool) (table : Fin size → Value) : List Value :=
  ((List.finRange size).map table).filter used

def addFirst (used : Value → Bool) (table : Fin size → Value) (value : Value) :
    Fin size → Value :=
  match (List.finRange size).find? fun slot => used (table slot) = false with
  | some slot => Function.update table slot value
  | none => table

variable {used : Value → Bool} {table : Fin size → Value} {slot : Fin size} {value : Value}

theorem update_perm (free : used (table slot) = false) (marked : used value = true) :
    (usedEntries used (Function.update table slot value)).Perm
      (value :: usedEntries used table) := by
  have slots : (List.finRange size).Perm (slot :: (List.finRange size).erase slot) :=
    List.perm_cons_erase (List.mem_finRange slot)
  have others : ((List.finRange size).erase slot).map (Function.update table slot value) =
      ((List.finRange size).erase slot).map table := by
    apply List.map_congr_left
    intro other member
    have apart : other ≠ slot := ((List.nodup_finRange size).mem_erase_iff.1 member).1
    exact Function.update_of_ne apart value table
  have before := (slots.map table).filter used
  have after := (slots.map (Function.update table slot value)).filter used
  rw [List.map_cons, List.filter_cons_of_neg (by simp [free])] at before
  rw [List.map_cons, Function.update_self, List.filter_cons_of_pos marked, others] at after
  exact after.trans (before.symm.cons value)

theorem entries_full (full : ∀ slot, used (table slot) = true) :
    (usedEntries used table).length = size := by
  have all : usedEntries used table = (List.finRange size).map table := by
    apply List.filter_eq_self.2
    intro entry member
    obtain ⟨slot, -, rfl⟩ := List.mem_map.1 member
    exact full slot
  rw [all, List.length_map, List.length_finRange]

theorem entries_free (free : used (table slot) = false) :
    (usedEntries used table).length < size := by
  have fewer : (usedEntries used table).length < ((List.finRange size).map table).length := by
    apply List.length_filter_lt_length_iff_exists.2
    exact ⟨table slot, List.mem_map_of_mem (List.mem_finRange slot), by simp [free]⟩
  rwa [List.length_map, List.length_finRange] at fewer

/-- The table holds the first values, as many as it has entries. -/
theorem add_first_perm {values : List Value} (marked : used value = true)
    (held : (usedEntries used table).Perm (values.take size)) :
    (usedEntries used (addFirst used table value)).Perm ((values ++ [value]).take size) := by
  have length := held.length_eq
  rw [List.length_take] at length
  unfold addFirst
  split
  · rename_i slot found
    have free : used (table slot) = false := by
      simpa using List.find?_some found
    have room := entries_free free
    have few : values.length < size := by omega
    rw [List.take_of_length_le (by simp; omega)]
    rw [List.take_of_length_le few.le] at held
    have last : (value :: values).Perm (values ++ [value]) :=
      (List.perm_append_singleton value values).symm
    exact (update_perm free marked).trans ((held.cons value).trans last)
  · rename_i none
    have full : ∀ slot, used (table slot) = true := by
      intro slot
      simpa using List.find?_eq_none.1 none slot (List.mem_finRange slot)
    have whole := entries_full full
    rw [List.take_append_of_le_length (by omega)]
    exact held

end IotgoFirmware.Library.SlotTables
