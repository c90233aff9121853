import Mathlib.Algebra.GroupWithZero.Nat
import Mathlib.Data.Fin.Basic
import Mathlib.Data.List.Range
import Mathlib.Logic.Function.Basic

/-!
# A ring of cells as a bounded queue

One cell stays free, so that an empty ring and a full one differ: a ring of `size`
cells is a first-in first-out queue of at most `size - 1` elements.
-/

namespace IotgoFirmware.Library.RingQueues

set_option autoImplicit false

structure Ring (α : Type*) (size : Nat) where
  cells : Fin size → α
  head : Fin size
  tail : Fin size

section Operations

variable {α : Type*} {size : Nat} [NeZero size]

def following (index : Fin size) : Fin size :=
  Fin.ofNat size (index + 1)

namespace Ring

def available (ring : Ring α size) : Nat :=
  (size + ring.head - ring.tail) % size

def cell (ring : Ring α size) (offset : Nat) : α :=
  ring.cells (Fin.ofNat size (ring.tail + offset))

/-- The elements, the oldest one first. -/
def contents (ring : Ring α size) : List α :=
  (List.range ring.available).map ring.cell

def push (ring : Ring α size) (element : α) : Ring α size :=
  if following ring.head = ring.tail then ring
  else { ring with
    cells := Function.update ring.cells ring.head element
    head := following ring.head }

def pop (ring : Ring α size) : Option (α × Ring α size) :=
  if ring.head = ring.tail then none
  else some (ring.cells ring.tail, { ring with tail := following ring.tail })

def flush (ring : Ring α size) : Ring α size :=
  { ring with head := ring.tail }

variable (ring : Ring α size)

@[simp] theorem contents_length : ring.contents.length = ring.available := by
  simp [contents]

theorem available_lt : ring.available < size :=
  Nat.mod_lt _ (Nat.pos_of_neZero size)

theorem following_val (index : Fin size) : (following index : Nat) = (index + 1) % size := rfl

omit [NeZero size] in
/-- The head is as far from the tail as there are elements. -/
theorem head_val : (ring.head : Nat) = (ring.tail + ring.available) % size := by
  have headBound := ring.head.isLt
  have tailBound := ring.tail.isLt
  unfold available
  rw [Nat.add_mod_mod, show (ring.tail : Nat) + (size + ring.head - ring.tail) =
    ring.head + size by omega, Nat.add_mod_right, Nat.mod_eq_of_lt headBound]

omit [NeZero size] in
theorem available_of_head {count : Nat} (bound : count < size)
    (position : (ring.head : Nat) = (ring.tail + count) % size) : ring.available = count := by
  have tailBound := ring.tail.isLt
  unfold available
  by_cases wraps : (ring.tail : Nat) + count < size
  · rw [position, Nat.mod_eq_of_lt wraps,
      show size + (ring.tail + count) - ring.tail = count + size by omega,
      Nat.add_mod_right, Nat.mod_eq_of_lt bound]
  · have wrapped : ((ring.tail : Nat) + count) % size = ring.tail + count - size := by
      rw [Nat.mod_eq_sub_mod (by omega), Nat.mod_eq_of_lt (by omega)]
    rw [position, wrapped, show size + (ring.tail + count - size) - ring.tail = count by omega,
      Nat.mod_eq_of_lt bound]

theorem head_eq_tail_iff : ring.head = ring.tail ↔ ring.available = 0 := by
  have tailBound := ring.tail.isLt
  constructor
  · intro same
    apply available_of_head ring (Nat.pos_of_neZero size)
    rw [same, Nat.add_zero, Nat.mod_eq_of_lt tailBound]
  · intro empty
    apply Fin.ext
    rw [head_val, empty, Nat.add_zero, Nat.mod_eq_of_lt tailBound]

theorem following_head_val :
    (following ring.head : Nat) = (ring.tail + (ring.available + 1)) % size := by
  rw [following_val, head_val, Nat.mod_add_mod, Nat.add_assoc]

theorem full_iff : following ring.head = ring.tail ↔ ring.available + 1 = size := by
  have tailBound := ring.tail.isLt
  have bound := ring.available_lt
  rw [Fin.ext_iff, following_head_val]
  constructor
  · intro meets
    by_contra room
    have count := Nat.mod_eq_of_lt (show ring.available + 1 < size by omega)
    by_cases wraps : (ring.tail : Nat) + (ring.available + 1) < size
    · rw [Nat.mod_eq_of_lt wraps] at meets
      omega
    · rw [Nat.mod_eq_sub_mod (by omega), Nat.mod_eq_of_lt (by omega)] at meets
      omega
  · intro full
    rw [full, Nat.add_mod_right, Nat.mod_eq_of_lt tailBound]

theorem push_full (full : ring.available + 1 = size) (element : α) : ring.push element = ring := by
  rw [push, if_pos (ring.full_iff.2 full)]

section Room

variable (room : ring.available + 1 < size) (element : α)
include room

theorem push_room :
    ring.push element = { ring with
      cells := Function.update ring.cells ring.head element
      head := following ring.head } := by
  rw [push, if_neg]
  intro full
  have := ring.full_iff.1 full
  omega

theorem available_push : (ring.push element).available = ring.available + 1 := by
  rw [push_room ring room]
  exact available_of_head _ room ring.following_head_val

/-- The cells in use are not the one that a push fills. -/
theorem cell_push {offset : Nat} (used : offset < ring.available) :
    (ring.push element).cell offset = ring.cell offset := by
  have tailBound := ring.tail.isLt
  rw [push_room ring room]
  apply Function.update_of_ne
  intro same
  have position := congrArg Fin.val same
  simp only [Fin.ofNat, ring.head_val] at position
  by_cases wraps : (ring.tail : Nat) + offset < size
  · rw [Nat.mod_eq_of_lt wraps] at position
    by_cases far : (ring.tail : Nat) + ring.available < size
    · rw [Nat.mod_eq_of_lt far] at position
      omega
    · rw [Nat.mod_eq_sub_mod (by omega), Nat.mod_eq_of_lt (by omega)] at position
      omega
  · rw [Nat.mod_eq_sub_mod (by omega), Nat.mod_eq_of_lt (by omega),
      Nat.mod_eq_sub_mod (a := (ring.tail : Nat) + ring.available) (by omega),
      Nat.mod_eq_of_lt (by omega)] at position
    omega

theorem cell_push_last : (ring.push element).cell ring.available = element := by
  rw [push_room ring room]
  have position : Fin.ofNat size (ring.tail + ring.available) = ring.head :=
    Fin.ext ring.head_val.symm
  simp only [cell, position, Function.update_self]

theorem contents_push : (ring.push element).contents = ring.contents ++ [element] := by
  rw [contents, available_push ring room, List.range_succ, List.map_append, List.map_singleton,
    cell_push_last ring room]
  congr 1
  apply List.map_congr_left
  intro offset member
  exact cell_push ring room element (List.mem_range.1 member)

end Room

theorem contents_flush : ring.flush.contents = [] := by
  apply List.eq_nil_of_length_eq_zero
  rw [contents_length]
  exact (ring.flush.head_eq_tail_iff).1 rfl

@[simp] theorem push_tail (element : α) : (ring.push element).tail = ring.tail := by
  unfold push
  split
  · rfl
  · rfl

theorem pop_empty (empty : ring.contents = []) : ring.pop = none := by
  have none := congrArg List.length empty
  rw [contents_length, List.length_nil] at none
  rw [pop, if_pos (ring.head_eq_tail_iff.2 none)]

theorem pop_contents {first : α} {rest : List α} (stored : ring.contents = first :: rest) :
    ring.pop = some (first, { ring with tail := following ring.tail }) ∧
      ({ ring with tail := following ring.tail } : Ring α size).contents = rest := by
  have tailBound := ring.tail.isLt
  have count := congrArg List.length stored
  rw [contents_length, List.length_cons] at count
  have fewer : ({ ring with tail := following ring.tail } : Ring α size).available =
      rest.length := by
    have bound := ring.available_lt
    apply available_of_head _ (by omega)
    rw [following_val, Nat.mod_add_mod, ring.head_val, count]
    congr 1
    omega
  rw [contents, count, List.range_succ_eq_map, List.map_cons, List.map_map] at stored
  obtain ⟨atTail, later⟩ := List.cons.inj stored
  have oldest : Fin.ofNat size (ring.tail + 0) = ring.tail :=
    Fin.ext (Nat.mod_eq_of_lt tailBound)
  constructor
  · rw [pop, if_neg, ← atTail, cell, oldest]
    intro same
    have := ring.head_eq_tail_iff.1 same
    omega
  · rw [← later, contents, fewer]
    apply List.map_congr_left
    intro offset _
    simp only [cell, Function.comp]
    congr 1
    apply Fin.ext
    simp only [Fin.ofNat, following_val, Nat.mod_add_mod]
    congr 1
    omega

end Ring

end Operations

end IotgoFirmware.Library.RingQueues
