import Mathlib.Data.List.Basic

/-!
# Streams of blocks

A function that takes blocks of one size is run over a sequence that comes in parts. What it
has taken is the same for all partings, if the items of a block that is not full yet are kept.
-/

namespace IotgoFirmware.Library.BlockStreams

set_option autoImplicit false

variable {Item State : Type} (size : Nat) (process : State → List Item → State)

/-- The first `count` blocks. -/
def absorbBlocks : Nat → State → List Item → State
  | 0, state, _ => state
  | count + 1, state, items =>
      absorbBlocks count (process state (items.take size)) (items.drop size)

/-- All the blocks that are full. -/
def absorb (state : State) (items : List Item) : State :=
  absorbBlocks size process (items.length / size) state items

def rest (items : List Item) : List Item :=
  items.drop (size * (items.length / size))

section Blocks

variable {size process} {state : State} {items front back : List Item} {count : Nat}

theorem absorb_blocks_add (first second : Nat) (state : State) (items : List Item) :
    absorbBlocks size process (first + second) state items =
      absorbBlocks size process second (absorbBlocks size process first state items)
        (items.drop (size * first)) := by
  induction first generalizing state items with
  | zero => simp [absorbBlocks]
  | succ first ih =>
      rw [Nat.succ_add_eq_add_succ, Nat.add_succ, absorbBlocks, ih, List.drop_drop,
        Nat.mul_succ, Nat.add_comm size]
      rfl

theorem absorb_blocks_append (enough : size * count ≤ front.length) (state : State)
    (back : List Item) :
    absorbBlocks size process count state (front ++ back) =
      absorbBlocks size process count state front := by
  induction count generalizing state front with
  | zero => rfl
  | succ count ih =>
      rw [Nat.mul_succ] at enough
      rw [absorbBlocks, absorbBlocks, List.take_append_of_le_length (by omega),
        List.drop_append_of_le_length (by omega)]
      exact ih (by rw [List.length_drop]; omega) _

theorem rest_length (size : Nat) (items : List Item) :
    (rest size items).length = items.length % size := by
  have split := Nat.div_add_mod items.length size
  rw [rest, List.length_drop]
  omega

theorem drop_full (size : Nat) (front back : List Item) :
    (front ++ back).drop (size * (front.length / size)) = rest size front ++ back := by
  rw [List.drop_append_of_le_length (Nat.mul_div_le front.length size), rest]

theorem blocks_append (positive : 0 < size) (front back : List Item) :
    (front ++ back).length / size =
      front.length / size + (rest size front ++ back).length / size := by
  have split := Nat.div_add_mod front.length size
  rw [List.length_append, List.length_append, rest_length, Nat.add_comm (front.length / size),
    ← Nat.add_mul_div_left _ _ positive]
  congr 1
  omega

theorem absorb_append (positive : 0 < size) (state : State) (front back : List Item) :
    absorb size process state (front ++ back) =
      absorb size process (absorb size process state front) (rest size front ++ back) := by
  rw [absorb, blocks_append positive, absorb_blocks_add, drop_full,
    absorb_blocks_append (Nat.mul_div_le front.length size)]
  rfl

theorem rest_append (positive : 0 < size) (front back : List Item) :
    rest size (front ++ back) = rest size (rest size front ++ back) := by
  rw [rest, blocks_append positive, Nat.mul_add, ← List.drop_drop, drop_full]
  rfl

theorem absorb_short (short : items.length < size) (state : State) :
    absorb size process state items = state := by
  rw [absorb, Nat.div_eq_of_lt short]
  rfl

theorem rest_short (short : items.length < size) : rest size items = items := by
  rw [rest, Nat.div_eq_of_lt short]
  rfl

theorem absorb_block (positive : 0 < size) (full : items.length = size) (state : State) :
    absorb size process state items = process state items := by
  have whole : items.take size = items := by
    rw [← full]
    exact List.take_length
  rw [absorb, full, Nat.div_self positive, absorbBlocks, whole]
  rfl

theorem rest_block (full : items.length = size) : rest size items = [] := by
  apply List.eq_nil_of_length_eq_zero
  rw [rest_length, full, Nat.mod_self]

end Blocks

end IotgoFirmware.Library.BlockStreams
