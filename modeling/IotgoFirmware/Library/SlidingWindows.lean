import Mathlib.Algebra.Order.BigOperators.Group.List
import Mathlib.Data.List.GetD

/-!
# Windows over the last values

A window of a fixed width takes in a value at its front and drops one at its end. After as many
values as it is wide it holds nothing else, so that its sum lies where theirs do.
-/

namespace IotgoFirmware.Library.SlidingWindows

set_option autoImplicit false

variable {Value : Type*}

def push (window : List Value) (value : Value) : List Value :=
  value :: window.dropLast

/-- The loop that moves the cells up to `index` by one, the last one first. -/
def shiftUp (zero : Value) : Nat → List Value → List Value
  | 0, window => window
  | index + 1, window => shiftUp zero index (window.set (index + 1) (window.getD index zero))

theorem push_ne_nil (window : List Value) (value : Value) : push window value ≠ [] :=
  List.cons_ne_nil _ _

theorem push_length {window : List Value} (wide : window ≠ []) (value : Value) :
    (push window value).length = window.length := by
  have positive := List.length_pos_iff.2 wide
  rw [push, List.length_cons, List.length_dropLast]
  omega

theorem shift_up_front (zero : Value) (index : Nat) (front back : List Value)
    (length : front.length = index + 1) :
    shiftUp zero index (front ++ back) = front.getD 0 zero :: front.dropLast ++ back := by
  induction index generalizing front back with
  | zero =>
      obtain ⟨first, rfl⟩ := List.length_eq_one_iff.1 length
      rfl
  | succ index ih =>
      obtain ⟨rest, last, rfl⟩ : ∃ rest last, front = rest ++ [last] :=
        ⟨_, _, (List.dropLast_append_getLast (List.ne_nil_of_length_eq_add_one length)).symm⟩
      have short : rest.length = index + 1 := by
        rw [List.length_append, List.length_singleton] at length
        exact Nat.succ_injective length
      have filled : rest.dropLast ++ [rest.getD index zero] = rest := by
        have some : rest ≠ [] := List.ne_nil_of_length_eq_add_one short
        have last : rest.getD index zero = rest.getLast some := by
          rw [List.getD_eq_getElem rest zero (by omega), List.getLast_eq_getElem]
          simp only [short, Nat.add_sub_cancel]
        rw [last, List.dropLast_append_getLast]
      have moved : (rest ++ [last] ++ back).set (index + 1)
          ((rest ++ [last] ++ back).getD index zero) = rest ++ (rest.getD index zero :: back) := by
        rw [List.append_assoc, List.getD_append _ _ _ _ (by omega), ← short,
          List.set_append_right _ _ (Nat.le_refl _), Nat.sub_self]
        rfl
      rw [shiftUp, moved, ih rest _ short, List.dropLast_concat, List.getD_append _ _ _ _ (by omega),
        List.append_cons, List.cons_append, filled]

theorem shift_up_set (zero value : Value) {window : List Value} {index : Nat}
    (length : window.length = index + 1) :
    (shiftUp zero index window).set 0 value = push window value := by
  have shifted := shift_up_front zero index window [] length
  rw [List.append_nil, List.append_nil] at shifted
  rw [shifted, List.set_cons_zero, push]

theorem push_all (values : List Value) {window : List Value} (wide : window ≠ []) :
    values.foldl push window = (values.reverse ++ window).take window.length := by
  induction values generalizing window with
  | nil => exact (List.take_length).symm
  | cons value values ih =>
      have dropped : (values.reverse ++ push window value).take window.length =
          (values.reverse ++ push window value ++ [window.getLast wide]).take window.length := by
        have enough : window.length ≤ (values.reverse ++ push window value).length := by
          rw [List.length_append, push_length wide]
          exact Nat.le_add_left _ _
        exact (List.take_append_of_le_length enough).symm
      rw [List.foldl_cons, ih (push_ne_nil window value), push_length wide, dropped, push,
        List.append_assoc, List.cons_append, List.dropLast_append_getLast, List.reverse_cons,
        List.append_assoc, List.singleton_append]

theorem mem_push_all {values window : List Value} {value : Value} (wide : window ≠ [])
    (enough : window.length ≤ values.length) (member : value ∈ values.foldl push window) :
    value ∈ values := by
  rw [push_all values wide, List.take_append_of_le_length (by rw [List.length_reverse]; exact enough)] at member
  exact List.mem_reverse.1 (List.mem_of_mem_take member)

end IotgoFirmware.Library.SlidingWindows
