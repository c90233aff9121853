import Mathlib.Algebra.Group.Nat.Defs

/-!
# Reflected cyclic redundancy checks

One step of the register takes one bit of the message. The step is linear in the register,
so that several steps are one look-up by the low bits and a shift of the others.
-/

namespace IotgoFirmware.Library.ReflectedCrc

set_option autoImplicit false

variable {width : Nat} (poly : BitVec width)

def crcStep (reg : BitVec width) : BitVec width :=
  if reg.getLsbD 0 then (reg >>> 1) ^^^ poly else reg >>> 1

def crcSteps : Nat → BitVec width → BitVec width
  | 0, reg => reg
  | count + 1, reg => crcSteps count (crcStep poly reg)

theorem crc_step_xor (left right : BitVec width) :
    crcStep poly (left ^^^ right) = crcStep poly left ^^^ crcStep poly right := by
  unfold crcStep
  simp only [BitVec.getLsbD_xor, BitVec.ushiftRight_xor_distrib]
  cases left.getLsbD 0 with
  | false =>
      cases right.getLsbD 0 with
      | false => simp
      | true => simp [BitVec.xor_assoc]
  | true =>
      cases right.getLsbD 0 with
      | false =>
          simp only [Bool.xor_false, if_true, Bool.false_eq_true, if_false]
          ac_rfl
      | true =>
          have cancel : poly ^^^ (right >>> 1 ^^^ poly) = right >>> 1 := by
            rw [BitVec.xor_comm, BitVec.xor_assoc, BitVec.xor_self, BitVec.xor_zero]
          simp [BitVec.xor_assoc, cancel]

theorem crc_steps_xor (count : Nat) (left right : BitVec width) :
    crcSteps poly count (left ^^^ right) =
      crcSteps poly count left ^^^ crcSteps poly count right := by
  induction count generalizing left right with
  | zero => rfl
  | succ count ih =>
      rw [crcSteps, crc_step_xor, ih]
      rfl

theorem crc_steps_add (first second : Nat) (reg : BitVec width) :
    crcSteps poly (first + second) reg = crcSteps poly second (crcSteps poly first reg) := by
  induction first generalizing reg with
  | zero => rw [Nat.zero_add, crcSteps]
  | succ first ih =>
      rw [Nat.add_right_comm, crcSteps, ih]
      rfl

/-- A register whose low bits are clear is only shifted. -/
theorem crc_steps_clear {count : Nat} {reg : BitVec width}
    (clear : ∀ index < count, reg.getLsbD index = false) :
    crcSteps poly count reg = reg >>> count := by
  induction count generalizing reg with
  | zero => rfl
  | succ count ih =>
      have even : crcStep poly reg = reg >>> 1 := by
        unfold crcStep
        rw [clear 0 (Nat.succ_pos count), if_neg (by decide)]
      rw [crcSteps, even, ih, ← BitVec.shiftRight_add, Nat.add_comm]
      intro index inside
      rw [BitVec.getLsbD_ushiftRight]
      exact clear (1 + index) (by omega)

/-- The bits that `count` steps shift out. -/
def lowBits (count : Nat) (reg : BitVec width) : BitVec width :=
  reg &&& BitVec.ofNat width (2 ^ count - 1)

theorem low_bits_get (count : Nat) (reg : BitVec width) (index : Nat) :
    (lowBits count reg).getLsbD index = (reg.getLsbD index && decide (index < count)) := by
  unfold lowBits
  rw [BitVec.getLsbD_and, BitVec.getLsbD_ofNat, Nat.testBit_two_pow_sub_one]
  by_cases inside : index < width
  · simp [inside]
  · simp [BitVec.getLsbD_of_ge reg index (Nat.le_of_not_lt inside)]

/-- Several steps as one: what the low bits leave, from a table, and the shifted others. -/
theorem crc_steps_table (count : Nat) (reg : BitVec width) :
    crcSteps poly count reg = (reg >>> count) ^^^ crcSteps poly count (lowBits count reg) := by
  have split : reg = (reg ^^^ lowBits count reg) ^^^ lowBits count reg := by
    rw [BitVec.xor_assoc, BitVec.xor_self, BitVec.xor_zero]
  have high : crcSteps poly count (reg ^^^ lowBits count reg) = reg >>> count := by
    have clear : ∀ index < count, (reg ^^^ lowBits count reg).getLsbD index = false := by
      intro index inside
      simp [low_bits_get, inside]
    rw [crc_steps_clear poly clear]
    apply BitVec.eq_of_getLsbD_eq
    intro index _
    have beyond : ¬ count + index < count := by omega
    simp [BitVec.getLsbD_ushiftRight, low_bits_get, beyond]
  calc crcSteps poly count reg
      = crcSteps poly count ((reg ^^^ lowBits count reg) ^^^ lowBits count reg) := by rw [← split]
    _ = (reg >>> count) ^^^ crcSteps poly count (lowBits count reg) := by
        rw [crc_steps_xor, high]

/-- The message may come in two parts, the high bits when the low ones are through. -/
theorem crc_steps_parts (count : Nat) (reg message : BitVec width) :
    crcSteps poly count (reg ^^^ message) =
      crcSteps poly count (reg ^^^ lowBits count message) ^^^ (message >>> count) := by
  rw [crc_steps_xor, crc_steps_table poly count message, crc_steps_xor]
  ac_rfl

end IotgoFirmware.Library.ReflectedCrc
