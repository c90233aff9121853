import Mathlib.Data.Int.Notation
import Mathlib.Data.Nat.Notation

/-!
# C integers of a fixed width

A value of `uint16` is kept as the natural number it stands for and a value of
`sint16` or `sint8` as the integer; storing an `int` keeps as many of its low bits
as the type has.
-/

namespace IotgoFirmware.Library.CIntegers

set_option autoImplicit false

/-- What a `uint16` holds after an `int` is stored in it. -/
def uint16 (value : Int) : Nat :=
  (value % 65536).toNat

def uint32 (value : Int) : Nat :=
  (value % 4294967296).toNat

def sint32 (value : Int) : Int :=
  (value + 2147483648) % 4294967296 - 2147483648

/-- The low 16 bits, from 32768 on as a negative number. -/
def sint16 (value : Int) : Int :=
  (value + 32768) % 65536 - 32768

def sint8 (value : Int) : Int :=
  (value + 128) % 256 - 128

theorem uint16_lt (value : Int) : uint16 value < 65536 := by
  unfold uint16
  omega

theorem uint16_of_lt {value : Int} (nonneg : 0 ≤ value) (small : value < 65536) :
    uint16 value = value.toNat := by
  unfold uint16
  omega

@[simp] theorem uint16_natCast {value : Nat} (small : value < 65536) :
    uint16 value = value := by
  unfold uint16
  omega

theorem sint16_of_small {value : Int} (lower : -32768 ≤ value) (upper : value < 32768) :
    sint16 value = value := by
  unfold sint16
  omega

theorem sint16_natCast {value : Nat} (small : value < 32768) : sint16 value = value := by
  unfold sint16
  omega

theorem of_int_natCast (value : Nat) : UInt32.ofInt value = UInt32.ofNat value := by
  apply UInt32.toNat.inj
  simp only [UInt32.ofInt, UInt32.toNat_ofNat']
  omega

theorem uint8_of_int_value (value : Int) : ((UInt8.ofInt value).toNat : Int) = value % 256 := by
  simp only [UInt8.ofInt, UInt8.toNat_ofNat']
  omega

theorem uint16_of_int_value (value : Int) :
    ((UInt16.ofInt value).toNat : Int) = value % 65536 := by
  simp only [UInt16.ofInt, UInt16.toNat_ofNat']
  omega

theorem uint8_of_int_le_iff {value : Int} {bound : UInt8} :
    UInt8.ofInt value ≤ bound ↔ value % 256 ≤ bound.toNat := by
  rw [UInt8.le_iff_toNat_le, ← uint8_of_int_value]
  omega

end IotgoFirmware.Library.CIntegers
