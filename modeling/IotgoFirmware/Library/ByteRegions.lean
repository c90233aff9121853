import Mathlib.Data.List.GetD

/-!
# Byte regions of a fixed size

A region is the memory a C pointer was allocated with. Its length is part of the
type, and a write outside it changes nothing but is remembered in `stray`, so
that "no write leaves the region" is a statement about the region itself. What
a read past the end finds is not the region's to say: it takes the bytes that
lie behind as an argument.
-/

namespace IotgoFirmware.Library.ByteRegions

set_option autoImplicit false

structure Region (size : Nat) where
  bytes : List UInt8
  sized : bytes.length = size
  stray : Bool
  deriving DecidableEq

namespace Region

variable {size : Nat}

attribute [simp] Region.sized

def zeros (size : Nat) : Region size where
  bytes := List.replicate size 0
  sized := List.length_replicate
  stray := false

/-- The bytes seen from the start of the region, those behind it included. -/
def seen (region : Region size) (beyond : List UInt8) : List UInt8 :=
  region.bytes ++ beyond

def read (region : Region size) (beyond : List UInt8) (index : Nat) : UInt8 :=
  (region.seen beyond).getD index 0

def write (region : Region size) (index : Nat) (byte : UInt8) : Region size where
  bytes := region.bytes.set index byte
  sized := by simp
  stray := region.stray || decide (size ≤ index)

/-- `memset(region + start, byte, count)`. -/
def fill (region : Region size) (start count : Nat) (byte : UInt8) : Region size where
  bytes := region.bytes.mapIdx fun index old =>
    if start ≤ index ∧ index < start + count then byte else old
  sized := by simp
  stray := region.stray || decide (0 < count ∧ size < start + count)

/-- `count` times `region[target++] = region[source++]`. -/
def copyForward (region : Region size) (beyond : List UInt8) :
    Nat → Nat → Nat → Region size
  | 0, _, _ => region
  | count + 1, source, target =>
      (region.write target (region.read beyond source)).copyForward beyond count
        (source + 1) (target + 1)

@[ext] theorem ext_bytes {left right : Region size} (bytes : left.bytes = right.bytes)
    (stray : left.stray = right.stray) : left = right := by
  cases left
  cases right
  simp_all

@[simp] theorem zeros_bytes : (zeros size).bytes = List.replicate size 0 := rfl
@[simp] theorem zeros_stray : (zeros size).stray = false := rfl

/-- Within the region a read does not depend on what lies behind. -/
theorem read_inside (region : Region size) (beyond : List UInt8) {index : Nat}
    (inside : index < size) : region.read beyond index = region.bytes[index]?.getD 0 := by
  rw [read, seen, List.getD_eq_getElem?_getD, List.getElem?_append_left (by simpa using inside)]

theorem write_bytes (region : Region size) (index : Nat) (byte : UInt8) :
    (region.write index byte).bytes = region.bytes.set index byte := rfl

theorem write_stray (region : Region size) {index : Nat} (byte : UInt8) (inside : index < size) :
    (region.write index byte).stray = region.stray := by
  simp [write, Nat.not_le.mpr inside]

theorem fill_get (region : Region size) (start count index : Nat) (byte : UInt8) :
    (region.fill start count byte).bytes[index]? =
      (region.bytes[index]?).map fun old =>
        if start ≤ index ∧ index < start + count then byte else old := by
  simp [fill, List.getElem?_mapIdx]

theorem fill_all (region : Region size) (byte : UInt8) :
    (region.fill 0 size byte).bytes = List.replicate size byte := by
  apply List.ext_getElem?
  intro index
  rw [fill_get]
  by_cases inside : index < size
  · rw [List.getElem?_eq_getElem (by simpa using inside)]
    simp [inside]
  · rw [List.getElem?_eq_none (by simpa using inside), List.getElem?_eq_none (by simpa using inside)]
    rfl

theorem fill_stray (region : Region size) (start count : Nat) (byte : UInt8) :
    (region.fill start count byte).stray =
      (region.stray || decide (0 < count ∧ size < start + count)) := rfl

theorem fill_all_stray (region : Region size) (byte : UInt8) :
    (region.fill 0 size byte).stray = region.stray := by
  simp [fill]

/-- Copying towards the front overtakes no byte that is still to be read. -/
theorem copy_forward_get (region : Region size) (beyond : List UInt8)
    (count source target index : Nat) (down : target < source)
    (room : source + count ≤ size) :
    (region.copyForward beyond count source target).bytes[index]? =
      if target ≤ index ∧ index < target + count then region.bytes[index + (source - target)]?
      else region.bytes[index]? := by
  induction count generalizing region source target with
  | zero =>
      rw [if_neg (by omega)]
      rfl
  | succ count ih =>
      have present : source < region.bytes.length := by simp; omega
      have byte : region.read beyond source = region.bytes[source] := by
        simp [read, seen, List.getD_eq_getElem?_getD, List.getElem?_append_left present,
          List.getElem?_eq_getElem present]
      rw [copyForward, ih _ (source + 1) (target + 1) (by omega) (by omega), write_bytes, byte]
      have offset : source + 1 - (target + 1) = source - target := by omega
      rw [offset]
      by_cases later : target + 1 ≤ index ∧ index < target + 1 + count
      · rw [if_pos later, if_pos (by omega), List.getElem?_set_ne (by omega)]
      · rw [if_neg later]
        by_cases now : index = target
        · subst now
          rw [if_pos (by omega), List.getElem?_set_self (by simp; omega),
            show index + (source - index) = source by omega, List.getElem?_eq_getElem present]
        · rw [if_neg (by omega), List.getElem?_set_ne (by omega)]

theorem copy_forward_stray (region : Region size) (beyond : List UInt8)
    (count source target : Nat) (room : target + count ≤ size) :
    (region.copyForward beyond count source target).stray = region.stray := by
  induction count generalizing region source target with
  | zero => rfl
  | succ count ih =>
      rw [copyForward, ih _ _ _ (by omega), write_stray _ _ (by omega)]

/-- What stands in a region after a fill or a copy depends on its bytes alone. -/
theorem fill_bytes_congr {left right : Region size} (same : left.bytes = right.bytes)
    (start count : Nat) (byte : UInt8) :
    (left.fill start count byte).bytes = (right.fill start count byte).bytes := by
  simp only [fill, same]

theorem copy_forward_bytes_congr {left right : Region size} (same : left.bytes = right.bytes)
    (beyond : List UInt8) (count source target : Nat) :
    (left.copyForward beyond count source target).bytes =
      (right.copyForward beyond count source target).bytes := by
  induction count generalizing left right source target with
  | zero => exact same
  | succ count ih =>
      apply ih
      simp only [write, read, seen, same]

end Region

end IotgoFirmware.Library.ByteRegions
