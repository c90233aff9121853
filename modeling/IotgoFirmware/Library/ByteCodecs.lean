import Mathlib.Algebra.Group.Basic
import Mathlib.Data.Fin.Tuple.Basic

/-!
# Values as bytes of a fixed number

A codec lays a value out in memory and reads it back from the front of the memory.
Codecs are put together as a C struct is from its members: one behind the other,
in arrays, and with padding.
-/

namespace IotgoFirmware.Library.ByteCodecs

set_option autoImplicit false

structure ByteCodec (Value : Type*) where
  width : Nat
  encode : Value → List UInt8
  decode : List UInt8 → Value
  encode_length : ∀ value, (encode value).length = width
  decode_encode : ∀ value rest, decode (encode value ++ rest) = value

namespace ByteCodec

variable {Value Left Right Item : Type*}

attribute [simp] encode_length

theorem decode_encode_all (codec : ByteCodec Value) (value : Value) :
    codec.decode (codec.encode value) = value := by
  have read := codec.decode_encode value []
  rw [List.append_nil] at read
  exact read

def byte : ByteCodec UInt8 where
  width := 1
  encode value := [value]
  decode memory := memory.getD 0 0
  encode_length _ := rfl
  decode_encode _ _ := rfl

def word : ByteCodec UInt32 where
  width := 4
  encode value := [UInt8.ofNat value.toNat, UInt8.ofNat (value.toNat / 256),
    UInt8.ofNat (value.toNat / 65536), UInt8.ofNat (value.toNat / 16777216)]
  decode memory := UInt32.ofNat ((memory.getD 0 0).toNat + 256 * (memory.getD 1 0).toNat +
    65536 * (memory.getD 2 0).toNat + 16777216 * (memory.getD 3 0).toNat)
  encode_length _ := rfl
  decode_encode value rest := by
    have bound := value.toNat_lt
    apply UInt32.toNat_inj.1
    simp only [List.cons_append, List.getD_cons_zero, List.getD_cons_succ, UInt8.toNat_ofNat',
      UInt32.toNat_ofNat']
    omega

def pair (left : ByteCodec Left) (right : ByteCodec Right) : ByteCodec (Left × Right) where
  width := left.width + right.width
  encode value := left.encode value.1 ++ right.encode value.2
  decode memory := (left.decode memory, right.decode (memory.drop left.width))
  encode_length value := by
    rw [List.length_append, left.encode_length, right.encode_length]
  decode_encode value rest := by
    have behind : (left.encode value.1 ++ (right.encode value.2 ++ rest)).drop left.width =
        right.encode value.2 ++ rest := List.drop_left' (left.encode_length value.1)
    rw [List.append_assoc, left.decode_encode, behind, right.decode_encode]

/-- Bytes behind the value that no one reads. -/
def padded (codec : ByteCodec Value) (count : Nat) : ByteCodec Value where
  width := codec.width + count
  encode value := codec.encode value ++ List.replicate count 0
  decode := codec.decode
  encode_length value := by
    rw [List.length_append, codec.encode_length, List.length_replicate]
  decode_encode value rest := by
    rw [List.append_assoc]
    exact codec.decode_encode value _

/-- The members of a struct under their names. -/
def named (codec : ByteCodec Value) (members : Item → Value) (make : Value → Item)
    (inverse : ∀ item, make (members item) = item) : ByteCodec Item where
  width := codec.width
  encode item := codec.encode (members item)
  decode memory := make (codec.decode memory)
  encode_length item := codec.encode_length (members item)
  decode_encode item rest := by
    rw [codec.decode_encode, inverse]

section Arrays

variable (item : ByteCodec Item)

def encodeArray : (count : Nat) → (Fin count → Item) → List UInt8
  | 0, _ => []
  | count + 1, items => item.encode (items 0) ++ encodeArray count fun index => items index.succ

theorem encode_array_length (count : Nat) (items : Fin count → Item) :
    (encodeArray item count items).length = count * item.width := by
  induction count with
  | zero => exact (Nat.zero_mul item.width).symm
  | succ count ih =>
      rw [encodeArray, List.length_append, item.encode_length, ih, Nat.succ_mul, Nat.add_comm]

theorem encode_array_drop (count : Nat) (items : Fin count → Item) (rest : List UInt8)
    (index : Fin count) :
    ∃ more, (encodeArray item count items ++ rest).drop (index * item.width) =
      item.encode (items index) ++ more := by
  induction count with
  | zero => exact index.elim0
  | succ count ih =>
      refine Fin.cases ?_ ?_ index
      · refine ⟨encodeArray item count (fun index => items index.succ) ++ rest, ?_⟩
        simp only [Fin.val_zero, Nat.zero_mul, List.drop_zero, encodeArray, List.append_assoc]
      · intro later
        rcases ih (fun index => items index.succ) later with ⟨more, found⟩
        refine ⟨more, ?_⟩
        rw [← found, Fin.val_succ, Nat.succ_mul, Nat.add_comm, ← List.drop_drop, encodeArray,
          List.append_assoc, List.drop_left' (item.encode_length (items 0))]

def array (count : Nat) : ByteCodec (Fin count → Item) where
  width := count * item.width
  encode := encodeArray item count
  decode memory index := item.decode (memory.drop (index * item.width))
  encode_length := encode_array_length item count
  decode_encode items rest := by
    funext index
    rcases encode_array_drop item count items rest index with ⟨more, found⟩
    rw [found, item.decode_encode]

end Arrays

end ByteCodec

end IotgoFirmware.Library.ByteCodecs
