import IotgoFirmware.Library.BlockStreams
import Mathlib.Algebra.Order.Ring.Nat
import Mathlib.Data.List.GetD
import Mathlib.Tactic.Ring

/-!
# SHA-256

`sha256.c`, which takes the bytes of an image in parts of any length, against the standard,
which pads a whole message and takes its blocks one by one. The bytes of an unfinished block
are kept in the context, and the number of bytes in two words.
-/

namespace IotgoFirmware.Upgrade.Sha256

open IotgoFirmware.Library.BlockStreams

set_option autoImplicit false

structure HashState where
  a : UInt32
  b : UInt32
  c : UInt32
  d : UInt32
  e : UInt32
  f : UInt32
  g : UInt32
  h : UInt32
deriving DecidableEq

def HashState.add (left right : HashState) : HashState :=
  ⟨left.a + right.a, left.b + right.b, left.c + right.c, left.d + right.d, left.e + right.e,
    left.f + right.f, left.g + right.g, left.h + right.h⟩

def HashState.words (state : HashState) : List UInt32 :=
  [state.a, state.b, state.c, state.d, state.e, state.f, state.g, state.h]

/-- The constants of the rounds, in the order of the lines of `sha256_process`. -/
def constants : List UInt32 :=
  [0x428A2F98, 0x71374491, 0xB5C0FBCF, 0xE9B5DBA5, 0x3956C25B, 0x59F111F1, 0x923F82A4, 0xAB1C5ED5,
    0xD807AA98, 0x12835B01, 0x243185BE, 0x550C7DC3, 0x72BE5D74, 0x80DEB1FE, 0x9BDC06A7, 0xC19BF174,
    0xE49B69C1, 0xEFBE4786, 0x0FC19DC6, 0x240CA1CC, 0x2DE92C6F, 0x4A7484AA, 0x5CB0A9DC, 0x76F988DA,
    0x983E5152, 0xA831C66D, 0xB00327C8, 0xBF597FC7, 0xC6E00BF3, 0xD5A79147, 0x06CA6351, 0x14292967,
    0x27B70A85, 0x2E1B2138, 0x4D2C6DFC, 0x53380D13, 0x650A7354, 0x766A0ABB, 0x81C2C92E, 0x92722C85,
    0xA2BFE8A1, 0xA81A664B, 0xC24B8B70, 0xC76C51A3, 0xD192E819, 0xD6990624, 0xF40E3585, 0x106AA070,
    0x19A4C116, 0x1E376C08, 0x2748774C, 0x34B0BCB5, 0x391C0CB3, 0x4ED8AA4A, 0x5B9CCA4F, 0x682E6FF3,
    0x748F82EE, 0x78A5636F, 0x84C87814, 0x8CC70208, 0x90BEFFFA, 0xA4506CEB, 0xBEF9A3F7, 0xC67178F2]

section Code

def getUint32 (b : List UInt8) (i : Nat) : UInt32 :=
  (b.getD i 0).toUInt32 <<< 24 ||| (b.getD (i + 1) 0).toUInt32 <<< 16 |||
    (b.getD (i + 2) 0).toUInt32 <<< 8 ||| (b.getD (i + 3) 0).toUInt32

def putUint32 (n : UInt32) : List UInt8 :=
  [(n >>> 24).toUInt8, (n >>> 16).toUInt8, (n >>> 8).toUInt8, n.toUInt8]

def shr (x n : UInt32) : UInt32 :=
  (x &&& 0xFFFFFFFF) >>> n

def rotr (x n : UInt32) : UInt32 :=
  shr x n ||| x <<< (32 - n)

def s0 (x : UInt32) : UInt32 :=
  rotr x 7 ^^^ rotr x 18 ^^^ shr x 3

def s1 (x : UInt32) : UInt32 :=
  rotr x 17 ^^^ rotr x 19 ^^^ shr x 10

def s2 (x : UInt32) : UInt32 :=
  rotr x 2 ^^^ rotr x 13 ^^^ rotr x 22

def s3 (x : UInt32) : UInt32 :=
  rotr x 6 ^^^ rotr x 11 ^^^ rotr x 25

def f0 (x y z : UInt32) : UInt32 :=
  (x &&& y) ||| (z &&& (x ||| y))

def f1 (x y z : UInt32) : UInt32 :=
  z ^^^ (x &&& (y ^^^ z))

/-- `P`; the words are named as the next line of `sha256_process` passes them, one place on. -/
def p (state : HashState) (x k : UInt32) : HashState :=
  let temp1 := state.h + s3 state.e + f1 state.e state.f state.g + k + x
  let temp2 := s2 state.a + f0 state.a state.b state.c
  ⟨temp1 + temp2, state.a, state.b, state.c, state.d + temp1, state.e, state.f, state.g⟩

/-- `R` for the words from the sixteenth on. -/
def extend : Nat → List UInt32 → List UInt32
  | 0, w => w
  | count + 1, w =>
      let t := w.length
      extend count (w ++ [s1 (w.getD (t - 2) 0) + w.getD (t - 7) 0 + s0 (w.getD (t - 15) 0) +
        w.getD (t - 16) 0])

def sha256Process (state : HashState) (data : List UInt8) : HashState :=
  let w := extend 48 ((List.range 16).map fun t => getUint32 data (4 * t))
  state.add ((List.range 64).foldl (fun state t => p state (w.getD t 0) (constants.getD t 0)) state)

/-- `total` has the low word first, and `buffer` 64 bytes. -/
structure Sha256Context where
  total0 : UInt32
  total1 : UInt32
  state : HashState
  buffer : List UInt8
deriving DecidableEq

def initialState : HashState :=
  ⟨0x6A09E667, 0xBB67AE85, 0x3C6EF372, 0xA54FF53A, 0x510E527F, 0x9B05688C, 0x1F83D9AB, 0x5BE0CD19⟩

/-- The buffer has any bytes. -/
def sha256Starts (buffer : List UInt8) : Sha256Context where
  total0 := 0
  total1 := 0
  state := initialState
  buffer

def memcpy (buffer : List UInt8) (left : Nat) (input : List UInt8) : List UInt8 :=
  buffer.take left ++ input ++ buffer.drop (left + input.length)

/-- The loop over the blocks, and the bytes behind them. -/
def processInput (ctx : Sha256Context) (left : Nat) (input : List UInt8) : Sha256Context :=
  let state := absorbBlocks 64 sha256Process (input.length / 64) ctx.state input
  let input := input.drop (64 * (input.length / 64))
  if input.length ≠ 0 then { ctx with state, buffer := memcpy ctx.buffer left input }
  else { ctx with state }

def sha256Update (ctx : Sha256Context) (input : List UInt8) : Sha256Context :=
  if input.length = 0 then ctx
  else
    let left := (ctx.total0 &&& 0x3F).toNat
    let fill := 64 - left
    let total0 := ctx.total0 + UInt32.ofNat input.length
    let total1 := if total0 < UInt32.ofNat input.length then ctx.total1 + 1 else ctx.total1
    if left ≠ 0 ∧ fill ≤ input.length then
      let buffer := memcpy ctx.buffer left (input.take fill)
      processInput ⟨total0, total1, sha256Process ctx.state buffer, buffer⟩ 0 (input.drop fill)
    else processInput ⟨total0, total1, ctx.state, ctx.buffer⟩ left input

def sha256Padding : List UInt8 :=
  0x80 :: List.replicate 63 0

def sha256Finish (ctx : Sha256Context) : List UInt8 :=
  let high := ctx.total0 >>> 29 ||| ctx.total1 <<< 3
  let low := ctx.total0 <<< 3
  let last := (ctx.total0 &&& 0x3F).toNat
  let padn := if last < 56 then 56 - last else 120 - last
  let padded := sha256Update ctx (sha256Padding.take padn)
  let ended := sha256Update padded (putUint32 high ++ putUint32 low)
  ended.state.words.flatMap putUint32

end Code

section Standard

def rotateRight (x : UInt32) (n : Nat) : UInt32 :=
  ⟨x.toBitVec.rotateRight n⟩

def choose (x y z : UInt32) : UInt32 :=
  (x &&& y) ^^^ (~~~x &&& z)

def majority (x y z : UInt32) : UInt32 :=
  (x &&& y) ^^^ (x &&& z) ^^^ (y &&& z)

/-- The word of a block for a round. -/
def scheduled (block : List UInt8) (t : Nat) : UInt32 :=
  if t < 16 then getUint32 block (4 * t)
  else
    (rotateRight (scheduled block (t - 2)) 17 ^^^ rotateRight (scheduled block (t - 2)) 19 ^^^
        scheduled block (t - 2) >>> 10) + scheduled block (t - 7) +
      (rotateRight (scheduled block (t - 15)) 7 ^^^ rotateRight (scheduled block (t - 15)) 18 ^^^
        scheduled block (t - 15) >>> 3) + scheduled block (t - 16)
termination_by t

def round (block : List UInt8) (state : HashState) (t : Nat) : HashState :=
  let first := state.h +
    (rotateRight state.e 6 ^^^ rotateRight state.e 11 ^^^ rotateRight state.e 25) +
    choose state.e state.f state.g + constants.getD t 0 + scheduled block t
  let second := (rotateRight state.a 2 ^^^ rotateRight state.a 13 ^^^ rotateRight state.a 22) +
    majority state.a state.b state.c
  ⟨first + second, state.a, state.b, state.c, state.d + first, state.e, state.f, state.g⟩

def compress (state : HashState) (block : List UInt8) : HashState :=
  state.add ((List.range 64).foldl (round block) state)

/-- A number in eight bytes, the highest one first. -/
def bigEndian64 (number : Nat) : List UInt8 :=
  [56, 48, 40, 32, 24, 16, 8, 0].map fun bits => UInt8.ofNat (number / 2 ^ bits)

/-- A one bit, zeros, and the number of bits. -/
def padding (length : Nat) : List UInt8 :=
  0x80 :: List.replicate ((119 - length % 64) % 64) 0 ++ bigEndian64 (8 * length)

def digest (message : List UInt8) : List UInt8 :=
  (absorb 64 compress initialState (message ++ padding message.length)).words.flatMap putUint32

end Standard

section Bits

variable {x y z : UInt32}

theorem word_ext (bits : ∀ i < 32, x.toBitVec.getLsbD i = y.toBitVec.getLsbD i) : x = y := by
  apply UInt32.toBitVec_inj.1
  apply BitVec.eq_of_getLsbD_eq
  exact bits

theorem f0_eq (x y z : UInt32) : f0 x y z = majority x y z := by
  apply word_ext
  intro i _
  simp only [f0, majority, UInt32.toBitVec_or, UInt32.toBitVec_and, UInt32.toBitVec_xor,
    BitVec.getLsbD_or, BitVec.getLsbD_and, BitVec.getLsbD_xor]
  cases x.toBitVec.getLsbD i <;> cases y.toBitVec.getLsbD i <;> cases z.toBitVec.getLsbD i <;> rfl

theorem f1_eq (x y z : UInt32) : f1 x y z = choose x y z := by
  apply word_ext
  intro i small
  simp only [f1, choose, UInt32.toBitVec_and, UInt32.toBitVec_xor, UInt32.toBitVec_not,
    BitVec.getLsbD_and, BitVec.getLsbD_xor, BitVec.getLsbD_not, small, decide_true, Bool.true_and]
  cases x.toBitVec.getLsbD i <;> cases y.toBitVec.getLsbD i <;> cases z.toBitVec.getLsbD i <;> rfl

theorem shr_eq (x n : UInt32) : shr x n = x >>> n := by
  have mask : x &&& 0xFFFFFFFF = x := by
    apply word_ext
    intro i small
    rw [UInt32.toBitVec_and, BitVec.getLsbD_and]
    change (x.toBitVec.getLsbD i && (BitVec.allOnes 32).getLsbD i) = _
    rw [BitVec.getLsbD_allOnes]
    simp [small]
  rw [shr, mask]

/-- The two shifts are a rotation. -/
theorem rotr_eq {n : Nat} (positive : 0 < n) (small : n < 32) (x : UInt32) :
    rotr x (UInt32.ofNat n) = rotateRight x n := by
  apply UInt32.toBitVec_inj.1
  rw [rotr, shr_eq, rotateRight, UInt32.toBitVec_or, UInt32.toBitVec_shiftRight,
    UInt32.toBitVec_shiftLeft, BitVec.rotateRight_def]
  have here : (UInt32.ofNat n).toBitVec.toNat = n := by
    change (UInt32.ofNat n).toNat = n
    rw [UInt32.toNat_ofNat']
    omega
  have there : (32 - UInt32.ofNat n).toBitVec.toNat = 32 - n := by
    change (32 - UInt32.ofNat n).toNat = 32 - n
    have whole : UInt32.toNat 32 = 32 := rfl
    rw [UInt32.toNat_sub, whole]
    change (2 ^ 32 - (UInt32.ofNat n).toBitVec.toNat + 32) % 2 ^ 32 = 32 - n
    rw [here]
    omega
  have right : ∀ amount : BitVec 32, x.toBitVec >>> amount = x.toBitVec >>> amount.toNat :=
    fun _ => rfl
  have left : ∀ amount : BitVec 32, x.toBitVec <<< amount = x.toBitVec <<< amount.toNat :=
    fun _ => rfl
  have width : (32 : BitVec 32).toNat = 32 := rfl
  have low : n % 32 = n := Nat.mod_eq_of_lt small
  have high : (32 - n) % 32 = 32 - n := Nat.mod_eq_of_lt (by omega)
  rw [right, left, BitVec.toNat_umod, BitVec.toNat_umod, here, there, width, high, low]

theorem s0_eq (x : UInt32) : s0 x = rotateRight x 7 ^^^ rotateRight x 18 ^^^ x >>> 3 := by
  rw [← rotr_eq (by decide) (by decide), ← rotr_eq (by decide) (by decide), ← shr_eq]
  rfl

theorem s1_eq (x : UInt32) : s1 x = rotateRight x 17 ^^^ rotateRight x 19 ^^^ x >>> 10 := by
  rw [← rotr_eq (by decide) (by decide), ← rotr_eq (by decide) (by decide), ← shr_eq]
  rfl

theorem s2_eq (x : UInt32) :
    s2 x = rotateRight x 2 ^^^ rotateRight x 13 ^^^ rotateRight x 22 := by
  rw [← rotr_eq (by decide) (by decide), ← rotr_eq (by decide) (by decide),
    ← rotr_eq (by decide) (by decide)]
  rfl

theorem s3_eq (x : UInt32) :
    s3 x = rotateRight x 6 ^^^ rotateRight x 11 ^^^ rotateRight x 25 := by
  rw [← rotr_eq (by decide) (by decide), ← rotr_eq (by decide) (by decide),
    ← rotr_eq (by decide) (by decide)]
  rfl

end Bits

section Rounds

theorem extend_scheduled (block : List UInt8) (count : Nat) (w : List UInt32)
    (enough : 16 ≤ w.length) (known : ∀ t < w.length, w.getD t 0 = scheduled block t) :
    ∀ t < w.length + count, (extend count w).getD t 0 = scheduled block t := by
  induction count generalizing w with
  | zero => exact known
  | succ count ih =>
      have next : s1 (w.getD (w.length - 2) 0) + w.getD (w.length - 7) 0 +
          s0 (w.getD (w.length - 15) 0) + w.getD (w.length - 16) 0 = scheduled block w.length := by
        rw [known _ (by omega), known _ (by omega), known _ (by omega), known _ (by omega)]
        rw [s0_eq, s1_eq]
        conv_rhs => rw [scheduled, if_neg (Nat.not_lt.2 enough)]
      intro t inside
      rw [extend, next]
      apply ih
      · rw [List.length_append]
        omega
      · intro other bound
        rw [List.length_append, List.length_singleton] at bound
        by_cases before : other < w.length
        · rw [List.getD_append _ _ _ _ before, known other before]
        · have same : other = w.length := by omega
          rw [List.getD_append_right _ _ _ _ (by omega), same, Nat.sub_self]
          rfl
      · rw [List.length_append, List.length_singleton]
        omega

theorem p_eq (block : List UInt8) (state : HashState) (t : Nat) :
    p state (scheduled block t) (constants.getD t 0) = round block state t := by
  rw [p, s2_eq, s3_eq, f0_eq, f1_eq]
  rfl

theorem first_words (block : List UInt8) :
    ∀ t < 16, ((List.range 16).map fun t => getUint32 block (4 * t)).getD t 0 =
      scheduled block t := by
  intro t small
  rw [List.getD_eq_getElem _ _ (by simpa using small), List.getElem_map, List.getElem_range,
    scheduled, if_pos small]

/-- The loop that is written out in the source takes a block as the standard does. -/
theorem process_compress : sha256Process = compress := by
  funext state block
  have words : ∀ t < 64, (extend 48 ((List.range 16).map fun t =>
      getUint32 block (4 * t))).getD t 0 = scheduled block t := by
    have length : ((List.range 16).map fun t => getUint32 block (4 * t)).length = 16 := by simp
    intro t small
    refine extend_scheduled block 48 _ (by omega) ?_ t (by omega)
    intro other bound
    exact first_words block other (by omega)
  unfold sha256Process compress
  generalize extend 48 ((List.range 16).map fun t => getUint32 block (4 * t)) = w at words
  refine congrArg state.add (List.foldl_ext _ _ state fun state t listed => ?_)
  rw [words t (List.mem_range.1 listed), p_eq]

end Rounds

/-- The context has taken the message. -/
structure Represents (ctx : Sha256Context) (message : List UInt8) : Prop where
  total : ctx.total0.toNat + 2 ^ 32 * ctx.total1.toNat = message.length % 2 ^ 64
  state : ctx.state = absorb 64 sha256Process initialState message
  buffered : ctx.buffer.length = 64
  kept : ctx.buffer.take (message.length % 64) = rest 64 message

section Updates

variable {ctx : Sha256Context} {message input : List UInt8} {left : Nat}

theorem starts_represents {buffer : List UInt8} (buffered : buffer.length = 64) :
    Represents (sha256Starts buffer) [] :=
  ⟨rfl, rfl, buffered, rfl⟩

theorem memcpy_length (buffer : List UInt8) (fits : left + input.length ≤ buffer.length) :
    (memcpy buffer left input).length = buffer.length := by
  simp only [memcpy, List.length_append, List.length_take, List.length_drop]
  omega

theorem memcpy_take (buffer : List UInt8) (fits : left + input.length ≤ buffer.length) :
    (memcpy buffer left input).take (left + input.length) = buffer.take left ++ input := by
  have length : (buffer.take left ++ input).length = left + input.length := by
    rw [List.length_append, List.length_take]
    omega
  rw [memcpy, ← length]
  exact List.take_left

/-- The position in the buffer. -/
theorem left_eq (represents : Represents ctx message) :
    (ctx.total0 &&& 0x3F).toNat = message.length % 64 := by
  have total := represents.total
  rw [UInt32.toNat_and]
  change ctx.total0.toNat &&& (2 ^ 6 - 1) = _
  rw [Nat.and_two_pow_sub_one_eq_mod]
  omega

theorem totals_add (total0 total1 : UInt32) {length total : Nat} (small : length < 2 ^ 32)
    (known : total0.toNat + 2 ^ 32 * total1.toNat = total % 2 ^ 64) :
    (total0 + UInt32.ofNat length).toNat + 2 ^ 32 *
      (if total0 + UInt32.ofNat length < UInt32.ofNat length then total1 + 1 else total1).toNat =
        (total + length) % 2 ^ 64 := by
  have low := total0.toNat_lt
  have high := total1.toNat_lt
  have value : (UInt32.ofNat length).toNat = length := by
    rw [UInt32.toNat_ofNat']
    omega
  have one : UInt32.toNat 1 = 1 := rfl
  by_cases wraps : total0 + UInt32.ofNat length < UInt32.ofNat length
  · rw [if_pos wraps]
    rw [UInt32.lt_iff_toNat_lt, UInt32.toNat_add, value] at wraps
    rw [UInt32.toNat_add, UInt32.toNat_add, value, one]
    omega
  · rw [if_neg wraps]
    rw [UInt32.lt_iff_toNat_lt, UInt32.toNat_add, value] at wraps
    rw [UInt32.toNat_add, value]
    omega

/-- The loop takes the full blocks of the input, and the buffer the rest. -/
theorem process_input_spec (buffered : ctx.buffer.length = 64)
    (fits : left + input.length % 64 ≤ 64) :
    (processInput ctx left input).state = absorb 64 sha256Process ctx.state input ∧
      (processInput ctx left input).buffer.length = 64 ∧
      (processInput ctx left input).buffer.take (left + input.length % 64) =
        ctx.buffer.take left ++ rest 64 input := by
  have length := rest_length 64 input
  unfold processInput
  change (if (rest 64 input).length ≠ 0 then _ else _ : Sha256Context).state = _ ∧
    (if (rest 64 input).length ≠ 0 then _ else _ : Sha256Context).buffer.length = 64 ∧
    (if (rest 64 input).length ≠ 0 then _ else _ : Sha256Context).buffer.take _ = _
  by_cases behind : (rest 64 input).length ≠ 0
  · rw [if_pos behind]
    refine ⟨rfl, ?_, ?_⟩
    · exact (@memcpy_length (rest 64 input) left ctx.buffer (by omega)).trans buffered
    · rw [← length]
      exact @memcpy_take (rest 64 input) left ctx.buffer (by omega)
  · rw [if_neg behind]
    have none : rest 64 input = [] := List.eq_nil_of_length_eq_zero (not_not.1 behind)
    refine ⟨rfl, buffered, ?_⟩
    rw [none, List.append_nil, ← length, none]
    rfl

theorem process_input_totals :
    (processInput ctx left input).total0 = ctx.total0 ∧
      (processInput ctx left input).total1 = ctx.total1 := by
  unfold processInput
  dsimp only
  split <;> exact ⟨rfl, rfl⟩

/-- The next part of a message. -/
theorem update_represents (represents : Represents ctx message) (small : input.length < 2 ^ 32) :
    Represents (sha256Update ctx input) (message ++ input) := by
  unfold sha256Update
  by_cases empty : input.length = 0
  · rw [if_pos empty, List.eq_nil_of_length_eq_zero empty, List.append_nil]
    exact represents
  · rw [if_neg empty]
    have total := totals_add ctx.total0 ctx.total1 small represents.total
    have left := left_eq represents
    have kept := rest_length 64 message
    have buffered := represents.buffered
    dsimp only
    rw [left]
    generalize ctx.total0 + UInt32.ofNat input.length = total0 at total ⊢
    generalize (if total0 < UInt32.ofNat input.length then ctx.total1 + 1 else ctx.total1) = total1
      at total ⊢
    rw [← List.length_append] at total
    by_cases fills : message.length % 64 ≠ 0 ∧ 64 - message.length % 64 ≤ input.length
    · rw [if_pos fills]
      obtain ⟨some, enough⟩ := fills
      have first : (input.take (64 - message.length % 64)).length = 64 - message.length % 64 := by
        rw [List.length_take]
        omega
      have block : memcpy ctx.buffer (message.length % 64)
          (input.take (64 - message.length % 64)) =
            rest 64 message ++ input.take (64 - message.length % 64) := by
        have whole := @memcpy_take (input.take (64 - message.length % 64)) (message.length % 64)
          ctx.buffer (by omega)
        have length := @memcpy_length (input.take (64 - message.length % 64))
          (message.length % 64) ctx.buffer (by omega)
        rw [represents.kept, first] at whole
        exact (List.take_of_length_le (by omega)).symm.trans whole
      rw [block]
      have full : (rest 64 message ++ input.take (64 - message.length % 64)).length = 64 := by
        rw [List.length_append]
        omega
      have parts : rest 64 message ++ input =
          (rest 64 message ++ input.take (64 - message.length % 64)) ++
            input.drop (64 - message.length % 64) := by
        rw [List.append_assoc, List.take_append_drop]
      generalize rest 64 message ++ input.take (64 - message.length % 64) = buffer at full parts ⊢
      generalize drop : input.drop (64 - message.length % 64) = behind at parts ⊢
      have places : (message ++ input).length % 64 = 0 + behind.length % 64 := by
        rw [← drop, List.length_append, List.length_drop]
        omega
      obtain ⟨state, length, taken⟩ := @process_input_spec
        ⟨total0, total1, sha256Process ctx.state buffer, buffer⟩ behind 0 full (by omega)
      obtain ⟨low, high⟩ := @process_input_totals
        ⟨total0, total1, sha256Process ctx.state buffer, buffer⟩ behind 0
      refine ⟨by rw [low, high]; exact total, ?_, length, ?_⟩
      · rw [state, absorb_append (by decide), ← represents.state, parts,
          absorb_append (by decide), rest_block full, absorb_block (by decide) full]
        rfl
      · rw [places, taken, rest_append (by decide), parts, rest_append (by decide),
          rest_block full]
        rfl
    · rw [if_neg fills]
      obtain ⟨state, length, taken⟩ := @process_input_spec
        ⟨total0, total1, ctx.state, ctx.buffer⟩ input (message.length % 64) buffered (by omega)
      obtain ⟨low, high⟩ := @process_input_totals
        ⟨total0, total1, ctx.state, ctx.buffer⟩ input (message.length % 64)
      have places : (message ++ input).length % 64 =
          message.length % 64 + input.length % 64 := by
        rw [List.length_append]
        omega
      have whole : rest 64 (rest 64 message ++ input) = rest 64 message ++ rest 64 input := by
        by_cases start : message.length % 64 = 0
        · rw [List.eq_nil_of_length_eq_zero (kept.trans start)]
          rfl
        · have short : input.length < 64 := by omega
          rw [rest_short short, rest_short (by rw [List.length_append]; omega)]
      have taking : absorb 64 sha256Process ctx.state (rest 64 message ++ input) =
          absorb 64 sha256Process ctx.state input := by
        by_cases start : message.length % 64 = 0
        · rw [List.eq_nil_of_length_eq_zero (kept.trans start)]
          rfl
        · have short : input.length < 64 := by omega
          rw [absorb_short short, absorb_short (by rw [List.length_append]; omega)]
      refine ⟨by rw [low, high]; exact total, ?_, length, ?_⟩
      · rw [state, absorb_append (by decide), ← represents.state, taking]
      · rw [places, taken, rest_append (by decide), whole, ← represents.kept]

end Updates

section Endings

variable {ctx : Sha256Context} {message : List UInt8} {chunks : List (List UInt8)}

theorem updates_represent (represents : Represents ctx message)
    (small : ∀ chunk ∈ chunks, chunk.length < 2 ^ 32) :
    Represents (chunks.foldl sha256Update ctx) (message ++ chunks.flatten) := by
  induction chunks generalizing ctx message with
  | nil => simpa using represents
  | cons chunk chunks ih =>
      rw [List.foldl_cons, List.flatten_cons, ← List.append_assoc]
      exact ih (update_represents represents (small chunk List.mem_cons_self))
        fun other member => small other (List.mem_cons_of_mem chunk member)

/-- One byte of a word. -/
theorem byte_of_word (n : UInt32) {bits : Nat} (small : bits < 32) :
    (n >>> UInt32.ofNat bits).toUInt8 = UInt8.ofNat (n.toNat / 2 ^ bits) := by
  apply UInt8.toNat.inj
  have value : (UInt32.ofNat bits).toNat = bits := by
    rw [UInt32.toNat_ofNat']
    omega
  rw [UInt32.toNat_toUInt8, UInt32.toNat_shiftRight, value, Nat.mod_eq_of_lt small,
    Nat.shiftRight_eq_div_pow, UInt8.toNat_ofNat']

theorem put_uint32_eq (n : UInt32) :
    putUint32 n = [24, 16, 8, 0].map fun bits => UInt8.ofNat (n.toNat / 2 ^ bits) := by
  have last : n.toUInt8 = UInt8.ofNat (n.toNat / 2 ^ 0) := by
    rw [pow_zero, Nat.div_one]
    rfl
  have bytes := @byte_of_word n
  rw [putUint32, last]
  simp only [List.map_cons, List.map_nil]
  rw [← bytes (show 24 < 32 by decide), ← bytes (show 16 < 32 by decide),
    ← bytes (show 8 < 32 by decide)]
  rfl

/-- The number of bits, from the two words that count the bytes. -/
theorem message_length_eq (represents : Represents ctx message)
    (short : 8 * message.length < 2 ^ 64) :
    putUint32 (ctx.total0 >>> 29 ||| ctx.total1 <<< 3) ++ putUint32 (ctx.total0 <<< 3) =
      bigEndian64 (8 * message.length) := by
  have total := represents.total
  have small := ctx.total0.toNat_lt
  have shift3 : UInt32.toNat 3 % 32 = 3 := rfl
  have shift29 : UInt32.toNat 29 % 32 = 29 := rfl
  have low : (ctx.total0 <<< 3).toNat = 8 * message.length % 2 ^ 32 := by
    rw [UInt32.toNat_shiftLeft, shift3, Nat.shiftLeft_eq]
    omega
  have high : (ctx.total0 >>> 29 ||| ctx.total1 <<< 3).toNat = 8 * message.length / 2 ^ 32 := by
    have upper : ctx.total1.toNat <<< 3 % 2 ^ 32 = ctx.total1.toNat <<< 3 := by
      rw [Nat.shiftLeft_eq]
      omega
    rw [UInt32.toNat_or, UInt32.toNat_shiftLeft, UInt32.toNat_shiftRight, shift3, shift29, upper,
      Nat.or_comm, Nat.shiftRight_eq_div_pow, ← Nat.shiftLeft_add_eq_or_of_lt (by omega),
      Nat.shiftLeft_eq]
    omega
  have byte : ∀ left right : Nat, left % 256 = right % 256 → UInt8.ofNat left = UInt8.ofNat right := by
    intro left right same
    apply UInt8.toNat.inj
    rw [UInt8.toNat_ofNat', UInt8.toNat_ofNat']
    exact same
  rw [put_uint32_eq, put_uint32_eq, high, low, bigEndian64]
  simp only [List.map_cons, List.map_nil, List.cons_append, List.nil_append]
  refine congrArg₂ List.cons (byte _ _ ?_) (congrArg₂ List.cons (byte _ _ ?_)
    (congrArg₂ List.cons (byte _ _ ?_) (congrArg₂ List.cons (byte _ _ ?_)
    (congrArg₂ List.cons (byte _ _ ?_) (congrArg₂ List.cons (byte _ _ ?_)
    (congrArg₂ List.cons (byte _ _ ?_) (congrArg₂ List.cons (byte _ _ ?_) rfl))))))) <;> omega

theorem padding_eq (last : Nat) (small : last < 64) :
    sha256Padding.take (if last < 56 then 56 - last else 120 - last) =
      0x80 :: List.replicate ((119 - last) % 64) 0 := by
  have count : (if last < 56 then 56 - last else 120 - last) = (119 - last) % 64 + 1 := by
    split <;> omega
  rw [count, sha256Padding, List.take_succ_cons, List.take_replicate,
    Nat.min_eq_left (by omega)]

theorem finish_digest (represents : Represents ctx message)
    (short : 8 * message.length < 2 ^ 64) : sha256Finish ctx = digest message := by
  have padded := @update_represents ctx message (sha256Padding.take
    (if message.length % 64 < 56 then 56 - message.length % 64 else 120 - message.length % 64))
    represents (lt_of_le_of_lt (List.length_take_le' _ _) (by decide))
  have ended := @update_represents _ _ (putUint32 (ctx.total0 >>> 29 ||| ctx.total1 <<< 3) ++
    putUint32 (ctx.total0 <<< 3)) padded (show 8 < 2 ^ 32 by decide)
  unfold sha256Finish
  dsimp only
  rw [left_eq represents, ended.state, message_length_eq represents short,
    padding_eq _ (Nat.mod_lt _ (by decide)), process_compress, List.append_assoc]
  rfl

end Endings

/-- However a message is parted, the digest is the one of the standard. -/
theorem sha256_of_chunks {buffer : List UInt8} (buffered : buffer.length = 64)
    {chunks : List (List UInt8)} (small : ∀ chunk ∈ chunks, chunk.length < 2 ^ 32)
    (short : 8 * chunks.flatten.length < 2 ^ 64) :
    sha256Finish (chunks.foldl sha256Update (sha256Starts buffer)) = digest chunks.flatten :=
  finish_digest (updates_represent (starts_represents buffered) small) short

theorem sha256_of_chunks_parted :
    sha256Finish ([List.replicate 63 1, [], [2, 3]].foldl sha256Update
      (sha256Starts (List.replicate 64 255))) = digest (List.replicate 63 1 ++ [2, 3]) :=
  sha256_of_chunks (by decide) (by decide) (by decide)

example : (sha256Finish (sha256Update (sha256Starts (List.replicate 64 0)) [97, 98, 99])).take 4 =
    [0xBA, 0x78, 0x16, 0xBF] := by
  decide +kernel

end IotgoFirmware.Upgrade.Sha256
