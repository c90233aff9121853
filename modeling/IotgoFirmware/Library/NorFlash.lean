import Mathlib.Data.List.GetD
import Mathlib.Data.List.OfFn
import Mathlib.Data.Nat.Notation

/-!
# A NOR flash chip that loses power

An erase sets all bits of a sector, a write clears bits towards the bytes that are
written. Where the power goes during an operation, every bit that the operation
changes is in its old or in its new state, and all others are as they were.
-/

namespace IotgoFirmware.Library.NorFlash

set_option autoImplicit false

/-- The byte at each address. -/
abbrev Flash := Nat → UInt8

def sectorSize : Nat := 4096

inductive FlashOp where
  | erase (sector : Nat)
  | write (start : Nat) (bytes : List UInt8)

def readAt (flash : Flash) (start size : Nat) : List UInt8 :=
  List.ofFn fun offset : Fin size => flash (start + offset)

namespace FlashOp

def Touches (address : Nat) : FlashOp → Prop
  | .erase sector => address / sectorSize = sector
  | .write start bytes => start ≤ address ∧ address < start + bytes.length

instance (address : Nat) (op : FlashOp) : Decidable (op.Touches address) := by
  cases op <;> unfold Touches <;> infer_instance

/-- The byte that the operation leaves at an address that it touches. -/
def byteDone (address : Nat) (old : UInt8) : FlashOp → UInt8
  | .erase _ => 0xFF
  | .write start bytes => old &&& bytes.getD (address - start) 0

def done (op : FlashOp) (flash : Flash) : Flash := fun address =>
  if op.Touches address then op.byteDone address (flash address) else flash address

/-- The bits of `low` are set in `high` too. -/
def BitsWithin (low high : UInt8) : Prop :=
  low &&& high = low

/-- The byte that may stand at an address when the operation is cut. -/
def ByteTorn (address : Nat) (old torn : UInt8) : FlashOp → Prop
  | .erase _ => BitsWithin old torn
  | .write start bytes =>
      BitsWithin (old &&& bytes.getD (address - start) 0) torn ∧ BitsWithin torn old

def Torn (op : FlashOp) (before after : Flash) : Prop :=
  ∀ address,
    if op.Touches address then op.ByteTorn address (before address) (after address)
    else after address = before address

end FlashOp

def runOps : List FlashOp → Flash → Flash
  | [], flash => flash
  | op :: rest, flash => runOps rest (op.done flash)

/-- The power goes before, inside or between the operations, or behind the last one. -/
inductive Cut : List FlashOp → Flash → Flash → Prop where
  | here {ops : List FlashOp} {flash : Flash} : Cut ops flash flash
  | inside {op : FlashOp} {rest : List FlashOp} {before after : Flash}
      (torn : op.Torn before after) : Cut (op :: rest) before after
  | later {op : FlashOp} {rest : List FlashOp} {before after : Flash}
      (cut : Cut rest (op.done before) after) : Cut (op :: rest) before after

def Untouched (ops : List FlashOp) (address : Nat) : Prop :=
  ∀ op ∈ ops, ¬ op.Touches address

section Reads

variable {flash other : Flash}

@[simp] theorem read_at_length (start size : Nat) : (readAt flash start size).length = size :=
  List.length_ofFn

theorem read_at_congr {start size : Nat}
    (agree : ∀ address, start ≤ address → address < start + size → flash address = other address) :
    readAt flash start size = readAt other start size := by
  apply congrArg List.ofFn
  funext offset
  apply agree
  · exact Nat.le_add_right _ _
  · exact Nat.add_lt_add_left offset.isLt start

/-- Two reads that follow each other are one. -/
theorem read_at_append (flash : Flash) (start front back : Nat) :
    readAt flash start front ++ readAt flash (start + front) back =
      readAt flash start (front + back) := by
  unfold readAt
  rw [List.ofFn_add]
  congr 1
  apply congrArg List.ofFn
  funext offset
  rw [Fin.val_natAdd, Nat.add_assoc]

theorem read_at_getD {start size offset : Nat} (inside : offset < size) :
    (readAt flash start size).getD offset 0 = flash (start + offset) := by
  rw [List.getD_eq_getElem _ _ (by simpa using inside)]
  simp only [readAt, List.getElem_ofFn]

theorem read_at_eq {start : Nat} {bytes : List UInt8}
    (found : ∀ offset, offset < bytes.length → flash (start + offset) = bytes.getD offset 0) :
    readAt flash start bytes.length = bytes := by
  apply List.ext_getElem
  · exact read_at_length _ _
  · intro offset inside inside'
    simp only [readAt, List.getElem_ofFn]
    rw [found offset inside', List.getD_eq_getElem _ _ inside']

end Reads

section Ops

variable {flash before after : Flash}

theorem done_untouched {op : FlashOp} {address : Nat} (outside : ¬ op.Touches address) :
    op.done flash address = flash address :=
  if_neg outside

theorem done_touched {op : FlashOp} {address : Nat} (inside : op.Touches address) :
    op.done flash address = op.byteDone address (flash address) :=
  if_pos inside

theorem torn_untouched {op : FlashOp} {address : Nat} (torn : op.Torn before after)
    (outside : ¬ op.Touches address) : after address = before address := by
  have here := torn address
  rw [if_neg outside] at here
  exact here

theorem ops_append (first second : List FlashOp) :
    runOps (first ++ second) flash = runOps second (runOps first flash) := by
  induction first generalizing flash with
  | nil => rfl
  | cons op rest ih => exact ih

theorem ops_untouched {ops : List FlashOp} {address : Nat} (outside : Untouched ops address) :
    runOps ops flash address = flash address := by
  induction ops generalizing flash with
  | nil => rfl
  | cons op rest ih =>
      have first := outside op List.mem_cons_self
      calc
        runOps rest (op.done flash) address = op.done flash address :=
          ih fun later member => outside later (List.mem_cons_of_mem op member)
        _ = flash address := done_untouched first

theorem cut_untouched {ops : List FlashOp} {address : Nat} (cut : Cut ops before after)
    (outside : Untouched ops address) : after address = before address := by
  induction cut with
  | here => rfl
  | inside torn => exact torn_untouched torn (outside _ List.mem_cons_self)
  | later _ ih =>
      have first := outside _ List.mem_cons_self
      rw [ih fun later member => outside later (List.mem_cons_of_mem _ member)]
      exact done_untouched first

/-- A run that is not cut. -/
theorem cut_done (ops : List FlashOp) : Cut ops flash (runOps ops flash) := by
  induction ops generalizing flash with
  | nil => exact .here
  | cons op rest ih => exact .later ih

theorem bits_within_self (byte : UInt8) : FlashOp.BitsWithin byte byte := by
  apply UInt8.eq_of_toBitVec_eq
  exact BitVec.and_self

theorem bits_within_and (old byte : UInt8) : FlashOp.BitsWithin (old &&& byte) old := by
  apply UInt8.eq_of_toBitVec_eq
  change old.toBitVec &&& byte.toBitVec &&& old.toBitVec = old.toBitVec &&& byte.toBitVec
  rw [BitVec.and_comm, ← BitVec.and_assoc, BitVec.and_self]

/-- The operation has come to an address when the power goes. -/
def FlashOp.stopped (limit : Nat) (op : FlashOp) (flash : Flash) : Flash := fun address =>
  if address < limit then op.done flash address else flash address

theorem stopped_torn (limit : Nat) (op : FlashOp) (flash : Flash) :
    op.Torn flash (op.stopped limit flash) := by
  intro address
  unfold FlashOp.stopped
  split
  · rename_i touched
    rw [done_touched touched]
    cases op with
    | erase sector =>
        change FlashOp.BitsWithin _ (if _ then 0xFF else _)
        split
        · apply UInt8.eq_of_toBitVec_eq
          exact BitVec.and_allOnes
        · exact bits_within_self _
    | write start bytes =>
        dsimp only [FlashOp.ByteTorn, FlashOp.byteDone]
        split
        · exact ⟨bits_within_self _, bits_within_and _ _⟩
        · exact ⟨bits_within_and _ _, bits_within_self _⟩
  · rename_i outside
    rw [done_untouched outside, ite_self]

/-- The power goes in the operation with an index, at an address. -/
def stoppedIn (limit : Nat) : Nat → List FlashOp → Flash → Flash
  | _, [], flash => flash
  | 0, op :: _, flash => op.stopped limit flash
  | index + 1, op :: rest, flash => stoppedIn limit index rest (op.done flash)

theorem cut_stopped_in (limit index : Nat) (ops : List FlashOp) (flash : Flash) :
    Cut ops flash (stoppedIn limit index ops flash) := by
  induction ops generalizing index flash with
  | nil =>
      rw [stoppedIn]
      exact .here
  | cons op rest ih =>
      cases index with
      | zero => exact .inside (stopped_torn limit op flash)
      | succ index => exact .later (ih index (op.done flash))

/-- The power goes in the first part, or that part is done. -/
theorem cut_append {first second : List FlashOp} (cut : Cut (first ++ second) before after) :
    Cut first before after ∨ Cut second (runOps first before) after := by
  induction first generalizing before with
  | nil => exact .inr cut
  | cons op rest ih =>
      cases cut with
      | here => exact .inl .here
      | inside torn => exact .inl (.inside torn)
      | later cut =>
          rcases ih cut with early | late
          · exact .inl (.later early)
          · exact .inr late

end Ops

section Sectors

variable {flash : Flash}

theorem all_ones_and (byte : UInt8) : 0xFF &&& byte = byte := by
  apply UInt8.eq_of_toBitVec_eq
  exact BitVec.allOnes_and

theorem in_sector {sector offset : Nat} (inside : offset < sectorSize) :
    (sector * sectorSize + offset) / sectorSize = sector := by
  rw [Nat.mul_comm, Nat.mul_add_div (by decide), Nat.div_eq_of_lt inside, Nat.add_zero]

/-- A write that does not leave a sector. -/
theorem write_in_sector {sector address : Nat} {bytes : List UInt8}
    (short : bytes.length ≤ sectorSize)
    (touched : (FlashOp.write (sector * sectorSize) bytes).Touches address) :
    address / sectorSize = sector := by
  rcases touched with ⟨above, below⟩
  obtain ⟨offset, rfl⟩ := Nat.exists_eq_add_of_le above
  exact in_sector (Nat.lt_of_lt_of_le (Nat.lt_of_add_lt_add_left below) short)

/-- Blocks of bytes, each with its sector. -/
def eraseBlocks (blocks : List (Nat × List UInt8)) : List FlashOp :=
  blocks.map fun block => .erase block.1

def writeBlocks (blocks : List (Nat × List UInt8)) : List FlashOp :=
  blocks.map fun block => .write (block.1 * sectorSize) block.2

theorem erased_stays {address : Nat} (blank : flash address = 0xFF)
    (blocks : List (Nat × List UInt8)) : runOps (eraseBlocks blocks) flash address = 0xFF := by
  induction blocks generalizing flash with
  | nil => exact blank
  | cons block rest ih =>
      apply ih
      by_cases touched : (FlashOp.erase block.1).Touches address
      · exact done_touched touched
      · exact (done_untouched touched).trans blank

theorem erase_blocks_byte {address : Nat} {blocks : List (Nat × List UInt8)}
    (among : address / sectorSize ∈ blocks.map Prod.fst) :
    runOps (eraseBlocks blocks) flash address = 0xFF := by
  induction blocks generalizing flash with
  | nil => cases among
  | cons block rest ih =>
      rw [List.map_cons] at among
      rcases List.mem_cons.1 among with here | later
      · refine erased_stays ?_ rest
        exact done_touched here
      · exact ih later

/-- What is written into erased sectors is there. -/
theorem write_blocks_byte {sector offset : Nat} {bytes : List UInt8}
    {blocks : List (Nat × List UInt8)} (nodup : (blocks.map Prod.fst).Nodup)
    (short : ∀ block ∈ blocks, block.2.length ≤ sectorSize)
    (among : (sector, bytes) ∈ blocks) (inside : offset < bytes.length)
    (blank : flash (sector * sectorSize + offset) = 0xFF) :
    runOps (writeBlocks blocks) flash (sector * sectorSize + offset) = bytes.getD offset 0 := by
  have here : (sector * sectorSize + offset) / sectorSize = sector :=
    in_sector (Nat.lt_of_lt_of_le inside (short _ among))
  induction blocks generalizing flash with
  | nil => cases among
  | cons block rest ih =>
      rw [List.map_cons, List.nodup_cons] at nodup
      change runOps (writeBlocks rest)
        ((FlashOp.write (block.1 * sectorSize) block.2).done flash) _ = _
      rcases List.mem_cons.1 among with rfl | later
      · have quiet : Untouched (writeBlocks rest) (sector * sectorSize + offset) := by
          intro op member touched
          rcases List.mem_map.1 member with ⟨block, later, rfl⟩
          have other := write_in_sector (short block (List.mem_cons_of_mem _ later)) touched
          have there : block.1 ∈ rest.map Prod.fst := List.mem_map_of_mem later
          rw [← other, here] at there
          exact nodup.1 there
        have touched : (FlashOp.write (sector * sectorSize) bytes).Touches
            (sector * sectorSize + offset) :=
          ⟨Nat.le_add_right _ _, Nat.add_lt_add_left inside _⟩
        rw [ops_untouched quiet, done_touched touched, blank, FlashOp.byteDone, all_ones_and,
          Nat.add_sub_cancel_left]
      · have quiet : ¬ (FlashOp.write (block.1 * sectorSize) block.2).Touches
            (sector * sectorSize + offset) := by
          intro touched
          have other := write_in_sector (short block List.mem_cons_self) touched
          have there : sector ∈ rest.map Prod.fst := List.mem_map_of_mem (f := Prod.fst) later
          rw [← here, other] at there
          exact nodup.1 there
        refine ih nodup.2 (fun block member => short block (List.mem_cons_of_mem _ member)) later ?_
        exact (done_untouched quiet).trans blank

theorem erase_write_blocks {sector offset : Nat} {bytes : List UInt8}
    {blocks : List (Nat × List UInt8)} (nodup : (blocks.map Prod.fst).Nodup)
    (short : ∀ block ∈ blocks, block.2.length ≤ sectorSize)
    (among : (sector, bytes) ∈ blocks) (inside : offset < bytes.length) :
    runOps (eraseBlocks blocks ++ writeBlocks blocks) flash (sector * sectorSize + offset) =
      bytes.getD offset 0 := by
  rw [ops_append]
  apply write_blocks_byte nodup short among inside
  apply erase_blocks_byte
  rw [in_sector (Nat.lt_of_lt_of_le inside (short _ among))]
  exact List.mem_map_of_mem (f := Prod.fst) among

theorem erase_write_byte {sector offset : Nat} {bytes : List UInt8}
    (short : bytes.length ≤ sectorSize) (inside : offset < bytes.length) :
    runOps [.erase sector, .write (sector * sectorSize) bytes] flash
      (sector * sectorSize + offset) = bytes.getD offset 0 := by
  have only : ∀ block ∈ [(sector, bytes)], block.2.length ≤ sectorSize := by
    intro block member
    rw [List.mem_singleton.1 member]
    exact short
  have alone : ([(sector, bytes)].map Prod.fst).Nodup := by simp
  exact erase_write_blocks alone only List.mem_cons_self inside

theorem erase_write_read (flash : Flash) (sector : Nat) {bytes : List UInt8}
    (short : bytes.length ≤ sectorSize) :
    readAt (runOps [.erase sector, .write (sector * sectorSize) bytes] flash)
      (sector * sectorSize) bytes.length = bytes :=
  read_at_eq fun _ inside => erase_write_byte short inside

end Sectors

end IotgoFirmware.Library.NorFlash
