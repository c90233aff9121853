import IotgoFirmware.Library.CFaults
import IotgoFirmware.Uart.U2artQueue

/-!
# The receive ring of UART0

`SerialRingBuffer` of `uart.c` with its two indices of sixteen bits, and its refinement to
the queue of the bytes that it holds. The interrupt handler may write between any two
accesses of a function that the task runs; the bytes that it writes there are arguments.
-/

namespace IotgoFirmware.Uart.SerialRing

open IotgoFirmware.Library.CFaults
open IotgoFirmware.Library.RingQueues
open IotgoFirmware.Uart.U2artSchedule (uart0RxBufferSize RxBuffer)

set_option autoImplicit false

structure SerialRingBuffer where
  buffer : Fin 1024 → UInt8
  head : UInt16
  tail : UInt16

/-- `m_rx_buffer` before the first call. -/
def SerialRingBuffer.zero : SerialRingBuffer where
  buffer _ := 0
  head := 0
  tail := 0

section Code

variable (ring : SerialRingBuffer)

def readBuffer (index : UInt16) : Checked UInt8 :=
  if inside : index.toNat < 1024 then .ok (ring.buffer ⟨index.toNat, inside⟩)
  else .error .outside

def writeBuffer (index : UInt16) (data : UInt8) : Checked SerialRingBuffer :=
  if inside : index.toNat < 1024 then
    .ok { ring with buffer := Function.update ring.buffer ⟨index.toNat, inside⟩ data }
  else .error .outside

def uart0RxWrite (data : UInt8) : Checked SerialRingBuffer :=
  let nextWriteIndex := (ring.head + 1) % 1024
  if nextWriteIndex ≠ ring.tail then do
    let stored ← writeBuffer ring ring.head data
    return { stored with head := nextWriteIndex }
  else .ok ring

/-- What the interrupt handler writes between two accesses. -/
def interrupted (written : List UInt8) : Checked SerialRingBuffer :=
  written.foldlM uart0RxWrite ring

/-- The sum is an `int`. -/
def uart0RxAvailable (written : List UInt8) : Checked (UInt16 × SerialRingBuffer) := do
  let later ← interrupted ring written
  return (UInt16.ofInt ((1024 + ring.head.toNat - later.tail.toNat : Int).tmod 1024), later)

def uart0RxFlush (written : List UInt8) : Checked SerialRingBuffer := do
  let later ← interrupted ring written
  return { later with head := ring.tail }

/-- The handler may write before the cell is read and before the index is stored. -/
def uart0RxRead (beforeCell beforeIndex : List UInt8) : Checked (UInt8 × SerialRingBuffer) :=
  if ring.head = ring.tail then do
    return (0xFF, ← interrupted ring (beforeCell ++ beforeIndex))
  else do
    let first ← interrupted ring beforeCell
    let c ← readBuffer first first.tail
    let second ← interrupted first beforeIndex
    return (c, { second with tail := (second.tail + 1) % 1024 })

end Code

/-- A call of one of the four functions, with what the interrupt handler writes during it. -/
inductive RxCall where
  | uart0RxWrite (data : UInt8)
  | uart0RxRead (beforeCell beforeIndex : List UInt8)
  | uart0RxFlush (written : List UInt8)
  | uart0RxAvailable (written : List UInt8)

inductive RxAnswer where
  | nothing
  | byte (value : UInt8)
  | count (value : Nat)
deriving DecidableEq

def rxStep (ring : SerialRingBuffer) : RxCall → Checked (RxAnswer × SerialRingBuffer)
  | .uart0RxWrite data => do return (.nothing, ← uart0RxWrite ring data)
  | .uart0RxRead beforeCell beforeIndex => do
      let (c, later) ← uart0RxRead ring beforeCell beforeIndex
      return (.byte c, later)
  | .uart0RxFlush written => do return (.nothing, ← uart0RxFlush ring written)
  | .uart0RxAvailable written => do
      let (count, later) ← uart0RxAvailable ring written
      return (.count count.toNat, later)

def rxRun (ring : SerialRingBuffer) : List RxCall → Checked (List RxAnswer × SerialRingBuffer)
  | [] => .ok ([], ring)
  | call :: rest => do
      let (answer, next) ← rxStep ring call
      let (answers, final) ← rxRun next rest
      return (answer :: answers, final)

section Fifo

/-- The queue that the ring stands for, the oldest byte first: of at most 1023 bytes, a full
one drops what is written. -/
def fifoWrite (stored : List UInt8) (data : UInt8) : List UInt8 :=
  if stored.length < 1023 then stored ++ [data] else stored

def fifoWrites (stored written : List UInt8) : List UInt8 :=
  written.foldl fifoWrite stored

/-- A read takes the oldest byte when it ends; `available` counts when it begins. -/
def fifoStep (stored : List UInt8) : RxCall → RxAnswer × List UInt8
  | .uart0RxWrite data => (.nothing, fifoWrite stored data)
  | .uart0RxRead beforeCell beforeIndex =>
      match stored with
      | [] => (.byte 0xFF, fifoWrites [] (beforeCell ++ beforeIndex))
      | oldest :: _ => (.byte oldest, (fifoWrites stored (beforeCell ++ beforeIndex)).tail)
  | .uart0RxFlush _ => (.nothing, [])
  | .uart0RxAvailable written => (.count stored.length, fifoWrites stored written)

def fifoRun (stored : List UInt8) : List RxCall → List RxAnswer × List UInt8
  | [] => ([], stored)
  | call :: rest =>
      let step := fifoStep stored call
      let later := fifoRun step.2 rest
      (step.1 :: later.1, later.2)

end Fifo

section Positions

/-- An index of the buffer as it is stored. -/
def indexOf (position : Fin 1024) : UInt16 :=
  UInt16.ofNat position

variable (position other : Fin 1024)

@[simp] theorem index_of_to_nat : (indexOf position).toNat = position := by
  have bound := position.isLt
  rw [indexOf, UInt16.toNat_ofNat']
  omega

@[simp] theorem index_of_inj : indexOf position = indexOf other ↔ position = other := by
  rw [← UInt16.toNat_inj, index_of_to_nat, index_of_to_nat]
  exact Fin.ext_iff.symm

@[simp] theorem index_of_following :
    (indexOf position + 1) % 1024 = indexOf (following position) := by
  have bound := position.isLt
  rw [← UInt16.toNat_inj, index_of_to_nat, UInt16.toNat_mod, UInt16.toNat_add, index_of_to_nat,
    Ring.following_val]
  change (position.val + 1) % 65536 % 1024 = (position.val + 1) % 1024
  omega

end Positions

/-- The ring with its indices as they are stored. -/
def ofRing (view : RxBuffer) : SerialRingBuffer where
  buffer := view.cells
  head := indexOf view.head
  tail := indexOf view.tail

def storedBytes (ring : SerialRingBuffer) : List UInt8 :=
  Ring.contents { cells := ring.buffer, head := Fin.ofNat 1024 ring.head.toNat,
                  tail := Fin.ofNat 1024 ring.tail.toNat : RxBuffer }

section Refinement

variable (view : RxBuffer)

@[simp] theorem of_nat_index_of (position : Fin 1024) :
    Fin.ofNat 1024 (indexOf position).toNat = position := by
  apply Fin.ext
  rw [index_of_to_nat]
  exact Nat.mod_eq_of_lt position.isLt

theorem stored_bytes_of_ring : storedBytes (ofRing view) = view.contents := by
  simp only [storedBytes, ofRing, of_nat_index_of]

theorem read_buffer_of_ring (position : Fin 1024) :
    readBuffer (ofRing view) (indexOf position) = .ok (view.cells position) := by
  simp [readBuffer, ofRing]

theorem rx_write_of_ring (data : UInt8) :
    uart0RxWrite (ofRing view) data = .ok (ofRing (view.push data)) := by
  unfold uart0RxWrite Ring.push
  simp only [ofRing, index_of_following, ne_eq, index_of_inj, ite_not]
  split
  · rfl
  · simp only [writeBuffer, index_of_to_nat, Fin.is_lt, dite_true]
    rfl

theorem interrupted_of_ring (written : List UInt8) :
    interrupted (ofRing view) written = .ok (ofRing (written.foldl Ring.push view)) := by
  induction written generalizing view with
  | nil => rfl
  | cons data rest ih =>
      rw [interrupted, List.foldlM_cons, rx_write_of_ring]
      exact ih _

@[simp] theorem pushes_tail (written : List UInt8) :
    (written.foldl Ring.push view).tail = view.tail := by
  induction written generalizing view with
  | nil => rfl
  | cons data rest ih =>
      rw [List.foldl_cons, ih, Ring.push_tail]

theorem contents_push_fifo (data : UInt8) :
    (view.push data).contents = fifoWrite view.contents data := by
  have bound : view.available < 1024 := view.available_lt
  unfold fifoWrite
  rw [Ring.contents_length]
  split
  · rename_i room
    exact view.contents_push (by omega) data
  · rename_i full
    rw [view.push_full (by omega)]

theorem contents_pushes (written : List UInt8) :
    (written.foldl Ring.push view).contents = fifoWrites view.contents written := by
  induction written generalizing view with
  | nil => rfl
  | cons data rest ih =>
      rw [List.foldl_cons, ih, contents_push_fifo]
      rfl

theorem available_of_ring (written : List UInt8) :
    uart0RxAvailable (ofRing view) written =
      .ok (UInt16.ofNat view.available, ofRing (written.foldl Ring.push view)) := by
  have headBound := view.head.isLt
  have tailBound := view.tail.isLt
  have count : UInt16.ofInt ((1024 + (view.head : Nat) - (view.tail : Nat) : Int).tmod 1024) =
      UInt16.ofNat view.available := by
    have difference : (1024 + (view.head : Nat) - (view.tail : Nat) : Int).tmod 1024 =
        (view.available : Int) := by
      rw [Int.tmod_eq_emod_of_nonneg (by omega), Ring.available]
      omega
    have bound : view.available < 1024 := view.available_lt
    rw [difference, UInt16.ofInt]
    congr 1
    omega
  refine bind_ok_iff.2 ⟨_, interrupted_of_ring view written, ?_⟩
  simp only [ofRing, index_of_to_nat, pushes_tail, count]
  rfl

theorem flush_of_ring (written : List UInt8) :
    uart0RxFlush (ofRing view) written = .ok (ofRing (written.foldl Ring.push view).flush) := by
  refine bind_ok_iff.2 ⟨_, interrupted_of_ring view written, ?_⟩
  simp only [ofRing, Ring.flush, pushes_tail]
  rfl

theorem read_empty (empty : view.contents = []) (beforeCell beforeIndex : List UInt8) :
    uart0RxRead (ofRing view) beforeCell beforeIndex =
      .ok (0xFF, ofRing ((beforeCell ++ beforeIndex).foldl Ring.push view)) := by
  have none : view.available = 0 := by
    rw [← view.contents_length, empty, List.length_nil]
  have meets : (ofRing view).head = (ofRing view).tail :=
    congrArg indexOf (view.head_eq_tail_iff.2 none)
  rw [uart0RxRead, if_pos meets]
  exact bind_ok_iff.2 ⟨_, interrupted_of_ring view _, rfl⟩

theorem fifo_writes_oldest (oldest : UInt8) (others written : List UInt8) :
    ∃ more, fifoWrites (oldest :: others) written = oldest :: more := by
  induction written generalizing others with
  | nil => exact ⟨others, rfl⟩
  | cons data rest ih =>
      rw [fifoWrites, List.foldl_cons, fifoWrite]
      split
      · exact ih (others ++ [data])
      · exact ih others

theorem oldest_cell {oldest : UInt8} {others : List UInt8}
    (stored : view.contents = oldest :: others) :
    view.head ≠ view.tail ∧ view.cells view.tail = oldest := by
  have popped := (view.pop_contents stored).1
  unfold Ring.pop at popped
  split at popped
  · cases popped
  · rename_i apart
    exact ⟨apart, congrArg Prod.fst (Option.some.inj popped)⟩

theorem read_stored {oldest : UInt8} {others : List UInt8}
    (stored : view.contents = oldest :: others) (beforeCell beforeIndex : List UInt8) :
    ∃ later : RxBuffer, uart0RxRead (ofRing view) beforeCell beforeIndex =
        .ok (oldest, ofRing later) ∧
      later.contents = (fifoWrites view.contents (beforeCell ++ beforeIndex)).tail := by
  have apart : (ofRing view).head ≠ (ofRing view).tail :=
    fun same => (oldest_cell view stored).1 ((index_of_inj _ _).1 same)
  -- What the ring holds when the cell is read, and when the index is stored.
  let first := beforeCell.foldl Ring.push view
  let second := beforeIndex.foldl Ring.push first
  obtain ⟨more, firstStored⟩ := fifo_writes_oldest oldest others beforeCell
  rw [← stored, ← contents_pushes view beforeCell] at firstStored
  obtain ⟨rest, secondStored⟩ := fifo_writes_oldest oldest more beforeIndex
  rw [← firstStored, ← contents_pushes first beforeIndex] at secondStored
  refine ⟨{ second with tail := following second.tail }, ?_, ?_⟩
  · rw [uart0RxRead, if_neg apart]
    refine bind_ok_iff.2 ⟨_, interrupted_of_ring view beforeCell, ?_⟩
    refine bind_ok_iff.2 ⟨_, read_buffer_of_ring first first.tail, ?_⟩
    refine bind_ok_iff.2 ⟨_, interrupted_of_ring first beforeIndex, ?_⟩
    rw [(oldest_cell first firstStored).2]
    simp only [ofRing, index_of_following]
    rfl
  · rw [(second.pop_contents secondStored).2, fifoWrites, List.foldl_append]
    change rest = (fifoWrites (fifoWrites view.contents beforeCell) beforeIndex).tail
    rw [← contents_pushes view beforeCell, ← contents_pushes first beforeIndex, secondStored]
    rfl

theorem rx_step_of_ring (call : RxCall) :
    ∃ later : RxBuffer, rxStep (ofRing view) call =
        .ok ((fifoStep view.contents call).1, ofRing later) ∧
      later.contents = (fifoStep view.contents call).2 := by
  cases call with
  | uart0RxWrite data =>
      refine ⟨view.push data, ?_, contents_push_fifo view data⟩
      exact bind_ok_iff.2 ⟨_, rx_write_of_ring view data, rfl⟩
  | uart0RxFlush written =>
      refine ⟨(written.foldl Ring.push view).flush, ?_, Ring.contents_flush _⟩
      exact bind_ok_iff.2 ⟨_, flush_of_ring view written, rfl⟩
  | uart0RxAvailable written =>
      refine ⟨written.foldl Ring.push view, ?_, contents_pushes view written⟩
      have bound : view.available < 1024 := view.available_lt
      have count : (UInt16.ofNat view.available).toNat = view.contents.length := by
        rw [UInt16.toNat_ofNat', Ring.contents_length]
        omega
      refine bind_ok_iff.2 ⟨_, available_of_ring view written, ?_⟩
      rw [fifoStep, ← count]
      rfl
  | uart0RxRead beforeCell beforeIndex =>
      cases stored : view.contents with
      | nil =>
          refine ⟨(beforeCell ++ beforeIndex).foldl Ring.push view, ?_, ?_⟩
          · exact bind_ok_iff.2 ⟨_, read_empty view stored beforeCell beforeIndex, rfl⟩
          · rw [contents_pushes, stored]
            rfl
      | cons oldest others =>
          obtain ⟨later, done, left⟩ := read_stored view stored beforeCell beforeIndex
          refine ⟨later, bind_ok_iff.2 ⟨_, done, rfl⟩, ?_⟩
          rw [left, stored]
          rfl

theorem rx_run_of_ring (calls : List RxCall) :
    ∃ later : RxBuffer, rxRun (ofRing view) calls =
        .ok ((fifoRun view.contents calls).1, ofRing later) ∧
      later.contents = (fifoRun view.contents calls).2 := by
  induction calls generalizing view with
  | nil => exact ⟨view, rfl, rfl⟩
  | cons call rest ih =>
      obtain ⟨next, done, stored⟩ := rx_step_of_ring view call
      obtain ⟨later, finished, left⟩ := ih next
      rw [stored] at finished left
      refine ⟨later, ?_, left⟩
      refine bind_ok_iff.2 ⟨_, done, ?_⟩
      exact bind_ok_iff.2 ⟨_, finished, rfl⟩

end Refinement

section Run

/-- Without a byte the indices meet. -/
def emptyRing : RxBuffer where
  cells _ := 0
  head := 0
  tail := 0

/-- However the calls and the interrupts follow each other, the ring is a queue of at most
1023 bytes, and its indices stay inside the buffer. -/
theorem serial_ring_is_fifo (calls : List RxCall) :
    ∃ ring, rxRun .zero calls = .ok ((fifoRun [] calls).1, ring) ∧
      storedBytes ring = (fifoRun [] calls).2 ∧ (storedBytes ring).length ≤ 1023 ∧
      ring.head.toNat < 1024 ∧ ring.tail.toNat < 1024 := by
  have empty : emptyRing.contents = [] := rfl
  obtain ⟨later, done, left⟩ := rx_run_of_ring emptyRing calls
  rw [empty] at done left
  have bound : later.available < 1024 := later.available_lt
  refine ⟨ofRing later, done, ?_, ?_, ?_, ?_⟩
  · rw [stored_bytes_of_ring, left]
  · rw [stored_bytes_of_ring, Ring.contents_length]
    omega
  · exact (index_of_to_nat later.head).trans_lt later.head.isLt
  · exact (index_of_to_nat later.tail).trans_lt later.tail.isLt

end Run

end IotgoFirmware.Uart.SerialRing
