import IotgoFirmware.Uart.FrameDecode

/-!
# What the reader of the payload takes from the ring

`getData` over a ring whose reads are kept: the bytes that `uart0_rx_read` returned, and how
often it ran on an empty ring. The index of its loop has eight bits, and the checksum is read
in the first pass, which data of length 0 does not have.
-/

namespace IotgoFirmware.Uart.PayloadReader

open IotgoFirmware.Library.CStrings
open IotgoFirmware.Library.LoopRules
open IotgoFirmware.Library.RingQueues
open IotgoFirmware.Uart.FrameDecode
open IotgoFirmware.Uart.U2artQueue
open IotgoFirmware.Uart.U2artSchedule
open IotgoFirmware.Uart.U2artSchedule.ByteQueue

set_option autoImplicit false

structure Watched (Queue : Type) where
  queue : Queue
  taken : List UInt8
  emptyReads : Nat

def watch {Queue : Type} (queue : Queue) : Watched Queue where
  queue := queue
  taken := []
  emptyReads := 0

instance {Queue : Type} [ByteQueue Queue] : ByteQueue (Watched Queue) where
  uart0RxAvailable watched := uart0RxAvailable watched.queue
  uart0RxRead watched :=
    let read := uart0RxRead watched.queue
    (read.1, {
      queue := read.2
      taken := watched.taken ++ [read.1]
      emptyReads := watched.emptyReads + if uart0RxAvailable watched.queue = 0 then 1 else 0 })
  uart0RxWrite watched byte :=
    { watched with queue := uart0RxWrite watched.queue byte }

theorem watched_view {Queue : Type} [ByteQueue Queue] :
    QueueView (Watched.queue : Watched Queue → Queue) where
  available _ := rfl
  read _ := rfl
  write _ _ := rfl

variable (processor : CmdProcessor) (state : U2art RxBuffer)

def watchedState : U2art (Watched RxBuffer) :=
  mapState watch state

theorem get_data_watched :
    getData processor state = (getData processor (watchedState state)).map
      fun read => (read.1, mapState Watched.queue read.2) :=
  get_data_map watched_view processor (watchedState state)

def crcLength (data : U2artData) : Nat :=
  if data.cf then 4 else 0

/-- All of the frame is in the ring. -/
def Arrived : Prop :=
  dataLen state.data ≤ uart0RxAvailable state.rxBuffer

instance : Decidable (Arrived state) :=
  inferInstanceAs (Decidable (_ ≤ _))

/-- The loop ends, has taken the frame and nothing else, and has the payload in its buffer. -/
structure TakesFrame (read : DataLoop (Watched RxBuffer)) : Prop where
  ends : Exits (getDataBody (dataLength state.data)) (dataLoopStart (watchedState state)) read
  result : getData processor (watchedState state) =
    some (checkData processor (dataLength state.data) read)
  taken : read.state.rxBuffer.taken =
    state.rxBuffer.contents.take (crcLength state.data + dataLength state.data)
  left : read.state.rxBuffer.queue.contents =
    state.rxBuffer.contents.drop (crcLength state.data + dataLength state.data)
  stored : read.uart0Buffer.take (dataLength state.data) =
    (state.rxBuffer.contents.drop (crcLength state.data)).take (dataLength state.data)
  inside : read.state.rxBuffer.emptyReads = 0

/-- The frame is taken, or nothing is read. -/
def ReadsPayload : Prop :=
  if Arrived state then ∃ read, TakesFrame processor state read
  else getData processor (watchedState state) = some (false, watchedState state)

section Supply

theorem supplies_ring {bytes more : List UInt8} (watched : Watched RxBuffer)
    (stored : watched.queue.contents = bytes ++ more) :
    ∃ left, Supplies watched bytes left ∧ left.queue.contents = more ∧
      left.taken = watched.taken ++ bytes ∧ left.emptyReads = watched.emptyReads := by
  induction bytes generalizing watched with
  | nil => exact ⟨watched, .nil, stored, (List.append_nil _).symm, rfl⟩
  | cons byte rest ih =>
      obtain ⟨popped, others⟩ := watched.queue.pop_contents stored
      have some : uart0RxAvailable watched.queue ≠ 0 := by
        have count := congrArg List.length stored
        rw [Ring.contents_length] at count
        change watched.queue.available ≠ 0
        rw [count]
        exact Nat.succ_ne_zero _
      have first : uart0RxRead watched = (byte, {
          queue := { watched.queue with tail := following watched.queue.tail }
          taken := watched.taken ++ [byte]
          emptyReads := watched.emptyReads }) := by
        simp only [uart0RxRead, popped, if_neg some, Nat.add_zero]
      obtain ⟨left, supplied, content, taken, empties⟩ := ih {
        queue := { watched.queue with tail := following watched.queue.tail }
        taken := watched.taken ++ [byte]
        emptyReads := watched.emptyReads } others
      refine ⟨left, .cons first supplied, content, ?_, empties⟩
      rw [taken, List.append_assoc, List.singleton_append]

theorem checksum_bytes {bytes : List UInt8} (enough : 4 ≤ bytes.length) :
    ∃ a b c d others, bytes = [a, b, c, d] ++ others := by
  rcases bytes with _ | ⟨a, _ | ⟨b, _ | ⟨c, _ | ⟨d, others⟩⟩⟩⟩
  · cases enough
  · exact absurd enough (by simp)
  · exact absurd enough (by simp)
  · exact absurd enough (by simp)
  · exact ⟨a, b, c, d, others, rfl⟩

end Supply

section Loop

variable {processor : CmdProcessor} {state : U2art RxBuffer}
  {read : DataLoop (Watched RxBuffer)}

theorem get_data_arrived (declared : dataLength state.data ≤ readUart0Buffer)
    (arrived : Arrived state)
    (loop : iterate (getDataBody (dataLength state.data)) 256
      (dataLoopStart (watchedState state)) = .exit read) :
    getData processor (watchedState state) =
      some (checkData processor (dataLength state.data) read) := by
  have here : dataLen (watchedState state).data ≤
      uart0RxAvailable (watchedState state).rxBuffer := arrived
  have ends : iterate (getDataBody (dataLength (watchedState state).data)) 256
      (dataLoopStart (watchedState state)) = .exit read := loop
  rw [getData, if_neg (show ¬ readUart0Buffer < dataLength (watchedState state).data from
    Nat.not_lt.2 declared), if_pos here, ends]
  rfl

theorem arrived_iff (declared : dataLength state.data ≤ readUart0Buffer) :
    Arrived state ↔ crcLength state.data + dataLength state.data ≤
      state.rxBuffer.contents.length := by
  unfold readUart0Buffer at declared
  rw [Arrived, dataLen, crcLength, Ring.contents_length]
  change _ ≤ state.rxBuffer.available ↔ _
  cases state.data.cf with
  | false => simp
  | true =>
      rw [if_pos rfl, if_pos rfl, Nat.mod_eq_of_lt (by omega), Nat.add_comm]

theorem takes_plain (declared : dataLength state.data ≤ readUart0Buffer)
    (arrived : Arrived state) (small : dataLength state.data < 256)
    (plain : state.data.cf = false) : ∃ read, TakesFrame processor state read := by
  have enough := (arrived_iff declared).1 arrived
  have none : crcLength state.data = 0 := by
    rw [crcLength, plain]
    rfl
  rw [none, Nat.zero_add] at enough
  let payload := state.rxBuffer.contents.take (dataLength state.data)
  have length : payload.length = dataLength state.data := List.length_take_of_le enough
  obtain ⟨left, supplied, content, taken, empties⟩ :=
    supplies_ring (watch state.rxBuffer)
      (List.take_append_drop (dataLength state.data) state.rxBuffer.contents).symm
  have loop := get_data_reads (watchedState state) payload (length.trans_lt small) plain supplied
  rw [length] at loop
  refine ⟨_, exits_of_iterate loop, get_data_arrived declared arrived loop, ?_, ?_, ?_, empties⟩
  · rw [none, Nat.zero_add]
    exact taken
  · rw [none, Nat.zero_add]
    exact content
  · have kept := written_take payload
    rw [length] at kept
    rw [none, List.drop_zero]
    exact kept

theorem takes_checked (declared : dataLength state.data ≤ readUart0Buffer)
    (arrived : Arrived state) (small : dataLength state.data < 256)
    (cf : state.data.cf = true) (nonempty : 0 < dataLength state.data) :
    ∃ read, TakesFrame processor state read := by
  have enough := (arrived_iff declared).1 arrived
  have four : crcLength state.data = 4 := by
    rw [crcLength, cf]
    rfl
  rw [four] at enough
  obtain ⟨a, b, c, d, others, split⟩ := checksum_bytes (Nat.le_trans (Nat.le_add_right 4 _) enough)
  rw [split, List.length_append] at enough
  have inside : dataLength state.data ≤ others.length := Nat.le_of_add_le_add_left enough
  have length : (others.take (dataLength state.data)).length = dataLength state.data :=
    List.length_take_of_le inside
  obtain ⟨first, rest, payload⟩ := List.exists_cons_of_length_pos
    (nonempty.trans_eq length.symm)
  have count : rest.length + 1 = dataLength state.data := by
    rw [← length, payload, List.length_cons]
  obtain ⟨next, crc, middle, crcTaken, crcEmpties⟩ :=
    supplies_ring (watch state.rxBuffer) split
  obtain ⟨left, supplied, content, taken, empties⟩ := supplies_ring next
    (middle.trans (List.take_append_drop (dataLength state.data) others).symm)
  rw [payload] at supplied
  have loop := get_data_reads_crc (watchedState state) rest (count ▸ small) cf crc supplied
  rw [count] at loop
  refine ⟨_, exits_of_iterate loop, get_data_arrived declared arrived loop, ?_, ?_, ?_, ?_⟩
  · have first := taken.trans (congrArg (· ++ _) crcTaken)
    rw [split, four]
    exact first.trans (@List.take_length_add_append UInt8 [a, b, c, d] others _).symm
  · rw [split, four]
    exact content.trans (@List.drop_length_add_append UInt8 [a, b, c, d] others _).symm
  · have kept := written_take (first :: rest)
    rw [List.length_cons, count] at kept
    rw [split, four]
    exact kept.trans (payload.symm.trans (by simp))
  · exact empties.trans crcEmpties

theorem long_never_exits (long : 256 ≤ dataLength state.data) :
    ¬ Exits (getDataBody (dataLength state.data)) (dataLoopStart (watchedState state)) read := by
  apply not_exits_of_invariant (fun head => head.i < 256)
  · intro head bound
    rw [getDataBody, if_pos (Nat.lt_of_lt_of_le bound long)]
    exact ⟨_, rfl, Nat.mod_lt _ (by decide)⟩
  · exact Nat.succ_pos 255

theorem empty_leaves_checksum (declared : dataLength state.data ≤ readUart0Buffer)
    (arrived : Arrived state) (cf : state.data.cf = true) (empty : dataLength state.data = 0) :
    ¬ TakesFrame processor state read := by
  intro takes
  have enough := (arrived_iff declared).1 arrived
  have four : crcLength state.data = 4 := by
    rw [crcLength, cf]
    rfl
  have start : read = dataLoopStart (watchedState state) := by
    refine exits_exit ?_ takes.ends
    rw [getDataBody, empty]
    rfl
  have taken := congrArg List.length takes.taken
  rw [start, four, empty, List.length_take_of_le (by omega)] at taken
  cases taken

end Loop

/-- The frame is read as it has to be, unless all of it is there and it has 256 bytes of data
or more, or none and a checksum. -/
theorem payload_read_iff (declared : dataLength state.data ≤ readUart0Buffer) :
    ReadsPayload processor state ↔
      (Arrived state → dataLength state.data < 256 ∧
        (state.data.cf = true → 0 < dataLength state.data)) := by
  unfold ReadsPayload
  by_cases arrived : Arrived state
  · rw [if_pos arrived]
    constructor
    · rintro ⟨read, takes⟩ -
      constructor
      · by_contra long
        exact long_never_exits (Nat.le_of_not_lt long) takes.ends
      · intro cf
        by_contra empty
        exact empty_leaves_checksum declared arrived cf (Nat.eq_zero_of_not_pos empty) takes
    · intro fits
      obtain ⟨small, nonempty⟩ := fits arrived
      cases cf : state.data.cf with
      | false => exact takes_plain declared arrived small cf
      | true => exact takes_checked declared arrived small cf (nonempty cf)
  · rw [if_neg arrived]
    refine iff_of_true ?_ fun here => absurd here arrived
    rw [getData, if_neg (show ¬ readUart0Buffer < dataLength (watchedState state).data from
      Nat.not_lt.2 declared), if_neg (show ¬ dataLen (watchedState state).data ≤
        uart0RxAvailable (watchedState state).rxBuffer from arrived)]

section Examples

/-- A parser that has the header and the length of a frame, and some zero bytes of it. -/
def atData (length extendLength : Nat) (arrived : Fin 1024) : U2art RxBuffer where
  rxBuffer := { cells := fun _ => 0, head := arrived, tail := 0 }
  data := { U2artData.zero with start := true, length := length, extendLength := extendLength }
  result := .null
  getLength := true
  timeroutCouter := 0
  log := []

theorem payload_read_two_bytes : ReadsPayload pingProcessor (atData 2 0 2) :=
  (payload_read_iff pingProcessor (atData 2 0 2) (by decide)).2 (by decide)

/-- The loop for 256 bytes never ends. -/
theorem long_payload_never_read : ¬ ReadsPayload pingProcessor (atData 126 256 256) := by
  rw [ReadsPayload, if_pos (by decide)]
  rintro ⟨read, takes⟩
  exact long_never_exits (by decide) takes.ends

end Examples

end IotgoFirmware.Uart.PayloadReader
