import IotgoFirmware.Library.StepRuns
import IotgoFirmware.Uart.U2artSchedule

/-!
# The parser sees the ring as the list of its bytes

A view of one byte queue as another that keeps what is available, what is read and
what a write does is kept by every function of the parser. The contents of the ring
are such a view, so that a run over the ring is a run over the list of its bytes.
-/

namespace IotgoFirmware.Uart.U2artQueue

open IotgoFirmware.Library.CStrings
open IotgoFirmware.Library.LoopRules
open IotgoFirmware.Library.RingQueues
open IotgoFirmware.Library.StepRuns
open IotgoFirmware.Uart.U2artSchedule
open IotgoFirmware.Uart.U2artSchedule.ByteQueue

set_option autoImplicit false

/-- The view answers every call as the queue does. -/
structure QueueView {Queue Twin : Type} [ByteQueue Queue] [ByteQueue Twin]
    (view : Queue → Twin) : Prop where
  available : ∀ queue, uart0RxAvailable (view queue) = uart0RxAvailable queue
  read : ∀ queue, uart0RxRead (view queue) =
    ((uart0RxRead queue).1, view (uart0RxRead queue).2)
  write : ∀ queue byte, uart0RxWrite (view queue) byte = view (uart0RxWrite queue byte)

theorem contents_view : QueueView (Ring.contents : RxBuffer → List UInt8) where
  available := Ring.contents_length
  read ring := by
    cases stored : ring.contents with
    | nil => simp only [uart0RxRead, ring.pop_empty stored, stored]
    | cons first rest =>
        rcases ring.pop_contents stored with ⟨popped, left⟩
        simp only [uart0RxRead, popped, left]
  write ring byte := by
    have bound : ring.available < uart0RxBufferSize := ring.available_lt
    simp only [uart0RxWrite, Ring.contents_length]
    split
    · rename_i full
      rw [ring.push_full full]
    · exact (ring.contents_push (by unfold uart0RxBufferSize at *; omega) byte).symm

section View

variable {Queue Twin : Type} (view : Queue → Twin)

/-- The state of the parser, with another queue. -/
def mapState (state : U2art Queue) : U2art Twin where
  rxBuffer := view state.rxBuffer
  data := state.data
  result := state.result
  getLength := state.getLength
  timeroutCouter := state.timeroutCouter
  log := state.log

def mapLoop (head : DataLoop Queue) : DataLoop Twin where
  i := head.i
  getCrc32Flag := head.getCrc32Flag
  uart0Buffer := head.uart0Buffer
  state := mapState view head.state

variable [ByteQueue Queue] [ByteQueue Twin] {view} (viewed : QueueView view)
variable (processor : CmdProcessor) (answer : CmdAnswer) (state : U2art Queue)
include viewed

theorem read_word16_map (queue : Queue) :
    readWord16 (view queue) = ((readWord16 queue).1, view (readWord16 queue).2) := by
  simp only [readWord16, viewed.read]

theorem read_word32_map (queue : Queue) :
    readWord32 (view queue) = ((readWord32 queue).1, view (readWord32 queue).2) := by
  simp only [readWord32, viewed.read]

theorem get_extend_length_map :
    getExtendLength (mapState view state) =
      ((getExtendLength state).1, mapState view (getExtendLength state).2) := by
  simp only [getExtendLength, mapState, viewed.available, read_word16_map viewed,
    read_word32_map viewed]
  split_ifs <;> rfl

theorem get_data_body_map (length : Nat) (head : DataLoop Queue) :
    getDataBody length (mapLoop view head) = (getDataBody length head).map (mapLoop view) := by
  simp only [getDataBody, mapLoop, mapState, read_word32_map viewed]
  split_ifs <;> simp only [LoopStep.map, mapLoop, mapState, viewed.read]

omit viewed [ByteQueue Queue] [ByteQueue Twin] in
theorem check_data_map (length : Nat) (read : DataLoop Queue) :
    checkData processor length (mapLoop view read) =
      ((checkData processor length read).1,
        mapState view (checkData processor length read).2) := by
  by_cases accepted : crcResult read.state.data.cf (read.uart0Buffer.take length) =
      read.state.data.crc32
  · by_cases array : (processor.cJSONParse (cString read.uart0Buffer)).any (·.isArray) <;>
      simp [checkData, mapLoop, mapState, emit, accepted, array]
  · simp [checkData, mapLoop, mapState, emit, accepted]

theorem get_data_map :
    getData processor (mapState view state) =
      (getData processor state).map fun read => (read.1, mapState view read.2) := by
  have loop (length : Nat) :
      iterate (getDataBody length) 256 (dataLoopStart (mapState view state)) =
        (iterate (getDataBody length) 256 (dataLoopStart state)).map (mapLoop view) :=
    iterate_map (mapLoop view) (get_data_body_map viewed length) 256 (dataLoopStart state)
  have available : uart0RxAvailable (mapState view state).rxBuffer =
      uart0RxAvailable state.rxBuffer := viewed.available state.rxBuffer
  simp only [getData, loop, available, show (mapState view state).data = state.data from rfl]
  split
  · rfl
  · split
    · cases iterate (getDataBody (dataLength state.data)) 256 (dataLoopStart state) with
      | again => rfl
      | exit read => exact congrArg some (check_data_map processor _ read)
    · rfl

omit viewed [ByteQueue Queue] [ByteQueue Twin] in
theorem process_cmd_map :
    processCmd processor answer (mapState view state) =
      (processCmd processor answer state).map (mapState view) := by
  simp only [processCmd, mapState, emit]
  split
  · rfl
  · split_ifs <;> rfl
  · split
    · split_ifs <;> rfl
    · rfl

theorem find_preamble_body_map :
    findPreambleBody (mapState view state) = (findPreambleBody state).map (mapState view) := by
  simp only [findPreambleBody, mapState, viewed.available, viewed.read]
  split_ifs <;> rfl

theorem find_preamble_map :
    findPreamble (mapState view state) = mapState view (findPreamble state) := by
  have available : uart0RxAvailable (mapState view state).rxBuffer =
      uart0RxAvailable state.rxBuffer := viewed.available state.rxBuffer
  rw [findPreamble, findPreamble, available,
    iterate_map (mapState view) (find_preamble_body_map viewed)]
  cases iterate findPreambleBody (uart0RxAvailable state.rxBuffer + 1) state <;> rfl

theorem read_length_map :
    readLength (mapState view state) = mapState view (readLength state) := by
  rw [readLength, readLength, get_extend_length_map viewed]
  generalize getExtendLength state = measured
  by_cases quiet : measured.2.result = .null <;> simp [mapState, processErrorCmd, quiet]

omit viewed [ByteQueue Queue] [ByteQueue Twin] in
theorem process_result_map :
    processResult (mapState view state) = mapState view (processResult state) := by
  by_cases quiet : state.result = .null <;>
    simp [processResult, processErrorCmd, mapState, quiet]

theorem read_data_map :
    readData processor answer (mapState view state) =
      (readData processor answer state).map (mapState view) := by
  rw [readData, readData, get_data_map viewed]
  cases getData processor state with
  | none => rfl
  | some read =>
      rw [Option.map_some, Option.bind_some, Option.bind_some]
      rcases read with ⟨got, read⟩
      cases got with
      | false => exact congrArg some (process_result_map read)
      | true =>
          simp only [if_true, process_cmd_map]
          cases processCmd processor answer read with
          | none => rfl
          | some done => exact congrArg some (process_result_map { done with getLength := false })

theorem take_length_map :
    takeLength (mapState view state) = mapState view (takeLength state) := by
  rw [takeLength, takeLength, read_length_map viewed]
  cases held : state.getLength <;> simp [mapState, held]

theorem take_data_map :
    takeData processor answer (mapState view state) =
      (takeData processor answer state).map (mapState view) := by
  rw [takeData, takeData, read_data_map viewed]
  cases held : state.getLength <;> simp [mapState, held]

theorem take_preamble_map :
    takePreamble (mapState view state) = mapState view (takePreamble state) := by
  rw [takePreamble, takePreamble, find_preamble_map viewed]
  cases started : state.data.start <;> simp [mapState, started]

theorem take_frame_map :
    takeFrame processor answer (mapState view state) =
      (takeFrame processor answer state).map (mapState view) := by
  rw [takeFrame, takeFrame, take_length_map viewed, take_data_map viewed]
  cases started : state.data.start <;> simp [mapState, started]

omit viewed [ByteQueue Queue] [ByteQueue Twin] in
theorem check_timerout_map :
    checkTimerout (mapState view state) = mapState view (checkTimerout state) := by
  by_cases expired : timeroutTime ≤ state.timeroutCouter <;>
    simp [checkTimerout, processErrorCmd, mapState, expired]

theorem parse_u2art_data_map :
    parseU2artData processor answer (mapState view state) =
      (parseU2artData processor answer state).map (mapState view) := by
  have counted : countCall (mapState view state) = mapState view (countCall state) := rfl
  rw [parseU2artData, parseU2artData, counted, take_preamble_map viewed, take_frame_map viewed]
  cases takeFrame processor answer (takePreamble (countCall state)) with
  | none => rfl
  | some done => exact congrArg some (check_timerout_map done)

theorem u2art_step_map (event : U2artEvent) :
    u2artStep processor (mapState view state) event =
      (u2artStep processor state event).map (mapState view) := by
  cases event with
  | uart0RxWrite byte =>
      simp only [u2artStep, Option.map_some, mapState, viewed.write]
  | parseU2artData answer => exact parse_u2art_data_map viewed processor answer state

/-- A run over the queue is one over what it is seen as. -/
theorem u2art_run_map (events : List U2artEvent) :
    execRun (u2artStep processor) (mapState view state) events =
      (execRun (u2artStep processor) state events).map (mapState view) := by
  induction events generalizing state with
  | nil => rfl
  | cons event events ih =>
      rw [execRun, execRun, u2art_step_map viewed]
      cases u2artStep processor state event with
      | none => rfl
      | some next => exact ih next

end View

end IotgoFirmware.Uart.U2artQueue
