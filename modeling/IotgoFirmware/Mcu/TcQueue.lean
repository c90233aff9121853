import IotgoFirmware.Send.SendJson

/-!
# The queue to the MCU

The device `FWTRX_TC` passes messages to its MCU one at a time: the head of
`tc_link_queue` is transmitted, the MCU acknowledges it by a `ret` or a
`respond`, and a timer transmits it once more before it gives it up.
-/

namespace IotgoFirmware.Mcu.TcQueue

open IotgoFirmware.Library.CStrings
open IotgoFirmware.Library.StepRuns
open IotgoFirmware.Send.SendQueue
open IotgoFirmware.Send.SendJson

set_option autoImplicit false

/-- `TC_NULL`. -/
def tcNull : UInt8 := 0

/-- `TC_PING`. -/
def tcPing : UInt8 := 3

theorem room_of_not_full {queue : LinkQueue} (full : ¬ 10 ≤ queue.length) : queue.length < 10 :=
  Nat.lt_of_not_le full

/-- `data` is `none` for the `NULL` pointer. -/
def tcInsertNode (queue : LinkQueue) (data : Option (List UInt8)) (type : UInt8) :
    Bool × LinkQueue :=
  match data with
  | none => (false, queue)
  | some memory =>
      if full : 10 ≤ queue.length then (false, queue)
      else
        let copy := if type ≠ tcPing then cString memory ++ [0] else memory.take 6
        (true, queue.link copy type (room_of_not_full full))

/-- The code of `iotgoDeleteType`. -/
def tcDeleteType : LinkQueue → UInt8 → LinkQueue :=
  iotgoDeleteType

/-- The code of `iotgoQueueDeleteHead`. -/
def tcDeleteNode : LinkQueue → LinkQueue :=
  iotgoQueueDeleteHead

inductive DeviceSignal where
  | updateByRemote
  | other (signal : Nat)
deriving DecidableEq

inductive Removal where
  | acknowledged
  | timedOut
deriving DecidableEq

/-- What went out to the MCU, and what left the queue; not in the source. -/
inductive TcLog where
  | transmitted (serial : Nat) (text : List UInt8)
  | removed (serial : Nat) (cause : Removal)
deriving DecidableEq

structure TcState where
  queue : LinkQueue
  inbox : List DeviceSignal
  sendDataAgainTimer : Option Nat
  sendCounter : Nat
  log : List TcLog

def TcState.initial : TcState where
  queue := .empty
  inbox := []
  sendDataAgainTimer := none
  sendCounter := 0
  log := []

/-- `IOTGO_TASK_DEVICE_CENTER_QLEN`. -/
def deviceQueueLength : Nat := 64

/-- A full event queue takes no more. -/
def postDevice (state : TcState) (signal : DeviceSignal) : TcState :=
  if state.inbox.length < deviceQueueLength then
    { state with inbox := state.inbox ++ [signal] }
  else state

def sendDataFromAppToMcu (state : TcState) : TcState :=
  postDevice state .updateByRemote

def tcAddDataToQueue (state : TcState) (data : Option (List UInt8)) (type : UInt8)
    (delTypeFlag : Bool) : Bool × TcState :=
  let lengthBeforeDelete := if delTypeFlag then state.queue.length else 0
  let queue := if delTypeFlag then tcDeleteType state.queue type else state.queue
  match tcInsertNode queue data type with
  | (false, queue) => (false, { state with queue := queue })
  | (true, queue) =>
      if queue.length = 1 ∧ lengthBeforeDelete = 0 then
        (true, sendDataFromAppToMcu { state with queue := queue })
      else (true, { state with queue := queue })

/-- `cmdSendDataToMcu`, for the head of the queue: an empty text is not sent. -/
def cmdSendDataToMcu (state : TcState) (node : QNode) : TcState :=
  let text := cString (node.data.getD [])
  if text = [] then state
  else { state with log := state.log ++ [.transmitted node.serial text] }

def transDataToMcu (state : TcState) : TcState :=
  match state.queue.nodes with
  | [] => state
  | node :: _ => { cmdSendDataToMcu state node with sendDataAgainTimer := some 2000 }

/-- `tcDeleteNode` on the queue of the device, with a record of why. -/
def dropHead (state : TcState) (cause : Removal) : TcState :=
  { state with
    queue := tcDeleteNode state.queue
    log := state.log ++ (state.queue.nodes.head?.map fun node => .removed node.serial cause).toList }

def sendDataToMcuAgain (state : TcState) : TcState :=
  if 2 ≤ state.sendCounter + 1 then
    postDevice (dropHead { state with sendCounter := 0 } .timedOut) .updateByRemote
  else postDevice { state with sendCounter := state.sendCounter + 1 } .updateByRemote

inductive U2artError where
  | success
  | invalidParams
  | networkError
  | insideError
deriving DecidableEq

/-- The timer is off and the head is gone before the command is looked at. -/
def acknowledge (state : TcState) : TcState :=
  dropHead { state with sendDataAgainTimer := none } .acknowledged

/-- `isArray`: the command is a JSON array. -/
def processRetCmd (state : TcState) (isArray : Bool) : U2artError × TcState :=
  let state := acknowledge state
  if !isArray then (.invalidParams, state)
  else (.success, state)

/-- What `processRespondCmd` finds: a well-formed command, the device mode, memory
for the answer, and the results of sending it and of telling the MCU. -/
structure RespondCmd where
  wellFormed : Bool
  mode : IoTgoDeviceMode
  created : Bool
  sendIoTgoPkg : Int8
  cmdSendDataToMcu : Bool

/-- Every branch returns before the `system_os_post` at the end of the function. -/
def processRespondCmd (state : TcState) (cmd : RespondCmd) : U2artError × TcState :=
  let state := acknowledge state
  if !cmd.wellFormed then (.invalidParams, state)
  else if cmd.mode ≠ .workNormal then (.networkError, state)
  else if !cmd.created then (.insideError, state)
  else if cmd.sendIoTgoPkg = 0 then
    if cmd.cmdSendDataToMcu then (.success, state)
    else (.insideError, state)
  else (.insideError, state)

/-- What the device center does with a signal it has taken from its queue. -/
def deviceCenter (state : TcState) : DeviceSignal → TcState
  | .updateByRemote => transDataToMcu state
  | .other _ => state

inductive TcEvent where
  | enqueue (data : Option (List UInt8))
  | ret (isArray : Bool)
  | respond (cmd : RespondCmd)
  | timer
  | deliver
  | post (signal : Nat)

/-- The device always adds with `TC_NULL` and `false`. The timer is a one-shot;
without an armed timer or a posted signal nothing happens. -/
def tcStep (state : TcState) : TcEvent → TcState
  | .enqueue data => (tcAddDataToQueue state data tcNull false).2
  | .ret isArray => (processRetCmd state isArray).2
  | .respond cmd => (processRespondCmd state cmd).2
  | .timer =>
      match state.sendDataAgainTimer with
      | none => state
      | some _ => sendDataToMcuAgain { state with sendDataAgainTimer := none }
  | .deliver =>
      match state.inbox with
      | [] => state
      | signal :: rest => deviceCenter { state with inbox := rest } signal
  | .post signal => postDevice state (.other signal)

def TcStep (state : TcState) (event : TcEvent) (next : TcState) : Prop :=
  tcStep state event = next

section Lemmas

variable (state : TcState)

@[simp] theorem post_queue (signal : DeviceSignal) :
    (postDevice state signal).queue = state.queue := by
  unfold postDevice
  split <;> rfl

@[simp] theorem post_timer (signal : DeviceSignal) :
    (postDevice state signal).sendDataAgainTimer = state.sendDataAgainTimer := by
  unfold postDevice
  split <;> rfl

@[simp] theorem post_counter (signal : DeviceSignal) :
    (postDevice state signal).sendCounter = state.sendCounter := by
  unfold postDevice
  split <;> rfl

@[simp] theorem post_log (signal : DeviceSignal) :
    (postDevice state signal).log = state.log := by
  unfold postDevice
  split <;> rfl

theorem post_inbox (signal : DeviceSignal) :
    (postDevice state signal).inbox = state.inbox ++ [signal] ∧
        state.inbox.length < deviceQueueLength ∨
      (postDevice state signal).inbox = state.inbox ∧
        ¬ state.inbox.length < deviceQueueLength := by
  unfold postDevice
  split
  · rename_i room
    exact .inl ⟨rfl, room⟩
  · rename_i full
    exact .inr ⟨rfl, full⟩

theorem tc_insert_cases (queue : LinkQueue) (data : Option (List UInt8)) :
    tcInsertNode queue data tcNull = (false, queue) ∧ (data = none ∨ 10 ≤ queue.length) ∨
      ∃ memory room, data = some memory ∧
        tcInsertNode queue data tcNull =
          (true, queue.link (cString memory ++ [0]) tcNull room) := by
  cases data with
  | none => exact .inl ⟨rfl, .inl rfl⟩
  | some memory =>
      by_cases full : 10 ≤ queue.length
      · refine .inl ⟨?_, .inr full⟩
        rw [tcInsertNode, dif_pos full]
      · refine .inr ⟨memory, room_of_not_full full, rfl, ?_⟩
        rw [tcInsertNode, dif_neg full, if_pos (by decide)]

theorem enqueue_cases (data : Option (List UInt8)) :
    tcStep state (.enqueue data) = state ∧ (data = none ∨ 10 ≤ state.queue.length) ∨
      ∃ memory room, data = some memory ∧
        (state.queue.nodes ≠ [] ∧
            tcStep state (.enqueue data) =
              { state with queue := state.queue.link (cString memory ++ [0]) tcNull room } ∨
          state.queue.nodes = [] ∧
            tcStep state (.enqueue data) =
              postDevice
                { state with queue := state.queue.link (cString memory ++ [0]) tcNull room }
                .updateByRemote) := by
  rcases tc_insert_cases state.queue data with ⟨refused, why⟩ | ⟨memory, room, present, linked⟩
  · refine .inl ⟨?_, why⟩
    simp [tcStep, tcAddDataToQueue, refused]
  · refine .inr ⟨memory, room, present, ?_⟩
    by_cases empty : state.queue.nodes = []
    · refine .inr ⟨empty, ?_⟩
      have alone : state.queue.length = 0 := by rw [LinkQueue.length, empty]; rfl
      simp [tcStep, tcAddDataToQueue, linked, alone, sendDataFromAppToMcu]
    · refine .inl ⟨empty, ?_⟩
      have others : state.queue.length ≠ 0 := by
        intro zero
        exact empty (List.eq_nil_of_length_eq_zero zero)
      simp [tcStep, tcAddDataToQueue, linked, others]

theorem ret_step (isArray : Bool) : tcStep state (.ret isArray) = acknowledge state := by
  cases isArray <;> rfl

/-- However it answers, the command only removes the head: the signal that stands at
its end is never posted. -/
theorem respond_step (cmd : RespondCmd) : tcStep state (.respond cmd) = acknowledge state := by
  change (processRespondCmd state cmd).2 = acknowledge state
  unfold processRespondCmd
  split
  · rfl
  · split
    · rfl
    · split
      · rfl
      · split
        · split <;> rfl
        · rfl

/-- The second time-out in a row gives the head up; the first one only counts. Both
ask for the head of the queue to be sent. -/
theorem timer_step {delay : Nat} (armed : state.sendDataAgainTimer = some delay) :
    tcStep state .timer =
      if 1 ≤ state.sendCounter then
        postDevice (dropHead { state with sendDataAgainTimer := none, sendCounter := 0 } .timedOut)
          .updateByRemote
      else
        postDevice { state with sendDataAgainTimer := none, sendCounter := state.sendCounter + 1 }
          .updateByRemote := by
  rw [tcStep, armed]
  simp [sendDataToMcuAgain]

theorem timer_step_idle (idle : state.sendDataAgainTimer = none) : tcStep state .timer = state := by
  rw [tcStep, idle]

@[simp] theorem drop_head_nodes (cause : Removal) :
    (dropHead state cause).queue.nodes = state.queue.nodes.tail := rfl

@[simp] theorem drop_head_inbox (cause : Removal) : (dropHead state cause).inbox = state.inbox := rfl

@[simp] theorem drop_head_timer (cause : Removal) :
    (dropHead state cause).sendDataAgainTimer = state.sendDataAgainTimer := rfl

@[simp] theorem acknowledge_nodes : (acknowledge state).queue.nodes = state.queue.nodes.tail := rfl

@[simp] theorem acknowledge_inbox : (acknowledge state).inbox = state.inbox := rfl

@[simp] theorem acknowledge_timer : (acknowledge state).sendDataAgainTimer = none := rfl

end Lemmas

theorem tc_step_deterministic (state : TcState) (event : TcEvent) (left right : TcState)
    (first : TcStep state event left) (second : TcStep state event right) : left = right :=
  first.symm.trans second

theorem tc_step_computed (state : TcState) (event : TcEvent) (next : TcState)
    (computed : some (tcStep state event) = some next) : TcStep state event next :=
  Option.some.inj computed

end IotgoFirmware.Mcu.TcQueue
