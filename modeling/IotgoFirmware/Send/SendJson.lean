import IotgoFirmware.Library.StepRuns
import IotgoFirmware.Send.SendQueue

/-!
# Sending from the core task

The functions of `iotgo_pconn.c` that send the head of the queue, retry it and
go on to the next one, the timer between the attempts, and the core task that
calls them. The signals the task handles otherwise are posted, and the queue and
the device mode are changed, by events of their own. What a string longer than
`network_buffer` overwrites behind it is not modelled.
-/

namespace IotgoFirmware.Send.SendJson

open IotgoFirmware.Library.CStrings
open IotgoFirmware.Library.StepRuns
open IotgoFirmware.Send.SendQueue

set_option autoImplicit false

inductive IoTgoSendQueueStatu where
  | sendOk
  | wildPoint
  | dataLengthOver
  | networkAbnormal
  | upgradeLock
  | sendError
deriving DecidableEq

inductive IoTgoDeviceMode where
  | start
  | workApErr
  | workApOk
  | workInit
  | workNormal
  | setting
  | factory
  | upgrade
  | settingSelfap
  | invalid
deriving DecidableEq

/-- The signals of the core task that only others post; `unrelated` ones leave
the queue alone. -/
inductive CoreSignal where
  | serverConnected
  | wsConnect
  | registerErr
  | upgradeEnter
  | unrelated (signal : Nat)
deriving DecidableEq

/-- `earned` is not in the source: the serial of the node whose bytes the
`espconn_send` behind this event accepted. -/
inductive CoreEvent where
  | sendJson
  | sendJsonAgain
  | sendJsonFinished (errorCode : IoTgoSendQueueStatu) (earned : Option Nat)
  | other (signal : CoreSignal)
deriving DecidableEq

/-- `attempt` is a call of `espconn_send`, `finished` the deletion of a node by
`iotgoPconnSendNextJson`, `reply` the answer to the MCU. -/
inductive SendLog where
  | attempt (serial : Nat) (packet : List UInt8) (ret : Int8)
  | finished (serial : Nat) (errorCode : IoTgoSendQueueStatu) (earned : Option Nat)
  | reply (ok : Bool)
deriving DecidableEq

structure SendState where
  queue : LinkQueue
  inbox : List CoreEvent
  sendCounter : Nat
  sendQueueTimer : Option Nat
  mode : IoTgoDeviceMode
  log : List SendLog

def SendState.initial (mode : IoTgoDeviceMode) : SendState where
  queue := .empty
  inbox := []
  sendCounter := 0
  sendQueueTimer := none
  mode := mode
  log := []

/-- `IOTGO_TASK_CORE_QLEN`. -/
def coreQueueLength : Nat := 64

/-- A full event queue takes no more. -/
def systemOsPost (state : SendState) (event : CoreEvent) : SendState :=
  if state.inbox.length < coreQueueLength then
    { state with inbox := state.inbox ++ [event] }
  else state

def iotgoQueueAdd (state : SendState) (data : Option (List UInt8)) (type : UInt8)
    (delTypeFlag : Bool) : Bool × SendState :=
  let lengthBeforeDelete := if delTypeFlag then state.queue.length else 0
  let queue := if delTypeFlag then iotgoDeleteType state.queue type else state.queue
  match iotgoInsertNode queue data type with
  | (false, queue) => (false, { state with queue := queue })
  | (true, queue) =>
      if queue.length = 1 ∧ lengthBeforeDelete = 0 then
        (true, systemOsPost { state with queue := queue } .sendJson)
      else (true, { state with queue := queue })

section Add

variable (state : SendState) (data : Option (List UInt8)) (type : UInt8) (delTypeFlag : Bool)

/-- The queue after the deletion that an addition may start with. -/
def queueBefore : LinkQueue :=
  if delTypeFlag then iotgoDeleteType state.queue type else state.queue

@[simp] theorem queue_before_allocated :
    (queueBefore state type delTypeFlag).allocated = state.queue.allocated := by
  cases delTypeFlag <;> rfl

/-- Nothing is linked; or a node is behind others; or the first one is, and it is
sent for. -/
theorem queue_add_cases :
    ((iotgoQueueAdd state data type delTypeFlag).2 =
        { state with queue := queueBefore state type delTypeFlag } ∧
      (data = none ∨ 10 ≤ (queueBefore state type delTypeFlag).length)) ∨
    ∃ copy room, data ≠ none ∧
      (state.queue.nodes ≠ [] ∧
          (iotgoQueueAdd state data type delTypeFlag).2 =
            { state with queue := (queueBefore state type delTypeFlag).link copy type room } ∨
        state.queue.nodes = [] ∧
          (iotgoQueueAdd state data type delTypeFlag).2 =
            systemOsPost
              { state with queue := (queueBefore state type delTypeFlag).link copy type room }
              .sendJson) := by
  have added : iotgoQueueAdd state data type delTypeFlag =
      match iotgoInsertNode (queueBefore state type delTypeFlag) data type with
      | (false, queue) => (false, { state with queue := queue })
      | (true, queue) =>
          if queue.length = 1 ∧ (if delTypeFlag then state.queue.length else 0) = 0 then
            (true, systemOsPost { state with queue := queue } .sendJson)
          else (true, { state with queue := queue }) := rfl
  have first : ((queueBefore state type delTypeFlag).length + 1 = 1 ∧
      (if delTypeFlag then state.queue.length else 0) = 0) ↔ state.queue.nodes = [] := by
    cases delTypeFlag with
    | false => simp [queueBefore, LinkQueue.length]
    | true =>
        constructor
        · rintro ⟨-, empty⟩
          exact List.eq_nil_of_length_eq_zero empty
        · intro empty
          have none : (iotgoDeleteType state.queue type).nodes = [] := by
            rw [iotgoDeleteType, keep_nodes, empty]
            rfl
          simp [queueBefore, LinkQueue.length, none, empty]
  rcases insert_node_cases (queueBefore state type delTypeFlag) data type with
    ⟨inserted, refused⟩ | ⟨memory, room, given, inserted⟩
  · left
    rw [added, inserted]
    exact ⟨rfl, refused⟩
  · right
    have present : data ≠ none := by
      rw [given]
      exact Option.some_ne_none memory
    refine ⟨copiedData memory type, room, present, ?_⟩
    rw [added, inserted]
    simp only [link_length]
    by_cases empty : state.queue.nodes = []
    · rw [if_pos (first.2 empty)]
      exact .inr ⟨empty, rfl⟩
    · rw [if_neg fun now => empty (first.1 now)]
      exact .inl ⟨empty, rfl⟩

end Add

/-- `IOTGO_JSON_BUFFER_SIZE + 512`. -/
def networkBufferSize : Nat := 1024 + 512

/-- The ping frame, which goes out as it is. -/
def pingFrame : List UInt8 := [0x89, 0x80, 0, 0, 0, 0]

/-- A text frame with mask 0, up to its payload. -/
def frameHeader (dataLen : Nat) : Option (List UInt8) :=
  if dataLen ≤ 125 then
    some [0x81, UInt8.ofNat (0x80 + dataLen), 0, 0, 0, 0]
  else if dataLen ≤ 65500 then
    some [0x81, 0x80 + 126, UInt8.ofNat (dataLen / 256 % 256), UInt8.ofNat (dataLen % 256),
      0, 0, 0, 0]
  else none

/-- What `iotgoNetworkSendString` passes to `espconn_send`; `none` where it
returns `IOTGO_DATA_LENGTH_OVER` instead. -/
def networkFrame (dataToSend : List UInt8) : Option (List UInt8) :=
  if pingFrame.isPrefixOf dataToSend then some pingFrame
  else
    (frameHeader (strlen dataToSend)).bind fun header =>
      if strlen dataToSend + header.length > networkBufferSize then none
      else some (header ++ cString dataToSend)

/-- `espconnRet` is what `espconn_send` returns if it is called. -/
def iotgoNetworkSendString (espconnRet : Int8) (state : SendState) (serial : Nat)
    (dataToSend : List UInt8) : Int8 × SendState :=
  match networkFrame dataToSend with
  | none => (2, state)
  | some frame =>
      (espconnRet, { state with log := state.log ++ [.attempt serial frame espconnRet] })

/-- `none` is the read through the `NULL` head of an empty queue. -/
def iotgoPconnSendJson (espconnRet : Int8) (state : SendState) : Option SendState :=
  state.queue.nodes.head?.map fun node =>
    match node.data with
    | none => systemOsPost state (.sendJsonFinished .wildPoint none)
    | some data =>
        if state.mode ≠ .workNormal ∧ state.mode ≠ .workInit then
          systemOsPost state (.sendJsonFinished .networkAbnormal none)
        else
          let (status, sent) := iotgoNetworkSendString espconnRet state node.serial data
          if status = 0 then
            systemOsPost sent (.sendJsonFinished .sendOk (some node.serial))
          else if status = 4 then
            systemOsPost sent (.sendJsonFinished .upgradeLock none)
          else if status = 2 then
            systemOsPost sent (.sendJsonFinished .dataLengthOver none)
          else systemOsPost sent .sendJsonAgain

/-- `none` is the read through the `NULL` head of an empty queue. -/
def iotgoPconnSendJsonAgain (state : SendState) : Option SendState :=
  if 3 ≤ state.sendCounter then
    let state := { state with sendQueueTimer := none }
    (iotgoQueueHeadType state.queue).map fun type =>
      let state :=
        if type = iotgoRegister then
          systemOsPost { state with queue := iotgoQueueDeleteAll state.queue } (.other .registerErr)
        else systemOsPost state (.sendJsonFinished .sendError none)
      { state with sendCounter := 0 }
  else
    let delay :=
      if state.sendCounter = 0 then 1000
      else if state.sendCounter = 1 then 2000
      else 4000
    some { state with sendQueueTimer := some delay, sendCounter := state.sendCounter + 1 }

/-- Whether the next node is sent after this code. -/
def continues : IoTgoSendQueueStatu → Bool
  | .wildPoint => false
  | .dataLengthOver => true
  | .sendError => true
  | .networkAbnormal => false
  | .upgradeLock => false
  | .sendOk => true

/-- `none` is the read through the `NULL` head of an empty queue. -/
def iotgoPconnSendNextJson (errorCode : IoTgoSendQueueStatu) (earned : Option Nat)
    (state : SendState) : Option SendState :=
  state.queue.nodes.head?.map fun node =>
    let state :=
      { state with
        queue := iotgoQueueDeleteHead state.queue
        sendCounter := 0
        log := state.log ++ [.finished node.serial errorCode earned] }
    let state :=
      if continues errorCode ∧ 0 < iotgoQueueLength state.queue then systemOsPost state .sendJson
      else state
    if iotgoUserDefault ≤ node.type then
      { state with log := state.log ++ [.reply (errorCode = .sendOk)] }
    else state

def cbSendQueueTimer (state : SendState) : SendState :=
  if 0 < iotgoQueueLength state.queue then systemOsPost state .sendJson else state

/-- What the core task does with an event it has taken from its queue. -/
def taskIoTgoNetworkCenter (espconnRet : Int8) (state : SendState) :
    CoreEvent → Option SendState
  | .sendJson => iotgoPconnSendJson espconnRet state
  | .sendJsonAgain => iotgoPconnSendJsonAgain state
  | .sendJsonFinished errorCode earned => iotgoPconnSendNextJson errorCode earned state
  | .other .serverConnected =>
      some (systemOsPost { state with queue := iotgoQueueDeleteAll state.queue } (.other .wsConnect))
  | .other .upgradeEnter => some { state with queue := iotgoQueueDeleteAll state.queue }
  | .other _ => some state

inductive SendEvent where
  | add (data : Option (List UInt8)) (type : UInt8) (delTypeFlag : Bool)
  | handle (espconnRet : Int8)
  | timer
  | post (signal : CoreSignal)
  | setMode (mode : IoTgoDeviceMode)

/-- `none` where the firmware reads through a `NULL` head. The timer is a
one-shot; without an armed timer or a posted event nothing happens. -/
def sendStep (state : SendState) : SendEvent → Option SendState
  | .add data type delTypeFlag => some (iotgoQueueAdd state data type delTypeFlag).2
  | .handle espconnRet =>
      match state.inbox with
      | [] => some state
      | event :: rest => taskIoTgoNetworkCenter espconnRet { state with inbox := rest } event
  | .timer =>
      match state.sendQueueTimer with
      | none => some state
      | some _ => some (cbSendQueueTimer { state with sendQueueTimer := none })
  | .post signal => some (systemOsPost state (.other signal))
  | .setMode mode => some { state with mode := mode }

def SendStep (state : SendState) (event : SendEvent) (next : SendState) : Prop :=
  sendStep state event = some next

theorem send_step_deterministic (state : SendState) (event : SendEvent) (left right : SendState)
    (first : SendStep state event left) (second : SendStep state event right) : left = right :=
  Option.some.inj (first.symm.trans second)

section Events

variable {state next : SendState}

theorem handle_idle_iff (empty : state.inbox = []) (espconnRet : Int8) :
    SendStep state (.handle espconnRet) next ↔ next = state := by
  rw [SendStep, sendStep, empty, Option.some_inj]
  exact eq_comm

theorem handle_iff {event : CoreEvent} {rest : List CoreEvent}
    (first : state.inbox = event :: rest) (espconnRet : Int8) :
    SendStep state (.handle espconnRet) next ↔
      taskIoTgoNetworkCenter espconnRet { state with inbox := rest } event = some next := by
  rw [SendStep, sendStep, first]

theorem timer_idle_iff (unarmed : state.sendQueueTimer = none) :
    SendStep state .timer next ↔ next = state := by
  rw [SendStep, sendStep, unarmed, Option.some_inj]
  exact eq_comm

theorem timer_fires_iff {delay : Nat} (armed : state.sendQueueTimer = some delay) :
    SendStep state .timer next ↔ next = cbSendQueueTimer { state with sendQueueTimer := none } := by
  rw [SendStep, sendStep, armed, Option.some_inj]
  exact eq_comm

theorem popped_room {event : CoreEvent} {rest : List CoreEvent}
    (bounded : state.inbox.length ≤ coreQueueLength) (first : state.inbox = event :: rest) :
    rest.length < coreQueueLength := by
  rw [first] at bounded
  exact bounded

end Events

section Post

variable (state : SendState) (event : CoreEvent)

@[simp] theorem post_queue : (systemOsPost state event).queue = state.queue := by
  unfold systemOsPost
  split <;> rfl

@[simp] theorem post_counter : (systemOsPost state event).sendCounter = state.sendCounter := by
  unfold systemOsPost
  split <;> rfl

@[simp] theorem post_timer :
    (systemOsPost state event).sendQueueTimer = state.sendQueueTimer := by
  unfold systemOsPost
  split <;> rfl

@[simp] theorem post_log : (systemOsPost state event).log = state.log := by
  unfold systemOsPost
  split <;> rfl

theorem post_inbox (room : state.inbox.length < coreQueueLength) :
    (systemOsPost state event).inbox = state.inbox ++ [event] := by
  rw [systemOsPost, if_pos room]

theorem post_cases :
    (systemOsPost state event).inbox = state.inbox ++ [event] ∨
      (systemOsPost state event).inbox = state.inbox := by
  unfold systemOsPost
  split
  · exact .inl rfl
  · exact .inr rfl

theorem post_bounded (bounded : state.inbox.length ≤ coreQueueLength) :
    (systemOsPost state event).inbox.length ≤ coreQueueLength := by
  unfold systemOsPost
  split
  · rename_i room
    rw [List.length_append]
    exact room
  · exact bounded

theorem post_then_counter (sendCounter : Nat) :
    { systemOsPost state event with sendCounter := sendCounter } =
      systemOsPost { state with sendCounter := sendCounter } event := by
  unfold systemOsPost
  split <;> rfl

end Post

section Outcome

/-- What is logged and posted when the node with this serial is sent. -/
inductive SendOutcome (serial : Nat) : List SendLog → CoreEvent → Prop where
  | accepted {packet : List UInt8} :
      SendOutcome serial [.attempt serial packet 0] (.sendJsonFinished .sendOk (some serial))
  | failed {packet : List UInt8} {ret : Int8} (failure : ret ≠ 0) :
      SendOutcome serial [.attempt serial packet ret] .sendJsonAgain
  | rejected {packet : List UInt8} {ret : Int8} {errorCode : IoTgoSendQueueStatu}
      (failure : ret ≠ 0) (error : errorCode ≠ .sendOk) :
      SendOutcome serial [.attempt serial packet ret] (.sendJsonFinished errorCode none)
  | unsent {errorCode : IoTgoSendQueueStatu} (error : errorCode ≠ .sendOk) :
      SendOutcome serial [] (.sendJsonFinished errorCode none)

theorem network_send_cases (espconnRet : Int8) (state : SendState) (serial : Nat)
    (dataToSend : List UInt8) :
    iotgoNetworkSendString espconnRet state serial dataToSend = (2, state) ∨
      ∃ packet, iotgoNetworkSendString espconnRet state serial dataToSend =
        (espconnRet, { state with log := state.log ++ [.attempt serial packet espconnRet] }) := by
  unfold iotgoNetworkSendString
  cases networkFrame dataToSend with
  | none => exact .inl rfl
  | some frame => exact .inr ⟨frame, rfl⟩

theorem send_json_outcome (espconnRet : Int8) {state : SendState} {node : QNode}
    {rest : List QNode} (front : state.queue.nodes = node :: rest) :
    ∃ entries event, SendOutcome node.serial entries event ∧
      iotgoPconnSendJson espconnRet state =
        some (systemOsPost { state with log := state.log ++ entries } event) := by
  have unlogged : { state with log := state.log ++ [] } = state := by
    rw [List.append_nil]
  rw [iotgoPconnSendJson, front]
  simp only [List.head?_cons, Option.map_some]
  cases node.data with
  | none =>
      refine ⟨[], .sendJsonFinished .wildPoint none, .unsent (by decide), ?_⟩
      rw [unlogged]
  | some data =>
      by_cases offline : state.mode ≠ .workNormal ∧ state.mode ≠ .workInit
      · refine ⟨[], .sendJsonFinished .networkAbnormal none, .unsent (by decide), ?_⟩
        rw [unlogged]
        simp only [if_pos offline]
      · simp only [if_neg offline]
        rcases network_send_cases espconnRet state node.serial data with long | ⟨packet, sent⟩
        · refine ⟨[], .sendJsonFinished .dataLengthOver none, .unsent (by decide), ?_⟩
          rw [unlogged, long]
          rfl
        · rw [sent]
          by_cases ok : espconnRet = 0
          · subst ok
            exact ⟨_, _, .accepted, rfl⟩
          · refine ⟨[.attempt node.serial packet espconnRet], ?_⟩
            simp only [if_neg ok]
            by_cases lock : espconnRet = 4
            · refine ⟨.sendJsonFinished .upgradeLock none, .rejected ok (by decide), ?_⟩
              rw [if_pos lock]
            · by_cases long : espconnRet = 2
              · refine ⟨.sendJsonFinished .dataLengthOver none, .rejected ok (by decide), ?_⟩
                rw [if_neg lock, if_pos long]
              · refine ⟨.sendJsonAgain, .failed ok, ?_⟩
                rw [if_neg lock, if_neg long]

theorem send_json_again_waits (state : SendState) (early : state.sendCounter < 3) :
    ∃ delay, iotgoPconnSendJsonAgain state =
      some
        { state with
          sendQueueTimer := some delay
          sendCounter := state.sendCounter + 1 } := by
  rw [iotgoPconnSendJsonAgain, if_neg (by omega)]
  exact ⟨_, rfl⟩

theorem send_json_again_ends (state : SendState) (last : 3 ≤ state.sendCounter)
    (nonempty : state.queue.nodes ≠ []) :
    iotgoPconnSendJsonAgain state =
        some
          (systemOsPost
            { state with
              queue := iotgoQueueDeleteAll state.queue
              sendQueueTimer := none
              sendCounter := 0 }
            (.other .registerErr)) ∨
      iotgoPconnSendJsonAgain state =
        some
          (systemOsPost { state with sendQueueTimer := none, sendCounter := 0 }
            (.sendJsonFinished .sendError none)) := by
  rcases List.exists_cons_of_ne_nil nonempty with ⟨node, rest, front⟩
  rw [iotgoPconnSendJsonAgain, if_pos last]
  simp only [iotgoQueueHeadType, front, List.head?_cons, Option.map_some]
  by_cases register : node.type = iotgoRegister
  · left
    rw [if_pos register, post_then_counter]
  · right
    rw [if_neg register, post_then_counter]

/-- The head goes, whatever the code; the code decides whether the next one is
sent for. -/
theorem send_next_json_cases {state : SendState} {node : QNode} {rest : List QNode}
    (front : state.queue.nodes = node :: rest) (errorCode : IoTgoSendQueueStatu)
    (earned : Option Nat) :
    ∃ next reply, iotgoPconnSendNextJson errorCode earned state =
        some { next with log := next.log ++ reply } ∧
      (reply = [] ∨ ∃ ok, reply = [.reply ok]) ∧
      ((continues errorCode = false ∨ rest = []) ∧ next =
          { state with
            queue := iotgoQueueDeleteHead state.queue
            sendCounter := 0
            log := state.log ++ [.finished node.serial errorCode earned] } ∨
        continues errorCode = true ∧ rest ≠ [] ∧ next =
          systemOsPost
            { state with
              queue := iotgoQueueDeleteHead state.queue
              sendCounter := 0
              log := state.log ++ [.finished node.serial errorCode earned] }
            .sendJson) := by
  have shorter : iotgoQueueLength (iotgoQueueDeleteHead state.queue) = rest.length := by
    rw [iotgoQueueLength, LinkQueue.length, delete_head_nodes, front]
    rfl
  have stops : ¬ (continues errorCode = true ∧ 0 < rest.length) →
      continues errorCode = false ∨ rest = [] := by
    intro stop
    by_cases goes : continues errorCode = true
    · right
      by_contra more
      exact stop ⟨goes, List.length_pos_iff.2 more⟩
    · exact .inl (by simpa using goes)
  rw [iotgoPconnSendNextJson, front]
  simp only [List.head?_cons, Option.map_some, shorter]
  split_ifs with mcu go go
  · have more : rest ≠ [] := List.length_pos_iff.1 go.2
    exact ⟨_, _, rfl, .inr ⟨_, rfl⟩, .inr ⟨go.1, more, rfl⟩⟩
  · exact ⟨_, _, rfl, .inr ⟨_, rfl⟩, .inl ⟨stops go, rfl⟩⟩
  · have more : rest ≠ [] := List.length_pos_iff.1 go.2
    refine ⟨_, [], ?_, .inl rfl, .inr ⟨go.1, more, rfl⟩⟩
    rw [List.append_nil]
  · refine ⟨_, [], ?_, .inl rfl, .inl ⟨stops go, rfl⟩⟩
    rw [List.append_nil]

end Outcome

end IotgoFirmware.Send.SendJson
