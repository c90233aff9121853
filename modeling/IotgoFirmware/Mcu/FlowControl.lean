import IotgoFirmware.Library.CJsonItems
import IotgoFirmware.Library.StepRuns
import IotgoFirmware.Send.SendJson
import IotgoFirmware.Uart.U2artSchedule

/-!
# The requests of the MCU and their flow control

The MCU may have `tcreq_max` updates and queries forwarded to the server in one window;
`flowControl` counts the seconds and ends a window after `tcreq_period` minutes. The
server sets both numbers. Both counters have 16 bits, and the product they are compared
with is an `int`: a window of more than 1092 minutes never ends, and the counter of the
commands comes round to small numbers in a window of 65536 commands.
-/

namespace IotgoFirmware.Mcu.FlowControl

open IotgoFirmware.Library.CStrings
open IotgoFirmware.Library.CJsonItems
open IotgoFirmware.Library.StepRuns
open IotgoFirmware.Send.SendJson (IoTgoDeviceMode)
open IotgoFirmware.Uart.U2artSchedule (U2artError)

set_option autoImplicit false

section Requests

/-- `tcreq_couter`, `tcreq_period`, `tcreq_max` and the `couter` of `flowControl`. -/
structure TcFlow where
  tcreqCouter : UInt16
  tcreqPeriod : UInt16
  tcreqMax : UInt16
  couter : UInt16
deriving DecidableEq

/-- `TCREQ_PERIOD` and `TCREQ_MAX`. -/
def TcFlow.initial : TcFlow where
  tcreqCouter := 0
  tcreqPeriod := 1
  tcreqMax := 20
  couter := 0

/-- The product is an `int`. -/
def TcFlow.windowEnds (flow : TcFlow) : Bool :=
  decide (flow.tcreqPeriod.toNat * 60 ≤ (flow.couter + 1).toNat)

def flowControl (flow : TcFlow) : TcFlow :=
  if flow.windowEnds then { flow with tcreqCouter := 0, couter := 0 }
  else { flow with couter := flow.couter + 1 }

structure IotgoDevice where
  ownerUuid : List UInt8
  deviceid : List UInt8

/-- What a handler meets: the device mode, whether there is memory for the package, and the
results of sending it and of telling the MCU. -/
structure CmdBoard where
  mode : IoTgoDeviceMode
  created : Bool
  sendIoTgoPkg : Int8
  cmdSendDataToMcu : Bool

/-- A command of three elements, the second a number and the third of the type `params`. -/
def requestArgs (params : CJsonType) (root : CJsonItem) : Option (Int × CJsonItem) :=
  if root.type = .array ∧ cJSONGetArraySize root = 3 then
    match cJSONGetArrayItem root 1, cJSONGetArrayItem root 2 with
    | some sequence, some cjsonParams =>
        if sequence.type = .number ∧ cjsonParams.type = params then
          some (sequence.valueint, cjsonParams)
        else none
    | _, _ => none
  else none

def requestPackage (device : IotgoDevice) (action : List UInt8) (sequence : Int)
    (params : CJsonItem) : CJsonItem :=
  .object [(asciiBytes "userAgent", .string (asciiBytes "device")),
    (asciiBytes "apikey", .string device.ownerUuid),
    (asciiBytes "deviceid", .string device.deviceid),
    (asciiBytes "d_seq", .number sequence sequence),
    (asciiBytes "action", .string action),
    (asciiBytes "params", params)]

/-- What a handler returns; `package` went to `sendIoTgoPkg`, and `ret` says that it told the
MCU `["ret",0]`. -/
structure RequestResult where
  answer : U2artError
  flow : TcFlow
  package : Option CJsonItem
  ret : Bool

/-- The body of `processUpdateCmd` and `processQueryCmd`. The command is counted before it is
looked at. -/
def processRequest (params : CJsonType) (action : String) (device : IotgoDevice) (flow : TcFlow)
    (root : Option CJsonItem) (board : CmdBoard) : RequestResult :=
  let counted := { flow with tcreqCouter := flow.tcreqCouter + 1 }
  if counted.tcreqMax < counted.tcreqCouter then ⟨.busyError, counted, none, false⟩
  else
    match root.bind (requestArgs params) with
    | none => ⟨.invalidParams, counted, none, false⟩
    | some (sequence, cjsonParams) =>
        if board.mode ≠ .workNormal then ⟨.networkError, counted, none, false⟩
        else if !board.created then ⟨.insideError, counted, none, false⟩
        else
          let package := requestPackage device (asciiBytes action) sequence cjsonParams
          if board.sendIoTgoPkg = 0 then
            if board.cmdSendDataToMcu then ⟨.success, counted, some package, true⟩
            else ⟨.insideError, counted, some package, false⟩
          else ⟨.insideError, counted, some package, false⟩

def processUpdateCmd : IotgoDevice → TcFlow → Option CJsonItem → CmdBoard → RequestResult :=
  processRequest .object "update"

def processQueryCmd : IotgoDevice → TcFlow → Option CJsonItem → CmdBoard → RequestResult :=
  processRequest .array "query"

/-- Each name that contains `zyx_` deletes the first child that is named so; only an object
passes. -/
def deleteField (root : CJsonItem) : Bool × CJsonItem :=
  match root with
  | .object children =>
      (true, (children.map Prod.fst).foldl (fun kept name =>
        if (strstr name (asciiBytes "zyx_")).isSome then cJSONDeleteItemFromObject kept name
        else kept) root)
  | other => (false, other)

/-- The number at a name of `devConfig`, if it is one, and the rest of `devConfig`. -/
def takeNumber (devconfig : CJsonItem) (name : List UInt8) : Option Int × CJsonItem :=
  match cJSONGetObjectItem devconfig name with
  | some item =>
      (if item.type = .number then some item.valueint else none,
        cJSONDeleteItemFromObject devconfig name)
  | none => (none, devconfig)

/-- The body of `sendDevConfigInRegister` and `sendDevConfigInNotify`, with the member of the
package that has the `devConfig`, and what is left of it for the MCU. Storing a number keeps
its low 16 bits. -/
def sendDevConfig (holder : String) (flow : TcFlow) (root : Option CJsonItem) :
    TcFlow × Option CJsonItem :=
  match root.bind fun item => (cJSONGetObjectItem item (asciiBytes holder)).bind fun config =>
      cJSONGetObjectItem config (asciiBytes "devConfig") with
  | none => (flow, none)
  | some devconfig =>
      let period := takeNumber devconfig (asciiBytes "tcReqPeriod")
      let max := takeNumber period.2 (asciiBytes "tcReqMax")
      let left := deleteField max.2
      ({ flow with
          tcreqPeriod := (period.1.map UInt16.ofInt).getD flow.tcreqPeriod
          tcreqMax := (max.1.map UInt16.ofInt).getD flow.tcreqMax },
        if left.1 then some left.2 else none)

def sendDevConfigInRegister : TcFlow → Option CJsonItem → TcFlow × Option CJsonItem :=
  sendDevConfig "config"

def sendDevConfigInNotify : TcFlow → Option CJsonItem → TcFlow × Option CJsonItem :=
  sendDevConfig "params"

end Requests

section Machine

inductive FlowEvent where
  | tick
  | update (root : Option CJsonItem) (board : CmdBoard)
  | query (root : Option CJsonItem) (board : CmdBoard)
  | register (root : Option CJsonItem)
  | notify (root : Option CJsonItem)

/-- Since the last reset: the seconds, the second in which the period was last changed, the
commands, and those of them that were forwarded; not in the source. -/
structure FlowWindow where
  ticks : Nat
  changed : Nat
  commands : Nat
  forwarded : Nat

def FlowWindow.empty : FlowWindow where
  ticks := 0
  changed := 0
  commands := 0
  forwarded := 0

/-- How long a window is to be: `tcreq_period * 60` seconds, or, where it was longer already
when the period was changed, until the next second. -/
def FlowWindow.due (window : FlowWindow) (period : UInt16) : Nat :=
  max (period.toNat * 60) (window.changed + 1)

/-- `ended` has the length of every window that has ended and the length it was to have;
`admitted` has, for every forwarded command, the number it has among those of its window, and
the `tcreq_max` of that time. -/
structure Tracked where
  flow : TcFlow
  window : FlowWindow
  ended : List (Nat × Nat)
  admitted : List (Nat × Nat)

def Tracked.initial : Tracked where
  flow := .initial
  window := .empty
  ended := []
  admitted := []

def afterTick (tracked : Tracked) : Tracked :=
  let flow := flowControl tracked.flow
  let ticks := tracked.window.ticks + 1
  if tracked.flow.windowEnds then
    { tracked with
      flow := flow
      window := .empty
      ended := tracked.ended ++ [(ticks, tracked.window.due tracked.flow.tcreqPeriod)] }
  else { tracked with flow := flow, window := { tracked.window with ticks := ticks } }

/-- A command is forwarded where `sendIoTgoPkg` takes its package. -/
def afterCommand (tracked : Tracked) (board : CmdBoard) (result : RequestResult) : Tracked :=
  let window := { tracked.window with commands := tracked.window.commands + 1 }
  if result.package.isSome ∧ board.sendIoTgoPkg = 0 then
    { tracked with
      flow := result.flow
      window := { window with forwarded := window.forwarded + 1 }
      admitted := tracked.admitted ++ [(window.forwarded + 1, result.flow.tcreqMax.toNat)] }
  else { tracked with flow := result.flow, window := window }

def afterConfig (tracked : Tracked) (flow : TcFlow) : Tracked :=
  if flow.tcreqPeriod = tracked.flow.tcreqPeriod then { tracked with flow := flow }
  else
    { tracked with
      flow := flow
      window := { tracked.window with changed := tracked.window.ticks } }

def after (device : IotgoDevice) (tracked : Tracked) : FlowEvent → Tracked
  | .tick => afterTick tracked
  | .update root board =>
      afterCommand tracked board (processUpdateCmd device tracked.flow root board)
  | .query root board =>
      afterCommand tracked board (processQueryCmd device tracked.flow root board)
  | .register root => afterConfig tracked (sendDevConfigInRegister tracked.flow root).1
  | .notify root => afterConfig tracked (sendDevConfigInNotify tracked.flow root).1

def Step (device : IotgoDevice) (tracked : Tracked) (event : FlowEvent) (next : Tracked) : Prop :=
  after device tracked event = next

end Machine

section Law

/-- Every window that has ended lasted as long as it was to, the present one has not lasted too
long, and no command was forwarded beyond the `tcreq_max` of its window. -/
structure Lawful (tracked : Tracked) : Prop where
  ended : ∀ window ∈ tracked.ended, window.1 = window.2
  running : tracked.window.ticks < tracked.window.due tracked.flow.tcreqPeriod
  admitted : ∀ command ∈ tracked.admitted, command.1 ≤ command.2

/-- The command is forwarded if the flow control lets it pass. -/
def Forwardable (params : CJsonType) (root : Option CJsonItem) (board : CmdBoard) : Prop :=
  (root.bind (requestArgs params)).isSome = true ∧ board.mode = .workNormal ∧
    board.created = true ∧ board.sendIoTgoPkg = 0

/-- A command that would be forwarded comes among the first 65535 of its window, or fewer than
`tcreq_max` were forwarded in it, or the number of the command, in 16 bits, is above
`tcreq_max`. -/
def CommandWithin (tracked : Tracked) (params : CJsonType) (root : Option CJsonItem)
    (board : CmdBoard) : Prop :=
  Forwardable params root board →
    tracked.window.commands + 1 < 65536 ∨
      tracked.window.forwarded < tracked.flow.tcreqMax.toNat ∨
      tracked.flow.tcreqMax.toNat < (tracked.window.commands + 1) % 65536

/-- A second that is to end a window comes before its 65536th, or its number, in 16 bits, is
again `tcreq_period * 60` or more. -/
def TickWithin (tracked : Tracked) : Prop :=
  tracked.window.ticks + 1 = tracked.window.due tracked.flow.tcreqPeriod →
    tracked.window.ticks + 1 < 65536 ∨
      tracked.flow.tcreqPeriod.toNat * 60 ≤ (tracked.window.ticks + 1) % 65536

def Within (tracked : Tracked) : FlowEvent → Prop
  | .tick => TickWithin tracked
  | .update root board => CommandWithin tracked .object root board
  | .query root board => CommandWithin tracked .array root board
  | .register _ => True
  | .notify _ => True

/-- The counters have the low 16 bits of the numbers they count. -/
structure Counted (tracked : Tracked) : Prop where
  couter : tracked.flow.couter.toNat = tracked.window.ticks % 65536
  commands : tracked.flow.tcreqCouter.toNat = tracked.window.commands % 65536
  forwarded : tracked.window.forwarded ≤ tracked.window.commands
  changed : tracked.window.changed ≤ tracked.window.ticks

theorem next_counter {counter : UInt16} {number : Nat} (counted : counter.toNat = number % 65536) :
    (counter + 1).toNat = (number + 1) % 65536 := by
  rw [UInt16.toNat_add, counted]
  simp

variable {tracked : Tracked}

theorem window_ends_iff (counted : Counted tracked) :
    tracked.flow.windowEnds = true ↔
      tracked.flow.tcreqPeriod.toNat * 60 ≤ (tracked.window.ticks + 1) % 65536 := by
  rw [TcFlow.windowEnds, decide_eq_true_iff, next_counter counted.couter]

theorem counted_tick (counted : Counted tracked) : Counted (afterTick tracked) := by
  unfold afterTick flowControl
  cases tracked.flow.windowEnds with
  | true => exact ⟨rfl, rfl, Nat.le_refl 0, Nat.le_refl 0⟩
  | false =>
      refine ⟨next_counter counted.couter, counted.commands, counted.forwarded, ?_⟩
      exact Nat.le_succ_of_le counted.changed

theorem due_of_ending (counted : Counted tracked) (lawful : Lawful tracked)
    (ending : tracked.flow.windowEnds = true) :
    tracked.window.ticks + 1 = tracked.window.due tracked.flow.tcreqPeriod := by
  have reached := (window_ends_iff counted).1 ending
  have running := lawful.running
  have changed := counted.changed
  unfold FlowWindow.due at running ⊢
  omega

theorem lawful_tick_iff (counted : Counted tracked) (lawful : Lawful tracked) :
    Lawful (afterTick tracked) ↔ TickWithin tracked := by
  have ends := window_ends_iff counted
  have running := lawful.running
  cases ending : tracked.flow.windowEnds with
  | true =>
      have due := due_of_ending counted lawful ending
      have reached := ends.1 ending
      refine iff_of_true ⟨?_, ?_, ?_⟩ fun _ => .inr reached
      · unfold afterTick
        rw [if_pos ending]
        intro window member
        rcases List.mem_append.1 member with before | last
        · exact lawful.ended window before
        · rw [List.mem_singleton.1 last]
          exact due
      · unfold afterTick
        rw [if_pos ending]
        exact Nat.lt_of_lt_of_le Nat.one_pos (Nat.le_max_right _ _)
      · unfold afterTick
        rw [if_pos ending]
        exact lawful.admitted
  | false =>
      have small : ¬ tracked.flow.tcreqPeriod.toNat * 60 ≤ (tracked.window.ticks + 1) % 65536 := by
        rw [← ends, ending]
        exact Bool.false_ne_true
      have same : Lawful (afterTick tracked) ↔
          tracked.window.ticks + 1 < tracked.window.due tracked.flow.tcreqPeriod := by
        unfold afterTick flowControl
        rw [ending]
        exact ⟨fun kept => kept.running, fun more => ⟨lawful.ended, more, lawful.admitted⟩⟩
      rw [same]
      unfold TickWithin
      constructor
      · intro more due
        omega
      · intro within
        by_contra beyond
        have due : tracked.window.ticks + 1 =
            tracked.window.due tracked.flow.tcreqPeriod := by omega
        rcases within due with early | again
        · have long : tracked.flow.tcreqPeriod.toNat * 60 ≤ tracked.window.ticks + 1 := by
            rw [due]
            exact Nat.le_max_left _ _
          omega
        · exact small again

section Commands

variable {params : CJsonType} {action : String} {device : IotgoDevice} {flow : TcFlow}
  {root : Option CJsonItem} {board : CmdBoard}

@[simp] theorem request_flow :
    (processRequest params action device flow root board).flow =
      { flow with tcreqCouter := flow.tcreqCouter + 1 } := by
  unfold processRequest
  dsimp only
  repeat' split
  all_goals rfl

theorem request_package_iff (params : CJsonType) (action : String) (device : IotgoDevice)
    (flow : TcFlow) (root : Option CJsonItem) (board : CmdBoard) :
    ((processRequest params action device flow root board).package.isSome = true ∧
        board.sendIoTgoPkg = 0) ↔
      Forwardable params root board ∧ flow.tcreqCouter + 1 ≤ flow.tcreqMax := by
  unfold processRequest Forwardable
  by_cases busy : flow.tcreqMax < flow.tcreqCouter + 1
  · simp [busy]
  · cases found : root.bind (requestArgs params) with
    | none => simp [busy]
    | some args =>
        have passed : flow.tcreqCouter + 1 ≤ flow.tcreqMax := UInt16.not_lt.1 busy
        cases board.cmdSendDataToMcu <;> by_cases normal : board.mode = .workNormal <;>
          cases board.created <;> by_cases sent : board.sendIoTgoPkg = 0 <;>
          simp [busy, normal, sent, passed]

theorem counted_command (counted : Counted tracked) :
    Counted (afterCommand tracked board
      (processRequest params action device tracked.flow root board)) := by
  have number := next_counter counted.commands
  have fewer := counted.forwarded
  unfold afterCommand
  split
  · refine ⟨?_, ?_, Nat.succ_le_succ fewer, counted.changed⟩
    · rw [request_flow]
      exact counted.couter
    · rw [request_flow]
      exact number
  · refine ⟨?_, ?_, Nat.le_succ_of_le fewer, counted.changed⟩
    · rw [request_flow]
      exact counted.couter
    · rw [request_flow]
      exact number

theorem lawful_command_iff (counted : Counted tracked) (lawful : Lawful tracked) :
    Lawful (afterCommand tracked board
        (processRequest params action device tracked.flow root board)) ↔
      CommandWithin tracked params root board := by
  have number := next_counter counted.commands
  have fewer := counted.forwarded
  have passes : tracked.flow.tcreqCouter + 1 ≤ tracked.flow.tcreqMax ↔
      (tracked.window.commands + 1) % 65536 ≤ tracked.flow.tcreqMax.toNat := by
    rw [UInt16.le_iff_toNat_le, number]
  have sends := request_package_iff params action device tracked.flow root board
  by_cases sent : (processRequest params action device tracked.flow root board).package.isSome =
      true ∧ board.sendIoTgoPkg = 0
  · obtain ⟨forwardable, passed⟩ := sends.1 sent
    have small := passes.1 passed
    have same : Lawful (afterCommand tracked board
        (processRequest params action device tracked.flow root board)) ↔
        tracked.window.forwarded + 1 ≤ tracked.flow.tcreqMax.toNat := by
      unfold afterCommand
      rw [if_pos sent, request_flow]
      constructor
      · intro kept
        exact kept.admitted _ (List.mem_append_right _ List.mem_cons_self)
      · intro few
        refine ⟨lawful.ended, lawful.running, ?_⟩
        intro command member
        rcases List.mem_append.1 member with before | last
        · exact lawful.admitted command before
        · rw [List.mem_singleton.1 last]
          exact few
    rw [same]
    unfold CommandWithin
    rw [imp_iff_right forwardable]
    omega
  · have within : CommandWithin tracked params root board := by
      intro forwardable
      have stopped : ¬ tracked.flow.tcreqCouter + 1 ≤ tracked.flow.tcreqMax :=
        fun passed => sent (sends.2 ⟨forwardable, passed⟩)
      rw [passes] at stopped
      exact .inr (.inr (Nat.lt_of_not_le stopped))
    refine iff_of_true ?_ within
    unfold afterCommand
    rw [if_neg sent, request_flow]
    exact ⟨lawful.ended, lawful.running, lawful.admitted⟩

end Commands

section Config

variable {flow : TcFlow}

theorem config_flow (holder : String) (flow : TcFlow) (root : Option CJsonItem) :
    (sendDevConfig holder flow root).1.couter = flow.couter ∧
      (sendDevConfig holder flow root).1.tcreqCouter = flow.tcreqCouter := by
  unfold sendDevConfig
  split <;> exact ⟨rfl, rfl⟩

theorem counted_config (counted : Counted tracked)
    (same : flow.couter = tracked.flow.couter ∧ flow.tcreqCouter = tracked.flow.tcreqCouter) :
    Counted (afterConfig tracked flow) := by
  unfold afterConfig
  split
  · refine ⟨?_, ?_, counted.forwarded, counted.changed⟩
    · rw [same.1]
      exact counted.couter
    · rw [same.2]
      exact counted.commands
  · refine ⟨?_, ?_, counted.forwarded, Nat.le_refl _⟩
    · rw [same.1]
      exact counted.couter
    · rw [same.2]
      exact counted.commands

theorem lawful_config (lawful : Lawful tracked) (flow : TcFlow) :
    Lawful (afterConfig tracked flow) := by
  unfold afterConfig
  split
  · rename_i same
    refine ⟨lawful.ended, ?_, lawful.admitted⟩
    rw [same]
    exact lawful.running
  · refine ⟨lawful.ended, ?_, lawful.admitted⟩
    exact Nat.lt_of_lt_of_le (Nat.lt_succ_self _) (Nat.le_max_right _ _)

end Config

variable (device : IotgoDevice)

theorem counted_after (counted : Counted tracked) (event : FlowEvent) :
    Counted (after device tracked event) := by
  cases event with
  | tick => exact counted_tick counted
  | update root board => exact counted_command counted
  | query root board => exact counted_command counted
  | register root => exact counted_config counted (config_flow _ _ _)
  | notify root => exact counted_config counted (config_flow _ _ _)

theorem lawful_after_iff (counted : Counted tracked) (lawful : Lawful tracked)
    (event : FlowEvent) : Lawful (after device tracked event) ↔ Within tracked event := by
  cases event with
  | tick => exact lawful_tick_iff counted lawful
  | update root board => exact lawful_command_iff counted lawful
  | query root board => exact lawful_command_iff counted lawful
  | register root => exact iff_of_true (lawful_config lawful _) trivial
  | notify root => exact iff_of_true (lawful_config lawful _) trivial

theorem counted_initial : Counted .initial :=
  ⟨rfl, rfl, Nat.le_refl 0, Nat.le_refl 0⟩

theorem lawful_initial : Lawful .initial where
  ended := fun window member => absurd member List.not_mem_nil
  running := by decide
  admitted := fun command member => absurd member List.not_mem_nil

/-- Every window lasts as long as it is to, and has no more than `tcreq_max` commands forwarded,
exactly in the runs in which the 16 bits of the counters are enough. -/
theorem windows_lawful_iff (events : List FlowEvent) :
    Keeps (Step device) Lawful .initial events ↔ Meets (Step device) Within .initial events := by
  refine keeps_iff_meets Counted ?_ ?_ counted_initial lawful_initial
  · rintro tracked event next counted rfl
    exact counted_after device counted event
  · intro tracked event counted lawful
    rw [← lawful_after_iff device counted lawful event]
    constructor
    · intro kept
      exact kept _ rfl
    · rintro kept next rfl
      exact kept

end Law

section Examples

/-- The response to the registration, with a `tcReqPeriod`. -/
def configPackage (period : Nat) : CJsonItem :=
  .object [(asciiBytes "config", .object [(asciiBytes "devConfig",
    .object [(asciiBytes "tcReqPeriod", .number period period)])])]

variable {tracked : Tracked}

theorem long_window (long : 65536 ≤ tracked.flow.tcreqPeriod.toNat * 60) :
    tracked.flow.windowEnds = false := by
  rw [TcFlow.windowEnds, decide_eq_false_iff_not, Nat.not_le]
  exact Nat.lt_of_lt_of_le (UInt16.toNat_lt _) long

theorem long_window_runs (device : IotgoDevice) (tracked : Tracked) (ticks : Nat)
    (long : 65536 ≤ tracked.flow.tcreqPeriod.toNat * 60)
    (kept : Keeps (Step device) Lawful tracked (List.replicate ticks .tick)) :
    tracked.window.ticks + ticks < tracked.window.due tracked.flow.tcreqPeriod := by
  induction ticks generalizing tracked with
  | zero => exact (keeps_first kept).running
  | succ ticks ih =>
      have next : afterTick tracked =
          { tracked with
            flow := { tracked.flow with couter := tracked.flow.couter + 1 }
            window := { tracked.window with ticks := tracked.window.ticks + 1 } } := by
        unfold afterTick flowControl
        rw [long_window long]
        rfl
      have fewer := ih (afterTick tracked) (by rw [next]; exact long) (kept.2 _ rfl)
      rw [next] at fewer
      rw [Nat.add_comm ticks 1, ← Nat.add_assoc]
      exact fewer

def exampleDevice : IotgoDevice where
  ownerUuid := asciiBytes "owner-1"
  deviceid := asciiBytes "1000000001"

/-- A period of 1093 minutes is 65580 seconds; the window does not end with them. -/
theorem long_period_never_ends :
    ¬ Keeps (Step exampleDevice) Lawful .initial
      (.register (some (configPackage 1093)) :: List.replicate (1093 * 60) .tick) := by
  intro kept
  have later := kept.2 _ rfl
  have long : 65536 ≤ (after exampleDevice .initial
      (.register (some (configPackage 1093)))).flow.tcreqPeriod.toNat * 60 := by decide
  have beyond := long_window_runs exampleDevice _ (1093 * 60) long later
  revert beyond
  decide +kernel

end Examples

end IotgoFirmware.Mcu.FlowControl
