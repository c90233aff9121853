import Mathlib.Data.Fintype.Basic
import IotgoFirmware.Library.ByteCodecs

/-!
# Timers and their layout in flash

The structs of `iotgo_loctimer.c`, and how `iotgoTimerFlashParam` lies in memory. The
members of the unions `timing` and `time_action` are read from their bytes.
-/

namespace IotgoFirmware.Timers.TimerLayout

open IotgoFirmware.Library.ByteCodecs

set_option autoImplicit false

/-- `IOTGO_TIMER_NUM`. -/
def iotgoTimerNum : Nat := 8

/-- `IOTGO_TIMER_MAX_NUM`. -/
def iotgoTimerMaxNum : Nat := 30

/-- The timers that one sector takes. -/
def halfMaxNum : Nat := (iotgoTimerMaxNum - 1) / 2 + 1

inductive IoTgoTimerType where
  | invalid
  | once
  | repeat
  | duration
deriving DecidableEq

def IoTgoTimerType.toWord : IoTgoTimerType → UInt32
  | .invalid => 0
  | .once => 1
  | .repeat => 2
  | .duration => 3

def IoTgoTimerType.ofWord (word : UInt32) : IoTgoTimerType :=
  if word = 1 then .once
  else if word = 2 then .repeat
  else if word = 3 then .duration
  else .invalid

/-- `bool` is an `unsigned char`. -/
structure IotgoTimer where
  timeInterval : UInt32
  timeDuration : UInt32
  id : UInt8
  enabled : UInt8
  type : IoTgoTimerType
  timing : Fin 10 → UInt8
  timeAction : Fin 200 → UInt8
  timerAt : Fin 30 → UInt8
deriving DecidableEq

def IotgoTimer.zero : IotgoTimer where
  timeInterval := 0
  timeDuration := 0
  id := 0
  enabled := 0
  type := .invalid
  timing _ := 0
  timeAction _ := 0
  timerAt _ := 0

structure IotgoTimerInfo where
  timerVer : UInt32
  timerCnt : UInt8
deriving DecidableEq

/-- `iotgo_timer_info`, `iotgo_timer_id` and `iotgo_timer`. -/
structure TimerTable where
  timerInfo : IotgoTimerInfo
  timerId : Fin iotgoTimerNum → UInt8
  timer : Fin iotgoTimerNum → IotgoTimer
deriving DecidableEq

/-- The tables as the program starts with them. -/
def TimerTable.zero : TimerTable where
  timerInfo := { timerVer := 0, timerCnt := 0 }
  timerId _ := 0
  timer _ := .zero

structure IotgoTimerFlashParam where
  timerNum : UInt32
  timer : Fin halfMaxNum → IotgoTimer
  timerInfo : IotgoTimerInfo
  timerId : Fin iotgoTimerMaxNum → UInt8

section Layout

open ByteCodec

theorem timer_type_of_word (type : IoTgoTimerType) :
    IoTgoTimerType.ofWord type.toWord = type := by
  cases type <;> rfl

def timerTypeLayout : ByteCodec IoTgoTimerType :=
  word.named IoTgoTimerType.toWord IoTgoTimerType.ofWord timer_type_of_word

/-- Two bytes of padding stand before `type`. -/
def timerLayout : ByteCodec IotgoTimer :=
  (pair word (pair word (pair byte (pair (byte.padded 2) (pair timerTypeLayout
    (pair (array byte 10) (pair (array byte 200) (array byte 30)))))))).named
    (fun timer => (timer.timeInterval, timer.timeDuration, timer.id, timer.enabled, timer.type,
      timer.timing, timer.timeAction, timer.timerAt))
    (fun (timeInterval, timeDuration, id, enabled, type, timing, timeAction, timerAt) =>
      { timeInterval, timeDuration, id, enabled, type, timing, timeAction, timerAt })
    (fun _ => rfl)

def timerInfoLayout : ByteCodec IotgoTimerInfo :=
  (pair word (byte.padded 3)).named (fun info => (info.timerVer, info.timerCnt))
    (fun (timerVer, timerCnt) => { timerVer, timerCnt }) (fun _ => rfl)

def flashParamLayout : ByteCodec IotgoTimerFlashParam :=
  ((pair word (pair (timerLayout.array halfMaxNum) (pair timerInfoLayout
    (byte.array iotgoTimerMaxNum)))).padded 2).named
    (fun param => (param.timerNum, param.timer, param.timerInfo, param.timerId))
    (fun (timerNum, timer, timerInfo, timerId) => { timerNum, timer, timerInfo, timerId })
    (fun _ => rfl)

theorem timer_layout_width : timerLayout.width = 256 := rfl

theorem flash_param_layout_width : flashParamLayout.width = 3884 := rfl

end Layout

/-- The timers in the first sector, and those that are left for the second one. -/
def firstCount : Nat :=
  if halfMaxNum < iotgoTimerNum then halfMaxNum else iotgoTimerNum

def secondCount : Nat :=
  if halfMaxNum < iotgoTimerNum then iotgoTimerNum - halfMaxNum else 0

/-- The block that `timerSaveToFlash` writes with `count` timers; zero bytes lie behind
them and behind the ids. -/
def TimerTable.toParam (table : TimerTable) (first count : Nat) : IotgoTimerFlashParam where
  timerNum := UInt32.ofNat iotgoTimerNum
  timer index :=
    if inside : index < count ∧ first + index < iotgoTimerNum then
      table.timer ⟨first + index, inside.2⟩
    else .zero
  timerInfo := table.timerInfo
  timerId index :=
    if inside : index < iotgoTimerNum then table.timerId ⟨index, inside⟩ else 0

/-- What `timerLoadFromFlash` copies from the two blocks. -/
def TimerTable.ofParams (param rest : IotgoTimerFlashParam) : TimerTable where
  timerInfo := param.timerInfo
  timerId slot := param.timerId ⟨slot, Nat.lt_trans slot.isLt (by decide)⟩
  timer slot :=
    if slot < firstCount then param.timer ⟨slot, Nat.lt_trans slot.isLt (by decide)⟩
    else rest.timer ⟨slot - halfMaxNum,
      Nat.lt_of_le_of_lt (Nat.sub_le _ _) (Nat.lt_trans slot.isLt (by decide))⟩

theorem table_of_params (table : TimerTable) (rest : IotgoTimerFlashParam) :
    TimerTable.ofParams (table.toParam 0 firstCount) rest = table := by
  have ids : ∀ slot : Fin iotgoTimerNum,
      (TimerTable.ofParams (table.toParam 0 firstCount) rest).timerId slot = table.timerId slot :=
    fun slot => dif_pos slot.isLt
  have timers : ∀ slot : Fin iotgoTimerNum,
      (TimerTable.ofParams (table.toParam 0 firstCount) rest).timer slot = table.timer slot := by
    intro slot
    have first : slot.val < firstCount := slot.isLt
    have inside : slot.val < firstCount ∧ 0 + slot.val < iotgoTimerNum :=
      ⟨first, (Nat.zero_add slot.val).symm ▸ slot.isLt⟩
    simp only [TimerTable.ofParams, TimerTable.toParam, if_pos first, dif_pos inside]
    congr 1
    exact Fin.ext (Nat.zero_add slot.val)
  calc
    TimerTable.ofParams (table.toParam 0 firstCount) rest =
        { timerInfo := table.timerInfo
          timerId := (TimerTable.ofParams (table.toParam 0 firstCount) rest).timerId
          timer := (TimerTable.ofParams (table.toParam 0 firstCount) rest).timer } := rfl
    _ = table := by rw [funext ids, funext timers]

end IotgoFirmware.Timers.TimerLayout
