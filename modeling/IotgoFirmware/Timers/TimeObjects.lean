import IotgoFirmware.Core.PkgScan
import IotgoFirmware.Library.StepRuns
import IotgoFirmware.Timers.TimerJson
import IotgoFirmware.Timers.TimerMonitor

/-!
# The list of timer objects

`procOneTimer` of `FWSW_01.c` reads one timer of the JSON array and adds it to the list of
`iotgo_timer.c`, at which `timerMonitorCallback` looks every second. `jsonparse` stands for
the elements that it reports.
-/

namespace IotgoFirmware.Timers.TimeObjects

open IotgoFirmware.Core.PkgScan (jsonIoTgoGetString jsonIoTgoGetNumber)
open IotgoFirmware.Library.CFaults
open IotgoFirmware.Library.CStrings
open IotgoFirmware.Library.JsonDocuments
open IotgoFirmware.Library.StepRuns
open IotgoFirmware.Timers.TimerClock
open IotgoFirmware.Timers.TimerJson (parseGMTTimeFromString parseCronFromString gmtStringMinLength
  fieldValue)
open IotgoFirmware.Timers.TimerMonitor

set_option autoImplicit false

section Fields

/-- The local variables of `procOneTimer`; a field is set where its flag is. -/
structure TimerFields where
  enabled : Option Int
  type : Option (List UInt8)
  timerAt : Option (List UInt8)
  doSwitch : Option (List UInt8)
  startDo : Option (List UInt8)
  endDo : Option (List UInt8)

def TimerFields.initial : TimerFields := ⟨none, none, none, none, none, none⟩

/-- The fields that the loop waits for are there. -/
def TimerFields.complete (fields : TimerFields) : Bool :=
  fields.enabled.isSome && fields.type.isSome && fields.timerAt.isSome &&
    (fields.doSwitch.isSome || (fields.startDo.isSome && fields.endDo.isSome))

/-- The loop that runs: the one over the timer, or the one over one of its actions. -/
inductive ScanLoop where
  | timer
  | doSwitch
  | startDo
  | endDo

/-- The switch of an action has ten bytes. -/
def ScanLoop.store (loop : ScanLoop) (fields : TimerFields) (text : List UInt8) : TimerFields :=
  match loop with
  | .timer => fields
  | .doSwitch => { fields with doSwitch := some text }
  | .startDo => { fields with startDo := some text }
  | .endDo => { fields with endDo := some text }

def actionLoop (name : List UInt8) : Option ScanLoop :=
  if Matches name (asciiBytes "do") then some .doSwitch
  else if Matches name (asciiBytes "startDo") then some .startDo
  else if Matches name (asciiBytes "endDo") then some .endDo
  else none

/-- The loops of `procOneTimer`; `skip` elements are consumed already. -/
def scanTimer : ScanLoop → Nat → TimerFields → List JsonToken → TimerFields
  | _, _, fields, [] => fields
  | loop, skip + 1, fields, _ :: rest => scanTimer loop skip fields rest
  | .timer, 0, fields, token :: rest =>
      if fields.complete then fields
      else
        match token with
        | .arrayEnd => fields
        | .failed => fields
        | .pairName name =>
            if Matches name (asciiBytes "enabled") then
              match jsonIoTgoGetNumber rest with
              | some value => scanTimer .timer 2 { fields with enabled := some value } rest
              | none => fields
            else if Matches name (asciiBytes "type") then
              match jsonIoTgoGetString rest 10 with
              | some text => scanTimer .timer 2 { fields with type := some text } rest
              | none => fields
            else if Matches name (asciiBytes "at") then
              match jsonIoTgoGetString rest 50 with
              | some text => scanTimer .timer 2 { fields with timerAt := some text } rest
              | none => fields
            else
              match actionLoop name with
              | none => scanTimer .timer 0 fields rest
              | some loop =>
                  match rest with
                  | .pair :: .object :: _ => scanTimer loop 2 fields rest
                  | _ => scanTimer .timer 2 fields rest
        | _ => scanTimer .timer 0 fields rest
  | loop, 0, fields, token :: rest =>
      match token with
      | .objectEnd => scanTimer .timer 0 fields rest
      | .failed => scanTimer .timer 0 fields rest
      | .pairName name =>
          if Matches name (asciiBytes "switch") then
            match jsonIoTgoGetString rest 10 with
            | some text => scanTimer loop 2 (loop.store fields text) rest
            -- Only the loop over the action is left.
            | none => scanTimer .timer 2 fields rest
          else scanTimer loop 0 fields rest
      | _ => scanTimer loop 0 fields rest

/-- The copy for the GMT time, the interval and the duration, through a buffer of 30 bytes.
An interval of 0 is not refused here. -/
def parseFromATString (atStr : List UInt8) : Checked (Option (List UInt8 × UInt32 × UInt32)) :=
  if strlen atStr % 256 ≤ gmtStringMinLength then .ok none
  else
    match strstr atStr (asciiBytes " ") with
    | none => .ok none
    | some first =>
        if first = 0 then .ok none
        else do
          writeTo 30 first
          let gmt := atStr.take first
          let rest := atStr.drop (first + 1)
          match strstr rest (asciiBytes " ") with
          | none => do
              writeTo 30 (strlen rest)
              return some (gmt, UInt32.ofInt (atoi rest), 0)
          | some second => do
              writeTo 30 second
              writeTo 30 (strlen (rest.drop (second + 1)))
              return some (gmt, UInt32.ofInt (fieldValue rest 0 second),
                UInt32.ofInt (atoi (rest.drop (second + 1))))

end Fields

section Objects

/-- `IOTGO_DEVICE_TIMER_MAX`. -/
def iotgoDeviceTimerMax : Nat := 10

/-- `time_object_list`. -/
abbrev TimeObjectList := Fin iotgoDeviceTimerMax → IoTgoTimeObject

def addOneTimeObject (list : TimeObjectList) (timeObject : IoTgoTimeObject) : TimeObjectList :=
  match (List.finRange iotgoDeviceTimerMax).find? fun index => (list index).used = false with
  | some index => Function.update list index { timeObject with used := true }
  | none => list

/-- What a function that adds an object finds: the bytes of its local variable, the memory
behind the string, and whether there is memory for its copies. -/
structure Surroundings where
  timeObj : IoTgoTimeObject
  behind : List UInt8
  memory : Bool

variable (around : Surroundings) (list : TimeObjectList) (enabled : Bool)

def addTimeObjectByGMTString (gmtStr ptr : List UInt8) : TimeObjectList :=
  match parseGMTTimeFromString gmtStr with
  | none => list
  | some gmt =>
      if around.memory then
        addOneTimeObject list
          { around.timeObj with type := .gmt, gmt := gmt, ptr := some ptr, enabled := enabled }
      else list

def addTimeObjectByCronString (cronStr ptr : List UInt8) : Checked TimeObjectList := do
  match ← parseCronFromString (cronStr ++ 0 :: around.behind) with
  | none => return list
  | some cron =>
      if around.memory then
        return addOneTimeObject list
          { around.timeObj with type := .cron, cron := cron, ptr := some ptr, enabled := enabled }
      else return list

def addTimeObjectInterval (gmtStr : List UInt8) (interval : UInt32) (ptr : List UInt8) :
    TimeObjectList :=
  match parseGMTTimeFromString gmtStr with
  | none => list
  | some gmt =>
      if around.memory then
        addOneTimeObject list
          { around.timeObj with
            type := .interval, gmt := gmt, timeInterval := interval, ptr := some ptr,
            enabled := enabled, secondCount := 0, minuteCount := 0 }
      else list

def addTimeObjectIntervalDuration (gmtStr : List UInt8) (interval duration : UInt32)
    (ptr : List UInt8) : TimeObjectList :=
  if interval ≤ duration then list
  else
    match parseGMTTimeFromString gmtStr with
    | none => list
    | some gmt =>
        if around.memory then
          addOneTimeObject list
            { around.timeObj with
              type := .intervalDuration, gmt := gmt, timeInterval := interval,
              timeDuration := duration, ptr := some ptr, enabled := enabled, secondCount := 0,
              minuteCount := 0 }
        else list

def addTimeObjectDurationStartEnd (gmtStr : List UInt8) (interval duration : UInt32)
    (pStartDo pEndDo : List UInt8) : TimeObjectList :=
  if interval ≤ duration then list
  else
    match parseGMTTimeFromString gmtStr with
    | none => list
    | some gmt =>
        if around.memory then
          addOneTimeObject list
            { around.timeObj with
              type := .intervalDurationStartEnd, gmt := gmt, timeInterval := interval,
              timeDuration := duration, pStartDo := some pStartDo, pEndDo := some pEndDo,
              enabled := enabled, secondCount := 0, minuteCount := 0 }
        else list

def deleteAllTimeObject : TimeObjectList := fun index =>
  if (list index).used then deletedTimeObject else list index

/-- A timer of the type `duration`. The flags are those of the actions. -/
def procDuration (fields : TimerFields) (timerAt : List UInt8) :
    Checked (TimeObjectList × Option Bool) := do
  match ← parseFromATString timerAt with
  | none => return (list, some false)
  | some (gmt, interval, duration) =>
      if duration = 0 ∧ 0 < interval ∧ fields.doSwitch.isSome then
        return (addTimeObjectInterval around list enabled gmt interval
          (fields.doSwitch.getD []), some true)
      else if 0 < duration ∧ duration < interval then
        if fields.doSwitch.isSome then
          return (addTimeObjectIntervalDuration around list enabled gmt interval duration
            (fields.doSwitch.getD []), some true)
        else if fields.startDo.isSome ∧ fields.endDo.isSome then
          return (addTimeObjectDurationStartEnd around list enabled gmt interval duration
            (fields.startDo.getD []) (fields.endDo.getD []), some true)
        -- Nothing is returned here.
        else return (list, none)
      else return (list, some false)

/-- The list that is left, and the result, if one is returned. -/
def procOneTimer (tokens : List JsonToken) : Checked (TimeObjectList × Option Bool) :=
  let fields := scanTimer .timer 0 .initial tokens
  match fields.enabled, fields.type, fields.timerAt with
  | some timerEnabled, some type, some timerAt =>
      let enabled := decide (timerEnabled % 256 ≠ 0)
      if fields.doSwitch.isSome ∨ fields.startDo.isSome ∨ fields.endDo.isSome then
        if type = asciiBytes "once" then
          .ok (addTimeObjectByGMTString around list enabled timerAt (fields.doSwitch.getD []),
            some true)
        else if type = asciiBytes "repeat" then do
          return (← addTimeObjectByCronString around list enabled timerAt
            (fields.doSwitch.getD []), some true)
        else if type = asciiBytes "duration" then procDuration around list enabled fields timerAt
        else .ok (list, none)
      else .ok (deleteAllTimeObject list, some false)
  | _, _, _ => .ok (deleteAllTimeObject list, some false)

end Objects

section Monitor

variable (unset : Int) (now : IoTgoGMTTime)

/-- The loop of `timerMonitorCallback`, with the calls so far; `none` where a turn divides by
zero. -/
def monitorObjects :
    List (Fin iotgoDeviceTimerMax) → TimeObjectList → List Call →
      Option (TimeObjectList × List Call)
  | [], list, calls => some (list, calls)
  | index :: rest, list, calls =>
      match monitorObject unset now (list index) with
      | none => none
      | some (object, called) =>
          monitorObjects rest (Function.update list index object) (calls ++ called)

def timerMonitorCallback (list : TimeObjectList) : Option (TimeObjectList × List Call) :=
  monitorObjects unset now (List.finRange iotgoDeviceTimerMax) list []

end Monitor

section Runs

/-- The list as the program starts with it. -/
def noTimeObjects : TimeObjectList := fun _ => deletedTimeObject

inductive ObjectEvent where
  | procOneTimer (around : Surroundings) (tokens : List JsonToken)
  | monitor (unset : Int) (now : IoTgoGMTTime)
  | stopTimerMonitor

def ObjectStep (list : TimeObjectList) (event : ObjectEvent) (next : TimeObjectList) : Prop :=
  match event with
  | .procOneTimer around tokens =>
      ∃ result, procOneTimer around list tokens = .ok (next, result)
  | .monitor unset now => ∃ calls, timerMonitorCallback unset now list = some (next, calls)
  | .stopTimerMonitor => next = deleteAllTimeObject list

end Runs

end IotgoFirmware.Timers.TimeObjects
