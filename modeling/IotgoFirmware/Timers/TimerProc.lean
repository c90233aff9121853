import IotgoFirmware.Timers.TimerJson
import IotgoFirmware.Timers.TimerMap

/-!
# Requests to the timers as JSON

`timerProcUpdate` and `timerProcQuery` of `iotgo_loctimer.c`, for requests of the app
and of the MCU alike: which of them gets the reply is the only difference. A request
may read the tables beyond their end; what lies there is a parameter.
-/

namespace IotgoFirmware.Timers.TimerProc

open IotgoFirmware.Library.CFaults
open IotgoFirmware.Library.CJsonItems
open IotgoFirmware.Library.CStrings
open IotgoFirmware.Timers.TimerClock
open IotgoFirmware.Timers.TimerFlash
open IotgoFirmware.Timers.TimerJson
open IotgoFirmware.Timers.TimerLayout
open IotgoFirmware.Timers.TimerMap
open IotgoFirmware.Timers.TimerRequests

set_option autoImplicit false

/-- cJSON, what `os_malloc` grants the flash functions, and the memory around: `behind` is
what lies behind the `at` of the timer with an index in its array, `stray` the byte at
`iotgo_timer_id[id - 1]` and `strayTimer` the timer at `iotgo_timer[id - 1]` for an id
beyond the tables. -/
structure TimerWorld where
  memory : BlockMemory
  parse : List UInt8 → Option CJsonItem
  print : CJsonItem → List UInt8
  behind : Nat → List UInt8
  stray : UInt8 → UInt8
  strayTimer : UInt8 → IotgoTimer

inductive ManagerReply where
  | update (reply : TimerReply)
  | timerInfo (info : IotgoTimerInfo)
  | timers (info : IotgoTimerInfo) (timers : List CJsonItem)

variable (world : TimerWorld) (state : TimerState)

section Update

/-- An id beyond the tables is refused like 0, unless the byte there is the id. -/
def lookedUp (id : UInt8) : UInt8 :=
  if id.toNat ≤ iotgoTimerNum ∨ world.stray id = id then id else 0

def lookedUpRequest : TimerRequest → TimerRequest
  | .edit timers => .edit (timers.map fun timer => { timer with id := lookedUp world timer.id })
  | .del ids => .del (ids.map (lookedUp world))
  | .enable ids => .enable (ids.map (lookedUp world))
  | .disable ids => .disable (ids.map (lookedUp world))
  | request => request

/-- `timerNew` and the others; a byte or a timer beyond the tables is not written. -/
def execute (request : TimerRequest) : Checked (TimerState × TimerReply) :=
  match timerRequest world.memory state (lookedUpRequest world request) with
  | none => .error .outside
  | some done => .ok done

def procError : Checked (TimerState × TimerReply) :=
  .ok (state, .update .error500)

/-- `array_num` has eight bits. -/
def arrayItems (array : CJsonItem) : List CJsonItem :=
  array.child.take (cJSONGetArraySize array % 256)

/-- The loop of `procNew` and `procEdit` from an index on; `none` where a timer is
refused. -/
def generateTimers : Nat → List CJsonItem → Checked (Option (List IotgoTimer))
  | _, [] => .ok (some [])
  | index, cjsonTimer :: rest =>
      if cjsonTimer.type ≠ .object then .ok none
      else do
        match ← generateTimer world.print (world.behind index) .zero cjsonTimer with
        | none => return none
        | some timer => return (← generateTimers (index + 1) rest).map (timer :: ·)

/-- The body of `procNew` and `procEdit`. -/
def procTimers (request : List IotgoTimer → TimerRequest) (cjsonRoot : CJsonItem) :
    Checked (TimerState × TimerReply) :=
  if cjsonRoot.type ≠ .array then procError state
  else if iotgoTimerNum < cJSONGetArraySize cjsonRoot % 256 then procError state
  else do
    match ← generateTimers world 0 (arrayItems cjsonRoot) with
    | none => procError state
    | some timers => execute world state (request timers)

def procNew : CJsonItem → Checked (TimerState × TimerReply) :=
  procTimers world state .new

def procEdit : CJsonItem → Checked (TimerState × TimerReply) :=
  procTimers world state .edit

/-- The loop that fills `id[IOTGO_TIMER_NUM]` from an index on. -/
def storeIds : Nat → List CJsonItem → Checked (List UInt8)
  | _, [] => .ok []
  | index, cjsonId :: rest => do
      writeTo iotgoTimerNum index
      return UInt8.ofInt cjsonId.valueint :: (← storeIds (index + 1) rest)

/-- The body of `procDel`, `procEnable` and `procDisable`: the number of ids is not
compared with the size of `id`. -/
def procIds (request : List UInt8 → TimerRequest) (cjsonTimerid : CJsonItem) :
    Checked (TimerState × TimerReply) :=
  if cjsonTimerid.type ≠ .array then procError state
  else do
    let ids ← storeIds 0 (arrayItems cjsonTimerid)
    execute world state (request ids)

def procDel : CJsonItem → Checked (TimerState × TimerReply) :=
  procIds world state .del

def procEnable : CJsonItem → Checked (TimerState × TimerReply) :=
  procIds world state .enable

def procDisable : CJsonItem → Checked (TimerState × TimerReply) :=
  procIds world state .disable

/-- A member that is not there is an error. -/
def withMember (cjsonParams : CJsonItem) (name : String)
    (proc : CJsonItem → Checked (TimerState × TimerReply)) : Checked (TimerState × TimerReply) :=
  match cJSONGetObjectItem cjsonParams (asciiBytes name) with
  | none => procError state
  | some item => proc item

/-- What `timerProcUpdate` does for a `timerAct`. -/
def procAct (cjsonParams : CJsonItem) (act : List UInt8) : Checked (TimerState × TimerReply) :=
  if act = asciiBytes "del" then withMember state cjsonParams "timerID" (procDel world state)
  else if act = asciiBytes "new" then withMember state cjsonParams "timer" (procNew world state)
  else if act = asciiBytes "edit" then withMember state cjsonParams "timer" (procEdit world state)
  else if act = asciiBytes "enable" then
    withMember state cjsonParams "timerID" (procEnable world state)
  else if act = asciiBytes "disable" then
    withMember state cjsonParams "timerID" (procDisable world state)
  else if act = asciiBytes "delAll" then execute world state .delAll
  else if act = asciiBytes "enableAll" then execute world state .enableAll
  else if act = asciiBytes "disableAll" then execute world state .disableAll
  else procError state

/-- The result is `true` for the reply 0. -/
def timerProcUpdate (cjsonParams : CJsonItem) : Checked (TimerState × TimerReply) :=
  match cJSONGetObjectItem cjsonParams (asciiBytes "timerAct") with
  | none => procError state
  | some cjsonTimerAct => do
      let act ← deref cjsonTimerAct.valuestring
      procAct world state cjsonParams (cString act)

end Update

section Query

def replyError : ManagerReply :=
  .update (.update .error500)

def replyQueryTimer (timers : List IotgoTimer) : ManagerReply :=
  match timers.mapM (createTimerObjcet world.parse) with
  | none => replyError
  | some objects => .timers state.table.timerInfo objects

/-- The id of the timer with an index among those that are set, 0 if there is none. -/
def timerFindTimerByIndex (index : Nat) : UInt8 :=
  if iotgoTimerNum ≤ index ∨ state.table.timerInfo.timerCnt.toNat ≤ index then 0
  else
    (((List.finRange iotgoTimerNum).map fun slot => (state.table.timer slot).id).filter
      (· ≠ 0)).getD index 0

/-- `iotgo_timer[id - 1]`. -/
def timerAtId (id : UInt8) : IotgoTimer :=
  match slotOf id with
  | some slot => state.table.timer slot
  | none => world.strayTimer id

/-- The loop of `timerQueryTimerByIndex`: a timer is copied to its index, not to the
front. -/
def copyByIndex : List Nat → (Nat → IotgoTimer) → Checked (Option (Nat → IotgoTimer))
  | [], timers => .ok (some timers)
  | index :: rest, timers =>
      if timerFindTimerByIndex state index = 0 then .ok none
      else do
        writeTo iotgoTimerNum index
        copyByIndex rest fun other =>
          if other = index then timerAtId world state (timerFindTimerByIndex state index)
          else timers other

/-- An index of 255 ends no loop, but no timer has it. -/
def timerQueryTimerByIndex (startIndex endIndex : UInt8) : Checked ManagerReply :=
  let num := endIndex - startIndex + 1
  if endIndex < startIndex ∨ state.table.timerInfo.timerCnt < num then .ok replyError
  else do
    match ← copyByIndex world state
        (List.range' startIndex.toNat (endIndex.toNat - startIndex.toNat + 1))
        fun _ => .zero with
    | none => return replyError
    | some timers => return replyQueryTimer world state ((List.range num.toNat).map timers)

/-- `id != iotgo_timer_id[id - 1] || id == 0` refuses the id. -/
def findTimerById (id : UInt8) : Option IotgoTimer :=
  let stored := (slotOf id).elim (world.stray id) state.table.timerId
  if id = stored ∧ id ≠ 0 then some (timerAtId world state id) else none

def timerQueryTimerById (ids : List UInt8) : ManagerReply :=
  match ids.mapM (findTimerById world state) with
  | none => replyError
  | some timers => replyQueryTimer world state timers

def procQueryTimerInfo : ManagerReply :=
  .timerInfo state.table.timerInfo

def procQueryTimerByIndex (cjsonParams : CJsonItem) : Checked ManagerReply :=
  if 3 < cJSONGetArraySize cjsonParams % 256 then .ok replyError
  else
    match cJSONGetArrayItem cjsonParams 1, cJSONGetArrayItem cjsonParams 2 with
    | some first, some last =>
        timerQueryTimerByIndex world state (UInt8.ofInt first.valueint) (UInt8.ofInt last.valueint)
    | _, _ => .ok replyError

def procQueryTimerById (cjsonParams : CJsonItem) : Checked ManagerReply :=
  if 2 < cJSONGetArraySize cjsonParams % 256 then .ok replyError
  else
    match cJSONGetArrayItem cjsonParams 1 with
    | none => .ok replyError
    | some cjsonId =>
        if cjsonId.type ≠ .array ∨
            state.table.timerInfo.timerCnt.toNat < cJSONGetArraySize cjsonId % 256 then
          .ok replyError
        else do
          let ids ← storeIds 0 (arrayItems cjsonId)
          return timerQueryTimerById world state ids

def timerProcQuery (cjsonParams : CJsonItem) : Checked ManagerReply :=
  if cjsonParams.type ≠ .array then .ok replyError
  else
    match cJSONGetArrayItem cjsonParams 0 with
    | none => .ok replyError
    | some cjsonQueryType => do
        let queryType ← deref cjsonQueryType.valuestring
        if cString queryType = asciiBytes "timerInfo" then return procQueryTimerInfo state
        else if cString queryType = asciiBytes "timerIndex" then
          procQueryTimerByIndex world state cjsonParams
        else if cString queryType = asciiBytes "timerID" then
          procQueryTimerById world state cjsonParams
        else return replyError

end Query

section Fits

/-- The strings of an action fit their fields. -/
def ActionFits (print : CJsonItem → List UInt8) (cjsonTimer : CJsonItem) : Prop :=
  (∀ action, cJSONGetObjectItem cjsonTimer (asciiBytes "do") = some action →
    action.type = .object → strlen (print action) < 100) ∧
  (cJSONGetObjectItem cjsonTimer (asciiBytes "do") = none → ∀ startDo endDo,
    cJSONGetObjectItem cjsonTimer (asciiBytes "startDo") = some startDo →
    cJSONGetObjectItem cjsonTimer (asciiBytes "endDo") = some endDo →
    startDo.type = .object → endDo.type = .object →
    strlen (print startDo) < 100 ∧ strlen (print endDo) < 100)

/-- The text fits `at`, and what is taken for the week days of a repeated timer fits
the buffer. -/
def AtFits (behind : List UInt8) (typed : IotgoTimer) (memory : List UInt8) : Prop :=
  strlen memory < 30 ∧
    (typed.type = .repeat → ∀ minute hour blank,
      parseMinuteHour (cString memory ++ 0 :: behind) = some (minute, hour, blank) →
      strlen ((cString memory ++ 0 :: behind).drop (blank + 5)) < 25)

/-- The strings of the timer fit, as far as `generateTimer` comes to them. -/
def TimerFits (print : CJsonItem → List UInt8) (behind : List UInt8) (start : IotgoTimer)
    (cjsonTimer : CJsonItem) : Prop :=
  ∀ typed, ((getTimerId start cjsonTimer).bind (getTimerEnabled · cjsonTimer)).bind
      (getTimerType · cjsonTimer) = some typed →
    (∀ memory, cJSONGetObjectItem cjsonTimer (asciiBytes "at") = some (.string memory) →
      AtFits behind typed memory) ∧
    ∀ timed, getTImerAt behind typed cjsonTimer = .ok (some timed) → ActionFits print cjsonTimer

variable {print : CJsonItem → List UInt8} {behind : List UInt8} {start typed : IotgoTimer}
  {cjsonTimer : CJsonItem}

theorem store_action_completes_iff {offset : Nat} {action : CJsonItem} :
    Completes (storeAction print typed offset action) ↔ strlen (print action) < 100 := by
  unfold storeAction
  rw [completes_bind_of_total fun _ => completes_pure _, completes_strcpy_iff]

theorem get_timer_action_completes_iff :
    Completes (getTimerAction print typed cjsonTimer) ↔ ActionFits print cjsonTimer := by
  unfold getTimerAction ActionFits
  cases cJSONGetObjectItem cjsonTimer (asciiBytes "do") with
  | some action =>
      have stored : Completes (do return some (← storeAction print typed 0 action)) ↔
          strlen (print action) < 100 := by
        rw [completes_bind_of_total fun _ => completes_pure _, store_action_completes_iff]
      dsimp only
      rw [completes_ite, stored]
      simp [completes_ok]
  | none =>
      dsimp only
      cases cJSONGetObjectItem cjsonTimer (asciiBytes "startDo") with
      | none => simp [completes_ok]
      | some startDo =>
          cases cJSONGetObjectItem cjsonTimer (asciiBytes "endDo") with
          | none => simp [completes_ok]
          | some endDo =>
              have stored : Completes (do
                  let started ← storeAction print typed 0 startDo
                  return some (← storeAction print started 100 endDo)) ↔
                  strlen (print startDo) < 100 ∧ strlen (print endDo) < 100 := by
                rw [completes_bind_iff]
                constructor
                · rintro ⟨started, first, later⟩
                  rw [completes_bind_of_total fun _ => completes_pure _,
                    store_action_completes_iff] at later
                  exact ⟨(store_action_parts first).1, later⟩
                · rintro ⟨first, later⟩
                  rcases store_action_completes_iff.2 first with ⟨started, done⟩
                  refine ⟨started, done, ?_⟩
                  rw [completes_bind_of_total fun _ => completes_pure _,
                    store_action_completes_iff]
                  exact later
              dsimp only
              rw [completes_ite, stored]
              constructor
              · rintro ⟨-, fits⟩
                refine ⟨fun _ found => (by cases found), fun _ _ _ first second left right => ?_⟩
                cases first
                cases second
                exact fits (by simp [left, right])
              · rintro ⟨-, fits⟩
                refine ⟨fun _ => completes_ok none, fun objects => ?_⟩
                rw [not_or, not_not, not_not] at objects
                exact fits rfl startDo endDo rfl rfl objects.1 objects.2

theorem get_timing_completes_iff {text : List UInt8} :
    Completes (getTiming behind typed text) ↔
      (typed.type = .repeat → ∀ minute hour blank,
        parseMinuteHour (text ++ 0 :: behind) = some (minute, hour, blank) →
        strlen ((text ++ 0 :: behind).drop (blank + 5)) < 25) := by
  unfold getTiming
  cases type : typed.type with
  | once => simp [completes_ok]
  | duration => simp [completes_ok]
  | invalid => simp [completes_ok]
  | «repeat» =>
      dsimp only
      rw [completes_bind_of_total fun _ => completes_pure _]
      unfold parseCronFromString
      cases parsed : parseMinuteHour (text ++ 0 :: behind) with
      | none => simp [completes_ok]
      | some fields =>
          rcases fields with ⟨minute, hour, blank⟩
          dsimp only
          rw [completes_bind_of_total fun _ => completes_pure _, completes_strcpy_iff]
          simp

/-- Only the type of the timer matters. -/
theorem get_timing_set_completes_iff {text : List UInt8} {timerAt : Fin 30 → UInt8} :
    Completes (getTiming behind { typed with timerAt := timerAt } text) ↔
      (typed.type = .repeat → ∀ minute hour blank,
        parseMinuteHour (text ++ 0 :: behind) = some (minute, hour, blank) →
        strlen ((text ++ 0 :: behind).drop (blank + 5)) < 25) :=
  get_timing_completes_iff

theorem get_timer_at_completes_iff :
    Completes (getTImerAt behind typed cjsonTimer) ↔
      ∀ memory, cJSONGetObjectItem cjsonTimer (asciiBytes "at") = some (.string memory) →
        AtFits behind typed memory := by
  unfold getTImerAt
  split
  · rename_i memory found
    rw [found, completes_bind_iff]
    simp only [Option.some.injEq, CJsonItem.string.injEq, forall_eq']
    constructor
    · rintro ⟨text, copied, timing⟩
      rcases strcpy_ok_iff.1 copied with ⟨fits, rfl⟩
      exact ⟨fits, get_timing_set_completes_iff.1 timing⟩
    · rintro ⟨fits, days⟩
      exact ⟨cString memory, strcpy_ok_iff.2 ⟨fits, rfl⟩,
        get_timing_set_completes_iff.2 days⟩
  · rename_i other
    refine iff_of_true (completes_ok none) fun memory found => ?_
    exact absurd found (other memory)

theorem generate_timer_completes_iff :
    Completes (generateTimer print behind start cjsonTimer) ↔
      TimerFits print behind start cjsonTimer := by
  unfold generateTimer TimerFits
  cases head : ((getTimerId start cjsonTimer).bind (getTimerEnabled · cjsonTimer)).bind
      (getTimerType · cjsonTimer) with
  | none => simp [completes_ok]
  | some typed =>
      simp only [Option.some.injEq, forall_eq']
      rw [completes_bind_iff, ← get_timer_at_completes_iff]
      constructor
      · rintro ⟨timing, done, later⟩
        refine ⟨⟨timing, done⟩, fun timed same => ?_⟩
        rw [done] at same
        cases same
        exact get_timer_action_completes_iff.1 later
      · rintro ⟨⟨timing, done⟩, fits⟩
        refine ⟨timing, done, ?_⟩
        cases timing with
        | none => exact completes_pure none
        | some timed => exact get_timer_action_completes_iff.2 (fits timed done)

end Fits

section Completion

/-- The strings of the timers fit, as far as `procNew` and `procEdit` come to them. -/
def TimersFit : Nat → List CJsonItem → Prop
  | _, [] => True
  | index, cjsonTimer :: rest =>
      cjsonTimer.type = .object →
        TimerFits world.print (world.behind index) .zero cjsonTimer ∧
          ∀ timer, generateTimer world.print (world.behind index) .zero cjsonTimer =
            .ok (some timer) → TimersFit (index + 1) rest

/-- An id of the tables, not 0. -/
def InUse (table : TimerTable) (id : UInt8) : Prop :=
  ∃ slot, idOf slot = id ∧ table.timerId slot = id

/-- The loop over the ids ends before it comes to one beyond the tables that the byte there
confirms: it comes to an id if those before are in use, and `different`. -/
def IdsInside (different : List UInt8 → Prop) (ids : List UInt8) : Prop :=
  ∀ front id back, ids = front ++ id :: back → (∀ other ∈ front, InUse state.table other) →
    different front → iotgoTimerNum < id.toNat → world.stray id ≠ id

/-- The batch of the request does not come to an id beyond the tables. An id can be deleted
once only. -/
def Inside : TimerRequest → Prop
  | .new _ => True
  | .edit timers =>
      timers.length ≤ state.table.timerInfo.timerCnt.toNat →
        IdsInside world state (fun _ => True) (timers.map IotgoTimer.id)
  | .del ids => IdsInside world state List.Nodup ids
  | .enable ids =>
      ids.length ≤ state.table.timerInfo.timerCnt.toNat →
        IdsInside world state (fun _ => True) ids
  | .disable ids =>
      ids.length ≤ state.table.timerInfo.timerCnt.toNat →
        IdsInside world state (fun _ => True) ids
  | .delAll => True
  | .enableAll => True
  | .disableAll => True

/-- `NULL`, another type than an array, or ids that fit `id` and the tables. -/
def IdsFit (request : List UInt8 → TimerRequest) (cjsonTimerid : Option CJsonItem) : Prop :=
  ∀ array, cjsonTimerid = some array → array.type = .array →
    (arrayItems array).length ≤ iotgoTimerNum ∧
      Inside world state (request ((arrayItems array).map fun item => UInt8.ofInt item.valueint))

def BatchFits (request : List IotgoTimer → TimerRequest) (cjsonTimer : Option CJsonItem) : Prop :=
  ∀ array, cjsonTimer = some array → array.type = .array →
    cJSONGetArraySize array % 256 ≤ iotgoTimerNum →
      TimersFit world 0 (arrayItems array) ∧
        ∀ timers, generateTimers world 0 (arrayItems array) = .ok (some timers) →
          Inside world state (request timers)

def ActFits (cjsonParams : CJsonItem) (act : List UInt8) : Prop :=
  let timerId := cJSONGetObjectItem cjsonParams (asciiBytes "timerID")
  let timer := cJSONGetObjectItem cjsonParams (asciiBytes "timer")
  (act = asciiBytes "del" → IdsFit world state .del timerId) ∧
    (act = asciiBytes "new" → BatchFits world state .new timer) ∧
    (act = asciiBytes "edit" → BatchFits world state .edit timer) ∧
    (act = asciiBytes "enable" → IdsFit world state .enable timerId) ∧
    (act = asciiBytes "disable" → IdsFit world state .disable timerId)

/-- A `timerAct` is a string, and what it is about fits its buffers. -/
def UpdateFits (cjsonParams : CJsonItem) : Prop :=
  ∀ cjsonTimerAct, cJSONGetObjectItem cjsonParams (asciiBytes "timerAct") = some cjsonTimerAct →
    ∃ act, cjsonTimerAct = .string act ∧ ActFits world state cjsonParams (cString act)

variable {world state}

section Outside

variable {table : TimerTable} {id : UInt8}

theorem id_of_bounded (slot : Fin iotgoTimerNum) : (idOf slot).toNat ≤ iotgoTimerNum := by
  rw [id_of_to_nat]
  exact slot.isLt

theorem find_id_found_iff {slot : Fin iotgoTimerNum} :
    findId table id = .found slot ↔ idOf slot = id ∧ table.timerId slot = id := by
  constructor
  · intro found
    unfold findId at found
    split at found
    · cases found
    · split at found
      · cases found
      · rename_i here
        split at found
        · rename_i same
          cases found
          exact ⟨(slot_of_some here).symm, same.symm⟩
        · cases found
  · rintro ⟨rfl, own⟩
    rcases find_id_cases table (id_of_bounded slot) with ⟨-, missing⟩ | ⟨other, found, same, -⟩
    · exact absurd own (missing slot rfl)
    · rw [found, id_of_injective same]

theorem find_id_outside_iff :
    findId table id = .outside ↔ iotgoTimerNum < id.toNat := by
  constructor
  · intro outside
    by_contra range
    rcases find_id_cases table (Nat.not_lt.1 range) with ⟨absent, -⟩ | ⟨slot, found, -⟩
    · rw [absent] at outside
      cases outside
    · rw [found] at outside
      cases outside
  · intro beyond
    have positive : id ≠ 0 := by
      rintro rfl
      exact absurd beyond (Nat.not_lt_zero _)
    have missing : slotOf id = none := dif_neg fun inside => absurd inside.2 (Nat.not_le.2 beyond)
    rw [findId, if_neg positive, missing]

theorem looked_up_cases (world : TimerWorld) (id : UInt8) :
    lookedUp world id = id ∧ (id.toNat ≤ iotgoTimerNum ∨ world.stray id = id) ∨
      lookedUp world id = 0 ∧ iotgoTimerNum < id.toNat ∧ world.stray id ≠ id := by
  unfold lookedUp
  split
  · rename_i kept
    exact .inl ⟨rfl, kept⟩
  · rename_i refused
    rw [not_or, Nat.not_le] at refused
    exact .inr ⟨rfl, refused⟩

theorem looked_up_found_iff :
    (∃ slot, findId table (lookedUp world id) = .found slot) ↔ InUse table id := by
  simp only [find_id_found_iff]
  rcases looked_up_cases world id with ⟨same, -⟩ | ⟨zero, beyond, -⟩
  · rw [same]
    exact Iff.rfl
  · rw [zero]
    constructor
    · rintro ⟨slot, own, -⟩
      exact absurd own (id_of_ne_zero slot)
    · rintro ⟨slot, rfl, -⟩
      exact absurd (id_of_bounded slot) (Nat.not_le.2 beyond)

theorem looked_up_outside_iff :
    findId table (lookedUp world id) = .outside ↔
      iotgoTimerNum < id.toNat ∧ world.stray id = id := by
  rw [find_id_outside_iff]
  rcases looked_up_cases world id with ⟨same, kept⟩ | ⟨zero, -, refused⟩
  · rw [same]
    exact ⟨fun beyond => ⟨beyond, kept.resolve_left (Nat.not_le.2 beyond)⟩, And.left⟩
  · rw [zero]
    exact iff_of_false (Nat.not_lt_zero _) fun confirmed => refused confirmed.2

/-- An element of a list stands first or behind the first one. -/
theorem split_cons_iff {Item : Type} {first : Item} {rest : List Item}
    {At : List Item → Item → Prop} :
    (∃ front item back, first :: rest = front ++ item :: back ∧ At front item) ↔
      At [] first ∨
        ∃ front item back, rest = front ++ item :: back ∧ At (first :: front) item := by
  constructor
  · rintro ⟨front, item, back, same, holds⟩
    cases front with
    | nil =>
        cases same
        exact .inl holds
    | cons head front =>
        cases same
        exact .inr ⟨front, item, back, rfl, holds⟩
  · rintro (holds | ⟨front, item, back, rfl, holds⟩)
    · exact ⟨[], first, rest, rfl, holds⟩
    · exact ⟨first :: front, item, back, rfl, holds⟩

/-- The change of a timer leaves the ids as they are. -/
theorem each_present_outside_iff {Item : Type} {idAt own : Item → UInt8} {looked : Item → Item}
    {change : Item → IotgoTimer → IotgoTimer} {items : List Item}
    (looks : ∀ item, idAt (looked item) = lookedUp world (own item)) :
    eachPresent idAt change (items.map looked) table = .outside ↔
      ∃ front id back, items.map own = front ++ id :: back ∧
        (True ∧ ∀ other ∈ front, InUse table other) ∧
          iotgoTimerNum < id.toNat ∧ world.stray id = id := by
  induction items generalizing table with
  | nil => simp [eachPresent]
  | cons item rest ih =>
      rw [List.map_cons, List.map_cons, split_cons_iff, eachPresent, looks,
        ← looked_up_outside_iff]
      have seen : (∃ slot, findId table (lookedUp world (own item)) = .found slot) ↔
          InUse table (own item) := looked_up_found_iff
      cases found : findId table (lookedUp world (own item)) with
      | absent =>
          rw [found] at seen
          simp [← seen]
      | outside => simp
      | found slot =>
          rw [found] at seen
          have used : InUse table (own item) := seen.1 ⟨slot, rfl⟩
          have unchanged : ∀ id, InUse (TimerTable.setTimer table slot
              (change (looked item) (table.timer slot))) id ↔ InUse table id := fun _ => Iff.rfl
          dsimp only
          rw [ih]
          simp [unchanged, used]

/-- A deleted timer is not in use any more. -/
theorem delete_in_use_iff {slot : Fin iotgoTimerNum} {timer : IotgoTimer} {timerCnt : UInt8} :
    InUse (TimerTable.setCnt (TimerTable.setTimer (TimerTable.setId table slot 0) slot
        timer) timerCnt) id ↔ InUse table id ∧ id ≠ idOf slot := by
  constructor
  · rintro ⟨other, rfl, there⟩
    by_cases same : other = slot
    · subst same
      simp only [TimerTable.setCnt, TimerTable.setTimer, TimerTable.setId,
        Function.update_self] at there
      exact absurd there.symm (id_of_ne_zero other)
    · simp only [TimerTable.setCnt, TimerTable.setTimer, TimerTable.setId,
        Function.update_of_ne same] at there
      exact ⟨⟨other, rfl, there⟩, fun clash => same (id_of_injective clash)⟩
  · rintro ⟨⟨other, rfl, there⟩, differs⟩
    have apart : other ≠ slot := fun same => differs (same ▸ rfl)
    refine ⟨other, rfl, ?_⟩
    simpa only [TimerTable.setCnt, TimerTable.setTimer, TimerTable.setId,
      Function.update_of_ne apart] using there

theorem delete_timers_outside_iff {ids : List UInt8} (invariant : TableInvariant table) :
    deleteTimers (ids.map (lookedUp world)) table = .outside ↔
      ∃ front id back, ids = front ++ id :: back ∧
        (front.Nodup ∧ ∀ other ∈ front, InUse table other) ∧
          iotgoTimerNum < id.toNat ∧ world.stray id = id := by
  induction ids generalizing table with
  | nil => simp [deleteTimers]
  | cons id rest ih =>
      rw [List.map_cons, split_cons_iff, deleteTimers, ← looked_up_outside_iff]
      have seen : (∃ slot, findId table (lookedUp world id) = .found slot) ↔ InUse table id :=
        looked_up_found_iff
      cases found : findId table (lookedUp world id) with
      | absent =>
          rw [found] at seen
          simp [← seen]
      | outside => simp
      | found slot =>
          rw [found] at seen
          have used : InUse table id := seen.1 ⟨slot, rfl⟩
          rcases find_id_found_iff.1 found with ⟨same, own⟩
          rcases delete_present invariant (own.trans same.symm) with ⟨counted, kept, -⟩
          have count : (TimerTable.setId table slot 0).timerInfo.timerCnt =
              table.timerInfo.timerCnt := rfl
          have named : idOf slot = id := by
            rcases looked_up_cases world id with ⟨kept, -⟩ | ⟨zero, -⟩
            · exact same.trans kept
            · exact absurd (same.trans zero) (id_of_ne_zero slot)
          dsimp only
          rw [count, if_neg counted, ih kept]
          simp only [delete_in_use_iff, List.nodup_cons, List.forall_mem_cons, named]
          have never : FoundId.found slot ≠ .outside := by
            intro clash
            cases clash
          rw [or_iff_right fun outside => never outside.2]
          refine exists_congr fun front => exists_congr fun other => exists_congr fun back => ?_
          refine and_congr_right fun _ => and_congr_left fun _ => ?_
          constructor
          · rintro ⟨nodup, others⟩
            exact ⟨⟨fun member => (others _ member).2 rfl, nodup⟩, used,
              fun id member => (others id member).1⟩
          · rintro ⟨⟨fresh, nodup⟩, -, others⟩
            exact ⟨nodup, fun id member => ⟨others id member, ne_of_mem_of_not_mem member fresh⟩⟩

end Outside

theorem finish_outside_iff {memory : BlockMemory} {reply : TimerReply} {batch : Batch} :
    finishBatch memory state reply batch = none ↔ batch = .outside := by
  cases batch with
  | finished table => simp [finishBatch]
  | refused result table => simp [finishBatch]
  | outside => simp [finishBatch]

theorem ids_inside_iff {different : List UInt8 → Prop} {ids : List UInt8} :
    IdsInside world state different ids ↔
      ¬ ∃ front id back, ids = front ++ id :: back ∧
        (different front ∧ ∀ other ∈ front, InUse state.table other) ∧
          iotgoTimerNum < id.toNat ∧ world.stray id = id := by
  unfold IdsInside
  constructor
  · rintro inside ⟨front, id, back, split, ⟨apart, used⟩, beyond, confirmed⟩
    exact inside front id back split used apart beyond confirmed
  · intro none front id back split used apart beyond confirmed
    exact none ⟨front, id, back, split, ⟨apart, used⟩, beyond, confirmed⟩

theorem new_completes (timers : List IotgoTimer) : timerNew world.memory state timers ≠ none := by
  unfold timerNew
  split
  · exact nofun
  · rw [Ne, finish_outside_iff]
    exact new_timers_inside _ _ _

theorem edit_completes_iff {timers : List IotgoTimer} :
    timerEdit world.memory state (timers.map fun timer => { timer with id := lookedUp world timer.id }) ≠ none ↔
      (timers.length ≤ state.table.timerInfo.timerCnt.toNat →
        IdsInside world state (fun _ => True) (timers.map IotgoTimer.id)) := by
  unfold timerEdit
  rw [List.length_map, ids_inside_iff]
  split
  · rename_i refused
    refine iff_of_true nofun fun few => ?_
    have empty : timers = [] :=
      List.eq_nil_of_length_eq_zero (refused.resolve_left (Nat.not_lt.2 few))
    simp [empty]
  · rename_i taken
    rw [not_or, Nat.not_lt] at taken
    have each := @each_present_outside_iff world state.table IotgoTimer IotgoTimer.id IotgoTimer.id
      (fun timer => { timer with id := lookedUp world timer.id }) (fun timer _ => timer) timers
      fun _ => rfl
    rw [Ne, finish_outside_iff, each, imp_iff_right taken.1]

theorem del_completes_iff (invariant : TableInvariant state.table) {ids : List UInt8} :
    timerDel world.memory state (ids.map (lookedUp world)) ≠ none ↔ IdsInside world state List.Nodup ids := by
  unfold timerDel
  rw [List.length_map, ids_inside_iff]
  split
  · rename_i refused
    refine iff_of_true nofun ?_
    simp [List.eq_nil_of_length_eq_zero refused]
  · rw [Ne, finish_outside_iff, delete_timers_outside_iff invariant]

theorem set_enabled_completes_iff {enabled : UInt8} {ids : List UInt8} :
    timerSetEnabled world.memory state enabled (ids.map (lookedUp world)) ≠ none ↔
      (ids.length ≤ state.table.timerInfo.timerCnt.toNat →
        IdsInside world state (fun _ => True) ids) := by
  unfold timerSetEnabled
  rw [List.length_map, ids_inside_iff]
  split
  · rename_i refused
    refine iff_of_true nofun fun few => ?_
    have empty : ids = [] :=
      List.eq_nil_of_length_eq_zero (refused.resolve_right (Nat.not_lt.2 few))
    simp [empty]
  · rename_i taken
    rw [not_or, Nat.not_lt] at taken
    have each := @each_present_outside_iff world state.table UInt8 (fun id => id) (fun id => id)
      (lookedUp world) (fun _ => setEnabled enabled) ids fun _ => rfl
    rw [Ne, finish_outside_iff, each, imp_iff_right taken.2, List.map_id']

theorem execute_completes_iff (invariant : TableInvariant state.table) {request : TimerRequest} :
    Completes (execute world state request) ↔ Inside world state request := by
  have executed : Completes (execute world state request) ↔
      timerRequest world.memory state (lookedUpRequest world request) ≠ none := by
    unfold execute
    cases timerRequest world.memory state (lookedUpRequest world request) with
    | none => simp [not_completes_error]
    | some done => simp [completes_ok]
  rw [executed]
  cases request with
  | new timers => exact iff_of_true (new_completes timers) trivial
  | edit timers => exact edit_completes_iff
  | del ids => exact del_completes_iff invariant
  | enable ids => exact set_enabled_completes_iff
  | disable ids => exact set_enabled_completes_iff
  | delAll => exact iff_of_true nofun trivial
  | enableAll => exact iff_of_true nofun trivial
  | disableAll => exact iff_of_true nofun trivial

theorem completes_proc_error : Completes (procError state) :=
  completes_ok _

theorem generate_timers_completes_iff (index : Nat) (items : List CJsonItem) :
    Completes (generateTimers world index items) ↔ TimersFit world index items := by
  induction items generalizing index with
  | nil => exact iff_of_true (completes_ok _) trivial
  | cons cjsonTimer rest ih =>
      unfold generateTimers TimersFit
      rw [completes_ite]
      constructor
      · rintro ⟨-, accepted⟩ object
        rcases completes_bind_iff.1 (accepted (not_not.2 object)) with ⟨generated, done, later⟩
        refine ⟨generate_timer_completes_iff.1 ⟨generated, done⟩, fun timer same => ?_⟩
        rw [done] at same
        cases same
        rw [← ih]
        exact (completes_bind_of_total fun _ => completes_pure _).1 later
      · intro fits
        refine ⟨fun _ => completes_ok none, fun object => ?_⟩
        rcases fits (not_not.1 object) with ⟨first, others⟩
        rcases generate_timer_completes_iff.2 first with ⟨generated, done⟩
        rw [completes_bind_iff]
        refine ⟨generated, done, ?_⟩
        cases generated with
        | none => exact completes_pure none
        | some timer =>
            apply (completes_bind_of_total fun _ => completes_pure _).2
            exact (ih (index + 1)).2 (others timer done)

theorem store_ids_ok (index : Nat) (items : List CJsonItem) {ids : List UInt8}
    (stored : storeIds index items = .ok ids) :
    (items = [] ∨ index + items.length ≤ iotgoTimerNum) ∧
      ids = items.map fun item => UInt8.ofInt item.valueint := by
  induction items generalizing index ids with
  | nil =>
      cases stored
      exact ⟨.inl rfl, rfl⟩
  | cons cjsonId rest ih =>
      unfold storeIds at stored
      rcases bind_ok_iff.1 stored with ⟨_, written, later⟩
      rcases bind_ok_iff.1 later with ⟨more, tail, last⟩
      have inside := completes_write_iff.1 ⟨_, written⟩
      rcases ih (index + 1) tail with ⟨fits, rfl⟩
      cases last
      refine ⟨.inr ?_, rfl⟩
      rw [List.length_cons]
      rcases fits with rfl | fits
      · exact inside
      · omega

theorem store_ids_fit (index : Nat) (items : List CJsonItem)
    (fits : index + items.length ≤ iotgoTimerNum) :
    storeIds index items = .ok (items.map fun item => UInt8.ofInt item.valueint) := by
  induction items generalizing index with
  | nil => rfl
  | cons cjsonId rest ih =>
      rw [List.length_cons] at fits
      have inside : index < iotgoTimerNum := by omega
      have written : writeTo iotgoTimerNum index = .ok () := if_pos inside
      unfold storeIds
      rw [written, ih (index + 1) (by omega)]
      rfl

theorem proc_ids_completes_iff (invariant : TableInvariant state.table)
    {request : List UInt8 → TimerRequest} {array : CJsonItem} :
    Completes (procIds world state request array) ↔ IdsFit world state request (some array) := by
  unfold procIds IdsFit
  simp only [Option.some.injEq, forall_eq']
  rw [completes_ite]
  constructor
  · rintro ⟨-, completes⟩ type
    rcases completes_bind_iff.1 (completes (not_not.2 type)) with ⟨ids, stored, later⟩
    rcases store_ids_ok 0 _ stored with ⟨fits, rfl⟩
    refine ⟨?_, (execute_completes_iff invariant).1 later⟩
    rcases fits with empty | fits
    · rw [empty]
      exact Nat.zero_le _
    · rwa [Nat.zero_add] at fits
  · intro fits
    refine ⟨fun _ => completes_proc_error, fun type => ?_⟩
    rcases fits (not_not.1 type) with ⟨short, inside⟩
    rw [store_ids_fit 0 _ (by rwa [Nat.zero_add])]
    exact (execute_completes_iff invariant).2 inside

theorem proc_timers_completes_iff (invariant : TableInvariant state.table)
    {request : List IotgoTimer → TimerRequest} {array : CJsonItem} :
    Completes (procTimers world state request array) ↔
      BatchFits world state request (some array) := by
  unfold procTimers BatchFits
  simp only [Option.some.injEq, forall_eq']
  rw [completes_ite, completes_ite]
  constructor
  · rintro ⟨-, completes⟩ type short
    rcases completes_bind_iff.1 ((completes (not_not.2 type)).2 (Nat.not_lt.2 short)) with
      ⟨generated, done, later⟩
    refine ⟨(generate_timers_completes_iff 0 _).1 ⟨generated, done⟩, fun timers same => ?_⟩
    rw [done] at same
    cases same
    exact (execute_completes_iff invariant).1 later
  · intro fits
    refine ⟨fun _ => completes_proc_error, fun type => ⟨fun _ => completes_proc_error, ?_⟩⟩
    intro short
    rcases fits (not_not.1 type) (Nat.not_lt.1 short) with ⟨strings, inside⟩
    rcases (generate_timers_completes_iff 0 _).2 strings with ⟨generated, done⟩
    rw [completes_bind_iff]
    refine ⟨generated, done, ?_⟩
    cases generated with
    | none => exact completes_proc_error
    | some timers => exact (execute_completes_iff invariant).2 (inside timers done)

theorem with_member_completes_iff {cjsonParams : CJsonItem} {name : String}
    {proc : CJsonItem → Checked (TimerState × TimerReply)} {fits : Option CJsonItem → Prop}
    (missing : fits none) (found : ∀ item, Completes (proc item) ↔ fits (some item)) :
    Completes (withMember state cjsonParams name proc) ↔
      fits (cJSONGetObjectItem cjsonParams (asciiBytes name)) := by
  unfold withMember
  cases cJSONGetObjectItem cjsonParams (asciiBytes name) with
  | none => exact iff_of_true completes_proc_error missing
  | some item => exact found item

theorem ids_member_completes_iff (invariant : TableInvariant state.table)
    {cjsonParams : CJsonItem}    {request : List UInt8 → TimerRequest} :
    Completes (withMember state cjsonParams "timerID" (procIds world state request)) ↔
      IdsFit world state request (cJSONGetObjectItem cjsonParams (asciiBytes "timerID")) :=
  @with_member_completes_iff state cjsonParams "timerID" _ (IdsFit world state request)
    (fun _ absent => by cases absent) fun _ => proc_ids_completes_iff invariant

theorem timers_member_completes_iff (invariant : TableInvariant state.table)
    {cjsonParams : CJsonItem}    {request : List IotgoTimer → TimerRequest} :
    Completes (withMember state cjsonParams "timer" (procTimers world state request)) ↔
      BatchFits world state request (cJSONGetObjectItem cjsonParams (asciiBytes "timer")) :=
  @with_member_completes_iff state cjsonParams "timer" _ (BatchFits world state request)
    (fun _ absent => by cases absent) fun _ => proc_timers_completes_iff invariant

/-- A request for all timers has no ids. -/
theorem execute_all_completes {request : TimerRequest}
    (all : request = .delAll ∨ request = .enableAll ∨ request = .disableAll) :
    Completes (execute world state request) := by
  rcases all with rfl | rfl | rfl
  · exact completes_ok _
  · exact completes_ok _
  · exact completes_ok _

theorem proc_act_completes_iff (invariant : TableInvariant state.table)
    {cjsonParams : CJsonItem} {act : List UInt8} :
    Completes (procAct world state cjsonParams act) ↔ ActFits world state cjsonParams act := by
  unfold procAct ActFits
  rw [completes_ite, completes_ite, completes_ite, completes_ite, completes_ite, completes_ite,
    completes_ite, completes_ite]
  unfold procDel procNew procEdit procEnable procDisable
  rw [ids_member_completes_iff invariant, ids_member_completes_iff invariant,
    ids_member_completes_iff invariant, timers_member_completes_iff invariant,
    timers_member_completes_iff invariant]
  constructor
  · rintro ⟨del, others⟩
    refine ⟨del, fun new => ?_, fun edit => ?_, fun enable => ?_, fun disable => ?_⟩
    · exact (others (new ▸ by decide)).1 new
    · exact ((others (edit ▸ by decide)).2 (edit ▸ by decide)).1 edit
    · exact (((others (enable ▸ by decide)).2 (enable ▸ by decide)).2 (enable ▸ by decide)).1 enable
    · exact ((((others (disable ▸ by decide)).2 (disable ▸ by decide)).2
        (disable ▸ by decide)).2 (disable ▸ by decide)).1 disable
  · rintro ⟨del, new, edit, enable, disable⟩
    refine ⟨del, fun _ => ⟨new, fun _ => ⟨edit, fun _ => ⟨enable, fun _ => ⟨disable, ?_⟩⟩⟩⟩⟩
    intro _
    refine ⟨fun _ => execute_all_completes (.inl rfl), fun _ => ?_⟩
    refine ⟨fun _ => execute_all_completes (.inr (.inl rfl)), fun _ => ?_⟩
    exact ⟨fun _ => execute_all_completes (.inr (.inr rfl)), fun _ => completes_proc_error⟩

theorem timer_proc_update_completes_iff (invariant : TableInvariant state.table)
    {cjsonParams : CJsonItem} :
    Completes (timerProcUpdate world state cjsonParams) ↔ UpdateFits world state cjsonParams := by
  unfold timerProcUpdate UpdateFits
  cases cJSONGetObjectItem cjsonParams (asciiBytes "timerAct") with
  | none => simp [completes_proc_error]
  | some cjsonTimerAct =>
      simp only [Option.some.injEq, forall_eq']
      rw [completes_bind_iff]
      cases cjsonTimerAct with
      | string act =>
          simp [CJsonItem.valuestring, proc_act_completes_iff invariant]
      | _ => simp [CJsonItem.valuestring]

theorem copy_by_index_completes (indices : List Nat) (timers : Nat → IotgoTimer) :
    Completes (copyByIndex world state indices timers) := by
  induction indices generalizing timers with
  | nil => exact completes_ok _
  | cons index rest ih =>
      unfold copyByIndex
      rw [completes_ite]
      refine ⟨fun _ => completes_ok _, fun present => ?_⟩
      have inside : index < iotgoTimerNum := by
        by_contra beyond
        exact present (if_pos (.inl (Nat.not_lt.1 beyond)))
      rw [completes_bind_iff]
      exact ⟨(), if_pos inside, ih _⟩

theorem query_by_index_completes (first last : UInt8) :
    Completes (timerQueryTimerByIndex world state first last) := by
  unfold timerQueryTimerByIndex
  dsimp only
  rw [completes_ite]
  refine ⟨fun _ => completes_ok _, fun _ => ?_⟩
  rcases @copy_by_index_completes world state
    (List.range' first.toNat (last.toNat - first.toNat + 1)) fun _ => .zero with ⟨timers, copied⟩
  rw [completes_bind_iff]
  refine ⟨timers, copied, ?_⟩
  cases timers with
  | none => exact completes_pure _
  | some timers => exact completes_pure _

theorem proc_query_by_index_completes (cjsonParams : CJsonItem) :
    Completes (procQueryTimerByIndex world state cjsonParams) := by
  unfold procQueryTimerByIndex
  rw [completes_ite]
  refine ⟨fun _ => completes_ok _, fun _ => ?_⟩
  cases cJSONGetArrayItem cjsonParams 1 with
  | none => exact completes_ok _
  | some first =>
      cases cJSONGetArrayItem cjsonParams 2 with
      | none => exact completes_ok _
      | some last => exact query_by_index_completes _ _

/-- There are not more ids than timers, and not more timers than places. -/
theorem proc_query_by_id_completes (invariant : TableInvariant state.table)
    (cjsonParams : CJsonItem) : Completes (procQueryTimerById world state cjsonParams) := by
  unfold procQueryTimerById
  rw [completes_ite]
  refine ⟨fun _ => completes_ok _, fun _ => ?_⟩
  cases cJSONGetArrayItem cjsonParams 1 with
  | none => exact completes_ok _
  | some cjsonId =>
      dsimp only
      rw [completes_ite]
      refine ⟨fun _ => completes_ok _, fun taken => ?_⟩
      rw [not_or, Nat.not_lt] at taken
      have short : 0 + (arrayItems cjsonId).length ≤ iotgoTimerNum := by
        rw [Nat.zero_add]
        exact (List.length_take_le _ _).trans (taken.2.trans invariant.bounded)
      rw [store_ids_fit 0 _ short]
      exact completes_ok _

theorem timer_proc_query_completes_iff (invariant : TableInvariant state.table)
    {cjsonParams : CJsonItem} :
    Completes (timerProcQuery world state cjsonParams) ↔
      (cjsonParams.type = .array → ∀ item, cJSONGetArrayItem cjsonParams 0 = some item →
        item.type = .string) := by
  unfold timerProcQuery
  rw [completes_ite]
  constructor
  · rintro ⟨-, completes⟩ array item first
    have read := completes (not_not.2 array)
    rw [first] at read
    rcases completes_bind_iff.1 read with ⟨text, string, -⟩
    by_contra other
    rw [deref_ok_iff, valuestring_none_iff.2 other] at string
    cases string
  · intro strings
    refine ⟨fun _ => completes_ok _, fun array => ?_⟩
    cases first : cJSONGetArrayItem cjsonParams 0 with
    | none => exact completes_ok _
    | some item =>
        rcases valuestring_of_string (strings (not_not.1 array) item first) with ⟨text, string⟩
        dsimp only
        rw [completes_bind_iff]
        refine ⟨text, deref_ok_iff.2 string, ?_⟩
        rw [completes_ite, completes_ite, completes_ite]
        exact ⟨fun _ => completes_pure _, fun _ => ⟨fun _ => proc_query_by_index_completes _,
          fun _ => ⟨fun _ => proc_query_by_id_completes invariant _, fun _ => completes_pure _⟩⟩⟩

end Completion

section Requests

/-- The timer is made from the object, up to its id and whether it is enabled. -/
def Origin (print : CJsonItem → List UInt8) (item : CJsonItem) (timer : IotgoTimer) : Prop :=
  ∃ behind generated, generateTimer print behind .zero item = .ok (some generated) ∧
    timer = { generated with id := timer.id, enabled := timer.enabled }

theorem origin_id {print : CJsonItem → List UInt8} {item : CJsonItem} {timer : IotgoTimer}
    (origin : Origin print item timer) (id : UInt8) :
    Origin print item { timer with id := id } := by
  rcases origin with ⟨behind, generated, made, same⟩
  refine ⟨behind, generated, made, ?_⟩
  rw [same]

theorem origin_enabled {print : CJsonItem → List UInt8} {item : CJsonItem} {timer : IotgoTimer}
    (origin : Origin print item timer) (enabled : UInt8) :
    Origin print item { timer with enabled := enabled } := by
  rcases origin with ⟨behind, generated, made, same⟩
  refine ⟨behind, generated, made, ?_⟩
  rw [same]

def Made (print : CJsonItem → List UInt8) (timer : IotgoTimer) : Prop :=
  ∃ item, Origin print item timer

/-- The timers stay as they are, or one request with timers from objects is done or refused. -/
def Requested (world : TimerWorld) (state : TimerState) (done : TimerState × TimerReply) : Prop :=
  done.1 = state ∨ ∃ request, (∀ timer ∈ requestTimers request, Made world.print timer) ∧
    timerRequest world.memory state request = some done

variable {world : TimerWorld} {state : TimerState} {done : TimerState × TimerReply}

theorem looked_up_made {request : TimerRequest}
    (made : ∀ timer ∈ requestTimers request, Made world.print timer) :
    ∀ timer ∈ requestTimers (lookedUpRequest world request), Made world.print timer := by
  cases request with
  | edit timers =>
      intro timer member
      obtain ⟨given, known, rfl⟩ := List.mem_map.1 member
      rcases made given known with ⟨item, origin⟩
      exact ⟨item, origin_id origin (lookedUp world given.id)⟩
  | new timers => exact made
  | del ids => exact made
  | enable ids => exact made
  | disable ids => exact made
  | delAll => exact made
  | enableAll => exact made
  | disableAll => exact made

/-- The timers of a request are made of its objects, one of each. -/
theorem generate_timers_made {index : Nat} {items : List CJsonItem} {timers : List IotgoTimer}
    (generated : generateTimers world index items = .ok (some timers)) :
    List.Forall₂ (fun item timer =>
      ∃ behind, generateTimer world.print behind .zero item = .ok (some timer)) items timers := by
  induction items generalizing index timers with
  | nil =>
      cases generated
      exact .nil
  | cons item rest ih =>
      rw [generateTimers] at generated
      split at generated
      · cases generated
      · rcases bind_ok_iff.1 generated with ⟨first, made, later⟩
        cases first with
        | none => cases later
        | some timer =>
            rcases bind_ok_iff.1 later with ⟨others, tail, last⟩
            cases others with
            | none => cases last
            | some others =>
                cases last
                exact .cons ⟨_, made⟩ (ih tail)

theorem generate_timers_bring {index : Nat} {items : List CJsonItem} {timers : List IotgoTimer}
    (generated : generateTimers world index items = .ok (some timers)) :
    ∀ timer ∈ timers, Made world.print timer := by
  have made := generate_timers_made generated
  clear generated
  induction made with
  | nil => exact nofun
  | @cons item timer items timers first _ ih =>
      obtain ⟨behind, generated⟩ := first
      exact List.forall_mem_cons.2 ⟨⟨item, behind, timer, generated, rfl⟩, ih⟩

theorem execute_requested {request : TimerRequest}
    (made : ∀ timer ∈ requestTimers request, Made world.print timer)
    (executed : execute world state request = .ok done) : Requested world state done := by
  unfold execute at executed
  cases answered : timerRequest world.memory state (lookedUpRequest world request) with
  | none =>
      rw [answered] at executed
      cases executed
  | some result =>
      rw [answered] at executed
      cases executed
      exact .inr ⟨_, looked_up_made made, answered⟩

theorem proc_error_requested (refused : procError state = .ok done) :
    Requested world state done := by
  cases refused
  exact .inl rfl

theorem proc_ids_requested {request : List UInt8 → TimerRequest} {array : CJsonItem}
    (bare : ∀ ids, requestTimers (request ids) = [])
    (ended : procIds world state request array = .ok done) : Requested world state done := by
  unfold procIds at ended
  split at ended
  · exact proc_error_requested ended
  · rcases bind_ok_iff.1 ended with ⟨ids, -, executed⟩
    refine execute_requested ?_ executed
    rw [bare ids]
    exact nofun

theorem proc_timers_requested {request : List IotgoTimer → TimerRequest} {array : CJsonItem}
    (brings : ∀ timers, requestTimers (request timers) = timers)
    (ended : procTimers world state request array = .ok done) : Requested world state done := by
  unfold procTimers at ended
  split at ended
  · exact proc_error_requested ended
  · split at ended
    · exact proc_error_requested ended
    · rcases bind_ok_iff.1 ended with ⟨generated, made, last⟩
      cases generated with
      | none => exact proc_error_requested last
      | some timers =>
          refine execute_requested ?_ last
          rw [brings timers]
          exact generate_timers_bring made

theorem with_member_requested {cjsonParams : CJsonItem} {name : String}
    {proc : CJsonItem → Checked (TimerState × TimerReply)}
    (each : ∀ item, proc item = .ok done → Requested world state done)
    (ended : withMember state cjsonParams name proc = .ok done) : Requested world state done := by
  unfold withMember at ended
  split at ended
  · exact proc_error_requested ended
  · exact each _ ended

theorem proc_act_requested {cjsonParams : CJsonItem} {act : List UInt8}
    (ended : procAct world state cjsonParams act = .ok done) : Requested world state done := by
  unfold procAct at ended
  split at ended
  · exact with_member_requested (fun _ => proc_ids_requested fun _ => rfl) ended
  · split at ended
    · exact with_member_requested (fun _ => proc_timers_requested fun _ => rfl) ended
    · split at ended
      · exact with_member_requested (fun _ => proc_timers_requested fun _ => rfl) ended
      · split at ended
        · exact with_member_requested (fun _ => proc_ids_requested fun _ => rfl) ended
        · split at ended
          · exact with_member_requested (fun _ => proc_ids_requested fun _ => rfl) ended
          · split at ended
            · exact execute_requested (List.forall_mem_nil _) ended
            · split at ended
              · exact execute_requested (List.forall_mem_nil _) ended
              · split at ended
                · exact execute_requested (List.forall_mem_nil _) ended
                · exact proc_error_requested ended

/-- What `timerProcUpdate` does to the timers is what a request does. -/
theorem timer_proc_update_requested {cjsonParams : CJsonItem}
    (ended : timerProcUpdate world state cjsonParams = .ok done) : Requested world state done := by
  unfold timerProcUpdate at ended
  split at ended
  · exact proc_error_requested ended
  · rcases bind_ok_iff.1 ended with ⟨act, -, acted⟩
    exact proc_act_requested acted

end Requests

end IotgoFirmware.Timers.TimerProc
