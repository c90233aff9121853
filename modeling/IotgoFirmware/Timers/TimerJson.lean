import Mathlib.Data.List.GetD
import IotgoFirmware.Library.CFaults
import IotgoFirmware.Library.CJsonItems
import IotgoFirmware.Timers.TimerClock

/-!
# Timers as JSON objects

`generateTimer` and `createTimerObjcet` of `iotgo_loctimer.c`. cJSON's parser and
printer are parameters, and there is memory for what is created. What lies in memory
behind the terminator of a string is a parameter too: `parseCronFromString` skips four
bytes without looking at them.
-/

namespace IotgoFirmware.Timers.TimerJson

open IotgoFirmware.Library.CFaults
open IotgoFirmware.Library.CJsonItems
open IotgoFirmware.Library.CStrings
open IotgoFirmware.Timers.TimerClock
open IotgoFirmware.Timers.TimerLayout

set_option autoImplicit false

section Memory

variable {size : Nat}

/-- Bytes that are written into an array from an offset on. -/
def placed (offset : Nat) (bytes : List UInt8) (memory : Fin size → UInt8) : Fin size → UInt8 :=
  fun index =>
    if offset ≤ index then bytes.getD (index - offset) (memory index) else memory index

/-- A string in a field that was cleared before. -/
def padded (width : Nat) (text : List UInt8) : List UInt8 :=
  text ++ List.replicate (width - text.length) 0

def setGmt (timer : IotgoTimer) (gmt : IoTgoGMTTime) : IotgoTimer :=
  { timer with
    timing := placed 0 [UInt8.ofNat gmt.year.toNat, UInt8.ofNat (gmt.year.toNat / 256), gmt.month,
      gmt.day, gmt.hour, gmt.minute, gmt.second] timer.timing }

def setCron (timer : IotgoTimer) (cron : IoTgoCron) : IotgoTimer :=
  { timer with timing := placed 0 (List.ofFn cron.weeks ++ [cron.hour, cron.minute]) timer.timing }

end Memory

section Times

def verifyGMTTime (gmt : IoTgoGMTTime) : Bool :=
  2000 < gmt.year ∧ (1 ≤ gmt.month ∧ gmt.month ≤ 12) ∧ (1 ≤ gmt.day ∧ gmt.day ≤ 31) ∧
    gmt.hour ≤ 23 ∧ gmt.minute ≤ 59 ∧ gmt.second ≤ 59

/-- `atoi` of a copy of some bytes. -/
def fieldValue (str : List UInt8) (start count : Nat) : Int :=
  atoi ((str.drop start).take count)

def parseGMTTimeFromString (str : List UInt8) : Option IoTgoGMTTime :=
  if strlen str = 24 ∧ str.getD 10 0 = 84 ∧ str.getD 23 0 = 90 then
    let gmt : IoTgoGMTTime :=
      { year := UInt16.ofInt (fieldValue str 0 4)
        month := UInt8.ofInt (fieldValue str 5 2)
        day := UInt8.ofInt (fieldValue str 8 2)
        hour := UInt8.ofInt (fieldValue str 11 2)
        minute := UInt8.ofInt (fieldValue str 14 2)
        second := UInt8.ofInt (fieldValue str 17 2) }
    if verifyGMTTime gmt then some gmt else none
  else none

/-- One turn of the loop over the week days. -/
def markWeek (weeks : Fin 7 → UInt8) (byte : UInt8) : Option (Fin 7 → UInt8) :=
  if byte = 44 then some weeks
  else if inside : (byte - 48).toNat < 7 then
    some fun day => if day = ⟨(byte - 48).toNat, inside⟩ then 1 else weeks day
  else none

def parseWeeks (buffer : List UInt8) : Option (Fin 7 → UInt8) :=
  if buffer = asciiBytes "*" then some fun _ => 1
  else buffer.foldlM markWeek fun _ => 0

/-- The minute and the hour, and where the second blank stands. -/
def parseMinuteHour (str : List UInt8) : Option (UInt8 × UInt8 × Nat) :=
  if strlen str % 256 < 9 ∨ 23 < strlen str % 256 then none
  else
    match strstr str (asciiBytes " ") with
    | none => none
    | some first =>
        let minute := UInt8.ofInt (fieldValue str 0 first)
        if first = 0 ∨ 59 < minute then none
        else
          match strstr (str.drop (first + 1)) (asciiBytes " ") with
          | none => none
          | some second =>
              let field := (str.drop (first + 1)).take second
              let hour := if field = asciiBytes "*" then 24 else UInt8.ofInt (atoi field)
              if second = 0 ∨ (field ≠ asciiBytes "*" ∧ 23 < hour) then none
              else some (minute, hour, first + 1 + second)

/-- `str` is the memory from the pointer on, beyond the terminator. -/
def parseCronFromString (str : List UInt8) : Checked (Option IoTgoCron) :=
  match parseMinuteHour str with
  | none => .ok none
  | some (minute, hour, blank) => do
      let buffer ← strcpy 25 (str.drop (blank + 5))
      return (parseWeeks buffer).map fun weeks => { weeks, hour, minute }

/-- `GMT_STRING_MIN_LENGTH`. -/
def gmtStringMinLength : Nat := 24

/-- The copy for the GMT time, the interval and the duration. The fields of a text that
fits `at` fit the buffers. -/
def parseFromATString (atStr : List UInt8) : Option (List UInt8 × UInt32 × UInt32) :=
  if strlen atStr % 256 ≤ gmtStringMinLength then none
  else
    match strstr atStr (asciiBytes " ") with
    | none => none
    | some first =>
        if first = 0 then none
        else
          let gmt := atStr.take first
          let rest := atStr.drop (first + 1)
          match strstr rest (asciiBytes " ") with
          | none =>
              let interval := UInt32.ofInt (atoi rest)
              if interval = 0 then none else some (gmt, interval, 0)
          | some second =>
              let interval := UInt32.ofInt (fieldValue rest 0 second)
              if interval = 0 then none
              else some (gmt, interval, UInt32.ofInt (atoi (rest.drop (second + 1))))

end Times

section Generate

variable (print : CJsonItem → List UInt8) (behind : List UInt8) (timer : IotgoTimer)
  (cjsonTimer : CJsonItem)

def getTimerId : Option IotgoTimer :=
  match cJSONGetObjectItem cjsonTimer (asciiBytes "id") with
  | some (.number valueint _) => some { timer with id := UInt8.ofInt valueint }
  | _ => none

def getTimerEnabled : Option IotgoTimer :=
  match cJSONGetObjectItem cjsonTimer (asciiBytes "enabled") with
  | some (.number valueint _) => some { timer with enabled := UInt8.ofInt valueint }
  | _ => none

def typeName : IoTgoTimerType → Option (List UInt8)
  | .once => some (asciiBytes "once")
  | .repeat => some (asciiBytes "repeat")
  | .duration => some (asciiBytes "duration")
  | .invalid => none

def typeOf (name : List UInt8) : IoTgoTimerType :=
  if name = asciiBytes "once" then .once
  else if name = asciiBytes "repeat" then .repeat
  else if name = asciiBytes "duration" then .duration
  else .invalid

def getTimerType : Option IotgoTimer :=
  match cJSONGetObjectItem cjsonTimer (asciiBytes "type") with
  | some (.string valuestring) =>
      if typeOf (cString valuestring) = .invalid then none
      else some { timer with type := typeOf (cString valuestring) }
  | _ => none

/-- The time of a timer whose `at` is the text. -/
def getTiming (text : List UInt8) : Checked (Option IotgoTimer) :=
  match timer.type with
  | .once => .ok ((parseGMTTimeFromString text).map (setGmt timer))
  | .repeat => do
      let cron ← parseCronFromString (text ++ 0 :: behind)
      return cron.map (setCron timer)
  | .duration =>
      .ok ((parseFromATString text).bind fun (gmt, interval, duration) =>
        (parseGMTTimeFromString gmt).map
          (setGmt { timer with timeInterval := interval, timeDuration := duration }))
  | .invalid => .ok none

def getTImerAt : Checked (Option IotgoTimer) :=
  match cJSONGetObjectItem cjsonTimer (asciiBytes "at") with
  | some (.string valuestring) => do
      let text ← strcpy 30 valuestring
      getTiming behind { timer with timerAt := fun index => text.getD index 0 } text
  | _ => .ok none

/-- A member of `time_action` is printed into its field. -/
def storeAction (offset : Nat) (action : CJsonItem) : Checked IotgoTimer := do
  let text ← strcpy 100 (print action)
  return { timer with timeAction := placed offset (padded 100 text) timer.timeAction }

def getTimerAction : Checked (Option IotgoTimer) :=
  match cJSONGetObjectItem cjsonTimer (asciiBytes "do") with
  | some cjsonDo =>
      if cjsonDo.type ≠ .object then .ok none
      else do return some (← storeAction print timer 0 cjsonDo)
  | none =>
      match cJSONGetObjectItem cjsonTimer (asciiBytes "startDo"),
        cJSONGetObjectItem cjsonTimer (asciiBytes "endDo") with
      | some startDo, some endDo =>
          if startDo.type ≠ .object ∨ endDo.type ≠ .object then .ok none
          else do
            let started ← storeAction print timer 0 startDo
            return some (← storeAction print started 100 endDo)
      | _, _ => .ok none

/-- `none` is the result `false`; the callers do not use the timer then. -/
def generateTimer : Checked (Option IotgoTimer) :=
  match ((getTimerId timer cjsonTimer).bind (getTimerEnabled · cjsonTimer)).bind
      (getTimerType · cjsonTimer) with
  | none => .ok none
  | some typed => do
      match ← getTImerAt behind typed cjsonTimer with
      | none => return none
      | some timed => getTimerAction print timed cjsonTimer

end Generate

/-- `action_do` and `start_do` are the same bytes, so the second branch is not
reached with a `start_do`. -/
def createTimerObjcet (parse : List UInt8 → Option CJsonItem) (timer : IotgoTimer) :
    Option CJsonItem :=
  let numbered := cJSONAddNumberToObject (cJSONAddNumberToObject cJSONCreateObject
    (asciiBytes "id") timer.id.toNat) (asciiBytes "enabled") timer.enabled.toNat
  let timed := cJSONAddStringToObject numbered (asciiBytes "at") (cString (List.ofFn timer.timerAt))
  match typeName timer.type with
  | none => none
  | some name =>
      let typed := cJSONAddStringToObject timed (asciiBytes "type") name
      if strlen (actionDo timer) ≠ 0 then
        (parse (cString (actionDo timer))).map (cJSONAddItemToObject typed (asciiBytes "do"))
      else if strlen (actionDo timer) ≠ 0 ∧ strlen (endDo timer) ≠ 0 then
        match parse (cString (actionDo timer)), parse (cString (endDo timer)) with
        | some _, some _ =>
            some (cJSONAddStringToObject (cJSONAddStringToObject typed (asciiBytes "startDo")
              (cString (actionDo timer))) (asciiBytes "endDo") (cString (endDo timer)))
        | _, _ => none
      else none

/-- What C sees of an item: a string ends at its first zero byte. -/
def seen : CJsonItem → CJsonItem
  | .string valuestring => .string (cString valuestring)
  | other => other

def member (object : CJsonItem) (name : String) : Option CJsonItem :=
  (cJSONGetObjectItem object (asciiBytes name)).map seen

/-- `do`, or `startDo` and `endDo`. -/
def actionMembers (object : CJsonItem) : List (String × CJsonItem) :=
  match cJSONGetObjectItem object (asciiBytes "do") with
  | some action => [("do", action)]
  | none =>
      ["startDo", "endDo"].filterMap fun name =>
        (cJSONGetObjectItem object (asciiBytes name)).map (Prod.mk name)

structure SameTimer (left right : CJsonItem) : Prop where
  members : ∀ name ∈ ["id", "enabled", "type", "at"], member left name = member right name
  actions : actionMembers left = actionMembers right

/-- The object made from the timer has the members of the original one, and becomes the
same timer again, whatever lies behind its strings. -/
def RoundTrips (parse : List UInt8 → Option CJsonItem) (print : CJsonItem → List UInt8)
    (start : IotgoTimer) (object : CJsonItem) (timer : IotgoTimer) : Prop :=
  ∃ created, createTimerObjcet parse timer = some created ∧ SameTimer created object ∧
    ∀ behind, generateTimer print behind start created = .ok (some timer)

/-- A number that a byte can hold. -/
def IsByte (item : Option CJsonItem) : Prop :=
  ∃ byte : UInt8, item = some (.number byte.toNat byte.toNat)

/-- The action is a `do`, the numbers fit their bytes, and the text of a repeated timer
has four bytes behind its second blank. -/
structure Storable (object : CJsonItem) : Prop where
  action : cJSONGetObjectItem object (asciiBytes "do") ≠ none
  id : IsByte (cJSONGetObjectItem object (asciiBytes "id"))
  enabled : IsByte (cJSONGetObjectItem object (asciiBytes "enabled"))
  weeks : ∀ text, member object "type" = some (.string (asciiBytes "repeat")) →
    member object "at" = some (.string text) → ∀ minute hour blank,
      parseMinuteHour text = some (minute, hour, blank) → blank + 5 ≤ text.length

section Congruence

variable {left right : CJsonItem} {name : String}

theorem member_cases (same : member left name = member right name) :
    cJSONGetObjectItem left (asciiBytes name) = cJSONGetObjectItem right (asciiBytes name) ∨
      ∃ here there, cJSONGetObjectItem left (asciiBytes name) = some (.string here) ∧
        cJSONGetObjectItem right (asciiBytes name) = some (.string there) ∧
        cString here = cString there := by
  unfold member at same
  generalize cJSONGetObjectItem left (asciiBytes name) = first at same ⊢
  generalize cJSONGetObjectItem right (asciiBytes name) = second at same ⊢
  cases first with
  | none =>
      cases second with
      | none => exact .inl rfl
      | some there => cases same
  | some here =>
      cases second with
      | none => cases same
      | some there =>
          have alike : seen here = seen there := Option.some.inj same
          cases here with
          | string memory =>
              cases there with
              | string other =>
                  have text : cString memory = cString other := by simpa [seen] using alike
                  exact .inr ⟨memory, other, rfl, rfl, text⟩
              | _ => simp [seen] at alike
          | _ => cases there <;> simp_all [seen]

variable (print : CJsonItem → List UInt8) (behind : List UInt8) (timer : IotgoTimer)

theorem get_timer_id_congr (same : member left "id" = member right "id") :
    getTimerId timer left = getTimerId timer right := by
  unfold getTimerId
  rcases member_cases same with equal | ⟨here, there, before, after, -⟩
  · rw [equal]
  · rw [before, after]

theorem get_timer_enabled_congr (same : member left "enabled" = member right "enabled") :
    getTimerEnabled timer left = getTimerEnabled timer right := by
  unfold getTimerEnabled
  rcases member_cases same with equal | ⟨here, there, before, after, -⟩
  · rw [equal]
  · rw [before, after]

theorem get_timer_type_congr (same : member left "type" = member right "type") :
    getTimerType timer left = getTimerType timer right := by
  unfold getTimerType
  rcases member_cases same with equal | ⟨here, there, before, after, text⟩
  · rw [equal]
  · rw [before, after]
    simp only [text]

theorem get_timer_at_congr (same : member left "at" = member right "at") :
    getTImerAt behind timer left = getTImerAt behind timer right := by
  unfold getTImerAt
  rcases member_cases same with equal | ⟨here, there, before, after, text⟩
  · rw [equal]
  · rw [before, after]
    simp only [strcpy_congr text]

theorem lookup_do (object : CJsonItem) :
    (actionMembers object).lookup "do" = cJSONGetObjectItem object (asciiBytes "do") := by
  unfold actionMembers
  generalize cJSONGetObjectItem object (asciiBytes "do") = action
  cases action with
  | some action => rfl
  | none =>
      simp only [List.filterMap_cons, List.filterMap_nil]
      generalize cJSONGetObjectItem object (asciiBytes "startDo") = startDo
      generalize cJSONGetObjectItem object (asciiBytes "endDo") = endDo
      cases startDo <;> cases endDo <;> rfl

theorem lookup_start_end {object : CJsonItem}
    (none : cJSONGetObjectItem object (asciiBytes "do") = none) :
    (actionMembers object).lookup "startDo" = cJSONGetObjectItem object (asciiBytes "startDo") ∧
      (actionMembers object).lookup "endDo" = cJSONGetObjectItem object (asciiBytes "endDo") := by
  unfold actionMembers
  rw [none]
  simp only [List.filterMap_cons, List.filterMap_nil]
  generalize cJSONGetObjectItem object (asciiBytes "startDo") = startDo
  generalize cJSONGetObjectItem object (asciiBytes "endDo") = endDo
  cases startDo <;> cases endDo <;> exact ⟨rfl, rfl⟩

theorem get_timer_action_congr (same : actionMembers left = actionMembers right) :
    getTimerAction print timer left = getTimerAction print timer right := by
  have action : cJSONGetObjectItem left (asciiBytes "do") =
      cJSONGetObjectItem right (asciiBytes "do") := by
    rw [← lookup_do left, same, lookup_do right]
  unfold getTimerAction
  rw [← action]
  cases present : cJSONGetObjectItem left (asciiBytes "do") with
  | some cjsonDo => rfl
  | none =>
      have here := lookup_start_end present
      have there := lookup_start_end (action.symm.trans present)
      rw [same] at here
      rw [← here.1, ← here.2, there.1, there.2]

theorem generate_timer_congr (same : SameTimer left right) :
    generateTimer print behind timer left = generateTimer print behind timer right := by
  have at_id := get_timer_id_congr timer (same.members "id" (by simp))
  unfold generateTimer
  simp only [at_id, get_timer_enabled_congr _ (same.members "enabled" (by simp)),
    get_timer_type_congr _ (same.members "type" (by simp)),
    get_timer_at_congr _ _ (same.members "at" (by simp)),
    get_timer_action_congr _ _ same.actions]

end Congruence

section Fields

variable {size : Nat} {text : List UInt8}

theorem c_string_of_fn {field : Fin size → UInt8} (nulFree : (0 : UInt8) ∉ text)
    (short : text.length < size)
    (bytes : ∀ index : Fin size, index.val ≤ text.length → field index = text.getD index 0) :
    cString (List.ofFn field) = text := by
  have split : List.ofFn field = text ++ 0 :: (List.ofFn field).drop (text.length + 1) := by
    apply List.ext_getElem
    · simp
      omega
    · intro index inside _
      have bound : index < size := by simpa using inside
      rw [List.getElem_ofFn]
      rcases Nat.lt_trichotomy index text.length with before | same | behind
      · rw [bytes ⟨index, bound⟩ (Nat.le_of_lt before), List.getElem_append_left before,
          List.getD_eq_getElem _ _ before]
      · subst same
        rw [bytes ⟨text.length, bound⟩ (Nat.le_refl _), List.getElem_append_right (Nat.le_refl _)]
        simp
      · rw [List.getElem_append_right (Nat.le_of_lt behind)]
        simp only [List.getElem_cons, List.getElem_drop, List.getElem_ofFn]
        rw [dif_neg (by omega)]
        congr 2
        omega
  rw [split]
  exact c_string_terminated _ nulFree

theorem padded_get {width index : Nat} (fits : text.length ≤ width) (inside : index < width)
    (byte : UInt8) : (padded width text).getD index byte = text.getD index 0 := by
  unfold padded
  by_cases before : index < text.length
  · rw [List.getD_append _ _ _ _ before, List.getD_eq_getElem _ _ before,
      List.getD_eq_getElem _ _ before]
  · have after : text.length ≤ index := Nat.le_of_not_lt before
    rw [List.getD_append_right _ _ _ _ after, List.getD_eq_default text _ after,
      List.getD_eq_getElem _ _ (by simp; omega), List.getElem_replicate]

theorem action_do_text {timer : IotgoTimer} {memory : Fin 200 → UInt8}
    (nulFree : (0 : UInt8) ∉ text) (short : text.length < 100)
    (bytes : ∀ index : Fin 200, index.val < 100 →
      timer.timeAction index = placed 0 (padded 100 text) memory index) :
    cString (actionDo timer) = text := by
  rw [actionDo, actionFrom, List.drop_zero]
  apply c_string_of_fn nulFree (by omega)
  intro index inside
  have low : index.val < 100 := by omega
  rw [bytes index low, placed, if_pos (Nat.zero_le _), Nat.sub_zero]
  exact padded_get (Nat.le_of_lt short) low _

end Fields

section Generated

variable {print : CJsonItem → List UInt8} {behind text : List UInt8}
  {start timer typed timed : IotgoTimer} {object : CJsonItem}

theorem generate_timer_parts
    (accepted : generateTimer print behind start object = .ok (some timer)) :
    ∃ typed timed,
      ((getTimerId start object).bind (getTimerEnabled · object)).bind (getTimerType · object) =
        some typed ∧
      getTImerAt behind typed object = .ok (some timed) ∧
      getTimerAction print timed object = .ok (some timer) := by
  unfold generateTimer at accepted
  cases head : ((getTimerId start object).bind (getTimerEnabled · object)).bind
      (getTimerType · object) with
  | none =>
      rw [head] at accepted
      cases accepted
  | some typed =>
      rw [head] at accepted
      rcases bind_ok_iff.1 accepted with ⟨timed, atDone, later⟩
      cases timed with
      | none => cases later
      | some timed => exact ⟨typed, timed, rfl, atDone, later⟩

theorem type_of_name {name : List UInt8} (valid : typeOf name ≠ .invalid) :
    typeName (typeOf name) = some name := by
  revert valid
  unfold typeOf
  split_ifs with once again duration
  · intro _
    rw [once]
    rfl
  · intro _
    rw [again]
    rfl
  · intro _
    rw [duration]
    rfl
  · intro valid
    exact absurd rfl valid

theorem typed_members
    (head : ((getTimerId start object).bind (getTimerEnabled · object)).bind
      (getTimerType · object) = some typed) :
    (∃ valueint valuedouble, cJSONGetObjectItem object (asciiBytes "id") =
        some (.number valueint valuedouble) ∧ typed.id = UInt8.ofInt valueint) ∧
      (∃ valueint valuedouble, cJSONGetObjectItem object (asciiBytes "enabled") =
        some (.number valueint valuedouble) ∧ typed.enabled = UInt8.ofInt valueint) ∧
      ∃ name, member object "type" = some (.string name) ∧ typeName typed.type = some name := by
  rcases Option.bind_eq_some_iff.1 head with ⟨enabled, before, typeDone⟩
  rcases Option.bind_eq_some_iff.1 before with ⟨numbered, idDone, enabledDone⟩
  unfold getTimerId at idDone
  split at idDone
  · rename_i id idDouble idItem
    unfold getTimerEnabled at enabledDone
    split at enabledDone
    · rename_i value valueDouble enabledItem
      unfold getTimerType at typeDone
      split at typeDone
      · rename_i memory typeItem
        split at typeDone
        · cases typeDone
        · rename_i valid
          cases idDone
          cases enabledDone
          cases typeDone
          refine ⟨⟨id, idDouble, idItem, rfl⟩, ⟨value, valueDouble, enabledItem, rfl⟩,
            cString memory, ?_, type_of_name valid⟩
          rw [member, typeItem]
          rfl
      · cases typeDone
    · cases enabledDone
  · cases idDone

/-- Everything but the time and the action. -/
structure SameHead (left right : IotgoTimer) : Prop where
  id : left.id = right.id
  enabled : left.enabled = right.enabled
  type : left.type = right.type
  timerAt : left.timerAt = right.timerAt

theorem get_timing_keeps (timing : getTiming behind typed text = .ok (some timed)) :
    SameHead timed typed := by
  unfold getTiming at timing
  split at timing
  · rcases Option.map_eq_some_iff.1 (Except.ok.inj timing) with ⟨gmt, -, rfl⟩
    exact ⟨rfl, rfl, rfl, rfl⟩
  · rcases bind_ok_iff.1 timing with ⟨cron, -, set⟩
    rcases Option.map_eq_some_iff.1 (Except.ok.inj set) with ⟨cron, -, rfl⟩
    exact ⟨rfl, rfl, rfl, rfl⟩
  · rcases Option.bind_eq_some_iff.1 (Except.ok.inj timing) with ⟨parsed, -, set⟩
    rcases Option.map_eq_some_iff.1 set with ⟨gmt, -, rfl⟩
    exact ⟨rfl, rfl, rfl, rfl⟩
  · cases timing

theorem get_timer_at_parts (timing : getTImerAt behind typed object = .ok (some timed)) :
    ∃ memory, cJSONGetObjectItem object (asciiBytes "at") = some (.string memory) ∧
      strlen memory < 30 ∧
      getTiming behind { typed with timerAt := fun index => (cString memory).getD index 0 }
        (cString memory) = .ok (some timed) := by
  unfold getTImerAt at timing
  split at timing
  · rename_i memory found
    rcases bind_ok_iff.1 timing with ⟨copied, copy, later⟩
    rcases strcpy_ok_iff.1 copy with ⟨fits, rfl⟩
    exact ⟨memory, found, fits, later⟩
  · cases timing

theorem store_action_parts {offset : Nat} {action : CJsonItem}
    (stored : storeAction print typed offset action = .ok timed) :
    strlen (print action) < 100 ∧ timed =
      { typed with
        timeAction := placed offset (padded 100 (cString (print action))) typed.timeAction } := by
  rcases bind_ok_iff.1 stored with ⟨copied, copy, later⟩
  rcases strcpy_ok_iff.1 copy with ⟨fits, rfl⟩
  cases later
  exact ⟨fits, rfl⟩

theorem get_timer_action_parts (done : getTimerAction print timed object = .ok (some timer)) :
    SameHead timer timed ∧
      ∀ action, cJSONGetObjectItem object (asciiBytes "do") = some action →
        cString (actionDo timer) = cString (print action) := by
  unfold getTimerAction at done
  split at done
  · rename_i cjsonDo found
    split at done
    · cases done
    · rcases bind_ok_iff.1 done with ⟨stored, store, later⟩
      cases later
      rcases store_action_parts store with ⟨fits, rfl⟩
      refine ⟨⟨rfl, rfl, rfl, rfl⟩, ?_⟩
      intro action same
      rw [found] at same
      cases same
      exact action_do_text (c_string_nul_free _) fits fun _ _ => rfl
  · rename_i missing
    refine ⟨?_, fun action same => absurd (missing.symm.trans same) (by simp)⟩
    split at done
    · split at done
      · cases done
      · rcases bind_ok_iff.1 done with ⟨started, first, later⟩
        rcases bind_ok_iff.1 later with ⟨stored, second, last⟩
        cases last
        rcases store_action_parts first with ⟨-, rfl⟩
        rcases store_action_parts second with ⟨-, rfl⟩
        exact ⟨rfl, rfl, rfl, rfl⟩
    · cases done

theorem generated_members
    (accepted : generateTimer print behind start object = .ok (some timer)) :
    (∃ valueint valuedouble, cJSONGetObjectItem object (asciiBytes "id") =
        some (.number valueint valuedouble) ∧ timer.id = UInt8.ofInt valueint) ∧
      (∃ valueint valuedouble, cJSONGetObjectItem object (asciiBytes "enabled") =
        some (.number valueint valuedouble) ∧ timer.enabled = UInt8.ofInt valueint) ∧
      (∃ name, member object "type" = some (.string name) ∧ typeName timer.type = some name) ∧
      member object "at" = some (.string (cString (List.ofFn timer.timerAt))) ∧
      ∀ action, cJSONGetObjectItem object (asciiBytes "do") = some action →
        cString (actionDo timer) = cString (print action) := by
  rcases generate_timer_parts accepted with ⟨typed, timed, head, timing, done⟩
  rcases typed_members head with ⟨id, enabled, type⟩
  rcases get_timer_at_parts timing with ⟨memory, found, fits, set⟩
  have kept := get_timing_keeps set
  rcases get_timer_action_parts done with ⟨same, action⟩
  have text : cString (List.ofFn timer.timerAt) = cString memory := by
    rw [same.timerAt, kept.timerAt]
    exact c_string_of_fn (c_string_nul_free memory) fits fun _ _ => rfl
  rw [same.id, kept.id, same.enabled, kept.enabled, same.type, kept.type]
  refine ⟨id, enabled, type, ?_, action⟩
  rw [member, found, text]
  rfl

end Generated

section Behind

variable {text : List UInt8}

theorem strstr_behind (nulFree : (0 : UInt8) ∉ text) (behind pattern : List UInt8) :
    strstr (text ++ 0 :: behind) pattern = strstr text pattern := by
  rw [strstr, strstr, c_string_terminated behind nulFree, c_string_of_nul_free nulFree]

theorem strstr_bound (nulFree : (0 : UInt8) ∉ text) {index : Nat}
    (found : strstr text (asciiBytes " ") = some index) : index + 1 ≤ text.length := by
  rw [strstr, c_string_of_nul_free nulFree] at found
  exact find_text_bound found

theorem parse_minute_hour_behind (nulFree : (0 : UInt8) ∉ text) (behind : List UInt8) :
    parseMinuteHour (text ++ 0 :: behind) = parseMinuteHour text := by
  have length : strlen (text ++ 0 :: behind) = strlen text := by
    rw [strlen, strlen, c_string_terminated behind nulFree, c_string_of_nul_free nulFree]
  unfold parseMinuteHour
  rw [length, strstr_behind nulFree]
  cases found : strstr text (asciiBytes " ") with
  | none => rfl
  | some first =>
      have inside := strstr_bound nulFree found
      have minute : fieldValue (text ++ 0 :: behind) 0 first = fieldValue text 0 first := by
        rw [fieldValue, fieldValue, List.drop_zero, List.drop_zero,
          List.take_append_of_le_length (Nat.le_of_succ_le inside)]
      have rest : (text ++ 0 :: behind).drop (first + 1) = text.drop (first + 1) ++ 0 :: behind :=
        List.drop_append_of_le_length inside
      have later : (0 : UInt8) ∉ text.drop (first + 1) := fun zero =>
        nulFree (List.mem_of_mem_drop zero)
      dsimp only
      rw [minute, rest, strstr_behind later]
      cases found' : strstr (text.drop (first + 1)) (asciiBytes " ") with
      | none => rfl
      | some second =>
          have bound := strstr_bound later found'
          dsimp only
          rw [List.take_append_of_le_length (Nat.le_of_succ_le bound)]

theorem parse_cron_behind (nulFree : (0 : UInt8) ∉ text)
    (reaches : ∀ minute hour blank, parseMinuteHour text = some (minute, hour, blank) →
      blank + 5 ≤ text.length) (behind other : List UInt8) :
    parseCronFromString (text ++ 0 :: behind) = parseCronFromString (text ++ 0 :: other) := by
  unfold parseCronFromString
  rw [parse_minute_hour_behind nulFree, parse_minute_hour_behind nulFree]
  cases parsed : parseMinuteHour text with
  | none => rfl
  | some fields =>
      rcases fields with ⟨minute, hour, blank⟩
      have inside := reaches minute hour blank parsed
      have later : (0 : UInt8) ∉ text.drop (blank + 5) := fun zero =>
        nulFree (List.mem_of_mem_drop zero)
      have days : strcpy 25 ((text ++ 0 :: behind).drop (blank + 5)) =
          strcpy 25 ((text ++ 0 :: other).drop (blank + 5)) := by
        apply strcpy_congr
        rw [List.drop_append_of_le_length inside, List.drop_append_of_le_length inside,
          c_string_terminated _ later, c_string_terminated _ later]
      dsimp only
      rw [days]

/-- Bytes behind the terminator of a shorter text with which it is refused: a `9`
where the week days are read. -/
def refusedBehind (text : List UInt8) (blank : Nat) : List UInt8 :=
  List.replicate (blank + 4 - text.length) 0 ++ [57]

theorem parse_cron_refused (nulFree : (0 : UInt8) ∉ text) {minute hour : UInt8} {blank : Nat}
    (parsed : parseMinuteHour text = some (minute, hour, blank))
    (short : text.length < blank + 5) :
    parseCronFromString (text ++ 0 :: refusedBehind text blank) = .ok none := by
  have days : (text ++ 0 :: refusedBehind text blank).drop (blank + 5) = [57] := by
    have position : blank + 5 - text.length = blank + 4 - text.length + 1 := by omega
    rw [List.drop_append, List.drop_eq_nil_of_le (Nat.le_of_lt short), List.nil_append, position,
      List.drop_succ_cons, refusedBehind]
    exact List.drop_left' List.length_replicate
  unfold parseCronFromString
  rw [parse_minute_hour_behind nulFree, parsed]
  dsimp only
  rw [days]
  rfl

end Behind

theorem type_name_seen {type : IoTgoTimerType} {name : List UInt8}
    (known : typeName type = some name) : cString name = name := by
  cases type with
  | invalid => cases known
  | once =>
      cases known
      decide
  | «repeat» =>
      cases known
      decide
  | duration =>
      cases known
      decide

section RoundTrip

variable {parse : List UInt8 → Option CJsonItem} {print : CJsonItem → List UInt8}
  {behind : List UInt8} {start timer : IotgoTimer} {object created : CJsonItem}

theorem created_members (made : createTimerObjcet parse timer = some created) :
    member created "id" = some (.number timer.id.toNat timer.id.toNat) ∧
      member created "enabled" = some (.number timer.enabled.toNat timer.enabled.toNat) ∧
      member created "at" = some (.string (cString (List.ofFn timer.timerAt))) ∧
      member created "type" = (typeName timer.type).map CJsonItem.string ∧
      ∃ action, parse (cString (actionDo timer)) = some action ∧
        actionMembers created = [("do", action)] := by
  unfold createTimerObjcet at made
  cases known : typeName timer.type with
  | none =>
      rw [known] at made
      cases made
  | some name =>
      rw [known] at made
      dsimp only at made
      split at made
      · rcases Option.map_eq_some_iff.1 made with ⟨action, parsed, rfl⟩
        refine ⟨rfl, rfl, ?_, ?_, action, parsed, rfl⟩
        · change some (CJsonItem.string (cString (cString (List.ofFn timer.timerAt)))) = _
          rw [c_string_idem]
        · change some (CJsonItem.string (cString name)) = some (CJsonItem.string name)
          rw [type_name_seen known]
      · split at made
        · rename_i empty both
          exact absurd both.1 empty
        · cases made

theorem created_of_do {action : CJsonItem} {name : List UInt8}
    (known : typeName timer.type = some name) (malformed : parse [] = none)
    (parsed : parse (cString (actionDo timer)) = some action) :
    ∃ created, createTimerObjcet parse timer = some created := by
  have nonempty : strlen (actionDo timer) ≠ 0 := by
    intro empty
    rw [List.eq_nil_of_length_eq_zero empty, malformed] at parsed
    cases parsed
  unfold createTimerObjcet
  rw [known]
  dsimp only
  rw [if_pos nonempty, parsed]
  exact ⟨_, rfl⟩

theorem member_number {name : String} {valueint : Int} {valuedouble : Rat} :
    member object name = some (.number valueint valuedouble) ↔
      cJSONGetObjectItem object (asciiBytes name) = some (.number valueint valuedouble) := by
  unfold member
  cases cJSONGetObjectItem object (asciiBytes name) with
  | none => simp
  | some item => cases item <;> simp [seen]

theorem repeat_member {typed : IotgoTimer}
    (head : ((getTimerId start object).bind (getTimerEnabled · object)).bind
      (getTimerType · object) = some typed) (again : typed.type = .repeat) :
    member object "type" = some (.string (asciiBytes "repeat")) := by
  rcases (typed_members head).2.2 with ⟨name, found, known⟩
  rw [again] at known
  cases known
  exact found

theorem get_timing_behind {typed : IotgoTimer} {text : List UInt8} (nulFree : (0 : UInt8) ∉ text)
    (behind other : List UInt8)
    (reaches : typed.type = .repeat → ∀ minute hour blank,
      parseMinuteHour text = some (minute, hour, blank) → blank + 5 ≤ text.length) :
    getTiming behind typed text = getTiming other typed text := by
  unfold getTiming
  cases type : typed.type with
  | once => rfl
  | duration => rfl
  | invalid => rfl
  | «repeat» =>
      dsimp only
      rw [parse_cron_behind nulFree (reaches type) behind other]

theorem generate_timer_behind (storable : Storable object) (behind other : List UInt8) :
    generateTimer print behind start object = generateTimer print other start object := by
  unfold generateTimer
  cases head : ((getTimerId start object).bind (getTimerEnabled · object)).bind
      (getTimerType · object) with
  | none => rfl
  | some typed =>
      have timing : getTImerAt behind typed object = getTImerAt other typed object := by
        unfold getTImerAt
        split
        · rename_i memory found
          by_cases fits : strlen memory < 30
          · have copy : strcpy 30 memory = .ok (cString memory) := strcpy_ok_iff.2 ⟨fits, rfl⟩
            rw [copy]
            exact get_timing_behind (c_string_nul_free memory) behind other fun again =>
              storable.weeks (cString memory) (repeat_member head again) (by rw [member, found]; rfl)
          · have refused : strcpy 30 memory = .error .outside := if_neg fits
            rw [refused]
            rfl
        · rfl
      dsimp only
      rw [timing]

theorem byte_item {valueint : Int} {valuedouble : Rat} {item : Option CJsonItem} {byte : UInt8}
    (byteItem : IsByte item) (found : item = some (.number valueint valuedouble))
    (stored : byte = UInt8.ofInt valueint) : item = some (.number byte.toNat byte.toNat) := by
  rcases byteItem with ⟨other, same⟩
  rw [same] at found
  cases found
  have small := other.toNat_lt
  have kept : ((other.toNat : Int) % 2 ^ 8).toNat = other.toNat := by omega
  rw [stored, UInt8.ofInt, kept, UInt8.ofNat_toNat, same]

theorem round_trips_of_storable (malformed : parse [] = none)
    (inverse : ∀ action ∈ actionMembers object, parse (cString (print action.2)) = some action.2)
    (accepted : generateTimer print behind start object = .ok (some timer))
    (storable : Storable object) : RoundTrips parse print start object timer := by
  rcases generated_members accepted with
    ⟨⟨id, idDouble, idItem, idStored⟩, ⟨value, valueDouble, enabledItem, enabledStored⟩,
      ⟨name, type, known⟩, timerAt, action⟩
  rcases Option.ne_none_iff_exists'.1 storable.action with ⟨cjsonDo, found⟩
  have actions : actionMembers object = [("do", cjsonDo)] := by
    rw [actionMembers, found]
  have parsed : parse (cString (actionDo timer)) = some cjsonDo := by
    rw [action cjsonDo found]
    apply inverse ("do", cjsonDo)
    rw [actions]
    exact List.mem_singleton_self _
  rcases created_of_do known malformed parsed with ⟨created, made⟩
  rcases created_members made with ⟨idMade, enabledMade, atMade, typeMade, again, parsedAgain, only⟩
  have same : SameTimer created object := by
    constructor
    · intro field listed
      rcases List.mem_cons.1 listed with rfl | listed
      · rw [idMade]
        exact (member_number.2 (byte_item storable.id idItem idStored)).symm
      · rcases List.mem_cons.1 listed with rfl | listed
        · rw [enabledMade]
          exact (member_number.2 (byte_item storable.enabled enabledItem enabledStored)).symm
        · rcases List.mem_cons.1 listed with rfl | listed
          · rw [typeMade, known, type]
            rfl
          · rw [List.mem_singleton.1 listed, atMade, timerAt]
    · rw [only, actions]
      have equal : again = cjsonDo := Option.some.inj (parsedAgain.symm.trans parsed)
      rw [equal]
  refine ⟨created, made, same, ?_⟩
  intro other
  rw [generate_timer_congr print other start same, generate_timer_behind storable other behind]
  exact accepted

theorem storable_of_round_trips
    (trips : RoundTrips parse print start object timer) : Storable object := by
  rcases trips with ⟨created, made, same, again⟩
  rcases created_members made with ⟨idMade, enabledMade, -, -, action, -, only⟩
  constructor
  · rw [← lookup_do, ← same.actions, only]
    exact Option.some_ne_none action
  · refine ⟨timer.id, member_number.1 ?_⟩
    rw [← same.members "id" (by simp)]
    exact idMade
  · refine ⟨timer.enabled, member_number.1 ?_⟩
    rw [← same.members "enabled" (by simp)]
    exact enabledMade
  · intro text type timerAt minute hour blank parsed
    by_contra short
    -- Behind the strings of the object lies what its week days cannot be read from.
    have refused := again (refusedBehind text blank)
    rw [generate_timer_congr print _ start same] at refused
    rcases generate_timer_parts refused with ⟨typed, timed, head, timing, -⟩
    rcases get_timer_at_parts timing with ⟨memory, found, fits, set⟩
    rcases (typed_members head).2.2 with ⟨name, named, known⟩
    have again : typed.type = .repeat := by
      rw [type] at named
      cases named
      cases kind : typed.type with
      | «repeat» => rfl
      | once =>
          rw [kind] at known
          exact absurd known (by decide)
      | duration =>
          rw [kind] at known
          exact absurd known (by decide)
      | invalid =>
          rw [kind] at known
          cases known
    have seenText : cString memory = text := by
      rw [member, found] at timerAt
      exact CJsonItem.string.inj (Option.some.inj timerAt)
    have nulFree : (0 : UInt8) ∉ text := by
      rw [← seenText]
      exact c_string_nul_free memory
    rw [seenText] at set
    unfold getTiming at set
    dsimp only at set
    rw [again] at set
    dsimp only at set
    rw [parse_cron_refused nulFree parsed (Nat.lt_of_not_le short)] at set
    cases set

end RoundTrip

/-- A timer that is accepted comes back as the same object, and as the same timer,
exactly if the object is storable. -/
theorem timer_round_trips_iff {parse : List UInt8 → Option CJsonItem}
    {print : CJsonItem → List UInt8} {behind : List UInt8} {start timer : IotgoTimer}
    {object : CJsonItem} (malformed : parse [] = none)
    (inverse : ∀ action ∈ actionMembers object, parse (cString (print action.2)) = some action.2)
    (accepted : generateTimer print behind start object = .ok (some timer)) :
    RoundTrips parse print start object timer ↔ Storable object :=
  ⟨storable_of_round_trips, round_trips_of_storable malformed inverse accepted⟩

section Instances

def switchOn : CJsonItem :=
  .object [(asciiBytes "switch", .string (asciiBytes "on"))]

def switchOff : CJsonItem :=
  .object [(asciiBytes "switch", .string (asciiBytes "off"))]

/-- The printer and the parser on the two actions. -/
def printSwitch (item : CJsonItem) : List UInt8 :=
  match cJSONGetObjectItem item (asciiBytes "switch") with
  | some (.string valuestring) =>
      asciiBytes "\x7b\"switch\":\"" ++ valuestring ++ asciiBytes "\"\x7d"
  | _ => asciiBytes "\x7b\x7d"

def parseSwitch (text : List UInt8) : Option CJsonItem :=
  if text = printSwitch switchOn then some switchOn
  else if text = printSwitch switchOff then some switchOff
  else none

def timerObject (type timerAt : String) (actions : List (List UInt8 × CJsonItem)) : CJsonItem :=
  .object ([(asciiBytes "id", .number 3 3), (asciiBytes "enabled", .number 1 1),
    (asciiBytes "type", .string (asciiBytes type)),
    (asciiBytes "at", .string (asciiBytes timerAt))] ++ actions)

def cronObject : CJsonItem :=
  timerObject "repeat" "10 8 * * 1" [(asciiBytes "do", switchOn)]

theorem accepted_of_some {run : Checked (Option IotgoTimer)}
    (computed : run.toOption.join.isSome = true) : ∃ timer, run = .ok (some timer) := by
  cases run with
  | error fault => cases computed
  | ok result =>
      cases result with
      | none => cases computed
      | some timer => exact ⟨timer, rfl⟩

theorem timer_round_trips_cron :
    ∃ timer, generateTimer printSwitch [] .zero cronObject = .ok (some timer) ∧
      (RoundTrips parseSwitch printSwitch .zero cronObject timer ↔ Storable cronObject) := by
  rcases @accepted_of_some (generateTimer printSwitch [] .zero cronObject)
    (by decide +kernel) with ⟨timer, accepted⟩
  refine ⟨timer, accepted, timer_round_trips_iff rfl ?_ accepted⟩
  intro action listed
  rw [List.mem_singleton.1 listed]
  rfl

/-- On for nine minutes in every hour. -/
def durationObject : CJsonItem :=
  timerObject "duration" "2016-01-01T08:00:00.000Z 60 9"
    [(asciiBytes "startDo", switchOn), (asciiBytes "endDo", switchOff)]

/-- Of the two actions the first comes back, and under another name. -/
theorem duration_comes_back_changed :
    (∀ action ∈ actionMembers durationObject,
        parseSwitch (cString (printSwitch action.2)) = some action.2) ∧
      ∃ timer, generateTimer printSwitch [] .zero durationObject = .ok (some timer) ∧
        ¬ RoundTrips parseSwitch printSwitch .zero durationObject timer := by
  constructor
  · intro action listed
    rcases List.mem_cons.1 listed with rfl | later
    · rfl
    · rw [List.mem_singleton.1 later]
      rfl
  · rcases @accepted_of_some (generateTimer printSwitch [] .zero durationObject)
      (by decide +kernel) with ⟨timer, accepted⟩
    refine ⟨timer, accepted, fun trips => ?_⟩
    exact (storable_of_round_trips trips).action rfl

end Instances

end IotgoFirmware.Timers.TimerJson
