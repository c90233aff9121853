import IotgoFirmware.Timers.TimerProc

/-!
# The buffers a timer is parsed into

`generateTimer` with every write to the fields of the timer and to the 30 bytes of
`timer_gmt` and `buffer` checked: `strncpy` writes as many bytes as it is told to,
whatever it copies. The week days have a buffer of their own; a timer that leaves it
is not followed further.
-/

namespace IotgoFirmware.Timers.TimerBuffers

open IotgoFirmware.Library.CFaults
open IotgoFirmware.Library.CJsonItems
open IotgoFirmware.Library.CStrings
open IotgoFirmware.Timers.TimerClock
open IotgoFirmware.Timers.TimerJson
open IotgoFirmware.Timers.TimerLayout
open IotgoFirmware.Timers.TimerProc

set_option autoImplicit false

/-- `os_strncpy` to `buffer`, and the terminator at `buffer[field_len]`. A negative length
is converted to one beyond all memory. -/
def copyField (source : List UInt8) (fieldLen : Int) : Checked (List UInt8) :=
  if fieldLen < 0 ∨ 30 < fieldLen then .error .outside
  else do
    writeTo 30 fieldLen.toNat
    return cString (source.take fieldLen.toNat)

/-- `str_len` has eight bits, the lengths of the fields are subtracted from it. -/
def parseFromATString (atStr : List UInt8) : Checked (Option (List UInt8 × UInt32 × UInt32)) :=
  let strLen := strlen atStr % 256
  if strLen ≤ gmtStringMinLength then .ok none
  else
    match strstr atStr (asciiBytes " ") with
    | none => .ok none
    | some first =>
        if first = 0 then .ok none
        else do
          let buffer ← copyField atStr first
          let gmt ← strcpy 30 buffer
          let p := first + 1
          match strstr (atStr.drop p) (asciiBytes " ") with
          | none => do
              let buffer ← copyField (atStr.drop p) ((strLen : Int) - p)
              let interval := UInt32.ofInt (atoi buffer)
              if interval = 0 then return none else return some (gmt, interval, 0)
          | some second => do
              let buffer ← copyField (atStr.drop p) second
              let interval := UInt32.ofInt (atoi buffer)
              if interval = 0 then return none
              else do
                let p := p + second + 1
                let buffer ← copyField (atStr.drop p) ((strLen : Int) - p)
                return some (gmt, interval, UInt32.ofInt (atoi buffer))

section Generate

variable (print : CJsonItem → List UInt8) (behind : List UInt8) (timer : IotgoTimer)
  (cjsonTimer : CJsonItem)

def getTiming (text : List UInt8) : Checked (Option IotgoTimer) :=
  match timer.type with
  | .once => .ok ((parseGMTTimeFromString text).map (setGmt timer))
  | .repeat =>
      match parseCronFromString (text ++ 0 :: behind) with
      | .error _ => .ok none
      | .ok cron => .ok (cron.map (setCron timer))
  | .duration => do
      match ← parseFromATString text with
      | none => return none
      | some (gmt, interval, duration) =>
          return (parseGMTTimeFromString gmt).map
            (setGmt { timer with timeInterval := interval, timeDuration := duration })
  | .invalid => .ok none

def getTImerAt : Checked (Option IotgoTimer) :=
  match cJSONGetObjectItem cjsonTimer (asciiBytes "at") with
  | some (.string valuestring) => do
      let text ← strcpy 30 valuestring
      getTiming behind { timer with timerAt := fun index => text.getD index 0 } text
  | _ => .ok none

def generateTimer : Checked (Option IotgoTimer) :=
  match ((getTimerId timer cjsonTimer).bind (getTimerEnabled · cjsonTimer)).bind
      (getTimerType · cjsonTimer) with
  | none => .ok none
  | some typed => do
      match ← getTImerAt behind typed cjsonTimer with
      | none => return none
      | some timed => getTimerAction print timed cjsonTimer

end Generate

section Fields

variable {atStr : List UInt8}

theorem copy_field_ok {source : List UInt8} {count : Nat} (inside : count < 30) :
    copyField source count = .ok (cString (source.take count)) := by
  have kept : ¬ ((count : Int) < 0 ∨ 30 < (count : Int)) := by omega
  rw [copyField, if_neg kept, Int.toNat_natCast, writeTo, if_pos inside]
  rfl

theorem copy_rest_ok {source : List UInt8} {rest : Int} (nulFree : (0 : UInt8) ∉ source)
    (whole : rest = source.length) (fits : source.length < 30) :
    copyField source rest = .ok source := by
  rw [whole, copy_field_ok fits, List.take_length, c_string_of_nul_free nulFree]

theorem strcpy_fits {text : List UInt8} (nulFree : (0 : UInt8) ∉ text) (fits : text.length < 30) :
    strcpy 30 text = .ok text := by
  rw [strcpy, strlen, c_string_of_nul_free nulFree, if_pos fits]

theorem strstr_bound {memory pattern : List UInt8} {index : Nat}
    (found : strstr memory pattern = some index) : index + pattern.length ≤ memory.length :=
  (find_text_bound found).trans (strlen_le_length memory)

/-- A text that fits `at` has fields that fit the buffers; the parts are those of the
parser without buffers. -/
theorem parse_from_at_fits (nulFree : (0 : UInt8) ∉ atStr) (fits : atStr.length < 30) :
    parseFromATString atStr = .ok (TimerJson.parseFromATString atStr) := by
  have length : strlen atStr % 256 = atStr.length := by
    rw [strlen, c_string_of_nul_free nulFree]
    omega
  have inTail : ∀ count, (0 : UInt8) ∉ atStr.drop count :=
    fun count member => nulFree (List.mem_of_mem_drop member)
  have inPart : ∀ count, (0 : UInt8) ∉ atStr.take count :=
    fun count member => nulFree (List.mem_of_mem_take member)
  unfold parseFromATString TimerJson.parseFromATString
  rw [length]
  dsimp only
  by_cases short : atStr.length ≤ gmtStringMinLength
  · rw [if_pos short, if_pos short]
  · rw [if_neg short, if_neg short]
    cases blank : strstr atStr (asciiBytes " ") with
    | none => rfl
    | some first =>
        have before := strstr_bound blank
        have room : first + 1 ≤ atStr.length := before
        dsimp only
        by_cases zero : first = 0
        · rw [if_pos zero, if_pos zero]
        · have firstField : copyField atStr first = .ok (atStr.take first) := by
            rw [copy_field_ok (by omega), c_string_of_nul_free (inPart first)]
          have gmt : strcpy 30 (atStr.take first) = .ok (atStr.take first) := by
            refine strcpy_fits (inPart first) ?_
            rw [List.length_take]
            omega
          rw [if_neg zero, if_neg zero, firstField]
          simp only [bind_ok, gmt]
          cases next : strstr (atStr.drop (first + 1)) (asciiBytes " ") with
          | none =>
              have last : copyField (atStr.drop (first + 1))
                  ((atStr.length : Int) - (first + 1 : Nat)) = .ok (atStr.drop (first + 1)) := by
                refine copy_rest_ok (inTail _) ?_ ?_ <;> rw [List.length_drop] <;> omega
              simp only [last, bind_ok]
              split <;> rfl
          | some second =>
              have behind := strstr_bound next
              rw [List.length_drop] at behind
              have more : second + 1 ≤ atStr.length - (first + 1) := behind
              have middle : copyField (atStr.drop (first + 1)) second =
                  .ok ((atStr.drop (first + 1)).take second) := by
                rw [copy_field_ok (by omega), c_string_of_nul_free]
                exact fun member => inTail _ (List.mem_of_mem_take member)
              have last : copyField (atStr.drop (first + 1 + second + 1))
                  ((atStr.length : Int) - (first + 1 + second + 1 : Nat)) =
                  .ok (atStr.drop (first + 1 + second + 1)) := by
                refine copy_rest_ok (inTail _) ?_ ?_ <;> rw [List.length_drop] <;> omega
              have tail : (atStr.drop (first + 1)).drop (second + 1) =
                  atStr.drop (first + 1 + second + 1) := by
                rw [List.drop_drop, ← Nat.add_assoc]
              simp only [middle, last, bind_ok, fieldValue, List.drop_zero, tail]
              split <;> rfl

end Fields

section Completion

variable {print : CJsonItem → List UInt8} {behind : List UInt8} {start typed : IotgoTimer}
  {cjsonTimer : CJsonItem}

/-- The times that are parsed are those of the parser without buffers, but for the week
days that leave theirs. -/
theorem get_timing_eq {text : List UInt8} (nulFree : (0 : UInt8) ∉ text)
    (fits : text.length < 30) :
    ∃ timed, getTiming behind typed text = .ok timed ∧
      ∀ timer, TimerJson.getTiming behind typed text = .ok (some timer) ↔ timed = some timer := by
  unfold getTiming TimerJson.getTiming
  cases typed.type with
  | once => exact ⟨_, rfl, fun timer => by simp⟩
  | invalid => exact ⟨none, rfl, fun timer => by simp⟩
  | duration =>
      rw [parse_from_at_fits nulFree fits]
      simp only [bind_ok]
      cases TimerJson.parseFromATString text with
      | none => exact ⟨none, rfl, fun timer => by simp⟩
      | some fields => exact ⟨_, rfl, fun timer => by simp⟩
  | «repeat» =>
      dsimp only
      cases parseCronFromString (text ++ 0 :: behind) with
      | error fault =>
          refine ⟨none, rfl, fun timer => ?_⟩
          constructor <;> intro impossible <;> cases impossible
      | ok cron => exact ⟨_, rfl, fun timer => by simp⟩

theorem get_timer_at_completes_iff :
    Completes (getTImerAt behind typed cjsonTimer) ↔
      ∀ memory, cJSONGetObjectItem cjsonTimer (asciiBytes "at") = some (.string memory) →
        strlen memory < 30 := by
  unfold getTImerAt
  split
  · rename_i memory found
    rw [found]
    simp only [Option.some.injEq, CJsonItem.string.injEq, forall_eq']
    rw [← completes_strcpy_iff]
    constructor
    · intro completes
      obtain ⟨text, copied, -⟩ := completes_bind_iff.1 completes
      exact ⟨text, copied⟩
    · rintro ⟨text, copied⟩
      obtain ⟨fits, rfl⟩ := strcpy_ok_iff.1 copied
      obtain ⟨timed, done, -⟩ := @get_timing_eq behind
        { typed with timerAt := fun index => (cString memory).getD index 0 } _
        (c_string_nul_free memory) fits
      exact completes_bind_iff.2 ⟨_, copied, timed, done⟩
  · rename_i other
    refine iff_of_true (completes_ok none) fun memory found => ?_
    exact absurd found (other memory)

theorem get_timer_at_some_iff {timed : IotgoTimer} :
    getTImerAt behind typed cjsonTimer = .ok (some timed) ↔
      TimerJson.getTImerAt behind typed cjsonTimer = .ok (some timed) := by
  unfold getTImerAt TimerJson.getTImerAt
  generalize cJSONGetObjectItem cjsonTimer (asciiBytes "at") = member
  by_cases text : ∃ memory, member = some (.string memory)
  · obtain ⟨memory, rfl⟩ := text
    dsimp only
    rw [bind_ok_iff, bind_ok_iff]
    refine exists_congr fun text => and_congr_right fun copied => ?_
    obtain ⟨fits, rfl⟩ := strcpy_ok_iff.1 copied
    obtain ⟨result, done, same⟩ := @get_timing_eq behind
      { typed with timerAt := fun index => (cString memory).getD index 0 } _
      (c_string_nul_free memory) fits
    rw [done, same, Except.ok.injEq]
  · cases member with
    | none => exact Iff.rfl
    | some item =>
        cases item
        case string memory => exact absurd ⟨memory, rfl⟩ text
        all_goals exact Iff.rfl

/-- The text of the time fits `at`, and once the time is taken the actions fit their
fields. -/
def BuffersFit (print : CJsonItem → List UInt8) (behind : List UInt8) (start : IotgoTimer)
    (cjsonTimer : CJsonItem) : Prop :=
  ∀ typed, ((getTimerId start cjsonTimer).bind (getTimerEnabled · cjsonTimer)).bind
      (getTimerType · cjsonTimer) = some typed →
    (∀ memory, cJSONGetObjectItem cjsonTimer (asciiBytes "at") = some (.string memory) →
      strlen memory < 30) ∧
    ∀ timed, TimerJson.getTImerAt behind typed cjsonTimer = .ok (some timed) →
      ActionFits print cjsonTimer

/-- The buffers of the parser are never left; `at` and the fields of the actions are left
if and only if a text is too long for them when it is copied. -/
theorem timer_parsing_inside_iff (print : CJsonItem → List UInt8) (behind : List UInt8)
    (start : IotgoTimer) (cjsonTimer : CJsonItem) :
    (∃ stored, generateTimer print behind start cjsonTimer = .ok stored) ↔
      BuffersFit print behind start cjsonTimer := by
  change Completes (generateTimer print behind start cjsonTimer) ↔ _
  unfold generateTimer BuffersFit
  cases ((getTimerId start cjsonTimer).bind (getTimerEnabled · cjsonTimer)).bind
      (getTimerType · cjsonTimer) with
  | none => simp [completes_ok]
  | some typed =>
      simp only [Option.some.injEq, forall_eq']
      rw [completes_bind_iff, ← get_timer_at_completes_iff]
      constructor
      · rintro ⟨timing, done, later⟩
        refine ⟨⟨timing, done⟩, fun timed same => ?_⟩
        rw [← get_timer_at_some_iff, done] at same
        cases same
        exact get_timer_action_completes_iff.1 later
      · rintro ⟨⟨timing, done⟩, fits⟩
        refine ⟨timing, done, ?_⟩
        cases timing with
        | none => exact completes_pure none
        | some timed =>
            exact get_timer_action_completes_iff.2 (fits timed (get_timer_at_some_iff.1 done))

theorem generated_eq {timer : IotgoTimer} :
    generateTimer print behind start cjsonTimer = .ok (some timer) ↔
      TimerJson.generateTimer print behind start cjsonTimer = .ok (some timer) := by
  unfold generateTimer TimerJson.generateTimer
  cases ((getTimerId start cjsonTimer).bind (getTimerEnabled · cjsonTimer)).bind
      (getTimerType · cjsonTimer) with
  | none => exact Iff.rfl
  | some typed =>
      dsimp only
      rw [bind_ok_iff, bind_ok_iff]
      constructor
      · rintro ⟨timing, done, later⟩
        cases timing with
        | none => cases later
        | some timed => exact ⟨some timed, get_timer_at_some_iff.1 done, later⟩
      · rintro ⟨timing, done, later⟩
        cases timing with
        | none => cases later
        | some timed => exact ⟨some timed, get_timer_at_some_iff.2 done, later⟩

/-- A text of thirty letters for the time of a timer. -/
def longTime : CJsonItem :=
  .object [(asciiBytes "id", .number 0 0), (asciiBytes "enabled", .number 1 1),
    (asciiBytes "type", .string (asciiBytes "once")),
    (asciiBytes "at", .string (List.replicate 30 97)), (asciiBytes "do", .object [])]

/-- The terminator is written behind `at`, before the text is looked at. -/
theorem long_time_leaves_at :
    ¬ ∃ stored, generateTimer (fun _ => [123, 125]) [] .zero longTime = .ok stored := by
  rintro ⟨stored, done⟩
  have outside : generateTimer (fun _ => [123, 125]) [] .zero longTime =
      .error .outside := rfl
  rw [outside] at done
  cases done

end Completion

end IotgoFirmware.Timers.TimerBuffers
