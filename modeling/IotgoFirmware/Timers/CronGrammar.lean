import Mathlib.Data.List.Infix
import IotgoFirmware.Library.CIntegers
import IotgoFirmware.Timers.TimerJson

/-!
# Cron strings

`parseCronFromString` against the strings that it is for. The minute and the hour are narrowed
to a byte before they are checked, the four bytes behind the second blank are skipped, whatever
they are and whether they are there, and the length is narrowed before the fields are copied to
a buffer of 25 bytes.
-/

namespace IotgoFirmware.Timers.CronGrammar

open IotgoFirmware.Library.CFaults
open IotgoFirmware.Library.CIntegers
open IotgoFirmware.Library.CStrings
open IotgoFirmware.Timers.TimerClock
open IotgoFirmware.Timers.TimerJson (fieldValue markWeek parseWeeks parseMinuteHour
  parse_minute_hour_behind)

set_option autoImplicit false

section Grammar

def dayByte (day : Fin 7) : UInt8 := UInt8.ofNat (48 + day.val)

def dayList (days : List (Fin 7)) : List UInt8 :=
  (days.map dayByte).intersperse 44

structure MinuteText (text : List UInt8) (minute : UInt8) : Prop where
  written : WritesNumber text minute.toNat
  inside : minute ≤ 59

inductive HourText : List UInt8 → UInt8 → Prop
  | every : HourText (asciiBytes "*") 24
  | one {text : List UInt8} {hour : UInt8} (written : WritesNumber text hour.toNat)
      (inside : hour ≤ 23) : HourText text hour

inductive WeeksText : List UInt8 → (Fin 7 → UInt8) → Prop
  | every : WeeksText (asciiBytes "*") fun _ => 1
  | listed {days : List (Fin 7)} (present : days ≠ []) :
      WeeksText (dayList days) fun day => if day ∈ days then 1 else 0

/-- The form `M H * * W`, with single blanks. -/
inductive CronText : List UInt8 → IoTgoCron → Prop
  | fields {minute hour weeks : List UInt8} {cron : IoTgoCron}
      (minuteText : MinuteText minute cron.minute) (hourText : HourText hour cron.hour)
      (weeksText : WeeksText weeks cron.weeks) :
      CronText (minute ++ 32 :: (hour ++ 32 :: (asciiBytes "* * " ++ weeks))) cron

end Grammar

section Parser

/-- Reading a string from an offset on, at most from its terminator. -/
def readFrom (text : List UInt8) (offset : Nat) : Checked (List UInt8) :=
  if offset ≤ strlen text then .ok (text.drop offset) else .error .outside

/-- `os_strncpy` of the bytes before a blank to `buffer`, and the terminator behind them. -/
def copyField (text : List UInt8) (fieldLen : Nat) : Checked (List UInt8) := do
  writeTo 25 fieldLen
  return text.take fieldLen

/-- From the hour on. -/
def parseHourWeeks (minute : UInt8) (str : List UInt8) : Checked (Option IoTgoCron) :=
  match strstr str (asciiBytes " ") with
  | none => .ok none
  | some blank =>
      if blank = 0 then .ok none
      else do
        let buffer ← copyField str blank
        let hour := if buffer = asciiBytes "*" then 24 else UInt8.ofInt (atoi buffer)
        if buffer ≠ asciiBytes "*" ∧ 23 < hour then return none
        else
          let days ← readFrom str (blank + 5)
          let buffer ← strcpy 25 days
          return (parseWeeks buffer).map fun weeks => { weeks, hour, minute }

/-- Of a string of any length; neither pointer is `NULL`. -/
def parseCronFromString (str : List UInt8) : Checked (Option IoTgoCron) :=
  if strlen str % 256 < 9 ∨ 23 < strlen str % 256 then .ok none
  else
    match strstr str (asciiBytes " ") with
    | none => .ok none
    | some blank =>
        if blank = 0 then .ok none
        else do
          let buffer ← copyField str blank
          let minute := UInt8.ofInt (atoi buffer)
          if 59 < minute then return none
          else parseHourWeeks minute (str.drop (blank + 1))

end Parser

section Days

variable {days : List (Fin 7)} {buffer : List UInt8} {weeks : Fin 7 → UInt8}

/-- The bytes that the loop over the week days takes, in any order. -/
def IsDayByte (byte : UInt8) : Prop :=
  byte = 44 ∨ (48 ≤ byte.toNat ∧ byte.toNat ≤ 54)

theorem day_byte_ne_comma (day : Fin 7) : dayByte day ≠ 44 := by
  revert day
  decide

theorem mark_week_comma (weeks : Fin 7 → UInt8) : markWeek weeks 44 = some weeks := rfl

theorem mark_week_day (weeks : Fin 7 → UInt8) (day : Fin 7) :
    markWeek weeks (dayByte day) = some fun other => if other = day then 1 else weeks other := by
  have digit : (dayByte day - 48).toNat = day.val := by
    revert day
    decide
  have inside : (dayByte day - 48).toNat < 7 := digit ▸ day.isLt
  have same : (⟨(dayByte day - 48).toNat, inside⟩ : Fin 7) = day := Fin.ext digit
  unfold markWeek
  rw [if_neg (day_byte_ne_comma day), dif_pos inside, same]

theorem mark_week_none {byte : UInt8} (other : ¬IsDayByte byte) (weeks : Fin 7 → UInt8) :
    markWeek weeks byte = none := by
  unfold IsDayByte at other
  rw [not_or] at other
  unfold markWeek
  rw [if_neg other.1, dif_neg]
  have bound := byte.toNat_lt
  rw [UInt8.toNat_sub]
  simp only [UInt8.reduceToNat]
  omega

theorem day_byte_cases {byte : UInt8} (taken : IsDayByte byte) :
    byte = 44 ∨ ∃ day, byte = dayByte day := by
  apply taken.imp_right
  rintro ⟨lower, upper⟩
  refine ⟨⟨byte.toNat - 48, by omega⟩, UInt8.toNat_inj.1 ?_⟩
  simp only [dayByte, UInt8.toNat_ofNat']
  omega

theorem day_byte_injective {left right : Fin 7} (same : dayByte left = dayByte right) :
    left = right := by
  have numbers := congrArg UInt8.toNat same
  simp only [dayByte, UInt8.toNat_ofNat'] at numbers
  omega

/-- The loop over the bytes marks the days that occur. -/
theorem mark_weeks (all : ∀ byte ∈ buffer, IsDayByte byte) (weeks : Fin 7 → UInt8) :
    buffer.foldlM markWeek weeks =
      some fun day => if dayByte day ∈ buffer then 1 else weeks day := by
  induction buffer generalizing weeks with
  | nil => simp
  | cons byte buffer ih =>
      have rest := ih fun byte member => all byte (List.mem_cons_of_mem _ member)
      rw [List.foldlM_cons]
      rcases day_byte_cases (all byte List.mem_cons_self) with rfl | ⟨day, rfl⟩
      · rw [mark_week_comma, Option.bind_eq_bind, Option.bind_some, rest]
        apply congrArg
        funext day
        simp [day_byte_ne_comma]
      · rw [mark_week_day, Option.bind_eq_bind, Option.bind_some, rest]
        apply congrArg
        funext other
        by_cases same : other = day
        · simp [same]
        · have different : dayByte other ≠ dayByte day := fun bytes =>
            same (day_byte_injective bytes)
          simp [same, different]

theorem mark_weeks_none {byte : UInt8} (listed : byte ∈ buffer) (other : ¬IsDayByte byte)
    (weeks : Fin 7 → UInt8) : buffer.foldlM markWeek weeks = none := by
  induction buffer generalizing weeks with
  | nil => cases listed
  | cons first buffer ih =>
      rw [List.foldlM_cons]
      rcases List.mem_cons.1 listed with rfl | later
      · rw [mark_week_none other]
        rfl
      · cases markWeek weeks first with
        | none => rfl
        | some weeks => exact ih later weeks

/-- What the week days are read from. -/
def ReadsDays (buffer : List UInt8) : Prop :=
  buffer = asciiBytes "*" ∨ ∀ byte ∈ buffer, IsDayByte byte

theorem parse_weeks_isSome : (∃ weeks, parseWeeks buffer = some weeks) ↔ ReadsDays buffer := by
  unfold parseWeeks ReadsDays
  by_cases every : buffer = asciiBytes "*"
  · rw [if_pos every]
    exact iff_of_true ⟨_, rfl⟩ (.inl every)
  · rw [if_neg every, or_iff_right every]
    constructor
    · rintro ⟨weeks, marked⟩ byte listed
      by_contra other
      rw [mark_weeks_none listed other] at marked
      cases marked
    · intro all
      exact ⟨_, mark_weeks all _⟩

theorem mem_interspersed {Item : Type} {item separator : Item} {items : List Item}
    (listed : item ∈ items.intersperse separator) : item = separator ∨ item ∈ items := by
  induction items with
  | nil => cases listed
  | cons first items ih =>
      cases items with
      | nil => exact .inr listed
      | cons second items =>
          rw [List.intersperse_cons_cons, List.mem_cons, List.mem_cons] at listed
          rcases listed with rfl | rfl | later
          · exact .inr List.mem_cons_self
          · exact .inl rfl
          · exact (ih later).imp_right (List.mem_cons_of_mem _)

theorem interspersed_mem {Item : Type} {item : Item} {items : List Item} (separator : Item)
    (listed : item ∈ items) : item ∈ items.intersperse separator := by
  obtain ⟨index, here⟩ := List.mem_iff_getElem?.1 listed
  apply List.mem_iff_getElem?.2
  exact ⟨2 * index, List.getElem?_intersperse_two_mul.trans here⟩

theorem day_list_bytes : ∀ byte ∈ dayList days, IsDayByte byte := by
  intro byte listed
  rcases mem_interspersed listed with comma | digit
  · exact .inl comma
  · obtain ⟨day, -, rfl⟩ := List.mem_map.1 digit
    have range : ∀ day, 48 ≤ (dayByte day).toNat ∧ (dayByte day).toNat ≤ 54 := by decide
    exact .inr (range day)

theorem day_mem_list {day : Fin 7} : dayByte day ∈ dayList days ↔ day ∈ days := by
  constructor
  · intro listed
    rcases mem_interspersed listed with comma | digit
    · exact absurd comma (day_byte_ne_comma day)
    · obtain ⟨other, member, same⟩ := List.mem_map.1 digit
      exact day_byte_injective same ▸ member
  · intro member
    exact interspersed_mem _ (List.mem_map_of_mem member)

theorem day_list_ne_every : dayList days ≠ asciiBytes "*" := by
  intro same
  have star : (42 : UInt8) ∈ dayList days := same ▸ List.mem_singleton_self _
  rcases day_list_bytes _ star with comma | ⟨lower, -⟩
  · cases comma
  · exact absurd lower (by decide)

theorem WeeksText.present {text : List UInt8} (written : WeeksText text weeks) : text ≠ [] := by
  cases written with
  | every => decide
  | listed present =>
      obtain ⟨day, member⟩ := List.exists_mem_of_ne_nil _ present
      exact List.ne_nil_of_mem (day_mem_list.2 member)

/-- A list of days is read as it is written. -/
theorem parse_weeks_text {text : List UInt8} (written : WeeksText text weeks) :
    parseWeeks text = some weeks := by
  cases written with
  | every => rfl
  | listed present =>
      unfold parseWeeks
      rw [if_neg day_list_ne_every, mark_weeks day_list_bytes]
      apply congrArg
      funext day
      simp only [day_mem_list]

end Days

section Fields

variable {text field rest minute hour tail : List UInt8} {cron : IoTgoCron}

def ReadsMinute (field : List UInt8) : Prop :=
  field ≠ [] ∧ atoi field % 256 ≤ 59

def ReadsHour (field : List UInt8) : Prop :=
  field ≠ [] ∧ (field = asciiBytes "*" ∨ atoi field % 256 ≤ 23)

instance : DecidablePred ReadsMinute := fun _ => inferInstanceAs (Decidable (_ ∧ _))

instance : DecidablePred ReadsHour := fun _ => inferInstanceAs (Decidable (_ ∧ _))

/-- The hour that a field is read as. -/
def readHour (field : List UInt8) : UInt8 :=
  if field = asciiBytes "*" then 24 else UInt8.ofInt (atoi field)

/-- The bytes up to the first blank, and those behind it. -/
structure Field (text field rest : List UInt8) : Prop where
  split : text = field ++ 32 :: rest
  blankFree : (32 : UInt8) ∉ field

theorem field_of_mem (blank : (32 : UInt8) ∈ text) : ∃ field rest, Field text field rest := by
  obtain ⟨field, rest, split, blankFree⟩ := List.eq_append_cons_of_mem blank
  exact ⟨field, rest, split, blankFree⟩

theorem Field.nulFree (first : Field text field rest) (nulFree : (0 : UInt8) ∉ text) :
    (0 : UInt8) ∉ field ∧ (0 : UInt8) ∉ rest := by
  rw [first.split] at nulFree
  exact ⟨fun zero => nulFree (List.mem_append_left _ zero),
    fun zero => nulFree (List.mem_append_right _ (List.mem_cons_of_mem _ zero))⟩

theorem Field.found (first : Field text field rest) (nulFree : (0 : UInt8) ∉ text) :
    strstr text (asciiBytes " ") = some field.length := by
  rw [first.split]
  exact strstr_byte (first.nulFree nulFree).1 (by decide) first.blankFree

theorem Field.unique {other behind : List UInt8} (left : Field text field rest)
    (right : Field text other behind) (nulFree : (0 : UInt8) ∉ text) :
    field = other ∧ rest = behind := by
  have length := (left.found nulFree).symm.trans (right.found nulFree)
  have parts := List.append_inj (left.split.symm.trans right.split) (Option.some.inj length)
  exact ⟨parts.1, List.tail_eq_of_cons_eq parts.2⟩

theorem not_found (blankFree : (32 : UInt8) ∉ text) : strstr text (asciiBytes " ") = none :=
  strstr_byte_none fun member => blankFree ((c_string_front text).subset member)

theorem Field.front (first : Field text field rest) : text.take field.length = field := by
  rw [first.split, List.take_left]

/-- A field of 25 bytes has no room for the terminator. -/
theorem Field.copied (first : Field text field rest) :
    copyField text field.length = if field.length < 25 then .ok field else .error .outside := by
  unfold copyField writeTo
  rw [first.front]
  split <;> rfl

/-- An empty field is refused, a field of 25 bytes leaves the buffer, another one is looked at. -/
theorem Field.entered (first : Field text field rest)
    (next : List UInt8 → Checked (Option IoTgoCron)) :
    (if field.length = 0 then .ok none else copyField text field.length >>= next) =
      if field = [] then .ok none
      else if 25 ≤ field.length then .error .outside
      else next field := by
  rw [first.copied]
  by_cases empty : field = []
  · rw [if_pos empty, if_pos (List.length_eq_zero_iff.2 empty)]
  · rw [if_neg empty, if_neg fun zero => empty (List.length_eq_zero_iff.1 zero)]
    by_cases long : 25 ≤ field.length
    · rw [if_neg (Nat.not_lt_of_le long), if_pos long]
      rfl
    · rw [if_pos (Nat.lt_of_not_le long), if_neg long]
      rfl

theorem Field.skipped (first : Field text field rest) : text.drop (field.length + 1) = rest := by
  rw [first.split, ← List.drop_drop, List.drop_left]
  rfl

theorem hour_accepted_iff (present : field ≠ []) :
    ¬(field ≠ asciiBytes "*" ∧ 23 < readHour field) ↔ ReadsHour field := by
  unfold ReadsHour readHour
  rw [and_iff_right present]
  by_cases every : field = asciiBytes "*"
  · exact iff_of_true (fun both => both.1 every) (.inl every)
  · rw [if_neg every, or_iff_right every, and_iff_right every, UInt8.not_lt, uint8_of_int_le_iff]
    rfl

theorem minute_accepted_iff (present : field ≠ []) :
    ¬59 < UInt8.ofInt (atoi field) ↔ ReadsMinute field := by
  unfold ReadsMinute
  rw [and_iff_right present, UInt8.not_lt, uint8_of_int_le_iff]
  rfl

/-- The days are read from the fifth byte behind the blank on. -/
theorem Field.days (first : Field text field rest) (nulFree : (0 : UInt8) ∉ text) :
    (readFrom text (field.length + 5) >>= strcpy 25) =
      if 4 ≤ rest.length ∧ rest.length ≤ 28 then .ok (rest.drop 4) else .error .outside := by
  have length : strlen text = field.length + 1 + rest.length := by
    rw [strlen, c_string_of_nul_free nulFree, first.split, List.length_append, List.length_cons]
    omega
  have behind : text.drop (field.length + 5) = rest.drop 4 := by
    rw [show field.length + 5 = field.length + 1 + 4 from rfl, ← List.drop_drop, first.skipped]
  have whole : cString (rest.drop 4) = rest.drop 4 :=
    c_string_of_nul_free fun zero => (first.nulFree nulFree).2 (List.mem_of_mem_drop zero)
  unfold readFrom
  rw [length, behind]
  by_cases inside : 4 ≤ rest.length
  · rw [if_pos (by omega)]
    change strcpy 25 (rest.drop 4) = _
    unfold strcpy
    rw [strlen, whole, List.length_drop]
    by_cases fits : rest.length ≤ 28
    · rw [if_pos (by omega), if_pos ⟨inside, fits⟩]
    · rw [if_neg (by omega), if_neg fun both => fits both.2]
  · rw [if_neg (by omega), if_neg fun both => inside both.1]
    rfl

theorem hour_weeks_refused (value : UInt8) (blankFree : (32 : UInt8) ∉ rest) :
    parseHourWeeks value rest = .ok none := by
  unfold parseHourWeeks
  rw [not_found blankFree]

theorem hour_weeks_eq (value : UInt8) (second : Field rest hour tail)
    (nulFree : (0 : UInt8) ∉ rest) :
    parseHourWeeks value rest =
      if hour = [] then .ok none
      else if 25 ≤ hour.length then .error .outside
      else if ReadsHour hour then
        if 4 ≤ tail.length ∧ tail.length ≤ 28 then
          .ok ((parseWeeks (tail.drop 4)).map fun weeks => ⟨weeks, readHour hour, value⟩)
        else .error .outside
      else .ok none := by
  unfold parseHourWeeks
  rw [second.found nulFree]
  dsimp only
  rw [second.entered]
  by_cases empty : hour = []
  · rw [if_pos empty, if_pos empty]
  · rw [if_neg empty, if_neg empty]
    congr 1
    change (if hour ≠ asciiBytes "*" ∧ 23 < readHour hour then _ else _) = _
    by_cases reads : ReadsHour hour
    · rw [if_neg ((hour_accepted_iff empty).2 reads), if_pos reads, ← bind_assoc,
        second.days nulFree]
      split <;> rfl
    · have refused : hour ≠ asciiBytes "*" ∧ 23 < readHour hour := by
        by_contra accepted
        exact reads ((hour_accepted_iff empty).1 accepted)
      rw [if_pos refused, if_neg reads]
      rfl

/-- The hour is refused, too long for the buffer, or read. -/
theorem hour_weeks_cases (value : UInt8) (nulFree : (0 : UInt8) ∉ rest) :
    parseHourWeeks value rest = .ok none ∨
      ∃ hour tail, Field rest hour tail ∧ (25 ≤ hour.length ∨ hour.length < 25 ∧ ReadsHour hour) := by
  by_cases blank : (32 : UInt8) ∈ rest
  · obtain ⟨hour, tail, second⟩ := field_of_mem blank
    have parsed := hour_weeks_eq value second nulFree
    by_cases long : 25 ≤ hour.length
    · exact .inr ⟨hour, tail, second, .inl long⟩
    · by_cases reads : ReadsHour hour
      · exact .inr ⟨hour, tail, second, .inr ⟨Nat.lt_of_not_le long, reads⟩⟩
      · rw [if_neg long, if_neg reads, ite_self] at parsed
        exact .inl parsed
  · exact .inl (hour_weeks_refused value blank)

end Fields

section Runs

variable {text minute hour tail : List UInt8} {cron : IoTgoCron}

/-- The length after it was narrowed to a byte. -/
def SeenLength (text : List UInt8) : Prop :=
  9 ≤ text.length % 256 ∧ text.length % 256 ≤ 23

structure ReadsTime (text minute hour tail : List UInt8) : Prop where
  first : Field text minute (hour ++ 32 :: tail)
  hourFree : (32 : UInt8) ∉ hour
  readsMinute : ReadsMinute minute
  readsHour : ReadsHour hour

theorem ReadsTime.second (time : ReadsTime text minute hour tail) :
    Field (hour ++ 32 :: tail) hour tail :=
  ⟨rfl, time.hourFree⟩

theorem ReadsTime.length (time : ReadsTime text minute hour tail) :
    text.length = minute.length + hour.length + tail.length + 2 := by
  rw [time.first.split, List.length_append, List.length_cons, List.length_append,
    List.length_cons]
  omega

theorem parse_unseen (nulFree : (0 : UInt8) ∉ text) (unseen : ¬SeenLength text) :
    parseCronFromString text = .ok none := by
  unfold SeenLength at unseen
  unfold parseCronFromString strlen
  rw [c_string_of_nul_free nulFree, if_pos (by omega)]

theorem parse_blank_free (blankFree : (32 : UInt8) ∉ text) :
    parseCronFromString text = .ok none := by
  unfold parseCronFromString
  rw [not_found blankFree]
  split <;> rfl

theorem parse_eq {rest : List UInt8} (nulFree : (0 : UInt8) ∉ text) (seen : SeenLength text)
    (first : Field text minute rest) :
    parseCronFromString text =
      if minute = [] then .ok none
      else if 25 ≤ minute.length then .error .outside
      else if ReadsMinute minute then parseHourWeeks (UInt8.ofInt (atoi minute)) rest
      else .ok none := by
  unfold SeenLength at seen
  unfold parseCronFromString strlen
  rw [c_string_of_nul_free nulFree, if_neg (by omega), first.found nulFree]
  dsimp only
  rw [first.entered, first.skipped]
  by_cases empty : minute = []
  · rw [if_pos empty, if_pos empty]
  · rw [if_neg empty, if_neg empty]
    congr 1
    have reads := minute_accepted_iff empty
    by_cases accepted : ReadsMinute minute
    · rw [if_neg (reads.2 accepted), if_pos accepted]
    · rw [if_pos (by_contra fun inside => accepted (reads.1 inside)), if_neg accepted]
      rfl

/-- Every copy fits the buffer, and the four bytes are there. -/
structure StaysInside (minute hour tail : List UInt8) : Prop where
  minute : minute.length < 25
  hour : hour.length < 25
  days : 4 ≤ tail.length ∧ tail.length ≤ 28

/-- Where the scan leaves the string or the buffer. -/
inductive Strays (text : List UInt8) : Prop
  | minute {minute rest : List UInt8} (first : Field text minute rest)
      (long : 25 ≤ minute.length)
  | hour {minute rest hour tail : List UInt8} (first : Field text minute rest)
      (readsMinute : ReadsMinute minute) (second : Field rest hour tail)
      (long : 25 ≤ hour.length)
  | behind {minute hour tail : List UInt8} (time : ReadsTime text minute hour tail)
      (short : tail.length < 4)
  | days {minute hour tail : List UInt8} (time : ReadsTime text minute hour tail)
      (long : 28 < tail.length)

theorem parse_time (nulFree : (0 : UInt8) ∉ text) (seen : SeenLength text)
    (time : ReadsTime text minute hour tail) (inside : StaysInside minute hour tail) :
    parseCronFromString text = .ok ((parseWeeks (tail.drop 4)).map fun weeks =>
      ⟨weeks, readHour hour, UInt8.ofInt (atoi minute)⟩) := by
  rw [parse_eq nulFree seen time.first, if_neg time.readsMinute.1,
    if_neg (Nat.not_le_of_lt inside.minute), if_pos time.readsMinute,
    hour_weeks_eq _ time.second (time.first.nulFree nulFree).2, if_neg time.readsHour.1,
    if_neg (Nat.not_le_of_lt inside.hour), if_pos time.readsHour, if_pos inside.days]

theorem parse_strays (nulFree : (0 : UInt8) ∉ text) (seen : SeenLength text)
    (strays : Strays text) : parseCronFromString text = .error .outside := by
  have timed : ∀ {minute hour tail : List UInt8}, ReadsTime text minute hour tail →
      ¬(4 ≤ tail.length ∧ tail.length ≤ 28) → parseCronFromString text = .error .outside := by
    intro minute hour tail time beyond
    rw [parse_eq nulFree seen time.first, if_neg time.readsMinute.1, if_pos time.readsMinute,
      hour_weeks_eq _ time.second (time.first.nulFree nulFree).2, if_neg time.readsHour.1,
      if_pos time.readsHour, if_neg beyond, ite_self, ite_self]
  cases strays with
  | minute first long =>
      rw [parse_eq nulFree seen first, if_neg (List.ne_nil_of_length_pos (by omega)),
        if_pos long]
  | hour first readsMinute second long =>
      rw [parse_eq nulFree seen first, if_neg readsMinute.1, if_pos readsMinute,
        hour_weeks_eq _ second (first.nulFree nulFree).2,
        if_neg (List.ne_nil_of_length_pos (by omega)), if_pos long, ite_self]
  | behind time short => exact timed time fun both => Nat.not_le_of_lt short both.1
  | days time long => exact timed time fun both => Nat.not_le_of_lt long both.2

/-- A string is refused, or the scan leaves it or the buffer, or a time was read. -/
theorem parse_cases (nulFree : (0 : UInt8) ∉ text) :
    parseCronFromString text = .ok none ∨ (SeenLength text ∧ Strays text) ∨
      SeenLength text ∧ ∃ minute hour tail, ReadsTime text minute hour tail ∧
        StaysInside minute hour tail := by
  by_cases seen : SeenLength text
  · by_cases blank : (32 : UInt8) ∈ text
    · obtain ⟨minute, rest, first⟩ := field_of_mem blank
      have parsed := parse_eq nulFree seen first
      by_cases long : 25 ≤ minute.length
      · exact .inr (.inl ⟨seen, .minute first long⟩)
      · by_cases readsMinute : ReadsMinute minute
        · rw [if_neg readsMinute.1, if_neg long, if_pos readsMinute] at parsed
          rcases hour_weeks_cases (UInt8.ofInt (atoi minute)) (first.nulFree nulFree).2 with
            refused | ⟨hour, tail, second, tooLong | ⟨fits, readsHour⟩⟩
          · exact .inl (parsed.trans refused)
          · exact .inr (.inl ⟨seen, .hour first readsMinute second tooLong⟩)
          · have time : ReadsTime text minute hour tail :=
              ⟨second.split ▸ first, second.blankFree, readsMinute, readsHour⟩
            by_cases short : tail.length < 4
            · exact .inr (.inl ⟨seen, .behind time short⟩)
            · by_cases tooLong : 28 < tail.length
              · exact .inr (.inl ⟨seen, .days time tooLong⟩)
              · exact .inr (.inr ⟨seen, minute, hour, tail, time, Nat.lt_of_not_le long, fits,
                  Nat.le_of_not_lt short, Nat.le_of_not_lt tooLong⟩)
        · rw [if_neg long, if_neg readsMinute, ite_self] at parsed
          exact .inl parsed
    · exact .inl (parse_blank_free blank)
  · exact .inl (parse_unseen nulFree seen)

theorem completes_parse_iff (nulFree : (0 : UInt8) ∉ text) :
    Completes (parseCronFromString text) ↔ ¬(SeenLength text ∧ Strays text) := by
  constructor
  · rintro ⟨result, ended⟩ ⟨seen, strays⟩
    rw [parse_strays nulFree seen strays] at ended
    cases ended
  · intro inside
    rcases parse_cases nulFree with refused | strays | ⟨seen, minute, hour, tail, time, fits⟩
    · exact ⟨_, refused⟩
    · exact absurd strays inside
    · exact ⟨_, parse_time nulFree seen time fits⟩

/-- A string in which a time was read has at most 23 bytes. -/
theorem ReadsTime.short (time : ReadsTime text minute hour tail)
    (inside : StaysInside minute hour tail) (seen : SeenLength text) :
    9 ≤ text.length ∧ text.length ≤ 23 := by
  have length := time.length
  have bounds := inside.minute
  have bounds' := inside.hour
  have bounds'' := inside.days
  unfold SeenLength at seen
  omega

theorem ReadsTime.inside (time : ReadsTime text minute hour tail) (skipped : 4 ≤ tail.length)
    (short : text.length ≤ 23) : StaysInside minute hour tail := by
  have length := time.length
  constructor <;> omega

theorem parse_some_iff (nulFree : (0 : UInt8) ∉ text) :
    parseCronFromString text = .ok (some cron) ↔
      (9 ≤ text.length ∧ text.length ≤ 23) ∧ ∃ minute hour tail, ReadsTime text minute hour tail ∧
        4 ≤ tail.length ∧ ∃ weeks, parseWeeks (tail.drop 4) = some weeks ∧
          cron = ⟨weeks, readHour hour, UInt8.ofInt (atoi minute)⟩ := by
  constructor
  · intro accepted
    rcases parse_cases nulFree with refused | ⟨seen, strays⟩ | ⟨seen, minute, hour, tail, time, fits⟩
    · rw [refused] at accepted
      cases accepted
    · rw [parse_strays nulFree seen strays] at accepted
      cases accepted
    · rw [parse_time nulFree seen time fits, Except.ok.injEq, Option.map_eq_some_iff] at accepted
      obtain ⟨weeks, parsed, same⟩ := accepted
      exact ⟨time.short fits seen, minute, hour, tail, time, fits.days.1, weeks, parsed, same.symm⟩
  · rintro ⟨bounds, minute, hour, tail, time, skipped, weeks, parsed, rfl⟩
    have seen : SeenLength text := by
      unfold SeenLength
      omega
    rw [parse_time nulFree seen time (time.inside skipped bounds.2), parsed]
    rfl

end Runs

section Behind

variable {text minute hour tail : List UInt8}

theorem field_of_found {blank : Nat} (found : strstr text (asciiBytes " ") = some blank)
    (nulFree : (0 : UInt8) ∉ text) :
    ∃ field rest, Field text field rest ∧ blank = field.length := by
  have blankMem : (32 : UInt8) ∈ text := by
    by_contra blankFree
    rw [not_found blankFree] at found
    cases found
  obtain ⟨field, rest, first⟩ := field_of_mem blankMem
  exact ⟨field, rest, first, Option.some.inj (found.symm.trans (first.found nulFree))⟩

/-- The minute and the hour of the other parser. -/
theorem ReadsTime.minuteHour (nulFree : (0 : UInt8) ∉ text) (seen : SeenLength text)
    (time : ReadsTime text minute hour tail) :
    parseMinuteHour text = some (UInt8.ofInt (atoi minute), readHour hour,
      minute.length + 1 + hour.length) := by
  have inner := (time.first.nulFree nulFree).2
  have minutes := (minute_accepted_iff time.readsMinute.1).2 time.readsMinute
  have hours := (hour_accepted_iff time.readsHour.1).2 time.readsHour
  have lengths : minute.length ≠ 0 ∧ hour.length ≠ 0 :=
    ⟨fun zero => time.readsMinute.1 (List.eq_nil_of_length_eq_zero zero),
      fun zero => time.readsHour.1 (List.eq_nil_of_length_eq_zero zero)⟩
  unfold SeenLength at seen
  unfold parseMinuteHour strlen fieldValue
  rw [c_string_of_nul_free nulFree, if_neg (by omega), time.first.found nulFree]
  dsimp only
  rw [List.drop_zero, time.first.front, if_neg (not_or.2 ⟨lengths.1, minutes⟩),
    time.first.skipped, time.second.found inner]
  dsimp only
  rw [time.second.front]
  change (if hour.length = 0 ∨ hour ≠ asciiBytes "*" ∧ 23 < readHour hour then none else _) = _
  rw [if_neg (not_or.2 ⟨lengths.2, hours⟩)]
  rfl

theorem time_of_minute_hour {fields : UInt8 × UInt8 × Nat} (nulFree : (0 : UInt8) ∉ text)
    (parsed : parseMinuteHour text = some fields) :
    SeenLength text ∧ ∃ minute hour tail, ReadsTime text minute hour tail := by
  unfold parseMinuteHour strlen at parsed
  rw [c_string_of_nul_free nulFree] at parsed
  split at parsed
  · cases parsed
  · rename_i seen
    refine ⟨by unfold SeenLength; omega, ?_⟩
    cases found : strstr text (asciiBytes " ") with
    | none =>
        rw [found] at parsed
        cases parsed
    | some blank =>
        obtain ⟨minute, rest, first, rfl⟩ := field_of_found found nulFree
        have inner := (first.nulFree nulFree).2
        unfold fieldValue at parsed
        rw [found] at parsed
        dsimp only at parsed
        rw [List.drop_zero, first.front, first.skipped] at parsed
        split at parsed
        · cases parsed
        · rename_i minutes
          cases found' : strstr rest (asciiBytes " ") with
          | none =>
              rw [found'] at parsed
              cases parsed
          | some blank =>
              obtain ⟨hour, tail, second, rfl⟩ := field_of_found found' inner
              rw [found'] at parsed
              dsimp only at parsed
              rw [second.front] at parsed
              change (if hour.length = 0 ∨ hour ≠ asciiBytes "*" ∧ 23 < readHour hour then none
                else some (UInt8.ofInt (atoi minute), readHour hour, _)) = some fields at parsed
              split at parsed
              · cases parsed
              · rename_i hours
                rw [not_or, List.length_eq_zero_iff] at minutes hours
                exact ⟨minute, hour, tail, second.split ▸ first, second.blankFree,
                  (minute_accepted_iff minutes.1).1 minutes.2,
                  (hour_accepted_iff hours.1).1 hours.2⟩

theorem ReadsTime.staysInside {result : Option IoTgoCron} (nulFree : (0 : UInt8) ∉ text)
    (seen : SeenLength text) (time : ReadsTime text minute hour tail)
    (ended : parseCronFromString text = .ok result) : StaysInside minute hour tail := by
  have straight : ¬Strays text := fun strays =>
    (completes_parse_iff nulFree).1 ⟨result, ended⟩ ⟨seen, strays⟩
  constructor
  · exact Nat.lt_of_not_le fun long => straight (.minute time.first long)
  · exact Nat.lt_of_not_le fun long =>
      straight (.hour time.first time.readsMinute time.second long)
  · exact ⟨Nat.le_of_not_lt fun short => straight (.behind time short),
      Nat.le_of_not_lt fun long => straight (.days time long)⟩

/-- Where it ends, the parser that looks at the memory behind the string returns the same. -/
theorem parsed_behind {result : Option IoTgoCron} (nulFree : (0 : UInt8) ∉ text)
    (ended : parseCronFromString text = .ok result) (behind : List UInt8) :
    TimerJson.parseCronFromString (text ++ 0 :: behind) = .ok result := by
  unfold TimerJson.parseCronFromString
  rw [parse_minute_hour_behind nulFree]
  cases parsed : parseMinuteHour text with
  | none =>
      cases result with
      | none => rfl
      | some cron =>
          obtain ⟨bounds, minute, hour, tail, time, -⟩ := (parse_some_iff nulFree).1 ended
          rw [time.minuteHour nulFree (by unfold SeenLength; omega)] at parsed
          cases parsed
  | some fields =>
      obtain ⟨seen, minute, hour, tail, time⟩ := time_of_minute_hour nulFree parsed
      have inside := time.staysInside nulFree seen ended
      have length := time.length
      have skipped := inside.days.1
      have tailFree := (time.second.nulFree (time.first.nulFree nulFree).2).2
      have days : (text ++ 0 :: behind).drop (minute.length + 1 + hour.length + 5) =
          tail.drop 4 ++ 0 :: behind := by
        rw [List.drop_append_of_le_length (by omega),
          show minute.length + 1 + hour.length + 5 = minute.length + 1 + (hour.length + 1 + 4) by
            omega, ← List.drop_drop, time.first.skipped, ← List.drop_drop, time.second.skipped]
      have copied : strcpy 25 (tail.drop 4 ++ 0 :: behind) = .ok (tail.drop 4) := by
        have daysFree : (0 : UInt8) ∉ tail.drop 4 := fun zero =>
          tailFree (List.mem_of_mem_drop zero)
        have whole := c_string_terminated behind daysFree
        rw [strcpy_ok_iff, strlen, whole, List.length_drop]
        have fits := inside.days.2
        exact ⟨by omega, rfl⟩
      rw [time.minuteHour nulFree seen] at parsed
      cases parsed
      dsimp only
      rw [days, copied, ← ended, parse_time nulFree seen time inside]
      rfl

end Behind

section Texts

variable {text : List UInt8} {cron : IoTgoCron}

theorem written_blank_free {digits : List UInt8} {value : Nat}
    (written : WritesNumber digits value) : (32 : UInt8) ∉ digits := fun blank =>
  absurd (written.all 32 blank) (by decide)

theorem atoi_number {digits : List UInt8} {value : Nat} (written : WritesNumber digits value)
    (small : value < 256) : atoi digits = value := by
  have read := @atoi_written digits [] value written (by omega) (by simp [cString])
  rwa [List.append_nil] at read

theorem MinuteText.reads {minute : List UInt8} {value : UInt8} (text : MinuteText minute value) :
    ReadsMinute minute ∧ UInt8.ofInt (atoi minute) = value := by
  have read := atoi_number text.written value.toNat_lt
  have inside := UInt8.le_iff_toNat_le.1 text.inside
  simp only [UInt8.reduceToNat] at inside
  refine ⟨⟨text.written.present, ?_⟩, UInt8.toNat_inj.1 ?_⟩
  · rw [read]
    omega
  · have number := uint8_of_int_value (atoi minute)
    rw [read] at number ⊢
    omega

theorem HourText.reads {hour : List UInt8} {value : UInt8} (text : HourText hour value) :
    ReadsHour hour ∧ readHour hour = value ∧ (32 : UInt8) ∉ hour := by
  cases text with
  | every => exact ⟨⟨by decide, .inl rfl⟩, rfl, by decide⟩
  | one written inside =>
      have read := atoi_number written value.toNat_lt
      have inside := UInt8.le_iff_toNat_le.1 inside
      simp only [UInt8.reduceToNat] at inside
      have digits : hour ≠ asciiBytes "*" := by
        rintro rfl
        exact absurd (written.all 42 (List.mem_singleton_self _)) (by decide)
      refine ⟨⟨written.present, .inr ?_⟩, ?_, written_blank_free written⟩
      · rw [read]
        omega
      · unfold readHour
        rw [if_neg digits]
        apply UInt8.toNat_inj.1
        have number := uint8_of_int_value (atoi hour)
        rw [read] at number ⊢
        omega

/-- A written time is read. -/
theorem CronText.time (written : CronText text cron) :
    ∃ minute hour weeks, ReadsTime text minute hour (asciiBytes "* * " ++ weeks) ∧
      weeks ≠ [] ∧ parseWeeks weeks = some cron.weeks ∧
      cron = ⟨cron.weeks, readHour hour, UInt8.ofInt (atoi minute)⟩ := by
  cases written with
  | @fields minute hour weeks cron minuteText hourText weeksText =>
      obtain ⟨readsMinute, minuteValue⟩ := minuteText.reads
      obtain ⟨readsHour, hourValue, hourFree⟩ := hourText.reads
      refine ⟨minute, hour, weeks, ⟨⟨rfl, written_blank_free minuteText.written⟩, hourFree,
        readsMinute, readsHour⟩, weeksText.present, parse_weeks_text weeksText, ?_⟩
      rw [hourValue, minuteValue]

theorem CronText.minuteField (written : CronText text cron) :
    ∃ minute rest, Field text minute rest ∧ MinuteText minute cron.minute := by
  cases written with
  | fields minuteText _ _ =>
      exact ⟨_, _, ⟨rfl, written_blank_free minuteText.written⟩, minuteText⟩

theorem cron_text_parsed (nulFree : (0 : UInt8) ∉ text) (written : CronText text cron)
    (short : text.length ≤ 23) : parseCronFromString text = .ok (some cron) := by
  obtain ⟨minute, hour, weeks, time, present, parsed, same⟩ := written.time
  have length := time.length
  have minuteLength := List.length_pos_of_ne_nil time.readsMinute.1
  have hourLength := List.length_pos_of_ne_nil time.readsHour.1
  have weeksLength := List.length_pos_of_ne_nil present
  have skipped : (asciiBytes "* * ").length = 4 := rfl
  rw [List.length_append, skipped] at length
  apply (parse_some_iff nulFree).2
  refine ⟨by omega, minute, hour, _, time, ?_, cron.weeks, parsed, same⟩
  rw [List.length_append, skipped]
  omega

/-- A time of more than 23 characters, such as one that names a day again and again. -/
def Overlong (text : List UInt8) : Prop :=
  (∃ cron, CronText text cron) ∧ 23 < text.length

/-- Of another form, and taken for a time: a minute or an hour whose low eight bits pass or that
has other bytes around its digits, any four bytes behind the second blank, or no days or
days and commas in any order. -/
def Misread (text : List UInt8) : Prop :=
  (¬∃ cron, CronText text cron) ∧ (9 ≤ text.length ∧ text.length ≤ 23) ∧
    ∃ minute hour skipped days, ReadsTime text minute hour (skipped ++ days) ∧
      skipped.length = 4 ∧ ReadsDays days

/-- The parser ends, and it accepts the times in the form, as they are written. -/
def ReadsCron (text : List UInt8) : Prop :=
  ∃ result, parseCronFromString text = .ok result ∧
    ∀ cron, result = some cron ↔ CronText text cron

theorem misread_accepted (nulFree : (0 : UInt8) ∉ text) (misread : Misread text) :
    ∃ cron, parseCronFromString text = .ok (some cron) := by
  obtain ⟨-, bounds, minute, hour, skipped, days, time, four, reads⟩ := misread
  obtain ⟨weeks, parsed⟩ := parse_weeks_isSome.2 reads
  refine ⟨_, (parse_some_iff nulFree).2 ⟨bounds, minute, hour, _, time, ?_, weeks, ?_, rfl⟩⟩
  · rw [List.length_append]
    omega
  · rw [List.drop_left' four]
    exact parsed

theorem accepted_misread (nulFree : (0 : UInt8) ∉ text)
    (accepted : parseCronFromString text = .ok (some cron))
    (other : ¬∃ cron, CronText text cron) : Misread text := by
  obtain ⟨bounds, minute, hour, tail, time, skipped, weeks, parsed, -⟩ :=
    (parse_some_iff nulFree).1 accepted
  rw [← List.take_append_drop 4 tail] at time
  exact ⟨other, bounds, minute, hour, _, _, time, List.length_take_of_le skipped,
    parse_weeks_isSome.1 ⟨weeks, parsed⟩⟩

theorem reads_cron_iff (nulFree : (0 : UInt8) ∉ text) :
    ReadsCron text ↔
      ¬Overlong text ∧ ¬Misread text ∧ ¬(SeenLength text ∧ Strays text) := by
  constructor
  · rintro ⟨result, ended, form'⟩
    refine ⟨?_, ?_, (completes_parse_iff nulFree).1 ⟨result, ended⟩⟩
    · rintro ⟨⟨cron, written⟩, long⟩
      rw [(form' cron).2 written] at ended
      have bounds := ((parse_some_iff nulFree).1 ended).1
      omega
    · intro misread
      obtain ⟨cron, accepted⟩ := misread_accepted nulFree misread
      have same := Except.ok.inj (ended.symm.trans accepted)
      exact misread.1 ⟨cron, (form' cron).1 same⟩
  · rintro ⟨notLong, notMisread, inside⟩
    obtain ⟨result, ended⟩ := (completes_parse_iff nulFree).2 inside
    have written : ∀ cron, CronText text cron → result = some cron := fun cron form =>
      Except.ok.inj (ended.symm.trans (cron_text_parsed nulFree form
        (Nat.le_of_not_lt fun long => notLong ⟨⟨cron, form⟩, long⟩)))
    refine ⟨result, ended, fun cron => ⟨?_, written cron⟩⟩
    rintro rfl
    by_contra other
    apply notMisread
    apply accepted_misread nulFree ended
    rintro ⟨cron', form⟩
    have same := Option.some.inj (written cron' form)
    exact other (same ▸ form)

/-- A string that is read. -/
theorem reads_cron_spaced :
    ReadsCron (asciiBytes "10 8 * * 1") ↔
      ¬Overlong (asciiBytes "10 8 * * 1") ∧ ¬Misread (asciiBytes "10 8 * * 1") ∧
        ¬(SeenLength (asciiBytes "10 8 * * 1") ∧ Strays (asciiBytes "10 8 * * 1")) :=
  reads_cron_iff (by decide)

/-- The minute `256` is stored as `0`. -/
theorem narrowed_minute_accepted : ¬ReadsCron (asciiBytes "256 0 * * 1") := by
  rintro ⟨result, ended, form⟩
  have accepted : parseCronFromString (asciiBytes "256 0 * * 1") =
      .ok (some ⟨fun day => if day = 1 then 1 else 0, 0, 0⟩) := rfl
  rw [accepted] at ended
  cases ended
  obtain ⟨minute, rest, first, written⟩ := ((form _).1 rfl).minuteField
  have known : Field (asciiBytes "256 0 * * 1") (asciiBytes "256") (asciiBytes "0 * * 1") :=
    ⟨rfl, by decide⟩
  obtain ⟨rfl, -⟩ := first.unique known (by decide)
  exact absurd written.written.number (by decide)

end Texts

end IotgoFirmware.Timers.CronGrammar
