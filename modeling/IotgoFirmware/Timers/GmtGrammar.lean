import Mathlib.Data.List.Forall2
import IotgoFirmware.Library.CIntegers
import IotgoFirmware.Library.GregorianClock
import IotgoFirmware.Timers.TimerJson

/-!
# GMT strings

`parseGMTTimeFromString` against the layout that its comment gives. It looks at the length and at
two of the marks, reads the six fields with `atoi`, and checks each field by itself after it was
narrowed.
-/

namespace IotgoFirmware.Timers.GmtGrammar

open IotgoFirmware.Library.CIntegers
open IotgoFirmware.Library.CStrings
open IotgoFirmware.Library.GregorianClock (Instant Valid daysInMonth days_in_month_bounds)
open IotgoFirmware.Timers.TimerClock
open IotgoFirmware.Timers.TimerJson (fieldValue verifyGMTTime parseGMTTimeFromString)

set_option autoImplicit false

section Grammar

def gmtPattern : List UInt8 := asciiBytes "YYYY-MM-DDTHH:MM:SS.mmmZ"

/-- The letters of the pattern in whose place a digit stands. -/
def digitSlots : List UInt8 := asciiBytes "YMDHSm"

def Fills (slot byte : UInt8) : Prop :=
  if slot ∈ digitSlots then isDigit byte = true else byte = slot

instance : DecidableRel Fills := fun slot _ =>
  inferInstanceAs (Decidable (if slot ∈ digitSlots then _ else _))

def HasLayout (text : List UInt8) : Prop :=
  List.Forall₂ Fills gmtPattern text

def slice (text : List UInt8) (start count : Nat) : List UInt8 :=
  (text.drop start).take count

/-- The numbers in the places of the fields. -/
def writtenInstant (text : List UInt8) : Instant where
  year := digitsValue (slice text 0 4)
  month := digitsValue (slice text 5 2)
  day := digitsValue (slice text 8 2)
  hour := digitsValue (slice text 11 2)
  minute := digitsValue (slice text 14 2)
  second := digitsValue (slice text 17 2)

def instantOf (gmt : IoTgoGMTTime) : Instant where
  year := gmt.year.toNat
  month := gmt.month.toNat
  day := gmt.day.toNat
  hour := gmt.hour.toNat
  minute := gmt.minute.toNat
  second := gmt.second.toNat

/-- The text has the layout, and names the time, which exists. -/
structure GmtText (text : List UInt8) (gmt : IoTgoGMTTime) : Prop where
  layout : HasLayout text
  later : 2000 < (writtenInstant text).year
  real : Valid (writtenInstant text)
  fields : instantOf gmt = writtenInstant text

def DayExists (text : List UInt8) : Prop :=
  (writtenInstant text).day ≤ daysInMonth (writtenInstant text).year (writtenInstant text).month

end Grammar

section Reading

variable {text memory : List UInt8} {gmt : IoTgoGMTTime}

/-- Two marks, and six fields that `atoi` reads as numbers of their ranges. A year may also be
negative. -/
structure LooksLikeTime (text : List UInt8) : Prop where
  length : text.length = 24
  marks : text.getD 10 0 = 84 ∧ text.getD 23 0 = 90
  year : fieldValue text 0 4 < 0 ∨ 2000 < fieldValue text 0 4
  month : 1 ≤ fieldValue text 5 2 ∧ fieldValue text 5 2 ≤ 12
  day : 1 ≤ fieldValue text 8 2 ∧ fieldValue text 8 2 ≤ 31
  hour : 0 ≤ fieldValue text 11 2 ∧ fieldValue text 11 2 ≤ 23
  minute : 0 ≤ fieldValue text 14 2 ∧ fieldValue text 14 2 ≤ 59
  second : 0 ≤ fieldValue text 17 2 ∧ fieldValue text 17 2 ≤ 59

def readGmt (text : List UInt8) : IoTgoGMTTime where
  year := UInt16.ofInt (fieldValue text 0 4)
  month := UInt8.ofInt (fieldValue text 5 2)
  day := UInt8.ofInt (fieldValue text 8 2)
  hour := UInt8.ofInt (fieldValue text 11 2)
  minute := UInt8.ofInt (fieldValue text 14 2)
  second := UInt8.ofInt (fieldValue text 17 2)

theorem parse_gmt_iff (nulFree : (0 : UInt8) ∉ text) :
    parseGMTTimeFromString text = some gmt ↔
      (text.length = 24 ∧ text.getD 10 0 = 84 ∧ text.getD 23 0 = 90) ∧
        verifyGMTTime (readGmt text) = true ∧ gmt = readGmt text := by
  have length : strlen text = text.length := by
    rw [strlen, c_string_of_nul_free nulFree]
  change (if strlen text = 24 ∧ text.getD 10 0 = 84 ∧ text.getD 23 0 = 90 then
    if verifyGMTTime (readGmt text) = true then some (readGmt text) else none else none) = _ ↔ _
  rw [length]
  split
  · rename_i marked
    rw [and_iff_right marked]
    split
    · rename_i verified
      rw [and_iff_right verified, Option.some.injEq, eq_comm]
    · rename_i refused
      exact iff_of_false (fun absent => by cases absent) fun both => refused both.1
  · rename_i other
    exact iff_of_false (fun absent => by cases absent) fun all => other all.1

theorem narrow_field (text : List UInt8) (start : Nat) :
    -10 < fieldValue text start 2 ∧ fieldValue text start 2 < 100 ∧
      ((UInt8.ofInt (fieldValue text start 2)).toNat : Int) = fieldValue text start 2 % 256 := by
  have short : (slice text start 2).length ≤ 1 + 1 := List.length_take_le 2 _
  obtain ⟨lower, upper⟩ := atoi_range short
  exact ⟨lower, upper, uint8_of_int_value _⟩

theorem narrow_year (text : List UInt8) :
    -1000 < fieldValue text 0 4 ∧ fieldValue text 0 4 < 10000 ∧
      ((UInt16.ofInt (fieldValue text 0 4)).toNat : Int) = fieldValue text 0 4 % 65536 := by
  have short : (slice text 0 4).length ≤ 3 + 1 := List.length_take_le 4 _
  obtain ⟨lower, upper⟩ := atoi_range short
  exact ⟨lower, upper, uint16_of_int_value _⟩

theorem verify_gmt_iff :
    verifyGMTTime gmt = true ↔ 2000 < gmt.year.toNat ∧ (1 ≤ gmt.month.toNat ∧ gmt.month.toNat ≤ 12) ∧
      (1 ≤ gmt.day.toNat ∧ gmt.day.toNat ≤ 31) ∧ gmt.hour.toNat ≤ 23 ∧ gmt.minute.toNat ≤ 59 ∧
        gmt.second.toNat ≤ 59 := by
  unfold verifyGMTTime
  simp only [decide_eq_true_eq, UInt16.lt_iff_toNat_lt, UInt8.le_iff_toNat_le]
  rfl

theorem accepted_iff (nulFree : (0 : UInt8) ∉ text) :
    parseGMTTimeFromString text = some gmt ↔ LooksLikeTime text ∧ gmt = readGmt text := by
  have year := narrow_year text
  have month := narrow_field text 5
  have day := narrow_field text 8
  have hour := narrow_field text 11
  have minute := narrow_field text 14
  have second := narrow_field text 17
  rw [parse_gmt_iff nulFree, verify_gmt_iff, ← and_assoc]
  apply and_congr_left'
  unfold readGmt
  dsimp only
  constructor
  · rintro ⟨⟨length, marks⟩, inYear, inMonth, inDay, inHour, inMinute, inSecond⟩
    constructor
    · exact length
    · exact marks
    all_goals omega
  · intro looks
    have inYear := looks.year
    have inMonth := looks.month
    have inDay := looks.day
    have inHour := looks.hour
    have inMinute := looks.minute
    have inSecond := looks.second
    refine ⟨⟨looks.length, looks.marks⟩, ?_⟩
    omega

theorem parse_c_string (memory : List UInt8) :
    parseGMTTimeFromString (cString memory) = parseGMTTimeFromString memory := by
  unfold parseGMTTimeFromString
  rw [strlen_c_string]
  by_cases length : strlen memory = 24
  · obtain ⟨rest, split⟩ := c_string_front memory
    have mark : ∀ index < 24, (cString memory).getD index 0 = memory.getD index 0 := by
      intro index inside
      conv_rhs => rw [← split]
      exact (List.getD_append _ _ _ _ (by rw [← strlen, length]; exact inside)).symm
    have field : ∀ start count, start + count ≤ 24 →
        fieldValue (cString memory) start count = fieldValue memory start count := by
      intro start count inside
      have bound : start + count ≤ (cString memory).length := Nat.le_trans inside (Nat.le_of_eq length.symm)
      conv_rhs => rw [← split]
      unfold fieldValue
      rw [List.drop_append_of_le_length (by omega), List.take_append_of_le_length]
      rw [List.length_drop]
      omega
    rw [mark 10 (by decide), mark 23 (by decide), field 0 4 (by decide), field 5 2 (by decide),
      field 8 2 (by decide), field 11 2 (by decide), field 14 2 (by decide),
      field 17 2 (by decide)]
  · rw [if_neg fun all => length all.1, if_neg fun all => length all.1]

end Reading

section Layouts

variable {text memory : List UInt8} {gmt : IoTgoGMTTime}

theorem layout_length (layout : HasLayout text) : text.length = 24 :=
  layout.length_eq.symm

theorem fills_mark {slot byte : UInt8} (fills : Fills slot byte) (mark : slot ∉ digitSlots) :
    byte = slot := by
  unfold Fills at fills
  rwa [if_neg mark] at fills

theorem layout_byte (layout : HasLayout text) (index : Nat) (inside : index < 24) :
    Fills (gmtPattern.getD index 0) (text.getD index 0) := by
  have length := layout_length layout
  have byte := (List.forall₂_iff_get.1 layout).2 index inside (length ▸ inside)
  rwa [List.get_eq_getElem, List.get_eq_getElem, ← List.getD_eq_getElem _ 0,
    ← List.getD_eq_getElem _ 0] at byte

def isDigitSlot (slot : UInt8) : Bool :=
  decide (slot ∈ digitSlots)

theorem layout_digits (layout : HasLayout text) (start count : Nat)
    (slots : (slice gmtPattern start count).all isDigitSlot = true) :
    (slice text start count).length = (slice gmtPattern start count).length ∧
      ∀ byte ∈ slice text start count, isDigit byte = true := by
  have part : List.Forall₂ Fills (slice gmtPattern start count) (slice text start count) :=
    List.forall₂_take count (List.forall₂_drop start layout)
  refine ⟨part.length_eq.symm, ?_⟩
  intro byte member
  obtain ⟨index, inside, rfl⟩ := List.getElem_of_mem member
  have inside' : index < (slice gmtPattern start count).length := part.length_eq ▸ inside
  have fills := (List.forall₂_iff_get.1 part).2 index inside' inside
  unfold Fills at fills
  rwa [if_pos (of_decide_eq_true (List.all_eq_true.1 slots _ (List.get_mem _ _)))] at fills

theorem layout_field (layout : HasLayout text) {start count : Nat}
    (slots : (slice gmtPattern start count).all isDigitSlot = true)
    (present : slice gmtPattern start count ≠ []) (short : count ≤ 4) :
    fieldValue text start count = digitsValue (slice text start count) := by
  obtain ⟨length, digits⟩ := layout_digits layout start count slots
  have written : WritesNumber (slice text start count) (digitsValue (slice text start count)) :=
    { present := List.ne_nil_of_length_pos (length ▸ List.length_pos_of_ne_nil present)
      all := digits
      number := rfl }
  have bound := digits_value_lt digits
  have width : (slice text start count).length ≤ 4 := Nat.le_trans (List.length_take_le _ _) short
  have small : 10 ^ (slice text start count).length ≤ 10 ^ 4 := Nat.pow_le_pow_right (by decide) width
  have read := @atoi_written _ [] _ written (by omega) (by simp [cString])
  rwa [List.append_nil] at read

theorem layout_fields (layout : HasLayout text) :
    fieldValue text 0 4 = (writtenInstant text).year ∧
      fieldValue text 5 2 = (writtenInstant text).month ∧
      fieldValue text 8 2 = (writtenInstant text).day ∧
      fieldValue text 11 2 = (writtenInstant text).hour ∧
      fieldValue text 14 2 = (writtenInstant text).minute ∧
      fieldValue text 17 2 = (writtenInstant text).second :=
  ⟨layout_field layout (by decide) (by decide) (by decide),
    layout_field layout (by decide) (by decide) (by decide),
    layout_field layout (by decide) (by decide) (by decide),
    layout_field layout (by decide) (by decide) (by decide),
    layout_field layout (by decide) (by decide) (by decide),
    layout_field layout (by decide) (by decide) (by decide)⟩

theorem read_instant (layout : HasLayout text) :
    instantOf (readGmt text) = writtenInstant text := by
  obtain ⟨year, month, day, hour, minute, second⟩ := layout_fields layout
  have narrowYear := narrow_year text
  have narrowMonth := narrow_field text 5
  have narrowDay := narrow_field text 8
  have narrowHour := narrow_field text 11
  have narrowMinute := narrow_field text 14
  have narrowSecond := narrow_field text 17
  simp only [writtenInstant] at year month day hour minute second
  simp only [instantOf, readGmt, writtenInstant, Instant.mk.injEq]
  omega

theorem instant_injective {left right : IoTgoGMTTime} (same : instantOf left = instantOf right) :
    left = right := by
  obtain ⟨year, month, day, hour, minute, second⟩ := left
  obtain ⟨year', month', day', hour', minute', second'⟩ := right
  unfold instantOf at same
  simp only [Instant.mk.injEq, UInt16.toNat_inj, UInt8.toNat_inj] at same
  obtain ⟨rfl, rfl, rfl, rfl, rfl, rfl⟩ := same
  rfl

theorem GmtText.looks (written : GmtText text gmt) : LooksLikeTime text := by
  obtain ⟨year, month, day, hour, minute, second⟩ := layout_fields written.layout
  have later := written.later
  obtain ⟨realMonth, realDay, realHour, realMinute, realSecond⟩ := written.real
  have longest := (days_in_month_bounds (writtenInstant text).year (writtenInstant text).month).2
  have lastDay := Nat.le_trans realDay.2 longest
  constructor
  · exact layout_length written.layout
  · exact ⟨fills_mark (layout_byte written.layout 10 (by decide)) (by decide),
      fills_mark (layout_byte written.layout 23 (by decide)) (by decide)⟩
  all_goals omega

theorem looks_written (looks : LooksLikeTime text) (layout : HasLayout text)
    (exist : DayExists text) : GmtText text (readGmt text) := by
  obtain ⟨year, month, day, hour, minute, second⟩ := layout_fields layout
  obtain ⟨-, -, inYear, inMonth, inDay, inHour, inMinute, inSecond⟩ := looks
  constructor
  · exact layout
  · omega
  · constructor
    · omega
    · exact ⟨by omega, exist⟩
    all_goals omega
  · exact read_instant layout

theorem GmtText.read (written : GmtText text gmt) : gmt = readGmt text :=
  instant_injective (written.fields.trans (read_instant written.layout).symm)

/-- The strings that are misread look like a time and are none: other bytes around the digits of
a field, other marks between the fields, or a day that the month does not have. -/
theorem reads_gmt_iff (memory : List UInt8) :
    (∀ gmt, parseGMTTimeFromString memory = some gmt ↔ GmtText (cString memory) gmt) ↔
      (LooksLikeTime (cString memory) →
        HasLayout (cString memory) ∧ DayExists (cString memory)) := by
  have accepted : ∀ gmt, parseGMTTimeFromString memory = some gmt ↔
      LooksLikeTime (cString memory) ∧ gmt = readGmt (cString memory) := by
    intro gmt
    rw [← parse_c_string]
    exact accepted_iff (c_string_nul_free memory)
  constructor
  · intro reads looks
    have written := (reads _).1 ((accepted _).2 ⟨looks, rfl⟩)
    exact ⟨written.layout, written.real.day.2⟩
  · intro named gmt
    rw [accepted]
    constructor
    · rintro ⟨looks, rfl⟩
      obtain ⟨layout, exist⟩ := named looks
      exact looks_written looks layout exist
    · intro written
      exact ⟨written.looks, written.read⟩

/-- A negative year is stored as one behind 2000. -/
theorem negative_year_accepted :
    ¬∀ gmt, parseGMTTimeFromString (asciiBytes "-999-01-01T00:00:00.000Z") = some gmt ↔
      GmtText (cString (asciiBytes "-999-01-01T00:00:00.000Z")) gmt := by
  intro reads
  have accepted : parseGMTTimeFromString (asciiBytes "-999-01-01T00:00:00.000Z") =
      some ⟨64537, 1, 1, 0, 0, 0⟩ := by decide
  have written := (reads _).1 accepted
  have first := layout_byte written.layout 0 (by decide)
  exact absurd first (by decide)

end Layouts

end IotgoFirmware.Timers.GmtGrammar
