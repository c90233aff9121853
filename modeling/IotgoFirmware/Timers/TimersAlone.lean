import IotgoFirmware.Timers.TimerReadings

/-!
# Timers that are parsed on their own

`procOneTimer` does not stop at the `}` of its timer. A timer takes nothing from the ones
behind it where its own members complete it, or cut its loop, or where those offer nothing up
to the next cut.
-/

namespace IotgoFirmware.Timers.TimersAlone

open IotgoFirmware.Library.CFaults
open IotgoFirmware.Library.CStrings
open IotgoFirmware.Library.CollectingReads
open IotgoFirmware.Library.JsonDocuments
open IotgoFirmware.Timers.TimeObjects
open IotgoFirmware.Timers.TimerOffers
open IotgoFirmware.Timers.TimerReadings

set_option autoImplicit false

section Timers

/-- The values that `procOneTimer` stores, one after another. -/
def takenValues (tokens : List JsonToken) : List TimerValue :=
  collect timerCollector .initial (scanOffers .timer 0 tokens)

/-- The fields that `procOneTimer` looks for when its loop is left. -/
def accepted (fields : TimerFields) : Bool :=
  fields.enabled.isSome && fields.type.isSome && fields.timerAt.isSome &&
    (fields.doSwitch.isSome || fields.startDo.isSome || fields.endDo.isSome)

inductive TimerField where
  | enabled
  | type
  | timerAt
  | doSwitch
  | startDo
  | endDo
deriving DecidableEq

def fieldOf : TimerValue → Option TimerField
  | .enabled _ => some .enabled
  | .type _ => some .type
  | .timerAt _ => some .timerAt
  | .switch .timer _ => none
  | .switch .doSwitch _ => some .doSwitch
  | .switch .startDo _ => some .startDo
  | .switch .endDo _ => some .endDo

def isSet (fields : TimerFields) : TimerField → Bool
  | .enabled => fields.enabled.isSome
  | .type => fields.type.isSome
  | .timerAt => fields.timerAt.isSome
  | .doSwitch => fields.doSwitch.isSome
  | .startDo => fields.startDo.isSome
  | .endDo => fields.endDo.isSome

/-- One of the values that are given is one for the field. -/
def Has (given : TimerValue → Prop) (field : TimerField) : Prop :=
  ∃ value, given value ∧ fieldOf value = some field

def actionName : ScanLoop → Option (List UInt8)
  | .timer => none
  | .doSwitch => some (asciiBytes "do")
  | .startDo => some (asciiBytes "startDo")
  | .endDo => some (asciiBytes "endDo")

/-- What a member of the object itself gives. -/
def Gives (members : Members) : TimerValue → Prop
  | .enabled value => ∃ later, (asciiBytes "enabled", .scalar (.number value) later) ∈ members
  | .type text => ∃ whole, (asciiBytes "type", .string whole) ∈ members ∧ text = whole.take 9
  | .timerAt text => ∃ whole, (asciiBytes "at", .string whole) ∈ members ∧ text = whole.take 49
  | .switch loop text => ∃ name action whole, actionName loop = some name ∧
      (name, .object action) ∈ members ∧ (asciiBytes "switch", .string whole) ∈ action ∧
      text = whole.take 9

section Presence

variable (given : TimerValue → Prop)

/-- `enabled`, `type` and `at`. -/
def HasSchedule : Prop :=
  Has given .enabled ∧ Has given .type ∧ Has given .timerAt

/-- `do`, or both `startDo` and `endDo`. -/
def HasActions : Prop :=
  Has given .doSwitch ∨ (Has given .startDo ∧ Has given .endDo)

def HasSomeAction : Prop :=
  Has given .doSwitch ∨ Has given .startDo ∨ Has given .endDo

end Presence

/-- The timer is parsed on its own in an array in which `others` follow. -/
structure ParsedAlone (members : Members) (others : List Members) (rest : List JsonToken) :
    Prop where
  values : takenValues (ownTokens members ++ (arrayTail others ++ rest)) =
    takenValues (ownTokens members)
  accepts : accepted (scanTimer .timer 0 .initial
      (ownTokens members ++ (arrayTail others ++ rest))) = true ↔
    HasSchedule (Gives members) ∧ HasActions (Gives members)

/-- The object holds all that is waited for, or something in it ends the reading, or the timers
behind it hold nothing up to what ends the reading there. -/
def Separate (members : Members) (others : List Members) : Prop :=
  (HasSchedule (· ∈ (readTimer members).values) ∧ HasActions (· ∈ (readTimer members).values)) ∨
    (readTimer members).loop = none ∨ (readTimers others).values = []

/-- A timer holds its schedule and an action in front of what ends its reading, and an object
that is none holds no others in their place. -/
structure Straight (members : Members) : Prop where
  shows : HasSchedule (Gives members) ∧ HasActions (Gives members) →
    HasSchedule (· ∈ (readTimer members).values) ∧ HasSomeAction (· ∈ (readTimer members).values)
  lacks : ¬(HasSchedule (Gives members) ∧ HasActions (Gives members)) →
    HasSchedule (· ∈ (readTimer members).values) →
    ¬HasSomeAction (· ∈ (readTimer members).values)

end Timers

section Fields

variable {fields : TimerFields} {values : List TimerValue}

theorem is_set_store (fields : TimerFields) (value : TimerValue) (field : TimerField) :
    isSet (value.store fields) field = true ↔
      isSet fields field = true ∨ fieldOf value = some field := by
  cases value with
  | switch loop text =>
      cases loop <;> cases field <;> simp [isSet, fieldOf, TimerValue.store, ScanLoop.store]
  | _ => cases field <;> simp [isSet, fieldOf, TimerValue.store]

theorem is_set_after (values : List TimerValue) (field : TimerField) :
    isSet (timerCollector.after .initial values) field = true ↔ Has (· ∈ values) field := by
  have later := @after_has _ _ timerCollector .initial (fun fields => isSet fields field = true)
    (fun value => fieldOf value = some field) (fun fields value => is_set_store fields value field)
    values
  have unset : ¬isSet .initial field = true := by
    cases field <;> exact Bool.noConfusion
  rw [later]
  exact or_iff_right unset

theorem complete_iff (values : List TimerValue) :
    (timerCollector.after .initial values).complete = true ↔
      HasSchedule (· ∈ values) ∧ HasActions (· ∈ values) := by
  have sets := is_set_after values
  simp only [HasSchedule, HasActions, ← sets, isSet, TimerFields.complete, Bool.and_eq_true,
    Bool.or_eq_true, and_assoc]

theorem accepted_iff (values : List TimerValue) :
    accepted (timerCollector.after .initial values) = true ↔
      HasSchedule (· ∈ values) ∧ HasSomeAction (· ∈ values) := by
  have sets := is_set_after values
  simp only [HasSchedule, HasSomeAction, ← sets, isSet, accepted, Bool.and_eq_true,
    Bool.or_eq_true, and_assoc, or_assoc]

theorem complete_accepted (fields : TimerFields) (complete : fields.complete = true) :
    accepted fields = true := by
  simp only [TimerFields.complete, accepted, Bool.and_eq_true, Bool.or_eq_true] at complete ⊢
  obtain ⟨schedule, single | both⟩ := complete
  · exact ⟨schedule, .inl (.inl single)⟩
  · exact ⟨schedule, .inr both.2⟩

end Fields

section Alone

theorem proc_one_timer_refuses {tokens : List JsonToken} (around : Surroundings)
    (list : TimeObjectList)
    (refused : accepted (scanTimer .timer 0 .initial tokens) = false) :
    procOneTimer around list tokens = .ok (deleteAllTimeObject list, some false) := by
  unfold procOneTimer
  unfold accepted at refused
  dsimp only
  split
  · rename_i enabled type timerAt
    rw [enabled, type, timerAt] at refused
    have missing : ¬((scanTimer .timer 0 .initial tokens).doSwitch.isSome = true ∨
        (scanTimer .timer 0 .initial tokens).startDo.isSome = true ∨
        (scanTimer .timer 0 .initial tokens).endDo.isSome = true) := by
      simpa [and_assoc] using refused
    rw [if_neg missing]
  · rfl

theorem scan_taken (tokens : List JsonToken) :
    scanTimer .timer 0 .initial tokens = timerCollector.after .initial (takenValues tokens) :=
  scan_collects .timer 0 .initial tokens

theorem tail_turn (others : List Members) (rest : List JsonToken) :
    ∃ offers, scanOffers .timer 0 (arrayTail others ++ rest) = .turn :: offers ∧
      heard offers = (readTimers others).values := by
  obtain ⟨front, values, cut, passes, -⟩ := reads_array_tail others
  obtain ⟨more, read, -⟩ := passes rest
  have begins : ∃ offers, scanOffers .timer 0 (arrayTail others ++ rest) = .turn :: offers := by
    unfold arrayTail
    cases itemTokens (others.map .object) <;> exact ⟨_, rfl⟩
  obtain ⟨offers, turn⟩ := begins
  refine ⟨offers, turn, ?_⟩
  calc
    heard offers = heard (.turn :: offers) := rfl
    _ = heard (front ++ more) := by rw [← turn, read]
    _ = (readTimers others).values := by
      rw [heard_append_cut (cut.2 (timers_end others)), values]

theorem heard_own (members : Members) :
    heard (scanOffers .timer 0 (ownTokens members)) = (readTimer members).values := by
  obtain ⟨front, values, cut, passes, -⟩ := reads_own members
  obtain ⟨more, read, goes⟩ := passes []
  rw [List.append_nil] at read
  rw [read, ← values]
  cases behind : (readTimer members).loop with
  | none => exact heard_append_cut (cut.2 behind)
  | some next =>
      rw [goes next behind, scan_nil, List.append_nil]

theorem values_alone_iff (members : Members) (others : List Members) (rest : List JsonToken) :
    takenValues (ownTokens members ++ (arrayTail others ++ rest)) =
      takenValues (ownTokens members) ↔ Separate members others := by
  obtain ⟨front, values, cut, passes, -⟩ := reads_own members
  obtain ⟨more, read, goes⟩ := passes (arrayTail others ++ rest)
  obtain ⟨alone, readAlone, goesAlone⟩ := passes []
  rw [List.append_nil] at readAlone
  unfold takenValues Separate
  rw [read, readAlone, ← values, ← complete_iff]
  cases behind : (readTimer members).loop with
  | none =>
      have ended := cut.2 behind
      rw [collect_cut ended, collect_cut ended]
      exact iff_of_true rfl (.inr (.inl rfl))
  | some next =>
      obtain ⟨offers, turn, offered⟩ := tail_turn others rest
      obtain rfl := timer_loop behind
      have whole : ¬.cut ∈ front := fun member => by cases behind.symm.trans (cut.1 member)
      rw [goes .timer behind, goesAlone .timer behind, scan_nil, List.append_nil, turn,
        collect_alone_iff, offered]
      have none : ¬some ScanLoop.timer = none := Option.some_ne_none _
      exact or_congr Iff.rfl (or_congr (iff_of_false whole none) Iff.rfl)

theorem accepted_own (members : Members) :
    accepted (timerCollector.after .initial (takenValues (ownTokens members))) = true ↔
      HasSchedule (· ∈ (readTimer members).values) ∧
        HasSomeAction (· ∈ (readTimer members).values) := by
  rw [← accepted_iff, ← heard_own]
  exact @collected_test _ _ timerCollector .initial _ (fun fields => accepted fields = true)
    complete_accepted

theorem straight_iff (members : Members) :
    Straight members ↔
      (HasSchedule (· ∈ (readTimer members).values) ∧
          HasSomeAction (· ∈ (readTimer members).values) ↔
        HasSchedule (Gives members) ∧ HasActions (Gives members)) := by
  constructor
  · intro straight
    refine ⟨fun held => ?_, straight.shows⟩
    by_contra none
    exact straight.lacks none held.1 held.2
  · intro same
    exact ⟨same.2, fun none schedule action => none (same.1 ⟨schedule, action⟩)⟩

theorem parsed_alone_iff (members : Members) (others : List Members) (rest : List JsonToken) :
    ParsedAlone members others rest ↔ Separate members others ∧ Straight members := by
  have accepts (values : takenValues (ownTokens members ++ (arrayTail others ++ rest)) =
      takenValues (ownTokens members)) :
      accepted (scanTimer .timer 0 .initial (ownTokens members ++ (arrayTail others ++ rest))) =
        true ↔ HasSchedule (· ∈ (readTimer members).values) ∧
          HasSomeAction (· ∈ (readTimer members).values) := by
    rw [scan_taken, values]
    exact accepted_own members
  rw [straight_iff]
  constructor
  · intro alone
    exact ⟨(values_alone_iff members others rest).1 alone.values,
      (accepts alone.values).symm.trans alone.accepts⟩
  · rintro ⟨separate, right⟩
    have values := (values_alone_iff members others rest).2 separate
    exact ⟨values, (accepts values).trans right⟩

/-- The timers of an array are parsed independently of each other. -/
def ParsedIndependently (timers : List Members) (rest : List JsonToken) : Prop :=
  ∀ members others, (members :: others) <:+ timers → ParsedAlone members others rest

theorem timers_independent_iff (timers : List Members) (rest : List JsonToken) :
    ParsedIndependently timers rest ↔
      ∀ members others, (members :: others) <:+ timers →
        Separate members others ∧ Straight members :=
  forall₂_congr fun members others => imp_congr_right fun _ => parsed_alone_iff members others rest

/-- A timer without `do`, and one that has nothing else. -/
def borrowingTimers : List Members :=
  [[(asciiBytes "enabled", .number 1), (asciiBytes "type", .string (asciiBytes "once")),
      (asciiBytes "at", .string (asciiBytes "2015-06-20T08:00:00.000Z"))],
    [(asciiBytes "do", .object [(asciiBytes "switch", .string (asciiBytes "on"))])]]

/-- The first timer takes the `do` of the second, and is accepted. -/
theorem timer_borrows_action : ¬ParsedIndependently borrowingTimers [] := by
  intro independent
  have alone := independent _ _ List.suffix_rfl
  have values := congrArg List.length alone.values
  revert values
  decide

end Alone

end IotgoFirmware.Timers.TimersAlone
