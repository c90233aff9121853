import IotgoFirmware.Library.CollectingReads
import IotgoFirmware.Timers.TimeObjects

/-!
# What the loops of `procOneTimer` read

The loops do not follow the objects of the array. Where the members of a timer do not set all
the fields that are waited for, and no `]` and no value of a wrong type ends the loop, it goes
on in the next object of the array.
-/

namespace IotgoFirmware.Timers.TimerOffers

open IotgoFirmware.Core.PkgScan (jsonIoTgoGetString jsonIoTgoGetNumber)
open IotgoFirmware.Library.CStrings
open IotgoFirmware.Library.CollectingReads
open IotgoFirmware.Library.JsonDocuments
open IotgoFirmware.Timers.TimeObjects

set_option autoImplicit false

deriving instance DecidableEq for ScanLoop

section Turns

/-- A value that `procOneTimer` keeps; the switch of an action is read by its loop. -/
inductive TimerValue where
  | enabled (value : Int)
  | type (text : List UInt8)
  | timerAt (text : List UInt8)
  | switch (loop : ScanLoop) (text : List UInt8)
deriving DecidableEq

def TimerValue.store (fields : TimerFields) : TimerValue → TimerFields
  | .enabled value => { fields with enabled := some value }
  | .type text => { fields with type := some text }
  | .timerAt text => { fields with timerAt := some text }
  | .switch loop text => loop.store fields text

/-- What a turn does behind its element: how many it consumes there, the loop that runs next,
and the value that is read; or the loop over the timer is left. -/
inductive ScanTurn where
  | leaves (consumed : Nat)
  | goes (loop : ScanLoop) (consumed : Nat) (read : Option TimerValue)

/-- A value that has to be of its type. -/
def required (read : Option TimerValue) : ScanTurn :=
  match read with
  | some value => .goes .timer 2 (some value)
  | none => .leaves 2

/-- A turn of the loop over the timer, where there is a next element. -/
def timerTurn (token : JsonToken) (rest : List JsonToken) : ScanTurn :=
  match token with
  | .arrayEnd => .leaves 0
  | .failed => .leaves 0
  | .pairName name =>
      if Matches name (asciiBytes "enabled") then
        required ((jsonIoTgoGetNumber rest).map .enabled)
      else if Matches name (asciiBytes "type") then
        required ((jsonIoTgoGetString rest 10).map .type)
      else if Matches name (asciiBytes "at") then
        required ((jsonIoTgoGetString rest 50).map .timerAt)
      else
        match actionLoop name with
        | none => .goes .timer 0 none
        | some loop =>
            match rest with
            | .pair :: .object :: _ => .goes loop 2 none
            | _ => .goes .timer 2 none
  | _ => .goes .timer 0 none

/-- A turn of the loop over an action. -/
def actionTurn (loop : ScanLoop) (token : JsonToken) (rest : List JsonToken) : ScanTurn :=
  match token with
  | .objectEnd => .goes .timer 0 none
  | .failed => .goes .timer 0 none
  | .pairName name =>
      if Matches name (asciiBytes "switch") then
        match jsonIoTgoGetString rest 10 with
        | some text => .goes loop 2 (some (.switch loop text))
        | none => .goes .timer 2 none
      else .goes loop 0 none
  | _ => .goes loop 0 none

def scanTurn (loop : ScanLoop) (token : JsonToken) (rest : List JsonToken) : ScanTurn :=
  match loop with
  | .timer => timerTurn token rest
  | _ => actionTurn loop token rest

/-- Only the loop over the timer looks whether the fields are complete. -/
def turnOffer (loop : ScanLoop) : List (Offer TimerValue) :=
  match loop with
  | .timer => [.turn]
  | _ => []

def ScanTurn.offered : ScanTurn → List (Offer TimerValue)
  | .leaves _ => [.cut]
  | .goes _ _ none => []
  | .goes _ _ (some value) => [.value value]

def ScanTurn.consumed : ScanTurn → Nat
  | .leaves consumed => consumed
  | .goes _ consumed _ => consumed

def ScanTurn.next : ScanTurn → ScanLoop
  | .leaves _ => .timer
  | .goes next _ _ => next

/-- What the elements offer, whatever the fields are. Behind a cut nothing is read. -/
def scanOffers : ScanLoop → Nat → List JsonToken → List (Offer TimerValue)
  | _, _, [] => []
  | loop, skip + 1, _ :: rest => scanOffers loop skip rest
  | loop, 0, token :: rest =>
      let turn := scanTurn loop token rest
      turnOffer loop ++ (turn.offered ++ scanOffers turn.next turn.consumed rest)

/-- The elements that the loops of `procOneTimer` consume. -/
def scanConsumed : ScanLoop → Nat → TimerFields → List JsonToken → Nat
  | _, _, _, [] => 0
  | loop, skip + 1, fields, _ :: rest => scanConsumed loop skip fields rest + 1
  | loop, 0, fields, token :: rest =>
      if loop = .timer ∧ fields.complete = true then 0
      else
        match scanTurn loop token rest with
        | .leaves consumed => consumed + 1
        | .goes next consumed none => scanConsumed next consumed fields rest + 1
        | .goes next consumed (some value) =>
            scanConsumed next consumed (value.store fields) rest + 1

theorem complete_stays (fields : TimerFields) (value : TimerValue)
    (complete : fields.complete = true) : (value.store fields).complete = true := by
  unfold TimerFields.complete at complete ⊢
  simp only [Bool.and_eq_true, Bool.or_eq_true] at complete ⊢
  obtain ⟨⟨⟨enabled, type⟩, timerAt⟩, actions⟩ := complete
  cases value with
  | enabled value => exact ⟨⟨⟨rfl, type⟩, timerAt⟩, actions⟩
  | type text => exact ⟨⟨⟨enabled, rfl⟩, timerAt⟩, actions⟩
  | timerAt text => exact ⟨⟨⟨enabled, type⟩, rfl⟩, actions⟩
  | switch loop text =>
      cases loop with
      | timer => exact ⟨⟨⟨enabled, type⟩, timerAt⟩, actions⟩
      | doSwitch => exact ⟨⟨⟨enabled, type⟩, timerAt⟩, .inl rfl⟩
      | startDo => exact ⟨⟨⟨enabled, type⟩, timerAt⟩, actions.imp_right fun both => ⟨rfl, both.2⟩⟩
      | endDo => exact ⟨⟨⟨enabled, type⟩, timerAt⟩, actions.imp_right fun both => ⟨both.1, rfl⟩⟩

def timerCollector : Collector TimerValue TimerFields where
  store := fun fields value => value.store fields
  enough := TimerFields.complete
  stays := complete_stays

end Turns

section Scan

variable {fields : TimerFields} {token : JsonToken}

theorem scan_timer_complete (complete : fields.complete = true) (tokens : List JsonToken) :
    scanTimer .timer 0 fields tokens = fields := by
  cases tokens with
  | nil => rfl
  | cons token rest =>
      cases token <;> exact if_pos complete

/-- What a turn makes of the fields, where the loop goes on in `rest`. -/
def afterTurn (fields : TimerFields) (rest : List JsonToken) : ScanTurn → TimerFields
  | .leaves _ => fields
  | .goes next consumed none => scanTimer next consumed fields rest
  | .goes next consumed (some value) => scanTimer next consumed (value.store fields) rest

theorem after_required (fields : TimerFields) (read : Option TimerValue) (rest : List JsonToken) :
    afterTurn fields rest (required read) =
      match read with
      | some value => scanTimer .timer 2 (value.store fields) rest
      | none => fields := by
  cases read <;> rfl

theorem scan_timer_name (missing : fields.complete ≠ true) (name : List UInt8)
    (rest : List JsonToken) :
    scanTimer .timer 0 fields (.pairName name :: rest) =
      afterTurn fields rest (timerTurn (.pairName name) rest) := by
  rw [scanTimer, if_neg missing, timerTurn]
  by_cases enabled : Matches name (asciiBytes "enabled")
  · simp only [if_pos enabled, after_required]
    cases jsonIoTgoGetNumber rest <;> rfl
  · by_cases type : Matches name (asciiBytes "type")
    · simp only [if_neg enabled, if_pos type, after_required]
      cases jsonIoTgoGetString rest 10 <;> rfl
    · by_cases timerAt : Matches name (asciiBytes "at")
      · simp only [if_neg enabled, if_neg type, if_pos timerAt, after_required]
        cases jsonIoTgoGetString rest 50 <;> rfl
      · simp only [if_neg enabled, if_neg type, if_neg timerAt]
        cases actionLoop name with
        | none => rfl
        | some loop =>
            cases rest with
            | nil => rfl
            | cons first more =>
                cases first with
                | pair =>
                    cases more with
                    | nil => rfl
                    | cons second more => cases second <;> rfl
                | _ => rfl

theorem scan_timer_turn (missing : fields.complete ≠ true) (token : JsonToken)
    (rest : List JsonToken) :
    scanTimer .timer 0 fields (token :: rest) = afterTurn fields rest (timerTurn token rest) := by
  cases token with
  | pairName name => exact scan_timer_name missing name rest
  | _ => exact if_neg missing

theorem scan_action_turn {loop : ScanLoop} (action : loop ≠ .timer) (token : JsonToken)
    (rest : List JsonToken) :
    scanTimer loop 0 fields (token :: rest) =
      afterTurn fields rest (actionTurn loop token rest) := by
  cases token with
  | pairName name =>
      by_cases named : Matches name (asciiBytes "switch")
      · cases loop with
        | timer => exact absurd rfl action
        | _ =>
            simp only [scanTimer, actionTurn, if_pos named]
            cases jsonIoTgoGetString rest 10 <;> rfl
      · cases loop with
        | timer => exact absurd rfl action
        | _ =>
            simp only [scanTimer, actionTurn, if_neg named]
            rfl
  | _ =>
      cases loop with
      | timer => exact absurd rfl action
      | _ => rfl

/-- The fields are those of the values that are collected. -/
theorem scan_collects (loop : ScanLoop) (skip : Nat) (fields : TimerFields)
    (tokens : List JsonToken) :
    scanTimer loop skip fields tokens =
      timerCollector.after fields
        (collect timerCollector fields (scanOffers loop skip tokens)) := by
  induction tokens generalizing loop skip fields with
  | nil => cases loop <;> cases skip <;> rfl
  | cons token rest ih =>
      cases skip with
      | succ skip =>
          rw [scanOffers, ← ih]
          cases loop <;> rfl
      | zero =>
          have turn : ∀ turn : ScanTurn, afterTurn fields rest turn =
              timerCollector.after fields (collect timerCollector fields
                (turn.offered ++ scanOffers turn.next turn.consumed rest)) := by
            intro turn
            cases turn with
            | leaves consumed => rfl
            | goes next consumed read => cases read <;> exact ih next consumed _
          rw [scanOffers]
          by_cases timer : loop = .timer
          · subst timer
            by_cases complete : fields.complete = true
            · rw [scan_timer_complete complete, turnOffer, List.singleton_append,
                collect_ends complete]
              rfl
            · rw [scan_timer_turn complete, turn, turnOffer, List.singleton_append,
                collect_turn complete]
              rfl
          · rw [scan_action_turn timer, turn]
            cases loop with
            | timer => exact absurd rfl timer
            | _ => rfl

end Scan

section Elements

theorem consumed_turn {fields : TimerFields} {loop next : ScanLoop} {token : JsonToken}
    {rest : List JsonToken} {consumed : Nat} {read : Option TimerValue}
    (missing : loop = .timer → fields.complete ≠ true)
    (turn : scanTurn loop token rest = .goes next consumed read) :
    scanConsumed loop 0 fields (token :: rest) =
      scanConsumed next consumed (timerCollector.after fields read.toList) rest + 1 := by
  rw [scanConsumed, if_neg fun both => missing both.1 both.2, turn]
  cases read <;> rfl

theorem scan_turn_sees (loop : ScanLoop) (name : List UInt8) (head : JsonToken)
    (more : List JsonToken) :
    scanTurn loop (.pairName name) (.pair :: head :: more) =
      scanTurn loop (.pairName name) [.pair, head] := by
  cases loop <;> cases head <;> rfl

theorem tokens_tail (value : Json) : value.tokens = value.head :: value.tokens.tail := by
  cases value <;> rfl

end Elements

end IotgoFirmware.Timers.TimerOffers
