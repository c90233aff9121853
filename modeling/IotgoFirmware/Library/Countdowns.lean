import IotgoFirmware.Library.StepRuns

/-!
# Countdowns over a run

Some of the events of a machine count, and what waits has only so many of them in front of it.
It is done at the last of them, whatever other events come in between.
-/

namespace IotgoFirmware.Library.Countdowns

open IotgoFirmware.Library.StepRuns

set_option autoImplicit false

variable {State Event : Type*} {step : State → Event → State → Prop} {counts : Event → Bool}
variable {Waiting : Nat → State → Prop} {Done : State → Prop}

/-- `Waiting left` stands for `left` events that count, beside the last one. -/
structure Countdown (step : State → Event → State → Prop) (counts : Event → Bool)
    (Waiting : Nat → State → Prop) (Done : State → Prop) : Prop where
  turn : ∀ left state event next, step state event next → counts event = true →
    Waiting (left + 1) state → Waiting left next
  last : ∀ state event next, step state event next → counts event = true →
    Waiting 0 state → Done next
  holds : ∀ left state event next, step state event next → counts event = false →
    Waiting left state → Waiting left next
  stays : ∀ state event next, step state event next → Done state → Done next

theorem Countdown.done_run (countdown : Countdown step counts Waiting Done)
    {state final : State} {events : List Event} (run : Run step state events final)
    (done : Done state) : Done final :=
  run_keeps Done (fun state event next held first => countdown.stays state event next first held)
    done run

theorem Countdown.done_after (countdown : Countdown step counts Waiting Done)
    {state final : State} {events : List Event} (run : Run step state events final) {left : Nat}
    (waits : Waiting left state) (enough : left < events.countP counts) : Done final := by
  induction run generalizing left with
  | nil => exact absurd enough (Nat.not_lt_zero left)
  | @cons state next final event rest first later ih =>
      cases counted : counts event with
      | false =>
          rw [List.countP_cons_of_neg (by rw [counted]; exact Bool.false_ne_true)] at enough
          exact ih (countdown.holds left state event next first counted waits) enough
      | true =>
          rw [List.countP_cons_of_pos counted] at enough
          cases left with
          | zero =>
              have done := countdown.last state event next first counted waits
              exact countdown.done_run later done
          | succ left =>
              apply ih (countdown.turn left state event next first counted waits)
              exact Nat.lt_of_succ_lt_succ enough

end IotgoFirmware.Library.Countdowns
