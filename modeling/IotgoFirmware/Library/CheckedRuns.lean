import IotgoFirmware.Library.CFaults
import IotgoFirmware.Library.StepRuns

/-!
# Runs that may fault, and what they can still see

A machine takes steps that may end in a fault, and what it has seen grows with some of
them. It recovers from a state when some continuation has it see more; to show that it
does not, a property is enough that no step leaves or sees anything in.
-/

namespace IotgoFirmware.Library.CheckedRuns

open IotgoFirmware.Library.CFaults
open IotgoFirmware.Library.StepRuns

set_option autoImplicit false

variable {Machine Event Command : Type} (step : Machine → Event → Checked Machine)
  (seen : Machine → List Command)

/-- A step of a machine that has not come to a fault yet. -/
def CheckedStep (state : Checked Machine) (event : Event) (next : Checked Machine) : Prop :=
  next = state >>= fun machine => step machine event

/-- Some continuation has a command seen. -/
def Recovers (machine : Machine) : Prop :=
  ∃ (events : List Event) (final : Machine), events.foldlM step machine = .ok final ∧
    (seen machine).length < (seen final).length

variable {step seen}

theorem recovers_of_step {machine next : Machine} {event : Event}
    (taken : step machine event = .ok next) (grown : (seen machine).length < (seen next).length) :
    Recovers step seen machine := by
  refine ⟨[event], next, ?_, grown⟩
  rw [List.foldlM_cons, taken]
  rfl

theorem recovers_after {machine next : Machine} {event : Event}
    (taken : step machine event = .ok next) (same : seen next = seen machine)
    (later : Recovers step seen next) : Recovers step seen machine := by
  obtain ⟨events, final, run, grown⟩ := later
  refine ⟨event :: events, final, ?_, same ▸ grown⟩
  rw [List.foldlM_cons, taken]
  exact run

theorem not_recovers (stuck : Machine → Prop)
    (keeps : ∀ machine event next, stuck machine → step machine event = .ok next →
      stuck next ∧ seen next = seen machine)
    {machine : Machine} (here : stuck machine) : ¬ Recovers step seen machine := by
  rintro ⟨events, final, run, grown⟩
  have same : seen final = seen machine := by
    clear grown
    induction events generalizing machine with
    | nil =>
        cases run
        rfl
    | cons event events ih =>
        rw [List.foldlM_cons] at run
        obtain ⟨next, taken, later⟩ := bind_ok_iff.1 run
        have kept := keeps machine event next here taken
        exact (ih kept.1 later).trans kept.2
  rw [same] at grown
  exact Nat.lt_irrefl _ grown

theorem keeps_single {property : Checked Machine → Prop} {machine : Machine} {event : Event}
    (kept : Keeps (CheckedStep step) property (.ok machine) [event]) :
    property (step machine event) :=
  kept.2 _ rfl

/-- A run is judged step by step, once a fault ends it and a step is judged by what it
leaves. -/
theorem checked_keeps_iff (invariant healthy : Machine → Prop)
    (manageable : Machine → Event → Prop)
    (keeps : ∀ machine event next, invariant machine → step machine event = .ok next →
      invariant next)
    (agree : ∀ machine event, invariant machine → healthy machine →
      ((∃ next, step machine event = .ok next ∧ healthy next) ↔ manageable machine event))
    {machine : Machine} (initial : invariant machine) (holds : healthy machine)
    (events : List Event) :
    Keeps (CheckedStep step) (fun state => ∃ machine, state = .ok machine ∧ healthy machine)
        (.ok machine) events ↔
      Meets (CheckedStep step) (fun state event => ∀ machine, state = .ok machine →
        manageable machine event) (.ok machine) events := by
  apply keeps_iff_meets (fun state => ∀ machine, state = .ok machine → invariant machine)
  · intro state event next kept taken machine ended
    rw [CheckedStep, ended] at taken
    obtain ⟨before, same, step'⟩ := bind_ok_iff.1 taken.symm
    exact keeps before event machine (kept before same) step'
  · rintro state event kept ⟨machine, rfl, well⟩
    have judged := agree machine event (kept machine rfl) well
    simp only [CheckedStep, forall_eq, Except.ok.injEq, forall_eq', bind_ok]
    exact judged
  · rintro other same
    cases same
    exact initial
  · exact ⟨machine, rfl, holds⟩

end IotgoFirmware.Library.CheckedRuns
