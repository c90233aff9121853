import Mathlib.Data.List.Basic

/-!
# Runs of a step relation

A machine takes one event at a time. `Meets` says that a condition on the state
and the event holds before every step a run can take; `Keeps` says that a
property holds in every state it reaches. The invariant rule passes from the
first to the second.
-/

namespace IotgoFirmware.Library.StepRuns

set_option autoImplicit false

variable {State Event : Type*}

inductive Run (step : State → Event → State → Prop) : State → List Event → State → Prop where
  | nil {state : State} : Run step state [] state
  | cons {state next final : State} {event : Event} {rest : List Event}
      (first : step state event next) (later : Run step next rest final) :
      Run step state (event :: rest) final

def Meets (step : State → Event → State → Prop) (condition : State → Event → Prop) :
    State → List Event → Prop
  | _, [] => True
  | state, event :: rest =>
      condition state event ∧ ∀ next, step state event next → Meets step condition next rest

def Keeps (step : State → Event → State → Prop) (property : State → Prop) :
    State → List Event → Prop
  | state, [] => property state
  | state, event :: rest =>
      property state ∧ ∀ next, step state event next → Keeps step property next rest

variable {step : State → Event → State → Prop}

theorem run_mono {wide : State → Event → State → Prop}
    (implies : ∀ state event next, step state event next → wide state event next)
    {state final : State} {events : List Event} (run : Run step state events final) :
    Run wide state events final := by
  induction run with
  | nil => exact .nil
  | cons first _ ih => exact .cons (implies _ _ _ first) ih

theorem run_unique
    (deterministic : ∀ state event left right,
      step state event left → step state event right → left = right)
    {state left right : State} {events : List Event}
    (first : Run step state events left) (second : Run step state events right) :
    left = right := by
  induction first with
  | nil => cases second; rfl
  | cons head _ ih =>
      cases second with
      | cons head' later' =>
          cases deterministic _ _ _ _ head head'
          exact ih later'

theorem keeps_of_meets {condition : State → Event → Prop} (invariant : State → Prop)
    (keeps : ∀ state event next, invariant state → condition state event →
      step state event next → invariant next)
    {state : State} {events : List Event} (initial : invariant state)
    (met : Meets step condition state events) : Keeps step invariant state events := by
  induction events generalizing state with
  | nil => exact initial
  | cons event rest ih =>
      refine ⟨initial, fun next taken => ?_⟩
      exact ih (keeps _ _ _ initial met.1 taken) (met.2 next taken)

theorem keeps_always {invariant : State → Prop}
    (keeps : ∀ state event next, invariant state → step state event next → invariant next)
    {state : State} (initial : invariant state) (events : List Event) :
    Keeps step invariant state events := by
  induction events generalizing state with
  | nil => exact initial
  | cons event rest ih =>
      refine ⟨initial, fun next taken => ?_⟩
      exact ih (keeps _ _ _ initial taken)

/-- Progress rule: steps that the condition makes possible lead to the end of the
run. -/
theorem run_of_meets {condition : State → Event → Prop} (invariant : State → Prop)
    (progress : ∀ state event, invariant state → condition state event →
      ∃ next, step state event next ∧ invariant next)
    {state : State} {events : List Event} (initial : invariant state)
    (met : Meets step condition state events) : ∃ final, Run step state events final := by
  induction events generalizing state with
  | nil => exact ⟨state, .nil⟩
  | cons event rest ih =>
      rcases progress state event initial met.1 with ⟨next, taken, kept⟩
      rcases ih kept (met.2 next taken) with ⟨final, later⟩
      exact ⟨final, .cons taken later⟩

theorem keeps_final {property : State → Prop} {state final : State} {events : List Event}
    (kept : Keeps step property state events) (run : Run step state events final) :
    property final := by
  induction run with
  | nil => exact kept
  | cons head _ ih => exact ih (kept.2 _ head)

theorem keeps_first {property : State → Prop} {state : State} {events : List Event}
    (kept : Keeps step property state events) : property state := by
  cases events with
  | nil => exact kept
  | cons => exact kept.1

theorem keeps_mono {strong weak : State → Prop} (implies : ∀ state, strong state → weak state)
    {state : State} {events : List Event} (kept : Keeps step strong state events) :
    Keeps step weak state events := by
  induction events generalizing state with
  | nil => exact implies _ kept
  | cons event rest ih =>
      exact ⟨implies _ kept.1, fun next taken => ih (kept.2 next taken)⟩

/-- Two conditions that agree wherever the invariant holds are met by the same
runs, provided that either of them keeps the invariant. -/
theorem meets_congr {left right : State → Event → Prop} (invariant : State → Prop)
    (agree : ∀ state event, invariant state → (left state event ↔ right state event))
    (keeps : ∀ state event next, invariant state → left state event →
      step state event next → invariant next)
    {state : State} {events : List Event} (initial : invariant state) :
    Meets step left state events ↔ Meets step right state events := by
  induction events generalizing state with
  | nil => exact Iff.rfl
  | cons event rest ih =>
      constructor
      · rintro ⟨now, later⟩
        refine ⟨(agree _ _ initial).1 now, fun next taken => ?_⟩
        exact (ih (keeps _ _ _ initial now taken)).1 (later next taken)
      · rintro ⟨now, later⟩
        have first := (agree _ _ initial).2 now
        refine ⟨first, fun next taken => ?_⟩
        exact (ih (keeps _ _ _ initial first taken)).2 (later next taken)

theorem meets_imp {strong weak : State → Event → Prop} (invariant : State → Prop)
    (implies : ∀ state event, invariant state → strong state event → weak state event)
    (keeps : ∀ state event next, invariant state → strong state event →
      step state event next → invariant next)
    {state : State} {events : List Event} (initial : invariant state)
    (met : Meets step strong state events) : Meets step weak state events := by
  induction events generalizing state with
  | nil => trivial
  | cons event rest ih =>
      refine ⟨implies _ _ initial met.1, fun next taken => ?_⟩
      exact ih (keeps _ _ _ initial met.1 taken) (met.2 next taken)

theorem meets_of_keeps {property : State → Prop} {condition : State → Event → Prop}
    (needed : ∀ state event, property state →
      (∀ next, step state event next → property next) → condition state event)
    {state : State} {events : List Event} (kept : Keeps step property state events) :
    Meets step condition state events := by
  induction events generalizing state with
  | nil => exact trivial
  | cons event rest ih =>
      refine ⟨needed state event kept.1 fun next taken => ?_, fun next taken => ?_⟩
      · exact keeps_first (kept.2 next taken)
      · exact ih (kept.2 next taken)

/-- A property is kept by exactly the runs that meet the condition under which one
step keeps it; only these steps need keep the invariant. -/
theorem keeps_iff_held {property : State → Prop} {condition : State → Event → Prop}
    (invariant : State → Prop)
    (keeps : ∀ state event next, invariant state → condition state event →
      step state event next → invariant next)
    (agree : ∀ state event, invariant state → property state →
      ((∀ next, step state event next → property next) ↔ condition state event))
    {state : State} {events : List Event} (initial : invariant state) (holds : property state) :
    Keeps step property state events ↔ Meets step condition state events := by
  induction events generalizing state with
  | nil => exact ⟨fun _ => trivial, fun _ => holds⟩
  | cons event rest ih =>
      constructor
      · intro kept
        have now := (agree state event initial holds).1 fun next taken =>
          keeps_first (kept.2 next taken)
        refine ⟨now, fun next taken => ?_⟩
        have held := keeps_first (kept.2 next taken)
        exact (ih (keeps _ _ _ initial now taken) held).1 (kept.2 next taken)
      · intro met
        refine ⟨holds, fun next taken => ?_⟩
        have held := (agree state event initial holds).2 met.1 next taken
        exact (ih (keeps _ _ _ initial met.1 taken) held).2 (met.2 next taken)

theorem keeps_iff_meets {property : State → Prop} {condition : State → Event → Prop}
    (invariant : State → Prop)
    (keeps : ∀ state event next, invariant state → step state event next → invariant next)
    (agree : ∀ state event, invariant state → property state →
      ((∀ next, step state event next → property next) ↔ condition state event))
    {state : State} {events : List Event} (initial : invariant state) (holds : property state) :
    Keeps step property state events ↔ Meets step condition state events := by
  refine keeps_iff_held invariant ?_ agree initial holds
  exact fun state event next kept _ taken => keeps state event next kept taken

theorem meets_and {left right : State → Event → Prop} {state : State} {events : List Event}
    (first : Meets step left state events) (second : Meets step right state events) :
    Meets step (fun state event => left state event ∧ right state event) state events := by
  induction events generalizing state with
  | nil => trivial
  | cons event rest ih =>
      refine ⟨⟨first.1, second.1⟩, fun next taken => ?_⟩
      exact ih (first.2 next taken) (second.2 next taken)

theorem meets_of_all {condition : State → Event → Prop} {state : State} {events : List Event}
    (all : ∀ event ∈ events, ∀ state, condition state event) :
    Meets step condition state events := by
  induction events generalizing state with
  | nil => trivial
  | cons event rest ih =>
      refine ⟨all event List.mem_cons_self state, fun next _ => ?_⟩
      exact ih fun later member => all later (List.mem_cons_of_mem event member)

theorem meets_append {condition : State → Event → Prop} {state : State} {front back : List Event}
    (first : Meets step condition state front)
    (later : ∀ middle, Run step state front middle → Meets step condition middle back) :
    Meets step condition state (front ++ back) := by
  induction front generalizing state with
  | nil => exact later state .nil
  | cons event front ih =>
      refine ⟨first.1, fun next taken => ?_⟩
      exact ih (first.2 next taken) fun middle run => later middle (.cons taken run)

theorem meets_and_all {condition : State → Event → Prop} {good : Event → Prop} {state : State}
    {events : List Event} (met : Meets step condition state events)
    (all : ∀ event ∈ events, good event) :
    Meets step (fun state event => condition state event ∧ good event) state events := by
  induction events generalizing state with
  | nil => trivial
  | cons event rest ih =>
      refine ⟨⟨met.1, all event List.mem_cons_self⟩, fun next taken => ?_⟩
      apply ih (met.2 next taken)
      intro later member
      exact all later (List.mem_cons_of_mem event member)

theorem meets_of_run {condition : State → Event → Prop}
    (deterministic : ∀ state event left right,
      step state event left → step state event right → left = right)
    {state next : State} {event : Event} {rest : List Event}
    (now : condition state event) (taken : step state event next)
    (later : Meets step condition next rest) : Meets step condition state (event :: rest) := by
  refine ⟨now, fun other taken' => ?_⟩
  cases deterministic _ _ _ _ taken taken'
  exact later

theorem run_related {Twin : Type*} {twinStep : Twin → Event → Twin → Prop}
    (related : State → Twin → Prop)
    (keeps : ∀ state twin event next, related state twin → step state event next →
      ∃ twinNext, twinStep twin event twinNext ∧ related next twinNext)
    {state final : State} {twin : Twin} {events : List Event} (initial : related state twin)
    (run : Run step state events final) :
    ∃ twinFinal, Run twinStep twin events twinFinal ∧ related final twinFinal := by
  induction run generalizing twin with
  | nil => exact ⟨twin, .nil, initial⟩
  | cons first _ ih =>
      obtain ⟨twinNext, taken, kept⟩ := keeps _ _ _ _ initial first
      obtain ⟨twinFinal, later, last⟩ := ih kept
      exact ⟨twinFinal, .cons taken later, last⟩

/-- A run whose steps meet the condition is one of the steps that do, where the invariant
holds. -/
theorem run_of_met {condition : State → Event → Prop} (invariant : State → Prop)
    (keeps : ∀ state event next, invariant state → condition state event →
      step state event next → invariant next)
    {state final : State} {events : List Event} (initial : invariant state)
    (met : Meets step condition state events) (run : Run step state events final) :
    Run (fun state event next => invariant state ∧ condition state event ∧ step state event next)
      state events final := by
  induction run with
  | nil => exact .nil
  | cons first _ ih =>
      have kept := keeps _ _ _ initial met.1 first
      exact .cons ⟨initial, met.1, first⟩ (ih kept (met.2 _ first))

theorem run_and_all {good : Event → Prop} {first last : State} {events : List Event}
    (all : ∀ event ∈ events, good event) (run : Run step first events last) :
    Run (fun before event after => step before event after ∧ good event) first events last := by
  induction run with
  | nil => exact .nil
  | cons taken _ ih =>
      have rest := ih fun event member => all event (List.mem_cons_of_mem _ member)
      exact .cons ⟨taken, all _ List.mem_cons_self⟩ rest

theorem run_keeps (invariant : State → Prop)
    (keeps : ∀ state event next, invariant state → step state event next → invariant next)
    {state final : State} {events : List Event} (initial : invariant state)
    (run : Run step state events final) : invariant final :=
  keeps_final (keeps_always keeps initial events) run

section Execution

variable {exec : State → Event → Option State}

/-- A run by a function that computes steps, for as long as it does. -/
def execRun (exec : State → Event → Option State) : State → List Event → Option State
  | state, [] => some state
  | state, event :: rest => (exec state event).bind fun next => execRun exec next rest

theorem exec_run_append (state : State) (front back : List Event) :
    execRun exec state (front ++ back) =
      (execRun exec state front).bind fun next => execRun exec next back := by
  induction front generalizing state with
  | nil => rfl
  | cons event front ih =>
      rw [List.cons_append, execRun, execRun]
      cases exec state event with
      | none => rfl
      | some next => exact ih next

def execMeets (exec : State → Event → Option State) (condition : State → Event → Bool) :
    State → List Event → Bool
  | _, [] => true
  | state, event :: rest =>
      condition state event &&
        (exec state event).any fun next => execMeets exec condition next rest

theorem run_of_exec (sound : ∀ state event next, exec state event = some next →
    step state event next) {state final : State} {events : List Event}
    (computed : execRun exec state events = some final) : Run step state events final := by
  induction events generalizing state with
  | nil =>
      simp only [execRun, Option.some.injEq] at computed
      exact computed ▸ .nil
  | cons event rest ih =>
      simp only [execRun, Option.bind_eq_some_iff] at computed
      obtain ⟨next, first, later⟩ := computed
      exact .cons (sound _ _ _ first) (ih later)

theorem exists_run_of_exec (sound : ∀ state event next, exec state event = some next →
    step state event next) {state : State} {events : List Event} {check : State → Bool}
    (computed : (execRun exec state events).any check = true) :
    ∃ final, Run step state events final ∧ check final = true := by
  rcases (Option.any_eq_true _ _).1 computed with ⟨final, reached, checked⟩
  exact ⟨final, run_of_exec sound reached, checked⟩

theorem meets_of_exec
    (deterministic : ∀ state event left right,
      step state event left → step state event right → left = right)
    (sound : ∀ state event next, exec state event = some next → step state event next)
    {condition : State → Event → Prop} [∀ state event, Decidable (condition state event)]
    {state : State} {events : List Event}
    (computed : execMeets exec (fun state event => condition state event) state events = true) :
    Meets step condition state events := by
  induction events generalizing state with
  | nil => trivial
  | cons event rest ih =>
      simp only [execMeets, Bool.and_eq_true, decide_eq_true_eq, Option.any_eq_true] at computed
      obtain ⟨now, next, first, later⟩ := computed
      exact meets_of_run deterministic now (sound _ _ _ first) (ih later)

end Execution

section Map

variable {Input : Type*} {event : Input → Event}

theorem run_map {state final : State} {inputs : List Input}
    (run : Run (fun state input => step state (event input)) state inputs final) :
    Run step state (inputs.map event) final := by
  induction run with
  | nil => exact .nil
  | cons first _ ih => exact .cons first ih

theorem meets_map {condition : State → Event → Prop} {state : State} {inputs : List Input} :
    Meets step condition state (inputs.map event) ↔
      Meets (fun state input => step state (event input))
        (fun state input => condition state (event input)) state inputs := by
  induction inputs generalizing state with
  | nil => exact Iff.rfl
  | cons input inputs ih => exact and_congr_right fun _ => forall₂_congr fun _ _ => ih

end Map

end IotgoFirmware.Library.StepRuns
