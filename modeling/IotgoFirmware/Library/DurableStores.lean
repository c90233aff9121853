import Mathlib.Data.List.Basic

/-!
# Programs that save while they run

A program drives an output and saves values in a store that outlasts it. It may be stopped at
any point, also in the middle of a save. A store is durable where a save that is stopped leaves
what was there before, or what was to be saved; then a program that is stopped has done some of
its actions and none of the others.
-/

namespace IotgoFirmware.Library.DurableStores

set_option autoImplicit false

/-- `Seen` is what is loaded, `seen` what is to be loaded of a value. -/
structure DurableStore (Chip Value Seen : Type*) where
  load : Chip → Seen
  seen : Value → Seen
  saved : Value → Chip → Chip
  torn : Value → Chip → Chip → Prop
  loadSaved : ∀ value chip, load (saved value chip) = seen value
  loadTorn : ∀ value before after, torn value before after →
    load after = load before ∨ load after = seen value

inductive Action (Level Value : Type*) where
  | output (level : Level)
  | save (value : Value)
deriving DecidableEq

/-- What a program that is stopped leaves. -/
structure Hardware (Level Chip : Type*) where
  output : Level
  chip : Chip

variable {Level Chip Value Seen : Type*}

/-- The store that holds nothing but what is loaded of it. -/
def register (seen : Value → Seen) : DurableStore Seen Value Seen where
  load chip := chip
  seen := seen
  saved value _ := seen value
  torn value before after := after = before ∨ after = seen value
  loadSaved _ _ := rfl
  loadTorn _ _ _ stopped := stopped

namespace DurableStore

variable (store : DurableStore Chip Value Seen)

def actionDone (hardware : Hardware Level Chip) : Action Level Value → Hardware Level Chip
  | .output level => { hardware with output := level }
  | .save value => { hardware with chip := store.saved value hardware.chip }

def actionsDone (actions : List (Action Level Value)) (hardware : Hardware Level Chip) :
    Hardware Level Chip :=
  actions.foldl store.actionDone hardware

/-- The program is stopped behind some of its actions, or in the middle of a save. -/
inductive Stopped :
    List (Action Level Value) → Hardware Level Chip → Hardware Level Chip → Prop where
  | here (actions : List (Action Level Value)) (hardware : Hardware Level Chip) :
      Stopped actions hardware hardware
  | torn {value : Value} {hardware : Hardware Level Chip} {chip : Chip}
      (cut : store.torn value hardware.chip chip) (rest : List (Action Level Value)) :
      Stopped (.save value :: rest) hardware { hardware with chip := chip }
  | later {action : Action Level Value} {rest : List (Action Level Value)}
      {hardware left : Hardware Level Chip}
      (stopped : Stopped rest (store.actionDone hardware action) left) :
      Stopped (action :: rest) hardware left

/-- The hardware with what is loaded in the place of the chip. -/
def view (hardware : Hardware Level Chip) : Hardware Level Seen where
  output := hardware.output
  chip := store.load hardware.chip

variable {store} {actions : List (Action Level Value)} {hardware left : Hardware Level Chip}

theorem view_done (action : Action Level Value) (hardware : Hardware Level Chip) :
    store.view (store.actionDone hardware action) =
      (register store.seen).actionDone (store.view hardware) action := by
  cases action with
  | output level => rfl
  | save value =>
      simp only [view, actionDone, register]
      rw [store.loadSaved]

theorem view_actions (actions : List (Action Level Value)) (hardware : Hardware Level Chip) :
    store.view (store.actionsDone actions hardware) =
      (register store.seen).actionsDone actions (store.view hardware) := by
  induction actions generalizing hardware with
  | nil => rfl
  | cons action rest ih =>
      have behind := ih (store.actionDone hardware action)
      rw [view_done] at behind
      exact behind

theorem stopped_view (stopped : store.Stopped actions hardware left) :
    ∃ front back, actions = front ++ back ∧
      store.view left = (register store.seen).actionsDone front (store.view hardware) := by
  induction stopped with
  | here actions hardware => exact ⟨[], actions, rfl, rfl⟩
  | @torn value hardware chip cut rest =>
      rcases store.loadTorn value _ _ cut with old | new
      · refine ⟨[], _, rfl, ?_⟩
        simp only [view, actionsDone, List.foldl_nil, old]
      · refine ⟨[.save value], rest, rfl, ?_⟩
        simp only [view, actionsDone, List.foldl_cons, List.foldl_nil, actionDone, register, new]
  | @later action rest hardware left _ ih =>
      obtain ⟨front, back, rfl, seen⟩ := ih
      refine ⟨action :: front, back, rfl, ?_⟩
      rw [seen, view_done]
      rfl

def savedValues (actions : List (Action Level Value)) : List Value :=
  actions.filterMap fun action =>
    match action with
    | .output _ => none
    | .save value => some value

theorem register_chip {seen : Value → Seen} (actions : List (Action Level Value))
    (state : Hardware Level Seen) :
    ((register seen).actionsDone actions state).chip = state.chip ∨
      ∃ value ∈ savedValues actions,
        ((register seen).actionsDone actions state).chip = seen value := by
  induction actions generalizing state with
  | nil => exact .inl rfl
  | cons action rest ih =>
      cases action with
      | output level => exact ih { state with output := level }
      | save value =>
          rcases ih { state with chip := seen value } with kept | ⟨later, member, same⟩
          · exact .inr ⟨value, List.mem_cons_self, kept⟩
          · exact .inr ⟨later, List.mem_cons_of_mem value member, same⟩

theorem saved_front {front back : List (Action Level Value)} {value : Value}
    (member : value ∈ savedValues front) : value ∈ savedValues (front ++ back) := by
  rw [savedValues, List.filterMap_append]
  exact List.mem_append_left _ member

theorem stopped_load (stopped : store.Stopped actions hardware left) :
    store.load left.chip = store.load hardware.chip ∨
      ∃ value ∈ savedValues actions, store.load left.chip = store.seen value := by
  obtain ⟨front, back, rfl, seen⟩ := stopped_view stopped
  have chip := congrArg Hardware.chip seen
  rcases register_chip front (store.view hardware) with old | ⟨value, member, new⟩
  · exact .inl (chip.trans old)
  · exact .inr ⟨value, saved_front member, chip.trans new⟩

end DurableStore

end IotgoFirmware.Library.DurableStores
