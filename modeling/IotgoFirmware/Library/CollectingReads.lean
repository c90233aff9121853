import Mathlib.Data.List.Basic

/-!
# Reads that end when enough is there

A loop collects the values that a stream offers, until it has enough of them or the
stream is cut. It looks at what it has at some places of the stream only. Where the
stream goes on behind the part that is meant, so does the loop, unless that part gave
enough or was cut.
-/

namespace IotgoFirmware.Library.CollectingReads

set_option autoImplicit false

variable {Value State : Type*}

/-- At a `turn` the loop looks whether it has enough. -/
inductive Offer (Value : Type*) where
  | turn
  | value (value : Value)
  | cut
deriving DecidableEq

structure Collector (Value State : Type*) where
  store : State → Value → State
  enough : State → Bool
  stays : ∀ state value, enough state = true → enough (store state value) = true

/-- The values that are offered in front of the first cut. -/
def heard : List (Offer Value) → List Value
  | [] => []
  | .turn :: rest => heard rest
  | .value value :: rest => value :: heard rest
  | .cut :: _ => []

def collect (collector : Collector Value State) : State → List (Offer Value) → List Value
  | _, [] => []
  | state, .turn :: rest => if collector.enough state then [] else collect collector state rest
  | state, .value value :: rest => value :: collect collector (collector.store state value) rest
  | _, .cut :: _ => []

/-- There is not enough yet at any turn in front of the first cut. -/
def Unfinished (collector : Collector Value State) : State → List (Offer Value) → Prop
  | _, [] => True
  | state, .turn :: rest => collector.enough state ≠ true ∧ Unfinished collector state rest
  | state, .value value :: rest => Unfinished collector (collector.store state value) rest
  | _, .cut :: _ => True

def Collector.after (collector : Collector Value State) (state : State) (values : List Value) :
    State :=
  values.foldl collector.store state

section Heard

variable {front back : List (Offer Value)}

theorem heard_append_cut (cut : .cut ∈ front) : heard (front ++ back) = heard front := by
  induction front with
  | nil => cases cut
  | cons offer front ih =>
      cases offer with
      | turn => exact ih (by simpa using cut)
      | value value => exact congrArg (value :: ·) (ih (by simpa using cut))
      | cut => rfl

theorem heard_append (whole : .cut ∉ front) : heard (front ++ back) = heard front ++ heard back := by
  induction front with
  | nil => rfl
  | cons offer front ih =>
      have later : .cut ∉ front := fun member => whole (List.mem_cons_of_mem _ member)
      cases offer with
      | turn => exact ih later
      | value value => exact congrArg (value :: ·) (ih later)
      | cut => exact absurd List.mem_cons_self whole

end Heard

section Collected

variable {collector : Collector Value State} {state : State} {front back : List (Offer Value)}

theorem enough_after (values : List Value) (enough : collector.enough state = true) :
    collector.enough (collector.after state values) = true := by
  induction values generalizing state with
  | nil => exact enough
  | cons value values ih => exact ih (collector.stays state value enough)

theorem after_has {has : State → Prop} {sets : Value → Prop}
    (step : ∀ state value, has (collector.store state value) ↔ has state ∨ sets value)
    (values : List Value) :
    has (collector.after state values) ↔ has state ∨ ∃ value ∈ values, sets value := by
  induction values generalizing state with
  | nil => exact ⟨.inl, fun found => found.resolve_right fun ⟨_, member, _⟩ => by cases member⟩
  | cons value values ih =>
      have later : collector.after state (value :: values) =
          collector.after (collector.store state value) values := rfl
      rw [later, ih, step, or_assoc, List.exists_mem_cons_iff]

theorem collect_ends (enough : collector.enough state = true) (back : List (Offer Value)) :
    collect collector state (.turn :: back) = [] :=
  if_pos enough

theorem collect_turn (less : collector.enough state ≠ true) (back : List (Offer Value)) :
    collect collector state (.turn :: back) = collect collector state back :=
  if_neg less

theorem collect_cut (cut : .cut ∈ front) :
    collect collector state (front ++ back) = collect collector state front := by
  induction front generalizing state with
  | nil => cases cut
  | cons offer front ih =>
      rw [List.cons_append]
      cases offer with
      | turn =>
          have later : .cut ∈ front := by simpa using cut
          rw [collect, collect, ih later]
      | value value =>
          have later : .cut ∈ front := by simpa using cut
          rw [collect, collect, ih later]
      | cut => rfl

theorem collect_enough (enough : collector.enough (collector.after state (heard front)) = true) :
    collect collector state (front ++ .turn :: back) = collect collector state front := by
  induction front generalizing state with
  | nil =>
      exact collect_ends enough back
  | cons offer front ih =>
      rw [List.cons_append]
      cases offer with
      | turn => rw [collect, collect, ih enough]
      | value value => rw [collect, collect, ih enough]
      | cut => rfl

theorem collect_goes_on (whole : .cut ∉ front)
    (less : collector.enough (collector.after state (heard front)) ≠ true) :
    collect collector state (front ++ back) =
      heard front ++ collect collector (collector.after state (heard front)) back := by
  induction front generalizing state with
  | nil => rfl
  | cons offer front ih =>
      rw [List.cons_append]
      cases offer with
      | turn =>
          have missing : collector.enough state ≠ true := fun enough => less (enough_after _ enough)
          rw [collect_turn missing, heard]
          exact ih (fun cut => whole (List.mem_cons_of_mem _ cut)) less
      | value value =>
          rw [collect, heard, ih (fun cut => whole (List.mem_cons_of_mem _ cut)) less]
          rfl
      | cut => exact absurd List.mem_cons_self whole

theorem unfinished_append (whole : .cut ∉ front) :
    Unfinished collector state (front ++ back) ↔
      Unfinished collector state front ∧
        Unfinished collector (collector.after state (heard front)) back := by
  induction front generalizing state with
  | nil => exact (and_iff_right trivial).symm
  | cons offer front ih =>
      have later : .cut ∉ front := fun member => whole (List.mem_cons_of_mem _ member)
      cases offer with
      | turn => exact (and_congr_right fun _ => ih later).trans and_assoc.symm
      | value value => exact ih later
      | cut => exact absurd List.mem_cons_self whole

theorem unfinished_of_less
    (less : collector.enough (collector.after state (heard front)) ≠ true) :
    Unfinished collector state front := by
  induction front generalizing state with
  | nil => trivial
  | cons offer front ih =>
      cases offer with
      | turn => exact ⟨fun enough => less (enough_after _ enough), ih less⟩
      | value value => exact ih less
      | cut => trivial

/-- Values without a turn between them are all collected. -/
theorem collect_values (values : List Value)
    (enough : collector.enough (collector.after state values) = true) :
    collect collector state (values.map .value ++ .turn :: back) = values := by
  induction values generalizing state with
  | nil => exact if_pos enough
  | cons value values ih => exact congrArg (value :: ·) (ih enough)

theorem collect_heard (less : collector.enough (collector.after state (heard front)) ≠ true) :
    collect collector state front = heard front := by
  induction front generalizing state with
  | nil => rfl
  | cons offer front ih =>
      cases offer with
      | turn =>
          have missing : collector.enough state ≠ true := fun enough => less (enough_after _ enough)
          rw [collect_turn missing, heard]
          exact ih less
      | value value =>
          rw [collect, heard, ih less]
      | cut => rfl

theorem collected_enough (enough : collector.enough (collector.after state (heard front)) = true) :
    collector.enough (collector.after state (collect collector state front)) = true := by
  induction front generalizing state with
  | nil => exact enough
  | cons offer front ih =>
      cases offer with
      | turn =>
          rw [collect]
          split
          · rename_i here
            exact here
          · exact ih enough
      | value value =>
          rw [collect]
          exact ih enough
      | cut => exact enough

theorem collected_test {test : State → Prop}
    (holds : ∀ state, collector.enough state = true → test state) :
    test (collector.after state (collect collector state front)) ↔
      test (collector.after state (heard front)) := by
  by_cases enough : collector.enough (collector.after state (heard front)) = true
  · exact iff_of_true (holds _ (collected_enough enough)) (holds _ enough)
  · rw [collect_heard enough]

theorem collect_nil_iff (less : collector.enough state ≠ true) :
    collect collector state back = [] ↔ heard back = [] := by
  induction back with
  | nil => exact Iff.rfl
  | cons offer back ih =>
      cases offer with
      | turn =>
          rw [collect_turn less]
          exact ih
      | value value => exact iff_of_false (List.cons_ne_nil _ _) (List.cons_ne_nil _ _)
      | cut => exact Iff.rfl

/-- What stands behind the part that is meant is not read where that part gives enough or is
cut, or where nothing is offered there. -/
theorem collect_alone_iff :
    collect collector state (front ++ .turn :: back) = collect collector state front ↔
      collector.enough (collector.after state (heard front)) = true ∨ .cut ∈ front ∨
        heard back = [] := by
  by_cases enough : collector.enough (collector.after state (heard front)) = true
  · exact iff_of_true (collect_enough enough) (.inl enough)
  · by_cases cut : .cut ∈ front
    · exact iff_of_true (collect_cut cut) (.inr (.inl cut))
    · rw [collect_goes_on cut enough, collect_heard enough, List.append_right_eq_self,
        collect_nil_iff enough]
      constructor
      · exact fun silent => .inr (.inr silent)
      · rintro (more | found | silent)
        · exact absurd more enough
        · exact absurd found cut
        · exact silent

end Collected

end IotgoFirmware.Library.CollectingReads
