import IotgoFirmware.Library.StepRuns
import Mathlib.Tactic.TypeStar

/-!
# Reassembling packages from a stream

A framing looks at the bytes received so far and says whether the first package
is complete. Draining takes complete packages off the front until the framing
waits. When the stream is a concatenation of packages the framing recognises, a
receiver that drains after every segment delivers exactly these packages,
wherever the stream is cut.
-/

namespace IotgoFirmware.Library.StreamFraming

open IotgoFirmware.Library.StepRuns

set_option autoImplicit false

inductive Verdict where
  | wait
  | package (length : Nat)
  | invalid
  deriving DecidableEq

variable {Item : Type*}

abbrev Framing (Item : Type*) := List Item → Verdict

inductive Drains (framing : Framing Item) :
    List Item → List (List Item) → List Item → Prop where
  | waits {held : List Item} (verdict : framing held = .wait) : Drains framing held [] held
  | delivers {held left : List Item} {packages : List (List Item)} {length : Nat}
      (verdict : framing held = .package length) (positive : 0 < length)
      (bounded : length ≤ held.length) (rest : Drains framing (held.drop length) packages left) :
      Drains framing held (held.take length :: packages) left

/-- From its last byte on, whatever admissible bytes follow, the item is the
first package; before that the framing waits. -/
structure Recognised (framing : Framing Item) (allowed : List Item → Prop) (item : List Item) :
    Prop where
  nonempty : item ≠ []
  complete : ∀ rest, allowed (item ++ rest) → framing (item ++ rest) = .package item.length
  waits : ∀ front back, item = front ++ back → back ≠ [] → framing front = .wait

/-- What is held between two segments: an unfinished front of the next item. -/
def Unfinished (held : List Item) (items : List (List Item)) : Prop :=
  (items = [] ∧ held = []) ∨
    ∃ item more back, items = item :: more ∧ item = held ++ back ∧ back ≠ []

section Draining

variable {framing : Framing Item} {allowed : List Item → Prop}

theorem wait_valid {held : List Item} (verdict : framing held = .wait) :
    framing held ≠ .invalid := by
  rw [verdict]
  exact Verdict.noConfusion

theorem package_valid {held : List Item} {length : Nat} (verdict : framing held = .package length) :
    framing held ≠ .invalid := by
  rw [verdict]
  exact Verdict.noConfusion

theorem drains_valid {held left : List Item} {packages : List (List Item)}
    (drains : Drains framing held packages left) : framing held ≠ .invalid := by
  cases drains with
  | waits verdict => exact wait_valid verdict
  | delivers verdict => exact package_valid verdict

/-- Nothing is held in front of the first item. -/
theorem unfinished_nil {items : List (List Item)} (nonempty : ∀ item ∈ items, item ≠ []) :
    Unfinished [] items := by
  cases items with
  | nil => exact .inl ⟨rfl, rfl⟩
  | cons item more => exact .inr ⟨item, more, item, rfl, rfl, nonempty item List.mem_cons_self⟩

theorem unfinished_waits {held : List Item} {items : List (List Item)}
    (empty : framing [] = .wait) (recognised : ∀ item ∈ items, Recognised framing allowed item)
    (unfinished : Unfinished held items) : framing held = .wait := by
  rcases unfinished with ⟨-, rfl⟩ | ⟨item, more, back, rfl, split, nonempty⟩
  · exact empty
  · exact (recognised item (by simp)).waits held back split nonempty

theorem drains_flatten (suffixes : ∀ front back, allowed (front ++ back) → allowed back)
    {items : List (List Item)} {held : List Item}
    (recognised : ∀ item ∈ items, Recognised framing allowed item)
    (admissible : allowed (items.flatten ++ held)) (waits : framing held = .wait) :
    Drains framing (items.flatten ++ held) items held := by
  induction items with
  | nil => exact .waits (by simpa using waits)
  | cons item items ih =>
      rw [List.flatten_cons, List.append_assoc] at admissible ⊢
      have first := recognised item List.mem_cons_self
      have rest := ih (fun other member => recognised other (List.mem_cons_of_mem item member))
        (suffixes _ _ admissible)
      have verdict := first.complete (items.flatten ++ held) admissible
      have positive := List.length_pos_of_ne_nil first.nonempty
      have step := Drains.delivers verdict positive (by simp) (by simpa using rest)
      simpa using step

theorem split_drains (suffixes : ∀ front back, allowed (front ++ back) → allowed back)
    {received held : List Item} {done rest : List (List Item)} (empty : framing [] = .wait)
    (well : ∀ item ∈ done ++ rest, Recognised framing allowed item)
    (admissible : allowed received) (split : received = done.flatten ++ held)
    (unfinished : Unfinished held rest) : Drains framing received done held := by
  have complete : ∀ item ∈ done, Recognised framing allowed item := by
    intro item member
    exact well item (List.mem_append_left rest member)
  have coming : ∀ item ∈ rest, Recognised framing allowed item := by
    intro item member
    exact well item (List.mem_append_right done member)
  rw [split] at admissible ⊢
  exact drains_flatten suffixes complete admissible (unfinished_waits empty coming unfinished)

end Draining

/-- Every received front of a concatenation is some whole items and an
unfinished one. -/
theorem received_splits {items : List (List Item)} (nonempty : ∀ item ∈ items, item ≠ [])
    {received coming : List Item} (stream : received ++ coming = items.flatten) :
    ∃ done rest held, items = done ++ rest ∧ received = done.flatten ++ held ∧
      held ++ coming = rest.flatten ∧ Unfinished held rest := by
  induction items generalizing received with
  | nil =>
      have empty : received = [] ∧ coming = [] := by simpa using stream
      exact ⟨[], [], [], rfl, by simpa using empty.1, by simpa using empty.2, .inl ⟨rfl, rfl⟩⟩
  | cons item items ih =>
      by_cases inside : received.length < item.length
      · obtain ⟨back, split⟩ : ∃ back, item = received ++ back := by
          have front : received <+: item :=
            List.prefix_of_prefix_length_le ⟨coming, stream⟩ (by simp) (Nat.le_of_lt inside)
          exact front.imp fun back same => same.symm
        refine ⟨[], item :: items, received, rfl, by simp, stream,
          .inr ⟨item, items, back, rfl, split, ?_⟩⟩
        rintro rfl
        simp [split] at inside
      · obtain ⟨more, split⟩ : ∃ more, received = item ++ more := by
          have front : item <+: received :=
            List.prefix_of_prefix_length_le (by simp) ⟨coming, stream⟩ (Nat.le_of_not_lt inside)
          exact front.imp fun more same => same.symm
        subst split
        obtain ⟨done, rest, held, items_eq, more_eq, coming_eq, unfinished⟩ :=
          ih (fun other member => nonempty other (by simp [member]))
            (show more ++ coming = items.flatten by simpa using stream)
        exact ⟨item :: done, rest, held, by simp [items_eq], by simp [more_eq], coming_eq, unfinished⟩

section Receiver

variable {State Event : Type*} {step : State → Event → State → Prop}
  {condition : State → Event → Prop} {data : Event → List Item}
  {holds : State → List Item → Prop} {delivered : State → State → List (List Item) → Prop}

/-- Segmentation independence. A receiver that, for one segment, delivers the
items it completes and holds on to the rest delivers every item of a stream,
wherever the stream is cut. -/
theorem delivers_every_cut {good : List Item → Prop}
    (nothing : ∀ state, delivered state state [])
    (both : ∀ state middle final front back, delivered state middle front →
      delivered middle final back → delivered state final (front ++ back))
    (nonempty : ∀ item, good item → item ≠ [])
    (receives : ∀ state event held done rest front, holds state held → condition state event →
      held ++ data event = done.flatten ++ front → Unfinished front rest →
      (∀ item ∈ done ++ rest, good item) →
      ∃ next, step state event next ∧ holds next front ∧ delivered state next done)
    {state : State} {events : List Event} {held : List Item} {items : List (List Item)}
    (start : holds state held) (unfinished : Unfinished held items)
    (well : ∀ item ∈ items, good item)
    (stream : held ++ (events.map data).flatten = items.flatten)
    (met : Meets step condition state events) :
    ∃ final, Run step state events final ∧ holds final [] ∧ delivered state final items := by
  induction events generalizing state held items with
  | nil =>
      rcases unfinished with ⟨rfl, rfl⟩ | ⟨item, more, back, rfl, split, positive⟩
      · exact ⟨state, .nil, start, nothing state⟩
      · have lengths := congrArg List.length stream
        have some := List.length_pos_of_ne_nil positive
        simp only [split, List.map_nil, List.flatten_nil, List.append_nil, List.flatten_cons,
          List.length_append] at lengths
        omega
  | cons event events ih =>
      have cut : (held ++ data event) ++ (events.map data).flatten = items.flatten := by
        simpa using stream
      obtain ⟨done, rest, front, rfl, received, coming, still⟩ :=
        received_splits (fun item member => nonempty item (well item member)) cut
      obtain ⟨next, taken, holding, first⟩ :=
        receives state event held done rest front start met.1 received still well
      have wellRest : ∀ item ∈ rest, good item := by
        intro item member
        exact well item (by simp [member])
      obtain ⟨final, run, last, later⟩ := ih holding still wellRest coming (met.2 next taken)
      exact ⟨final, .cons taken run, last, both _ _ _ _ _ first later⟩

end Receiver

end IotgoFirmware.Library.StreamFraming
