import Mathlib.Data.List.Nodup
import Mathlib.Logic.Relation
import Mathlib.Tactic.TypeStar

/-!
# Stop-and-wait sending

Items wait in a queue; only the first one is offered, and no other offer is made
before the answer is in. An accepted item stays at the front until its
acceptance is settled, which takes the front item off. Any other item may be
withdrawn, and while nothing is outstanding the whole queue may be cleared.
-/

namespace IotgoFirmware.Library.StopAndWait

set_option autoImplicit false

variable {Item : Type*}

/-- What is outstanding: nothing, the offer of the front item, or the answer to
it; the answer names the item if it was accepted. -/
inductive Phase (Item : Type*) where
  | idle
  | due
  | answered (accepted : Option Item)

/-- `settled` pairs the item taken off with the one whose acceptance took it
off. -/
structure Sender (Item : Type*) where
  waiting : List Item
  phase : Phase Item
  accepted : List Item
  settled : List (Item × Item)

def Sender.empty : Sender Item where
  waiting := []
  phase := .idle
  accepted := []
  settled := []

def Sender.Fresh (sender : Sender Item) (item : Item) : Prop :=
  item ∉ sender.waiting ∧ item ∉ sender.accepted

inductive Step : Sender Item → Sender Item → Prop where
  | enqueue {sender : Sender Item} {item : Item} (fresh : sender.Fresh item) :
      Step sender { sender with waiting := sender.waiting ++ [item] }
  | wake {sender : Sender Item} (nonempty : sender.waiting ≠ []) (idle : sender.phase = .idle) :
      Step sender { sender with phase := .due }
  | withdraw {sender : Sender Item} {front back : List Item} {old : Item}
      (split : sender.waiting = front ++ old :: back)
      (other : sender.phase ≠ .answered (some old))
      (left : front ++ back = [] → sender.phase = .idle) :
      Step sender { sender with waiting := front ++ back }
  | accept {sender : Sender Item} {item : Item} {rest : List Item}
      (front : sender.waiting = item :: rest) (due : sender.phase = .due) :
      Step sender
        { sender with
          phase := .answered (some item)
          accepted := sender.accepted ++ [item] }
  | refuse {sender : Sender Item} (due : sender.phase = .due) :
      Step sender { sender with phase := .answered none }
  | rest {sender : Sender Item} (refused : sender.phase = .answered none) :
      Step sender { sender with phase := .idle }
  | settle {sender : Sender Item} {item earned : Item} {rest : List Item}
      (front : sender.waiting = item :: rest) (answered : sender.phase = .answered (some earned)) :
      Step sender
        { sender with
          waiting := rest
          phase := .idle
          settled := sender.settled ++ [(item, earned)] }
  | clear {sender : Sender Item} (idle : sender.phase = .idle) :
      Step sender { sender with waiting := [] }

/-- An accepted item is offered no more: it waits at the front for its
acceptance to be settled, or it is gone. -/
structure Ordered (sender : Sender Item) : Prop where
  earned : ∀ item, sender.phase = .answered (some item) → sender.waiting.head? = some item
  granted : ∀ item, sender.phase = .answered (some item) → item ∈ sender.accepted
  distinct : sender.waiting.Nodup
  offered : ∀ item ∈ sender.waiting, item ∈ sender.accepted →
    sender.phase = .answered (some item)
  once : sender.accepted.Nodup
  matched : ∀ pair ∈ sender.settled, pair.1 = pair.2
  accounted : ∀ pair ∈ sender.settled, pair.1 ∈ sender.accepted ∧ pair.1 ∉ sender.waiting
  single : (sender.settled.map Prod.fst).Nodup

/-- Nothing is outstanding for an empty queue. -/
structure Sound (sender : Sender Item) : Prop extends Ordered sender where
  busy : sender.waiting = [] → sender.phase = .idle

abbrev Steps : Sender Item → Sender Item → Prop :=
  Relation.ReflTransGen Step

theorem empty_sound : Sound (Sender.empty : Sender Item) where
  earned item clash := by cases clash
  granted item clash := by cases clash
  distinct := List.nodup_nil
  offered item member := by cases member
  once := List.nodup_nil
  matched pair member := by cases member
  accounted pair member := by cases member
  single := List.nodup_nil
  busy _ := rfl

section Preservation

variable {sender : Sender Item}

theorem enqueue_ordered (ordered : Ordered sender) {item : Item} (fresh : sender.Fresh item) :
    Ordered { sender with waiting := sender.waiting ++ [item] } where
  earned other answered := by
    rw [List.head?_append, ordered.earned other answered]
    rfl
  granted := ordered.granted
  distinct := by
    rw [← List.concat_eq_append]
    exact ordered.distinct.concat fresh.1
  offered other member accepted := by
    rcases List.mem_append.1 member with old | new
    · exact ordered.offered other old accepted
    · rw [List.mem_singleton.1 new] at accepted
      exact absurd accepted fresh.2
  once := ordered.once
  matched := ordered.matched
  accounted pair member := by
    rcases ordered.accounted pair member with ⟨accepted, gone⟩
    refine ⟨accepted, fun again => ?_⟩
    rcases List.mem_append.1 again with old | new
    · exact gone old
    · rw [List.mem_singleton.1 new] at accepted
      exact fresh.2 accepted
  single := ordered.single

theorem fewer_ordered (ordered : Ordered sender) {waiting : List Item}
    (fewer : waiting.Sublist sender.waiting)
    (front : ∀ item, sender.phase = .answered (some item) → waiting.head? = some item) :
    Ordered { sender with waiting := waiting } where
  earned := front
  granted := ordered.granted
  distinct := ordered.distinct.sublist fewer
  offered item member accepted := ordered.offered item (fewer.subset member) accepted
  once := ordered.once
  matched := ordered.matched
  accounted pair member := by
    rcases ordered.accounted pair member with ⟨accepted, gone⟩
    exact ⟨accepted, fun again => gone (fewer.subset again)⟩
  single := ordered.single

theorem phase_ordered (ordered : Ordered sender) {phase : Phase Item}
    (quiet : ∀ item, sender.phase ≠ .answered (some item))
    (silent : ∀ item, phase ≠ .answered (some item)) : Ordered { sender with phase := phase } where
  earned item answered := absurd answered (silent item)
  granted item answered := absurd answered (silent item)
  distinct := ordered.distinct
  offered item member accepted := absurd (ordered.offered item member accepted) (quiet item)
  once := ordered.once
  matched := ordered.matched
  accounted := ordered.accounted
  single := ordered.single

theorem accept_ordered (ordered : Ordered sender) {item : Item} {rest : List Item}
    (front : sender.waiting = item :: rest)
    (quiet : ∀ other, sender.phase ≠ .answered (some other)) :
    Ordered
      { sender with
        phase := .answered (some item)
        accepted := sender.accepted ++ [item] } where
  earned other answered := by
    cases answered
    rw [front]
    rfl
  granted other answered := by
    cases answered
    exact List.mem_append_right _ (List.mem_singleton_self item)
  distinct := ordered.distinct
  offered other member accepted := by
    rcases List.mem_append.1 accepted with old | new
    · exact absurd (ordered.offered other member old) (quiet other)
    · rw [List.mem_singleton.1 new]
  once := by
    rw [← List.concat_eq_append]
    apply ordered.once.concat
    intro accepted
    have member : item ∈ sender.waiting := by
      rw [front]
      exact List.mem_cons_self
    exact quiet item (ordered.offered item member accepted)
  matched := ordered.matched
  accounted pair member := by
    rcases ordered.accounted pair member with ⟨accepted, gone⟩
    exact ⟨List.mem_append_left _ accepted, gone⟩
  single := ordered.single

theorem settle_ordered (ordered : Ordered sender) {item earned : Item} {rest : List Item}
    (front : sender.waiting = item :: rest)
    (answered : sender.phase = .answered (some earned)) :
    Ordered
      { sender with
        waiting := rest
        phase := .idle
        settled := sender.settled ++ [(item, earned)] } := by
  have first := ordered.earned earned answered
  rw [front] at first
  have same : item = earned := Option.some.inj first
  have accepted : item ∈ sender.accepted := same ▸ ordered.granted earned answered
  have distinct := ordered.distinct
  rw [front, List.nodup_cons] at distinct
  have waits : ∀ other ∈ rest, other ∈ sender.waiting := by
    intro other member
    rw [front]
    exact List.mem_cons_of_mem item member
  refine
    { earned := fun other clash => by cases clash
      granted := fun other clash => by cases clash
      distinct := distinct.2
      offered := fun other member again => ?_
      once := ordered.once
      matched := fun pair member => ?_
      accounted := fun pair member => ?_
      single := ?_ }
  · have phase := ordered.offered other (waits other member) again
    rw [answered] at phase
    cases phase
    exact absurd member (same ▸ distinct.1)
  · rcases List.mem_append.1 member with old | new
    · exact ordered.matched pair old
    · rw [List.mem_singleton.1 new]
      exact same
  · rcases List.mem_append.1 member with old | new
    · rcases ordered.accounted pair old with ⟨before, gone⟩
      exact ⟨before, fun again => gone (waits pair.1 again)⟩
    · rw [List.mem_singleton.1 new]
      exact ⟨accepted, distinct.1⟩
  · rw [List.map_append, List.map_singleton, ← List.concat_eq_append]
    apply ordered.single.concat
    intro member
    rcases List.mem_map.1 member with ⟨pair, settled, pairItem⟩
    apply (ordered.accounted pair settled).2
    rw [pairItem, front]
    exact List.mem_cons_self

theorem removed_front {front back : List Item} {old item : Item}
    (first : (front ++ old :: back).head? = some item) (other : item ≠ old) :
    (front ++ back).head? = some item := by
  cases front with
  | nil =>
      simp only [List.nil_append, List.head?_cons, Option.some.injEq] at first
      exact absurd first.symm other
  | cons next front => exact first

theorem idle_quiet (idle : sender.phase = .idle) (item : Item) :
    sender.phase ≠ .answered (some item) := by
  rw [idle]
  intro clash
  cases clash

theorem due_quiet (due : sender.phase = .due) (item : Item) :
    sender.phase ≠ .answered (some item) := by
  rw [due]
  intro clash
  cases clash

end Preservation

theorem step_sound {sender next : Sender Item} (sound : Sound sender) (step : Step sender next) :
    Sound next := by
  cases step with
  | enqueue fresh =>
      refine ⟨enqueue_ordered sound.toOrdered fresh, fun nothing => ?_⟩
      simp at nothing
  | wake nonempty idle =>
      refine ⟨phase_ordered sound.toOrdered (idle_quiet idle) ?_, fun nothing => ?_⟩
      · intro item clash
        cases clash
      · exact absurd nothing nonempty
  | @withdraw front back old split other left =>
      refine ⟨fewer_ordered sound.toOrdered ?_ ?_, left⟩
      · rw [split]
        exact (List.sublist_cons_self old back).append_left front
      · intro item answered
        have first := sound.earned item answered
        rw [split] at first
        apply removed_front first
        rintro rfl
        exact other answered
  | @accept item rest front due =>
      refine ⟨accept_ordered sound.toOrdered front (due_quiet due), fun nothing => ?_⟩
      rw [show sender.waiting = [] from nothing] at front
      cases front
  | refuse due =>
      refine ⟨phase_ordered sound.toOrdered (due_quiet due) ?_, fun nothing => ?_⟩
      · intro item clash
        cases clash
      · have idle := sound.busy nothing
        rw [due] at idle
        cases idle
  | rest refused =>
      refine ⟨phase_ordered sound.toOrdered ?_ ?_, fun _ => rfl⟩
      · intro item answered
        rw [refused] at answered
        cases answered
      · intro item clash
        cases clash
  | settle front answered => exact ⟨settle_ordered sound.toOrdered front answered, fun _ => rfl⟩
  | clear idle =>
      refine ⟨fewer_ordered sound.toOrdered (List.nil_sublist _) ?_, fun _ => idle⟩
      intro item answered
      exact absurd answered (idle_quiet idle item)

theorem steps_sound {sender final : Sender Item} (sound : Sound sender)
    (steps : Steps sender final) : Sound final := by
  induction steps with
  | refl => exact sound
  | tail _ last ih => exact step_sound ih last

end IotgoFirmware.Library.StopAndWait
