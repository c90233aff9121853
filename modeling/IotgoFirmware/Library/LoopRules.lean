import Mathlib.Data.Nat.Notation
import Mathlib.Tactic.TypeStar

/-!
# Loops whose termination is not given

A loop body maps the state at the loop head either to the next loop head or to
the state the loop is left with. `Exits` and `Visits` are the two questions a
proof asks of such a loop: with which state it ends, and which loop heads it
passes. Neither presumes that the loop ends; `iterate` runs it for a bounded
number of passes, so a finite run can be evaluated.
-/

namespace IotgoFirmware.Library.LoopRules

set_option autoImplicit false

variable {State : Type*}

inductive LoopStep (State : Type*) where
  | again (head : State)
  | exit (final : State)
  deriving DecidableEq

def iterate (body : State → LoopStep State) : Nat → State → LoopStep State
  | 0, head => .again head
  | fuel + 1, head =>
      match body head with
      | .again next => iterate body fuel next
      | .exit final => .exit final

inductive Exits (body : State → LoopStep State) : State → State → Prop where
  | now {head final : State} (leaves : body head = .exit final) : Exits body head final
  | later {head next final : State} (continues : body head = .again next)
      (rest : Exits body next final) : Exits body head final

/-- The loop heads passed, the first one included. -/
inductive Visits (body : State → LoopStep State) : State → State → Prop where
  | here {head : State} : Visits body head head
  | later {head next reached : State} (continues : body head = .again next)
      (rest : Visits body next reached) : Visits body head reached

variable {body : State → LoopStep State}

theorem exits_of_iterate {fuel : Nat} {head final : State}
    (ends : iterate body fuel head = .exit final) : Exits body head final := by
  induction fuel generalizing head with
  | zero => simp [iterate] at ends
  | succ fuel ih =>
      cases pass : body head with
      | again next =>
          simp only [iterate, pass] at ends
          exact .later pass (ih ends)
      | exit last =>
          simp only [iterate, pass, LoopStep.exit.injEq] at ends
          exact .now (ends ▸ pass)

theorem visits_of_iterate {fuel : Nat} {head reached : State}
    (running : iterate body fuel head = .again reached) : Visits body head reached := by
  induction fuel generalizing head with
  | zero =>
      simp only [iterate, LoopStep.again.injEq] at running
      exact running ▸ .here
  | succ fuel ih =>
      cases pass : body head with
      | again next =>
          simp only [iterate, pass] at running
          exact .later pass (ih running)
      | exit last => simp [iterate, pass] at running

theorem exits_iff_iterate {head final : State} :
    (∃ fuel, iterate body fuel head = .exit final) ↔ Exits body head final := by
  constructor
  · intro ⟨fuel, ends⟩
    exact exits_of_iterate ends
  · intro ends
    induction ends with
    | now leaves => exact ⟨1, by simp [iterate, leaves]⟩
    | later continues _ ih =>
        obtain ⟨fuel, rest⟩ := ih
        exact ⟨fuel + 1, by simp [iterate, continues, rest]⟩

theorem visits_iff_iterate {head reached : State} :
    (∃ fuel, iterate body fuel head = .again reached) ↔ Visits body head reached := by
  constructor
  · intro ⟨fuel, running⟩
    exact visits_of_iterate running
  · intro visited
    induction visited with
    | here => exact ⟨0, rfl⟩
    | later continues _ ih =>
        obtain ⟨fuel, rest⟩ := ih
        exact ⟨fuel + 1, by simp [iterate, continues, rest]⟩

theorem exits_unique {head left right : State}
    (first : Exits body head left) (second : Exits body head right) : left = right := by
  induction first with
  | now leaves =>
      cases second with
      | now leaves' => simpa [leaves] using leaves'
      | later continues _ => simp [leaves] at continues
  | later continues _ ih =>
      cases second with
      | now leaves => simp [continues] at leaves
      | later continues' rest' =>
          rw [continues] at continues'
          cases continues'
          exact ih rest'

theorem visits_trans {head middle reached : State}
    (first : Visits body head middle) (second : Visits body middle reached) :
    Visits body head reached := by
  induction first with
  | here => exact second
  | later continues _ ih => exact .later continues (ih second)

theorem exits_of_visits {head reached final : State}
    (first : Visits body head reached) (second : Exits body reached final) :
    Exits body head final := by
  induction first with
  | here => exact second
  | later continues _ ih => exact .later continues (ih second)

theorem exits_from_visited {head reached final : State} (visited : Visits body head reached)
    (ends : Exits body head final) : Exits body reached final := by
  induction visited with
  | here => exact ends
  | later continues _ ih =>
      cases ends with
      | now leaves => simp [continues] at leaves
      | later continues' rest =>
          rw [continues] at continues'
          cases continues'
          exact ih rest

theorem exits_again {head next final : State} (continues : body head = .again next)
    (ends : Exits body head final) : Exits body next final :=
  exits_from_visited (.later continues .here) ends

theorem exits_exit {head left final : State} (leaves : body head = .exit left)
    (ends : Exits body head final) : final = left :=
  exits_unique ends (.now leaves)

/-- The loop is left at the last loop head it visits. -/
theorem exits_last_head {head final : State} (ends : Exits body head final) :
    ∃ last, Visits body head last ∧ body last = .exit final := by
  induction ends with
  | now leaves => exact ⟨_, .here, leaves⟩
  | later continues _ ih =>
      obtain ⟨last, visited, leaves⟩ := ih
      exact ⟨last, .later continues visited, leaves⟩

/-- Invariant rule: what every pass keeps holds at every loop head. -/
theorem visits_keeps (invariant : State → Prop)
    (keeps : ∀ head next, invariant head → body head = .again next → invariant next)
    {head reached : State} (initial : invariant head) (visited : Visits body head reached) :
    invariant reached := by
  induction visited with
  | here => exact initial
  | later continues _ ih => exact ih (keeps _ _ initial continues)

/-- Exit rule: the invariant at the last head, and what leaving makes of it. -/
theorem exits_keeps (invariant : State → Prop) {result : State → Prop}
    (keeps : ∀ head next, invariant head → body head = .again next → invariant next)
    (leaves : ∀ head final, invariant head → body head = .exit final → result final)
    {head final : State} (initial : invariant head) (ends : Exits body head final) :
    result final := by
  obtain ⟨last, visited, leaving⟩ := exits_last_head ends
  exact leaves last final (visits_keeps invariant keeps initial visited) leaving

/-- Measure rule: a loop whose passes decrease a natural number is left within as many. -/
theorem iterate_of_measure (invariant : State → Prop) (size : State → Nat)
    (decreases : ∀ head next, invariant head → body head = .again next →
      invariant next ∧ size next < size head)
    {fuel : Nat} {head : State} (initial : invariant head) (enough : size head < fuel) :
    ∃ final, iterate body fuel head = .exit final := by
  induction fuel generalizing head with
  | zero => exact absurd enough (Nat.not_lt_zero _)
  | succ fuel ih =>
      rw [iterate]
      cases pass : body head with
      | exit final => exact ⟨final, rfl⟩
      | again next =>
          obtain ⟨kept, smaller⟩ := decreases head next initial pass
          exact ih kept (Nat.lt_of_lt_of_le smaller (Nat.le_of_lt_succ enough))

theorem exits_of_measure (invariant : State → Prop) (size : State → Nat)
    (decreases : ∀ head next, invariant head → body head = .again next →
      invariant next ∧ size next < size head)
    {head : State} (initial : invariant head) : ∃ final, Exits body head final := by
  obtain ⟨final, ends⟩ :=
    iterate_of_measure invariant size decreases initial (Nat.lt_succ_self (size head))
  exact ⟨final, exits_of_iterate ends⟩

/-- A loop whose every pass leads to another never leaves. -/
theorem not_exits_of_invariant (invariant : State → Prop)
    (continues : ∀ head, invariant head → ∃ next, body head = .again next ∧ invariant next)
    {head final : State} (initial : invariant head) : ¬ Exits body head final := by
  intro ends
  induction ends with
  | now leaves =>
      rcases continues _ initial with ⟨next, pass, -⟩
      rw [pass] at leaves
      cases leaves
  | later pass _ ih =>
      rcases continues _ initial with ⟨next, pass', kept⟩
      rw [pass] at pass'
      cases pass'
      exact ih kept

section Related

variable {Twin : Type*} {twinBody : Twin → LoopStep Twin}

def LoopStep.map (view : State → Twin) : LoopStep State → LoopStep Twin
  | .again head => .again (view head)
  | .exit final => .exit (view final)

/-- A view of the state that every pass respects is respected by a bounded run. -/
theorem iterate_map (view : State → Twin)
    (commutes : ∀ head, twinBody (view head) = (body head).map view) (fuel : Nat) (head : State) :
    iterate twinBody fuel (view head) = (iterate body fuel head).map view := by
  induction fuel generalizing head with
  | zero => rfl
  | succ fuel ih =>
      rw [iterate, iterate, commutes]
      cases body head with
      | again next => exact ih next
      | exit final => rfl

/-- Both passes go on, or both leave, with related states. -/
inductive StepsRelated (related : State → Twin → Prop) : LoopStep State → LoopStep Twin → Prop where
  | again {head : State} {twin : Twin} (kept : related head twin) :
      StepsRelated related (.again head) (.again twin)
  | exit {final : State} {twin : Twin} (kept : related final twin) :
      StepsRelated related (.exit final) (.exit twin)

/-- Simulation rule: whatever head one loop passes, the other passes its twin. -/
theorem visits_related (related : State → Twin → Prop)
    (keeps : ∀ head twin, related head twin →
      StepsRelated related (body head) (twinBody twin))
    {head reached : State} {twin : Twin} (initial : related head twin)
    (visited : Visits body head reached) :
    ∃ twinReached, Visits twinBody twin twinReached ∧ related reached twinReached := by
  induction visited generalizing twin with
  | here => exact ⟨twin, .here, initial⟩
  | @later head next reached continues _ ih =>
      have pass := keeps head twin initial
      rw [continues] at pass
      generalize other : twinBody twin = step at pass
      cases pass with
      | again kept =>
          obtain ⟨twinReached, visited, last⟩ := ih kept
          exact ⟨twinReached, .later other visited, last⟩

theorem exits_related (related : State → Twin → Prop)
    (keeps : ∀ head twin, related head twin →
      StepsRelated related (body head) (twinBody twin))
    {head final : State} {twin : Twin} (initial : related head twin)
    (ends : Exits body head final) :
    ∃ twinFinal, Exits twinBody twin twinFinal ∧ related final twinFinal := by
  obtain ⟨last, visited, leaves⟩ := exits_last_head ends
  obtain ⟨twinLast, twinVisited, kept⟩ := visits_related related keeps initial visited
  have pass := keeps last twinLast kept
  rw [leaves] at pass
  generalize other : twinBody twinLast = step at pass
  cases pass with
  | exit kept => exact ⟨_, exits_of_visits twinVisited (.now other), kept⟩

end Related

/-- Two loops whose passes agree are left together, or both go on. -/
theorem iterate_related {Other : Type*} {another : Other → LoopStep Other}
    (related ended : State → Other → Prop)
    (passes : ∀ head other, related head other →
      (∃ next next', body head = .again next ∧ another other = .again next' ∧
        related next next') ∨
      ∃ final final', body head = .exit final ∧ another other = .exit final' ∧
        ended final final')
    (fuel : Nat) {head : State} {other : Other} (initial : related head other) :
    (∃ next next', iterate body fuel head = .again next ∧
      iterate another fuel other = .again next' ∧ related next next') ∨
    ∃ final final', iterate body fuel head = .exit final ∧
      iterate another fuel other = .exit final' ∧ ended final final' := by
  induction fuel generalizing head other with
  | zero => exact .inl ⟨head, other, rfl, rfl, initial⟩
  | succ fuel ih =>
      rw [iterate, iterate]
      rcases passes head other initial with ⟨next, next', here, there, kept⟩ |
        ⟨final, final', here, there, ends⟩
      · rw [here, there]
        exact ih kept
      · rw [here, there]
        exact .inr ⟨final, final', rfl, rfl, ends⟩

end IotgoFirmware.Library.LoopRules
