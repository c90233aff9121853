import Mathlib.Data.List.Basic

/-!
# Laws of a trace

A law says of every entry of a trace whether what precedes it allows it. A trace
that grows at its end keeps a law as long as the new entries obey it.
-/

namespace IotgoFirmware.Library.TraceLaws

set_option autoImplicit false

variable {Entry : Type*} {allowed : List Entry → Entry → Prop}

def Obeys (allowed : List Entry → Entry → Prop) (trace : List Entry) : Prop :=
  ∀ front entry back, trace = front ++ entry :: back → allowed front entry

theorem obeys_nil : Obeys allowed [] := by
  intro front entry back split
  cases front <;> cases split

theorem obeys_append_iff (front back : List Entry) :
    Obeys allowed (front ++ back) ↔
      Obeys allowed front ∧ Obeys (fun more entry => allowed (front ++ more) entry) back := by
  constructor
  · intro obeyed
    constructor
    · intro before entry after split
      apply obeyed before entry (after ++ back)
      rw [split, List.append_assoc, List.cons_append]
    · intro before entry after split
      apply obeyed (front ++ before) entry after
      rw [split, List.append_assoc]
  · rintro ⟨first, later⟩ before entry after split
    obtain ⟨middle, rfl, rest⟩ | ⟨middle, rfl, rest⟩ := List.append_eq_append_iff.1 split
    · exact later middle entry after rest
    · cases middle with
      | nil =>
          have here := later [] entry after rest.symm
          simpa only [List.append_nil] using here
      | cons head middle =>
          cases rest
          exact first before entry middle rfl

theorem obeys_cons_iff (entry : Entry) (trace : List Entry) :
    Obeys allowed (entry :: trace) ↔
      allowed [] entry ∧ Obeys (fun more later => allowed (entry :: more) later) trace := by
  constructor
  · intro obeyed
    constructor
    · exact obeyed [] entry trace rfl
    · intro before later after split
      apply obeyed (entry :: before) later after
      rw [split, List.cons_append]
  · rintro ⟨first, later⟩ before other after split
    cases before with
    | nil =>
        cases split
        exact first
    | cons head before =>
        cases split
        exact later before other after rfl

/-- Entries that the law does not concern. -/
theorem obeys_of_free {trace : List Entry} (free : ∀ entry ∈ trace, ∀ front, allowed front entry) :
    Obeys allowed trace := by
  rintro front entry back rfl
  exact free entry (List.mem_append_right front List.mem_cons_self) front

end IotgoFirmware.Library.TraceLaws
