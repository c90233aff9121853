import Mathlib.Data.List.Nodup
import Mathlib.Logic.Function.Basic

/-!
# Singly linked lists in a heap

A heap maps an address to the cell that is allocated there. A segment is a chain of
cells from one pointer to another; a list is a segment that ends with the null
pointer. The edits of a list (a cell linked behind the last one, a cell cut out)
are each one lemma about segments.
-/

namespace IotgoFirmware.Library.LinkedLists

set_option autoImplicit false

variable {Address Payload : Type*}

structure Cell (Address Payload : Type*) where
  payload : Payload
  next : Option Address

/-- `none` at an address where no cell is allocated. -/
abbrev Heap (Address Payload : Type*) := Address → Option (Cell Address Payload)

section Edits

variable {heap : Heap Address Payload} {address : Address}

/-- The address an allocation gives: the offered one, unless a cell stands there. -/
def Heap.malloc (heap : Heap Address Payload) (offered : Option Address) : Option Address :=
  offered.filter fun address => (heap address).isNone

theorem malloc_of_fresh (fresh : heap address = none) :
    heap.malloc (some address) = some address := by
  simp [Heap.malloc, Option.filter, fresh]

theorem malloc_of_used {offered : Option Address}
    (used : ∀ address, offered = some address → heap address ≠ none) :
    heap.malloc offered = none := by
  cases offered with
  | none => rfl
  | some address =>
      have taken : heap address ≠ none := used address rfl
      simp [Heap.malloc, Option.filter, taken]

variable [DecidableEq Address]

def Heap.write (heap : Heap Address Payload) (address : Address) (cell : Cell Address Payload) :
    Heap Address Payload :=
  Function.update heap address (some cell)

/-- `none` where there is nothing to be freed. -/
def Heap.free (heap : Heap Address Payload) (address : Address) :
    Option (Heap Address Payload) :=
  (heap address).map fun _ => Function.update heap address none

@[simp] theorem write_same (cell : Cell Address Payload) :
    heap.write address cell address = some cell :=
  Function.update_self ..

theorem write_other {other : Address} (cell : Cell Address Payload) (differ : other ≠ address) :
    heap.write address cell other = heap other :=
  Function.update_of_ne differ ..

theorem free_of_cell {cell : Cell Address Payload} (here : heap address = some cell) :
    heap.free address = some (Function.update heap address none) := by
  rw [Heap.free, here]
  rfl

end Edits

/-- The cells passed on the way from one pointer to another. -/
inductive Segment (heap : Heap Address Payload) :
    Option Address → List (Address × Payload) → Option Address → Prop where
  | nil {pointer : Option Address} : Segment heap pointer [] pointer
  | cons {address : Address} {payload : Payload} {next last : Option Address}
      {rest : List (Address × Payload)} (here : heap address = some ⟨payload, next⟩)
      (behind : Segment heap next rest last) :
      Segment heap (some address) ((address, payload) :: rest) last

def addresses (cells : List (Address × Payload)) : List Address :=
  cells.map Prod.fst

@[simp] theorem addresses_nil : addresses ([] : List (Address × Payload)) = [] := rfl

@[simp] theorem addresses_cons (cell : Address × Payload) (cells : List (Address × Payload)) :
    addresses (cell :: cells) = cell.1 :: addresses cells := rfl

@[simp] theorem addresses_append (front back : List (Address × Payload)) :
    addresses (front ++ back) = addresses front ++ addresses back :=
  List.map_append

section Segments

variable {heap other : Heap Address Payload} {first last : Option Address}
  {cells front back : List (Address × Payload)} {address : Address} {payload : Payload}

@[simp] theorem segment_nil_iff : Segment heap first [] last ↔ first = last := by
  constructor
  · intro empty
    cases empty
    rfl
  · rintro rfl
    exact .nil

theorem segment_cons_iff :
    Segment heap first ((address, payload) :: cells) last ↔
      first = some address ∧
        ∃ next, heap address = some ⟨payload, next⟩ ∧ Segment heap next cells last := by
  constructor
  · intro chain
    cases chain with
    | cons here behind => exact ⟨rfl, _, here, behind⟩
  · rintro ⟨rfl, next, here, behind⟩
    exact .cons here behind

theorem segment_append_iff :
    Segment heap first (front ++ back) last ↔
      ∃ middle, Segment heap first front middle ∧ Segment heap middle back last := by
  induction front generalizing first with
  | nil => simp
  | cons cell front ih =>
      rw [List.cons_append, segment_cons_iff]
      constructor
      · rintro ⟨rfl, next, here, behind⟩
        rcases ih.1 behind with ⟨middle, before, after⟩
        exact ⟨middle, .cons here before, after⟩
      · rintro ⟨middle, before, after⟩
        rcases segment_cons_iff.1 before with ⟨rfl, next, here, behind⟩
        exact ⟨rfl, next, here, ih.2 ⟨middle, behind, after⟩⟩

theorem segment_frame (chain : Segment heap first cells last)
    (same : ∀ address ∈ addresses cells, other address = heap address) :
    Segment other first cells last := by
  induction chain with
  | nil => exact .nil
  | cons here behind ih =>
      refine .cons ((same _ List.mem_cons_self).trans here) (ih ?_)
      intro address member
      exact same address (List.mem_cons_of_mem _ member)

theorem segment_allocated (chain : Segment heap first cells last) :
    ∀ address ∈ addresses cells, heap address ≠ none := by
  induction chain with
  | nil => simp
  | cons here behind ih => simp_all

theorem list_unique {others : List (Address × Payload)} (left : Segment heap first cells none)
    (right : Segment heap first others none) : cells = others := by
  induction cells generalizing first others with
  | nil =>
      cases left
      cases right
      rfl
  | cons cell cells ih =>
      rcases segment_cons_iff.1 left with ⟨rfl, next, here, behind⟩
      cases right with
      | cons found rest =>
          rw [here] at found
          cases found
          rw [ih behind rest]

theorem list_nodup (chain : Segment heap first cells none) : (addresses cells).Nodup := by
  induction cells generalizing first with
  | nil => exact List.nodup_nil
  | cons cell cells ih =>
      rcases segment_cons_iff.1 chain with ⟨rfl, next, here, behind⟩
      refine List.nodup_cons.2 ⟨?_, ih behind⟩
      intro again
      rcases List.mem_map.1 again with ⟨twin, member, same⟩
      rcases List.append_of_mem member with ⟨between, rest, split⟩
      rw [split] at behind
      rcases segment_append_iff.1 behind with ⟨middle, -, tail⟩
      have restart : middle = some cell.1 := by
        rw [← same]
        exact (segment_cons_iff.1 tail).1
      rw [restart] at tail
      -- Both the list and a proper end of it start here.
      have equal := congrArg List.length (list_unique chain tail)
      rw [split] at equal
      simp only [List.length_cons, List.length_append] at equal
      omega

variable [DecidableEq Address]

theorem segment_write (cell : Cell Address Payload) (chain : Segment heap first cells last)
    (apart : address ∉ addresses cells) : Segment (heap.write address cell) first cells last := by
  refine segment_frame chain ?_
  intro member among
  refine write_other cell ?_
  rintro rfl
  exact apart among

theorem segment_update (chain : Segment heap first cells last)
    (apart : address ∉ addresses cells) :
    Segment (Function.update heap address none) first cells last := by
  refine segment_frame chain ?_
  intro member among
  refine Function.update_of_ne ?_ ..
  rintro rfl
  exact apart among

theorem list_link {fresh : Address} {added : Payload}
    (chain : Segment heap first (front ++ [(address, payload)]) none)
    (unused : heap fresh = none) :
    Segment ((heap.write fresh ⟨added, none⟩).write address ⟨payload, some fresh⟩) first
      (front ++ [(address, payload)] ++ [(fresh, added)]) none := by
  have apart : fresh ∉ addresses (front ++ [(address, payload)]) := by
    intro member
    exact segment_allocated chain fresh member unused
  have distinct := list_nodup chain
  rw [addresses_append] at apart distinct
  rw [List.mem_append, not_or] at apart
  have other : fresh ≠ address := List.ne_of_not_mem_cons apart.2
  rcases segment_append_iff.1 chain with ⟨middle, before, ending⟩
  rcases segment_cons_iff.1 ending with ⟨rfl, next, here, behind⟩
  rw [List.append_assoc]
  refine segment_append_iff.2 ⟨some address, ?_, ?_⟩
  · have kept := segment_write ⟨added, none⟩ before apart.1
    refine segment_write _ kept ?_
    intro member
    exact List.disjoint_of_nodup_append distinct member List.mem_cons_self
  · refine .cons (write_same _) (.cons ?_ .nil)
    rw [write_other _ other, write_same]

theorem list_unlink {gone : Address} {removed : Payload} {next : Option Address}
    (chain : Segment heap first (front ++ (address, payload) :: (gone, removed) :: back) none)
    (there : heap gone = some ⟨removed, next⟩) :
    Segment (Function.update (heap.write address ⟨payload, next⟩) gone none) first
      (front ++ (address, payload) :: back) none := by
  have distinct := list_nodup chain
  simp only [addresses_append, addresses_cons, List.nodup_append, List.nodup_cons, List.mem_cons,
    not_or] at distinct
  obtain ⟨-, ⟨⟨differ, later⟩, behind, -⟩, before⟩ := distinct
  rcases segment_append_iff.1 chain with ⟨middle, start, ending⟩
  rcases segment_cons_iff.1 ending with ⟨rfl, second, here, rest⟩
  rcases segment_cons_iff.1 rest with ⟨rfl, third, found, remaining⟩
  rw [there] at found
  cases found
  refine segment_append_iff.2 ⟨some address, ?_, segment_cons_iff.2 ⟨rfl, next, ?_, ?_⟩⟩
  · refine segment_update (segment_write _ start ?_) ?_
    · intro member
      exact before _ member _ (.inl rfl) rfl
    · intro member
      exact before _ member _ (.inr (.inl rfl)) rfl
  · rw [Function.update_of_ne differ, write_same]
  · exact segment_update (segment_write _ remaining later) behind

end Segments

end IotgoFirmware.Library.LinkedLists
