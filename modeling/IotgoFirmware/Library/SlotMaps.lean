import Mathlib.Data.Fintype.Card
import Mathlib.Data.List.FinRange
import Mathlib.Data.List.Forall2

/-!
# Partial maps with finitely many slots

What a table of a fixed size means: each slot has a value or is free. New items go
into the lowest free slots, and a batch of items changes the values that its items
name.
-/

namespace IotgoFirmware.Library.SlotMaps

set_option autoImplicit false

variable {size : Nat} {Value Item : Type*}

abbrev SlotMap (size : Nat) (Value : Type*) := Fin size → Option Value

def usedSlots (map : SlotMap size Value) : Finset (Fin size) :=
  Finset.univ.filter fun slot => (map slot).isSome

def used (map : SlotMap size Value) : Nat :=
  (usedSlots map).card

def freeSlots (map : SlotMap size Value) : List (Fin size) :=
  (List.finRange size).filter fun slot => (map slot).isNone

def put (map : SlotMap size Value) (slot : Fin size) (value : Value) : SlotMap size Value :=
  Function.update map slot (some value)

def remove (map : SlotMap size Value) (slot : Fin size) : SlotMap size Value :=
  Function.update map slot none

/-- The items in their order in the lowest free slots. -/
def place (make : Fin size → Item → Value) (items : List Item) (map : SlotMap size Value) :
    SlotMap size Value := fun slot =>
  match ((freeSlots map).zip items).find? fun entry => entry.1 = slot with
  | some entry => some (make slot entry.2)
  | none => map slot

/-- Each item in turn changes the values in the slots that it names. -/
def changeEach (names : Item → Fin size → Bool) (effect : Item → Value → Value) :
    List Item → SlotMap size Value → SlotMap size Value
  | [], map => map
  | item :: rest, map =>
      changeEach names effect rest fun slot =>
        if names item slot then (map slot).map (effect item) else map slot

section Counting

variable {map : SlotMap size Value} {slot : Fin size}

theorem mem_used_slots : slot ∈ usedSlots map ↔ (map slot).isSome := by
  rw [usedSlots, Finset.mem_filter]
  exact and_iff_right (Finset.mem_univ slot)

theorem used_le (map : SlotMap size Value) : used map ≤ size := by
  have most := Finset.card_le_univ (usedSlots map)
  rw [Fintype.card_fin] at most
  exact most

theorem used_slots_put (map : SlotMap size Value) (slot : Fin size) (value : Value) :
    usedSlots (put map slot value) = insert slot (usedSlots map) := by
  ext other
  by_cases same : other = slot
  · subst same
    simp [mem_used_slots, put]
  · simp [mem_used_slots, put, same]

theorem used_slots_remove (map : SlotMap size Value) (slot : Fin size) :
    usedSlots (remove map slot) = (usedSlots map).erase slot := by
  ext other
  by_cases same : other = slot
  · subst same
    simp [mem_used_slots, remove]
  · simp [mem_used_slots, remove, same]

theorem used_put (free : map slot = none) (value : Value) :
    used (put map slot value) = used map + 1 := by
  have outside : slot ∉ usedSlots map := by simp [mem_used_slots, free]
  rw [used, used_slots_put, Finset.card_insert_of_notMem outside]
  rfl

theorem used_put_again (taken : (map slot).isSome) (value : Value) :
    used (put map slot value) = used map := by
  have among : slot ∈ usedSlots map := mem_used_slots.2 taken
  rw [used, used_slots_put, Finset.insert_eq_of_mem among]
  rfl

theorem used_remove (taken : (map slot).isSome) : used (remove map slot) + 1 = used map := by
  have among : slot ∈ usedSlots map := mem_used_slots.2 taken
  rw [used, used_slots_remove]
  exact Finset.card_erase_add_one among

/-- A map that is not full has a lowest free slot. -/
theorem free_slots_cons (room : used map < size) :
    ∃ slot rest, freeSlots map = slot :: rest := by
  cases free : freeSlots map with
  | cons slot rest => exact ⟨slot, rest, rfl⟩
  | nil =>
      have full : usedSlots map = Finset.univ := by
        ext slot
        have taken := List.filter_eq_nil_iff.1 free slot (List.mem_finRange slot)
        simpa [mem_used_slots, Option.isSome_iff_ne_none] using taken
      rw [used, full, Finset.card_univ, Fintype.card_fin] at room
      exact absurd room (Nat.lt_irrefl size)

theorem free_slots_nodup (map : SlotMap size Value) : (freeSlots map).Nodup :=
  (List.nodup_finRange size).filter _

theorem mem_free_slots : slot ∈ freeSlots map ↔ map slot = none := by
  simp [freeSlots]

/-- Once the lowest free slot is taken, the others are left. -/
theorem free_slots_put {rest : List (Fin size)} (free : freeSlots map = slot :: rest)
    (value : Value) : freeSlots (put map slot value) = rest := by
  have nodup := free_slots_nodup map
  rw [free, List.nodup_cons] at nodup
  have fewer : freeSlots (put map slot value) = (freeSlots map).filter fun other => other ≠ slot := by
    rw [freeSlots, freeSlots, List.filter_filter]
    apply List.filter_congr
    intro other _
    by_cases same : other = slot
    · subst same
      simp [put]
    · simp [put, same]
  have others : ∀ other ∈ rest, decide (other ≠ slot) = true := by
    intro other member
    simpa using ne_of_mem_of_not_mem member nodup.1
  rw [fewer, free, List.filter_cons_of_neg (by simp), List.filter_eq_self.2 others]

end Counting

section Batches

variable {map : SlotMap size Value}

@[simp] theorem place_nil (make : Fin size → Item → Value) (map : SlotMap size Value) :
    place make [] map = map := by
  funext slot
  simp [place]

/-- The first item goes into the lowest free slot. -/
theorem place_cons (make : Fin size → Item → Value) {slot : Fin size} {rest : List (Fin size)}
    (free : freeSlots map = slot :: rest) (item : Item) (items : List Item) :
    place make (item :: items) map = place make items (put map slot (make slot item)) := by
  have nodup := free_slots_nodup map
  rw [free, List.nodup_cons] at nodup
  funext other
  rw [place, place, free, free_slots_put free]
  by_cases same : other = slot
  · have missing : (rest.zip items).find? (fun entry => entry.1 = slot) = none := by
      rw [List.find?_eq_none]
      intro entry member here
      simp only [decide_eq_true_eq] at here
      exact nodup.1 (here ▸ (List.of_mem_zip member).1)
    rw [same, missing, List.zip_cons_cons, List.find?_cons_of_pos (by simp)]
    simp [put]
  · rw [List.zip_cons_cons, List.find?_cons_of_neg (by simpa using Ne.symm same)]
    split
    · rfl
    · simp [put, same]

/-- Where the items are the new values, the last one that names a slot wins. -/
theorem change_each_last (names : Item → Fin size → Bool) (value : Item → Value)
    (items : List Item) (map : SlotMap size Value) :
    changeEach names (fun item _ => value item) items map = fun slot =>
      (map slot).map fun old =>
        ((items.reverse.find? fun item => names item slot).map value).getD old := by
  induction items generalizing map with
  | nil =>
      funext slot
      simp [changeEach]
  | cons item rest ih =>
      funext slot
      rw [changeEach, ih, List.reverse_cons, List.find?_append]
      by_cases named : names item slot = true
      · cases later : rest.reverse.find? fun item => names item slot with
        | some last => cases taken : map slot <;> simp [named, taken, later]
        | none => cases taken : map slot <;> simp [named, taken, later]
      · rw [Bool.not_eq_true] at named
        simp [named]

/-- Where all items do the same and once is enough, it is done in every slot that one
of them names. -/
theorem change_each_same (names : Item → Fin size → Bool) {effect : Value → Value}
    (once : ∀ value, effect (effect value) = effect value) (items : List Item)
    (map : SlotMap size Value) :
    changeEach names (fun _ => effect) items map = fun slot =>
      if items.any fun item => names item slot then (map slot).map effect else map slot := by
  induction items generalizing map with
  | nil =>
      funext slot
      simp [changeEach]
  | cons item rest ih =>
      funext slot
      rw [changeEach, ih, List.any_cons]
      by_cases named : names item slot = true
      · simp only [named, if_true, Bool.true_or]
        split
        · cases map slot <;> simp [once]
        · rfl
      · rw [Bool.not_eq_true] at named
        simp [named]

end Batches

section Relations

variable {Other OtherItem : Type*} {relation : Value → Other → Prop} {left : SlotMap size Value}
  {right : SlotMap size Other}

/-- The same slots are used, with values that are related. -/
def Related (relation : Value → Other → Prop) (left : SlotMap size Value)
    (right : SlotMap size Other) : Prop :=
  ∀ slot, Option.Rel relation (left slot) (right slot)

theorem free_slots_related (related : Related relation left right) :
    freeSlots left = freeSlots right := by
  apply List.filter_congr
  intro slot _
  have here := related slot
  generalize left slot = first at here ⊢
  generalize right slot = second at here ⊢
  cases here with
  | some _ => rfl
  | none => rfl

theorem put_related (related : Related relation left right) (slot : Fin size) {value : Value}
    {other : Other} (values : relation value other) :
    Related relation (put left slot value) (put right slot other) := by
  intro index
  unfold put
  by_cases same : index = slot
  · subst same
    rw [Function.update_self, Function.update_self]
    exact .some values
  · rw [Function.update_of_ne same, Function.update_of_ne same]
    exact related index

theorem place_full {make : Fin size → Item → Value} (full : freeSlots left = [])
    (items : List Item) : place make items left = left := by
  funext slot
  rw [place, full, List.zip_nil_left, List.find?_nil]

/-- Items that make related values are placed in the same slots. -/
theorem place_related {make : Fin size → Item → Value} {makeOther : Fin size → OtherItem → Other}
    {items : List Item} {others : List OtherItem} (related : Related relation left right)
    (each : List.Forall₂ (fun item other => ∀ slot, relation (make slot item)
      (makeOther slot other)) items others) :
    Related relation (place make items left) (place makeOther others right) := by
  induction each generalizing left right with
  | nil =>
      rw [place_nil, place_nil]
      exact related
  | cons first _ ih =>
      have free := free_slots_related related
      cases slots : freeSlots left with
      | nil =>
          rw [slots] at free
          rw [place_full slots, place_full free.symm]
          exact related
      | cons slot rest =>
          rw [slots] at free
          rw [place_cons make slots, place_cons makeOther free.symm]
          exact ih (put_related related slot (first slot))

/-- The last of some related items that name a slot. -/
theorem find_last_related {names : Item → Bool} {namesOther : OtherItem → Bool}
    {holds : Item → OtherItem → Prop} {items : List Item} {others : List OtherItem}
    (each : List.Forall₂ holds items others)
    (same : ∀ item other, holds item other → names item = namesOther other) :
    Option.Rel holds (items.reverse.find? names) (others.reverse.find? namesOther) := by
  have backwards := List.rel_reverse each
  generalize items.reverse = first at backwards ⊢
  generalize others.reverse = second at backwards ⊢
  induction backwards with
  | nil => exact .none
  | @cons item other _ _ head _ ih =>
      by_cases named : names item = true
      · rw [List.find?_cons_of_pos named,
          List.find?_cons_of_pos ((same item other head).symm.trans named)]
        exact .some head
      · rw [List.find?_cons_of_neg named,
          List.find?_cons_of_neg fun yes => named ((same item other head).trans yes)]
        exact ih

end Relations

end IotgoFirmware.Library.SlotMaps
