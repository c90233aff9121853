import IotgoFirmware.Library.TwoSlotStore

/-!
# A store in a device that writes its flash elsewhere too

Steps that are not saves of a store, and leave its sectors alone, change nothing of what it
loads. So the saves of the store tell what is loaded, whatever the device does between them.
-/

namespace IotgoFirmware.Library.SharedFlash

open IotgoFirmware.Library.NorFlash
open IotgoFirmware.Library.StepRuns
open IotgoFirmware.Library.TwoSlotStore

set_option autoImplicit false

variable {Device Event Value Seen : Type*}

/-- The sectors that a store reads and writes. -/
def storeSectors (store : SlotPair Value Seen) : List Nat :=
  store.flagSector :: (store.sectors false ++ store.sectors true)

/-- All saves were cut and left what was there, or the last one that was done tells what is
there, or one that was cut behind it. -/
def ToldBy (saves : List (SaveEvent Value)) (seen : Value → Seen) (before after : Seen) : Prop :=
  (∀ save ∈ saves, save.isCut = true) ∧ after = before ∨
    ∃ value, LastSaved saves value ∧ after = seen value

/-- The bytes of the sectors are the same. -/
def Agree (sectors : List Nat) (before after : Flash) : Prop :=
  ∀ address, address / sectorSize ∈ sectors → after address = before address

/-- Every step does what a save of the store does to it, or leaves its sectors alone. -/
structure Shares (store : SlotPair Value Seen) (flash : Device → Flash)
    (pick : Event → Option (SaveEvent Value)) (step : Device → Event → Device → Prop) : Prop where
  own : ∀ before event after save, pick event = some save → step before event after →
    ToldBy [save] store.seen (store.load (flash before)) (store.load (flash after))
  others : ∀ before event after, pick event = none → step before event after →
    Agree (storeSectors store) (flash before) (flash after)

section Loads

variable {store : SlotPair Value Seen} {flash : Device → Flash}
  {pick : Event → Option (SaveEvent Value)} {step : Device → Event → Device → Prop}
  {before after : Flash} {sectors : List Nat}

theorem slot_sector {selected : Bool} {sector : Nat} (inside : sector ∈ store.sectors selected) :
    sector ∈ storeSectors store := by
  cases selected with
  | false => exact List.mem_cons_of_mem _ (List.mem_append_left _ inside)
  | true => exact List.mem_cons_of_mem _ (List.mem_append_right _ inside)

theorem load_agree (agree : Agree (storeSectors store) before after) :
    store.load after = store.load before := by
  have flag : store.selected after = store.selected before := by
    apply SlotPair.selected_congr
    apply agree
    rw [SlotPair.flag_in_sector]
    exact List.mem_cons_self
  rw [SlotPair.load, SlotPair.load, flag]
  apply store.slotInside
  intro address inside
  exact agree address (slot_sector inside)

theorem told_by_cons {save : SaveEvent Value} {saves : List (SaveEvent Value)}
    {seen : Value → Seen} {first middle last : Seen} (single : ToldBy [save] seen first middle)
    (later : ToldBy saves seen middle last) : ToldBy (save :: saves) seen first last := by
  rcases later with ⟨cuts, same⟩ | ⟨value, ⟨front, saved, back, parts, cuts, taken⟩, found⟩
  · rcases single with ⟨cut, old⟩ | ⟨value, ⟨front, saved, back, parts, -, taken⟩, new⟩
    · refine .inl ⟨fun other member => ?_, same.trans old⟩
      rcases List.mem_cons.1 member with rfl | inside
      · exact cut _ List.mem_cons_self
      · exact cuts other inside
    · have only : saved = save := by
        have member : saved ∈ [save] := parts ▸ List.mem_append_right _ List.mem_cons_self
        exact List.mem_singleton.1 member
      exact .inr ⟨value, ⟨[], save, saves, rfl, cuts, only ▸ taken⟩, same.trans new⟩
  · exact .inr ⟨value, ⟨save :: front, saved, back, congrArg (List.cons save) parts, cuts,
      taken⟩, found⟩

theorem told_by_step {save : SaveEvent Value} (step : store.SaveStep before save after) :
    ToldBy [save] store.seen (store.load before) (store.load after) :=
  store.load_run (.cons step .nil)

theorem shared_load (shares : Shares store flash pick step) {first last : Device}
    {events : List Event} (run : Run step first events last) :
    ToldBy (events.filterMap pick) store.seen (store.load (flash first))
      (store.load (flash last)) := by
  induction run with
  | nil => exact .inl ⟨fun save member => absurd member List.not_mem_nil, rfl⟩
  | @cons first next last event rest taken _ ih =>
      cases picked : pick event with
      | none =>
          have kept := load_agree (shares.others _ _ _ picked taken)
          rw [List.filterMap_cons_none picked, ← kept]
          exact ih
      | some save =>
          rw [List.filterMap_cons_some picked]
          exact told_by_cons (shares.own _ _ _ _ picked taken) ih

theorem agree_run
    (kept : ∀ before event after, step before event after →
      Agree sectors (flash before) (flash after))
    {first last : Device} {events : List Event} (run : Run step first events last) :
    Agree sectors (flash first) (flash last) := by
  induction run with
  | nil => exact fun _ _ => rfl
  | cons taken _ ih =>
      exact fun address inside => (ih address inside).trans (kept _ _ _ taken address inside)

end Loads

end IotgoFirmware.Library.SharedFlash
