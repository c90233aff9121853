import IotgoFirmware.Library.NorFlash
import IotgoFirmware.Library.StepRuns

/-!
# A store with two slots and a flag

A value is written into the slot that the flag does not select, and then the flag
is turned to it. As the flag is touched only when both slots are complete, the
power may go at any point.
-/

namespace IotgoFirmware.Library.TwoSlotStore

open IotgoFirmware.Library.NorFlash
open IotgoFirmware.Library.StepRuns

set_option autoImplicit false

/-- Slot `true` is the one that a flag byte other than zero selects. `Seen` is what
is read from a slot, `seen` what is to be read of a value. -/
structure SlotPair (Value Seen : Type*) where
  flagSector : Nat
  flagOffset : Nat
  flagSize : Nat
  fill : Bool → Value → List FlashOp
  slot : Bool → Flash → Seen
  seen : Value → Seen
  sectors : Bool → List Nat
  flagInside : flagOffset < flagSize
  flagShort : flagSize ≤ sectorSize
  apart : ∀ sector ∈ sectors false, sector ∉ sectors true
  flagApart : ∀ selected, flagSector ∉ sectors selected
  fillInside : ∀ selected value, ∀ op ∈ fill selected value, ∀ address,
    op.Touches address → address / sectorSize ∈ sectors selected
  slotInside : ∀ selected (flash other : Flash),
    (∀ address, address / sectorSize ∈ sectors selected → flash address = other address) →
      slot selected flash = slot selected other
  filled : ∀ selected value flash, slot selected (runOps (fill selected value) flash) = seen value

/-- Saves in a row, each of them done or cut anywhere. -/
inductive SaveEvent (Value : Type*) where
  | saved (value : Value)
  | cut (value : Value)

namespace SaveEvent

variable {Value : Type*}

def value : SaveEvent Value → Value
  | .saved value => value
  | .cut value => value

def isCut : SaveEvent Value → Bool
  | .saved _ => false
  | .cut _ => true

end SaveEvent

/-- The value of the last save that was done, or of one that was cut after it. -/
def LastSaved {Value : Type*} (events : List (SaveEvent Value)) (value : Value) : Prop :=
  ∃ front event back, events = front ++ event :: back ∧
    (∀ later ∈ back, later.isCut = true) ∧ event.value = value

namespace SlotPair

variable {Value Seen : Type*} (store : SlotPair Value Seen)

def flagStart : Nat :=
  store.flagSector * sectorSize

def selected (flash : Flash) : Bool :=
  flash (store.flagStart + store.flagOffset) ≠ 0

def load (flash : Flash) : Seen :=
  store.slot (store.selected flash) flash

/-- The flag record as it was read, with the flag byte of a slot. -/
def flagRecord (flash : Flash) (next : Bool) : List UInt8 :=
  (readAt flash store.flagStart store.flagSize).set store.flagOffset (if next then 1 else 0)

def turn (flash : Flash) (next : Bool) : List FlashOp :=
  [.erase store.flagSector, .write store.flagStart (store.flagRecord flash next)]

def save (value : Value) (flash : Flash) : List FlashOp :=
  let next := !store.selected flash
  store.fill next value ++ store.turn flash next

section Frames

variable {store} {flash before after : Flash}

theorem flag_in_sector : (store.flagStart + store.flagOffset) / sectorSize = store.flagSector :=
  in_sector (Nat.lt_of_lt_of_le store.flagInside store.flagShort)

theorem record_length (next : Bool) : (store.flagRecord flash next).length = store.flagSize := by
  rw [flagRecord, List.length_set, read_at_length]

theorem slots_apart {selected : Bool} {sector : Nat} (here : sector ∈ store.sectors selected) :
    sector ∉ store.sectors (!selected) := by
  cases selected with
  | false => exact store.apart sector here
  | true =>
      intro there
      exact store.apart sector there here

theorem fill_misses_other {selected : Bool} (value : Value) {address : Nat}
    (other : address / sectorSize ∈ store.sectors (!selected)) :
    Untouched (store.fill selected value) address := by
  intro op member touched
  exact slots_apart (store.fillInside selected value op member address touched) other

theorem fill_misses_flag {selected : Bool} (value : Value) :
    Untouched (store.fill selected value) (store.flagStart + store.flagOffset) := by
  intro op member touched
  have inside := store.fillInside selected value op member _ touched
  rw [flag_in_sector] at inside
  exact store.flagApart selected inside

theorem turn_misses_slot (next : Bool) {selected : Bool} {address : Nat}
    (slot : address / sectorSize ∈ store.sectors selected) :
    Untouched (store.turn flash next) address := by
  have short : (store.flagRecord flash next).length ≤ sectorSize := by
    rw [record_length]
    exact store.flagShort
  have outside : address / sectorSize ≠ store.flagSector := by
    intro clash
    exact store.flagApart selected (clash ▸ slot)
  intro op member touched
  rcases List.mem_cons.1 member with rfl | last
  · exact outside touched
  · rw [List.mem_singleton.1 last] at touched
    exact outside (write_in_sector short touched)

theorem selected_congr
    (same : after (store.flagStart + store.flagOffset) =
      before (store.flagStart + store.flagOffset)) :
    store.selected after = store.selected before := by
  rw [selected, selected, same]

/-- While the spare slot is filled, the selected one is loaded. -/
theorem load_while_filling {value : Value}
    (cut : Cut (store.fill (!store.selected before) value) before after) :
    store.load after = store.load before := by
  have flag : store.selected after = store.selected before :=
    selected_congr (cut_untouched cut (fill_misses_flag value))
  rw [load, load, flag]
  apply store.slotInside
  intro address inside
  refine cut_untouched cut (fill_misses_other value ?_)
  rw [Bool.not_not]
  exact inside

/-- Once the spare slot is filled, either slot will do. -/
theorem load_while_turning {value : Value} {next : Bool}
    (cut : Cut (store.turn before next)
      (runOps (store.fill (!store.selected before) value) before) after) :
    store.load after = store.load before ∨ store.load after = store.seen value := by
  have slots : ∀ which, store.slot which after =
      store.slot which (runOps (store.fill (!store.selected before) value) before) := by
    intro which
    apply store.slotInside
    intro address inside
    exact cut_untouched cut (turn_misses_slot next inside)
  rw [load, slots]
  by_cases kept : store.selected after = store.selected before
  · have old : store.load (runOps (store.fill (!store.selected before) value) before) =
        store.load before := load_while_filling (cut_done _)
    have flag : store.selected (runOps (store.fill (!store.selected before) value) before) =
        store.selected before := selected_congr (ops_untouched (fill_misses_flag value))
    rw [load, flag] at old
    rw [kept]
    exact .inl old
  · rw [Bool.eq_not.2 kept]
    exact .inr (store.filled _ value before)

end Frames

variable {flash before after : Flash}

/-- However it is cut, a save leaves the old value or the new one. -/
theorem load_cut {value : Value} (cut : Cut (store.save value before) before after) :
    store.load after = store.load before ∨ store.load after = store.seen value := by
  rcases cut_append cut with filling | turning
  · exact .inl (load_while_filling filling)
  · exact load_while_turning turning

theorem selected_saved (value : Value) (flash : Flash) :
    store.selected (runOps (store.save value flash) flash) = !store.selected flash := by
  have inside : store.flagOffset <
      (store.flagRecord flash (!store.selected flash)).length := by
    rw [record_length]
    exact store.flagInside
  have short : (store.flagRecord flash (!store.selected flash)).length ≤ sectorSize := by
    rw [record_length]
    exact store.flagShort
  have written : runOps (store.turn flash (!store.selected flash))
      (runOps (store.fill (!store.selected flash) value) flash)
      (store.flagStart + store.flagOffset) =
        (store.flagRecord flash (!store.selected flash)).getD store.flagOffset 0 :=
    erase_write_byte short inside
  have byte : runOps (store.save value flash) flash (store.flagStart + store.flagOffset) =
      if !store.selected flash then 1 else 0 := by
    rw [save, ops_append, written, List.getD_eq_getElem _ _ inside]
    simp only [flagRecord, List.getElem_set_self]
  rw [selected, byte]
  cases store.selected flash <;> decide

/-- A save that is not cut leaves the new value, whatever the chip held. -/
theorem load_saved (value : Value) (flash : Flash) :
    store.load (runOps (store.save value flash) flash) = store.seen value := by
  have flag := store.selected_saved value flash
  rw [load, flag, save, ops_append]
  rw [← store.filled (!store.selected flash) value flash]
  apply store.slotInside
  intro address inside
  exact ops_untouched (turn_misses_slot _ inside)

def SaveStep (before : Flash) (event : SaveEvent Value) (after : Flash) : Prop :=
  match event with
  | .saved value => after = runOps (store.save value before) before
  | .cut value => Cut (store.save value before) before after

theorem load_run {events : List (SaveEvent Value)} (run : Run store.SaveStep before events after) :
    (∀ event ∈ events, event.isCut = true) ∧ store.load after = store.load before ∨
      ∃ value, LastSaved events value ∧ store.load after = store.seen value := by
  induction run with
  | nil => exact .inl ⟨nofun, rfl⟩
  | @cons before next after event rest first _ ih =>
      rcases ih with ⟨cuts, same⟩ | ⟨value, ⟨front, last, back, rfl, cuts, rfl⟩, found⟩
      · cases event with
        | saved value =>
            refine .inr ⟨value, ⟨[], .saved value, rest, rfl, cuts, rfl⟩, ?_⟩
            rw [same, first]
            exact store.load_saved value before
        | cut value =>
            rcases store.load_cut first with old | new
            · refine .inl ⟨?_, same.trans old⟩
              intro event member
              rcases List.mem_cons.1 member with rfl | later
              · rfl
              · exact cuts event later
            · exact .inr ⟨value, ⟨[], .cut value, rest, rfl, cuts, rfl⟩, same.trans new⟩
      · exact .inr ⟨last.value, ⟨event :: front, last, back, rfl, cuts, rfl⟩, found⟩

/-- A save that is done before all the others leaves nothing of what the chip held. -/
theorem load_run_saved {value : Value} {events : List (SaveEvent Value)}
    (run : Run store.SaveStep before (.saved value :: events) after) :
    ∃ last, LastSaved (.saved value :: events) last ∧ store.load after = store.seen last := by
  rcases store.load_run run with ⟨cuts, -⟩ | found
  · have clash := cuts (.saved value) List.mem_cons_self
    cases clash
  · exact found

end SlotPair

end IotgoFirmware.Library.TwoSlotStore
