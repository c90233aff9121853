import IotgoFirmware.Timers.TimerProc

/-!
# The arrays a request indexes by its ids

The requests of `iotgo_loctimer.c` with every access to `iotgo_timer_id`, to
`iotgo_timer` and to the local `id` checked: an access outside the array is a fault,
a read as well as a write. Strings play no part; a request that leaves a string
buffer or reads a string through `NULL` is not followed further.
-/

namespace IotgoFirmware.Timers.TimerAccess

open IotgoFirmware.Library.CFaults
open IotgoFirmware.Library.CJsonItems
open IotgoFirmware.Library.CStrings
open IotgoFirmware.Timers.TimerFlash
open IotgoFirmware.Timers.TimerLayout
open IotgoFirmware.Timers.TimerProc
open IotgoFirmware.Timers.TimerRequests

set_option autoImplicit false

section Tables

/-- `iotgo_timer_id[id - 1]`. -/
def readTimerId (table : TimerTable) (id : UInt8) : Checked UInt8 :=
  match slotOf id with
  | some slot => .ok (table.timerId slot)
  | none => .error .outside

/-- The element `id - 1` of either array, to be written. -/
def elementOf (id : UInt8) : Checked (Fin iotgoTimerNum) :=
  match slotOf id with
  | some slot => .ok slot
  | none => .error .outside

/-- The loop of `timerEdit`, `timerEnable` and `timerDisable`: the id is looked up before
it is compared with 0. -/
def changeTimers {Item : Type} (id : Item → UInt8) (change : Item → IotgoTimer → IotgoTimer) :
    List Item → TimerTable → Checked Batch
  | [], table => .ok (.finished table)
  | item :: rest, table => do
      let stored ← readTimerId table (id item)
      if id item ≠ stored ∨ id item = 0 then return .refused .error500 table
      else do
        let slot ← elementOf (id item)
        changeTimers id change rest
          (TimerTable.setTimer table slot (change item (table.timer slot)))

/-- `none` where the request is refused before its first id. -/
def timerEdit (state : TimerState) (timers : List IotgoTimer) : Checked (Option Batch) :=
  if state.table.timerInfo.timerCnt.toNat < timers.length ∨ timers.length = 0 then .ok none
  else return some (← changeTimers IotgoTimer.id (fun timer _ => timer) timers state.table)

/-- The body of `timerEnable` and `timerDisable`. -/
def timerSetEnabled (enabled : UInt8) (state : TimerState) (ids : List UInt8) :
    Checked (Option Batch) :=
  if ids.length = 0 ∨ state.table.timerInfo.timerCnt.toNat < ids.length then .ok none
  else return some (← changeTimers (fun id => id) (fun _ => setEnabled enabled) ids state.table)

def timerEnable : TimerState → List UInt8 → Checked (Option Batch) :=
  timerSetEnabled 1

def timerDisable : TimerState → List UInt8 → Checked (Option Batch) :=
  timerSetEnabled 0

/-- `none` for the result `false`. -/
def timerDeleteId (table : TimerTable) (id : UInt8) : Checked (Option TimerTable) :=
  if id = 0 then .ok none
  else do
    let stored ← readTimerId table id
    if id = stored then do
      let slot ← elementOf id
      return some (TimerTable.setId table slot 0)
    else return none

/-- The loop of `timerDel`. -/
def deleteTimers : List UInt8 → TimerTable → Checked Batch
  | [], table => .ok (.finished table)
  | id :: rest, table => do
      match ← timerDeleteId table id with
      | none => return .refused .error500 table
      | some table =>
          if table.timerInfo.timerCnt = 0 then return .refused .error500 table
          else do
            let slot ← elementOf id
            deleteTimers rest
              (TimerTable.setCnt (TimerTable.setTimer table slot .zero)
                (table.timerInfo.timerCnt - 1))

def timerDel (state : TimerState) (ids : List UInt8) : Checked (Option Batch) :=
  if ids.length = 0 then .ok none
  else return some (← deleteTimers ids state.table)

/-- The loop of `timerQueryTimerById`; `none` where an id is refused. -/
def findTimers (table : TimerTable) : List UInt8 → Checked (Option (List IotgoTimer))
  | [] => .ok (some [])
  | id :: rest => do
      let stored ← readTimerId table id
      if id ≠ stored ∨ id = 0 then return none
      else do
        let slot ← elementOf id
        return (← findTimers table rest).map (table.timer slot :: ·)

def timerQueryTimerById (state : TimerState) (ids : List UInt8) :
    Checked (Option (List IotgoTimer)) :=
  if state.table.timerInfo.timerCnt.toNat < ids.length then .ok none
  else findTimers state.table ids

end Tables

section Requests

variable (world : TimerWorld) (state : TimerState)

/-- The body of `procDel`, `procEnable` and `procDisable`. -/
def procIds (request : TimerState → List UInt8 → Checked (Option Batch))
    (cjsonTimerid : CJsonItem) :
    Checked Unit :=
  if cjsonTimerid.type ≠ .array then .ok ()
  else do
    let ids ← storeIds 0 (arrayItems cjsonTimerid)
    let _ ← request state ids
    return ()

def procDel : CJsonItem → Checked Unit :=
  procIds state timerDel

def procEnable : CJsonItem → Checked Unit :=
  procIds state timerEnable

def procDisable : CJsonItem → Checked Unit :=
  procIds state timerDisable

def procEdit (cjsonRoot : CJsonItem) : Checked Unit :=
  if cjsonRoot.type ≠ .array then .ok ()
  else if iotgoTimerNum < cJSONGetArraySize cjsonRoot % 256 then .ok ()
  else
    match generateTimers world 0 (arrayItems cjsonRoot) with
    | .ok (some timers) => do
        let _ ← timerEdit state timers
        return ()
    | _ => .ok ()

def withMember (cjsonParams : CJsonItem) (name : String) (proc : CJsonItem → Checked Unit) :
    Checked Unit :=
  match cJSONGetObjectItem cjsonParams (asciiBytes name) with
  | none => .ok ()
  | some item => proc item

/-- The other requests have no ids. -/
def timerProcUpdate (cjsonParams : CJsonItem) : Checked Unit :=
  match (cJSONGetObjectItem cjsonParams (asciiBytes "timerAct")).bind CJsonItem.valuestring with
  | none => .ok ()
  | some act =>
      if cString act = asciiBytes "del" then withMember cjsonParams "timerID" (procDel state)
      else if cString act = asciiBytes "edit" then
        withMember cjsonParams "timer" (procEdit world state)
      else if cString act = asciiBytes "enable" then
        withMember cjsonParams "timerID" (procEnable state)
      else if cString act = asciiBytes "disable" then
        withMember cjsonParams "timerID" (procDisable state)
      else .ok ()

def procQueryTimerById (cjsonParams : CJsonItem) : Checked Unit :=
  if 2 < cJSONGetArraySize cjsonParams % 256 then .ok ()
  else
    match cJSONGetArrayItem cjsonParams 1 with
    | none => .ok ()
    | some cjsonId =>
        if cjsonId.type ≠ .array ∨
            state.table.timerInfo.timerCnt.toNat < cJSONGetArraySize cjsonId % 256 then .ok ()
        else do
          let ids ← storeIds 0 (arrayItems cjsonId)
          let _ ← timerQueryTimerById state ids
          return ()

def timerProcQuery (cjsonParams : CJsonItem) : Checked Unit :=
  if cjsonParams.type ≠ .array then .ok ()
  else
    match (cJSONGetArrayItem cjsonParams 0).bind CJsonItem.valuestring with
    | none => .ok ()
    | some queryType =>
        if cString queryType = asciiBytes "timerID" then procQueryTimerById state cjsonParams
        else .ok ()

end Requests

section Conditions

variable (table : TimerTable)

/-- The id of a slot, whether it is in use or not. -/
def OfSlot (id : UInt8) : Prop :=
  1 ≤ id.toNat ∧ id.toNat ≤ iotgoTimerNum

/-- The first id that is not in use is that of a slot; where it is not, it is looked up
all the same. -/
def LookedUpInside (ids : List UInt8) : Prop :=
  ∀ front id back, ids = front ++ id :: back → (∀ other ∈ front, InUse table other) → OfSlot id

/-- The same of a deletion, which refuses an id of 0, one that was deleted before, and any
id once there is nothing left to be deleted. -/
def DeletedInside (ids : List UInt8) : Prop :=
  ∀ front id back, ids = front ++ id :: back → (∀ other ∈ front, InUse table other) →
    front.Nodup → front.length ≤ table.timerInfo.timerCnt.toNat → id.toNat ≤ iotgoTimerNum

end Conditions

section Loops

variable {table : TimerTable} {id : UInt8} {slot : Fin iotgoTimerNum}

theorem of_slot_iff : OfSlot id ↔ slotOf id ≠ none := by
  unfold slotOf
  split
  · rename_i inside
    exact iff_of_true inside (Option.some_ne_none _)
  · rename_i beyond
    exact iff_of_false beyond fun differ => differ rfl

theorem of_slot_of_some (found : slotOf id = some slot) : OfSlot id := by
  rw [of_slot_iff, found]
  exact Option.some_ne_none slot

theorem in_use_iff (found : slotOf id = some slot) : InUse table id ↔ id = table.timerId slot := by
  have own := slot_of_some found
  constructor
  · rintro ⟨other, same, there⟩
    rw [← id_of_injective (same.trans own)]
    exact there.symm
  · intro there
    exact ⟨slot, own.symm, there.symm⟩

/-- What holds at every element holds at the first one and at those behind it. -/
theorem forall_split_cons_iff {Item : Type} {first : Item} {rest : List Item}
    {At : List Item → Item → Prop} :
    (∀ front item back, first :: rest = front ++ item :: back → At front item) ↔
      At [] first ∧ ∀ front item back, rest = front ++ item :: back → At (first :: front) item := by
  constructor
  · intro each
    refine ⟨each [] first rest rfl, ?_⟩
    rintro front item back rfl
    exact each (first :: front) item back rfl
  · rintro ⟨here, behind⟩ front item back same
    cases front with
    | nil =>
        cases same
        exact here
    | cons head front =>
        cases same
        exact behind front item back rfl

theorem looked_up_cons_iff {ids : List UInt8} :
    LookedUpInside table (id :: ids) ↔
      OfSlot id ∧ (InUse table id → LookedUpInside table ids) := by
  unfold LookedUpInside
  rw [@forall_split_cons_iff UInt8 id ids fun front other =>
    (∀ earlier ∈ front, InUse table earlier) → OfSlot other]
  simp only [List.not_mem_nil, false_implies, implies_true, true_implies, List.forall_mem_cons]
  refine and_congr_right fun _ => ?_
  constructor
  · intro behind used front other back split others
    exact behind front other back split ⟨used, others⟩
  · intro behind front other back split used
    exact behind used.1 front other back split used.2

theorem looked_up_nil : LookedUpInside table [] := by
  intro front id back split
  simp at split

/-- An id that is in use is looked up inside, and so it is the others that count. -/
theorem looked_up_used_iff {ids : List UInt8} (found : slotOf id = some slot)
    (here : id = table.timerId slot) :
    LookedUpInside table (id :: ids) ↔ LookedUpInside table ids := by
  have used : InUse table id := (in_use_iff found).2 here
  rw [looked_up_cons_iff]
  exact ⟨fun both => both.2 used, fun behind => ⟨of_slot_of_some found, fun _ => behind⟩⟩

/-- Behind the id of a slot that is not in use nothing is looked up. -/
theorem looked_up_unused {ids : List UInt8} (found : slotOf id = some slot)
    (differ : id ≠ table.timerId slot) : LookedUpInside table (id :: ids) := by
  rw [looked_up_cons_iff]
  exact ⟨of_slot_of_some found, fun used => absurd ((in_use_iff found).1 used) differ⟩

theorem not_looked_up {ids : List UInt8} (missing : slotOf id = none) :
    ¬LookedUpInside table (id :: ids) := by
  rw [looked_up_cons_iff, of_slot_iff]
  exact fun inside => inside.1 missing

/-- An id that a slot has is refused exactly where the slot does not hold it. -/
theorem refused_iff (found : slotOf id = some slot) :
    id ≠ table.timerId slot ∨ id = 0 ↔ id ≠ table.timerId slot := by
  have positive : id ≠ 0 := slot_of_some found ▸ id_of_ne_zero slot
  exact or_iff_left positive

theorem deleted_cons_iff {ids : List UInt8} :
    DeletedInside table (id :: ids) ↔
      id.toNat ≤ iotgoTimerNum ∧
        ∀ front other back, ids = front ++ other :: back → InUse table id →
          (∀ earlier ∈ front, InUse table earlier ∧ earlier ≠ id) → front.Nodup →
          front.length + 1 ≤ table.timerInfo.timerCnt.toNat → other.toNat ≤ iotgoTimerNum := by
  unfold DeletedInside
  rw [@forall_split_cons_iff UInt8 id ids fun front other =>
    (∀ earlier ∈ front, InUse table earlier) → front.Nodup →
      front.length ≤ table.timerInfo.timerCnt.toNat → other.toNat ≤ iotgoTimerNum]
  simp only [List.not_mem_nil, false_implies, implies_true, true_implies, List.forall_mem_cons,
    List.nodup_nil, List.length_nil, Nat.zero_le, List.nodup_cons, List.length_cons]
  refine and_congr_right fun _ => ?_
  constructor
  · intro behind front other back split used others nodup count
    refine behind front other back split ⟨used, fun earlier member => (others earlier member).1⟩
      ⟨fun member => (others id member).2 rfl, nodup⟩ count
  · intro behind front other back split used nodup count
    refine behind front other back split used.1 ?_ nodup.2 count
    intro earlier member
    exact ⟨used.2 earlier member, ne_of_mem_of_not_mem member nodup.1⟩

theorem change_timers_completes_iff {Item : Type} {idAt : Item → UInt8}
    {change : Item → IotgoTimer → IotgoTimer} (items : List Item) :
    Completes (changeTimers idAt change items table) ↔ LookedUpInside table (items.map idAt) := by
  induction items generalizing table with
  | nil => exact iff_of_true (completes_ok _) looked_up_nil
  | cons item rest ih =>
      rw [List.map_cons, changeTimers, readTimerId, elementOf]
      cases found : slotOf (idAt item) with
      | none => exact iff_of_false (not_completes_error _) (not_looked_up found)
      | some slot =>
          have unchanged : LookedUpInside (TimerTable.setTimer table slot
              (change item (table.timer slot))) (rest.map idAt) ↔
              LookedUpInside table (rest.map idAt) := Iff.rfl
          change Completes (if idAt item ≠ table.timerId slot ∨ idAt item = 0 then _ else _) ↔ _
          by_cases differ : idAt item ≠ table.timerId slot
          · rw [if_pos (.inl differ)]
            exact iff_of_true (completes_pure _) (looked_up_unused found differ)
          · rw [if_neg (mt (refused_iff found).1 differ)]
            change Completes (changeTimers idAt change rest _) ↔ _
            rw [ih, unchanged, looked_up_used_iff found (not_not.1 differ)]

theorem find_timers_completes_iff (ids : List UInt8) :
    Completes (findTimers table ids) ↔ LookedUpInside table ids := by
  induction ids with
  | nil => exact iff_of_true (completes_ok _) looked_up_nil
  | cons id rest ih =>
      rw [findTimers, readTimerId, elementOf]
      cases found : slotOf id with
      | none => exact iff_of_false (not_completes_error _) (not_looked_up found)
      | some slot =>
          change Completes (if id ≠ table.timerId slot ∨ id = 0 then _ else _) ↔ _
          by_cases differ : id ≠ table.timerId slot
          · rw [if_pos (.inl differ)]
            exact iff_of_true (completes_pure _) (looked_up_unused found differ)
          · have rest_iff : Completes (do
                return (← findTimers table rest).map (table.timer slot :: ·)) ↔
                Completes (findTimers table rest) :=
              completes_bind_of_total fun _ => completes_pure _
            rw [if_neg (mt (refused_iff found).1 differ)]
            change Completes (do
              return (← findTimers table rest).map (table.timer slot :: ·)) ↔ _
            rw [rest_iff, ih, looked_up_used_iff found (not_not.1 differ)]

theorem delete_id_found (found : slotOf id = some slot) (here : id = table.timerId slot) :
    timerDeleteId table id = .ok (some (TimerTable.setId table slot 0)) := by
  have positive : id ≠ 0 := slot_of_some found ▸ id_of_ne_zero slot
  rw [timerDeleteId, if_neg positive, readTimerId, elementOf, found]
  change (if id = table.timerId slot then _ else _) = _
  rw [if_pos here]
  rfl

theorem delete_id_refused (found : slotOf id = some slot) (differ : id ≠ table.timerId slot) :
    timerDeleteId table id = .ok none := by
  have positive : id ≠ 0 := slot_of_some found ▸ id_of_ne_zero slot
  rw [timerDeleteId, if_neg positive, readTimerId, found]
  change (if id = table.timerId slot then _ else _) = _
  rw [if_neg differ]
  rfl

theorem sub_one_to_nat {count : UInt8} (positive : count ≠ 0) :
    (count - 1).toNat + 1 = count.toNat := by
  have least : 1 ≤ count.toNat := by
    rw [Nat.one_le_iff_ne_zero, Ne, ← UInt8.toNat_zero, UInt8.toNat_inj]
    exact positive
  have ordered : 1 ≤ count := UInt8.le_iff_toNat_le.2 least
  rw [UInt8.toNat_sub_of_le _ _ ordered]
  exact Nat.sub_add_cancel least

theorem delete_timers_completes_iff (ids : List UInt8) :
    Completes (deleteTimers ids table) ↔ DeletedInside table ids := by
  induction ids generalizing table with
  | nil =>
      refine iff_of_true (completes_ok _) ?_
      intro front id back split
      simp at split
  | cons id rest ih =>
      rw [deleted_cons_iff, deleteTimers]
      by_cases zero : id = 0
      · rw [timerDeleteId, if_pos zero]
        refine iff_of_true (completes_pure _) ⟨zero ▸ Nat.zero_le _, ?_⟩
        rintro front other back - ⟨slot, own, -⟩
        exact absurd (own.trans zero) (id_of_ne_zero slot)
      · cases found : slotOf id with
        | none =>
            rw [timerDeleteId, if_neg zero, readTimerId, found]
            refine iff_of_false (not_completes_error _) fun inside => ?_
            exact zero (slot_of_none found inside.1)
        | some slot =>
            have inside : OfSlot id := of_slot_of_some found
            have own := slot_of_some found
            have used := @in_use_iff table id slot found
            by_cases here : id = table.timerId slot
            · have kept : (TimerTable.setId table slot 0).timerInfo = table.timerInfo := rfl
              rw [delete_id_found found here]
              change Completes (if (TimerTable.setId table slot 0).timerInfo.timerCnt = 0 then _
                else _) ↔ _
              rw [kept]
              by_cases last : table.timerInfo.timerCnt = 0
              · rw [if_pos last]
                refine iff_of_true (completes_pure _) ⟨inside.2, ?_⟩
                intro front other back _ _ _ _ count
                rw [last] at count
                exact absurd count (Nat.not_succ_le_zero _)
              · have fewer := sub_one_to_nat last
                rw [if_neg last, elementOf, found]
                change Completes (deleteTimers rest _) ↔ _
                rw [ih]
                constructor
                · intro behind
                  refine ⟨inside.2, ?_⟩
                  intro front other back split _ others nodup count
                  refine behind front other back split ?_ nodup ?_
                  · intro earlier member
                    rw [delete_in_use_iff, ← own]
                    exact others earlier member
                  · change front.length ≤ (table.timerInfo.timerCnt - 1).toNat
                    omega
                · rintro ⟨-, behind⟩ front other back split others nodup count
                  refine behind front other back split (used.2 here) ?_ nodup ?_
                  · intro earlier member
                    have present := others earlier member
                    rwa [delete_in_use_iff, ← own] at present
                  · change front.length ≤ (table.timerInfo.timerCnt - 1).toNat at count
                    omega
            · rw [delete_id_refused found here]
              refine iff_of_true (completes_pure _) ⟨inside.2, ?_⟩
              intro front other back _ present
              exact absurd (used.1 present) here

/-- Inside the arrays the loop does what the loop of `TimerRequests` does. -/
theorem change_timers_batch {Item : Type} {idAt : Item → UInt8}
    {change : Item → IotgoTimer → IotgoTimer} {items : List Item} {batch : Batch}
    (ended : changeTimers idAt change items table = .ok batch) :
    eachPresent idAt change items table = batch := by
  induction items generalizing table with
  | nil =>
      cases ended
      rfl
  | cons item rest ih =>
      rw [changeTimers, readTimerId, elementOf] at ended
      cases found : slotOf (idAt item) with
      | none =>
          rw [found] at ended
          cases ended
      | some slot =>
          have positive : idAt item ≠ 0 := slot_of_some found ▸ id_of_ne_zero slot
          rw [found] at ended
          change (if idAt item ≠ table.timerId slot ∨ idAt item = 0 then _ else _) = _ at ended
          rw [eachPresent, findId, if_neg positive, found]
          by_cases here : idAt item = table.timerId slot
          · rw [if_neg (by simp [positive, ← here])] at ended
            simp only [if_pos here]
            exact ih ended
          · rw [if_pos (.inl here)] at ended
            cases ended
            simp only [if_neg here]

theorem delete_timers_batch {ids : List UInt8} {batch : Batch}
    (ended : deleteTimers ids table = .ok batch) :
    TimerRequests.deleteTimers ids table = batch := by
  induction ids generalizing table with
  | nil =>
      cases ended
      rfl
  | cons id rest ih =>
      rw [deleteTimers] at ended
      rw [TimerRequests.deleteTimers, findId]
      by_cases zero : id = 0
      · rw [timerDeleteId, if_pos zero] at ended
        cases ended
        rw [if_pos zero]
      · rw [if_neg zero]
        cases found : slotOf id with
        | none =>
            rw [timerDeleteId, if_neg zero, readTimerId, found] at ended
            cases ended
        | some slot =>
            by_cases here : id = table.timerId slot
            · rw [delete_id_found found here] at ended
              change (if (TimerTable.setId table slot 0).timerInfo.timerCnt = 0 then _
                else _) = _ at ended
              simp only [if_pos here]
              by_cases last : (TimerTable.setId table slot 0).timerInfo.timerCnt = 0
              · rw [if_pos last] at ended ⊢
                cases ended
                rfl
              · rw [if_neg last, elementOf, found] at ended
                rw [if_neg last]
                exact ih ended
            · rw [delete_id_refused found here] at ended
              cases ended
              simp only [if_neg here]

end Loops

section Operations

variable {state : TimerState}

theorem timer_edit_completes_iff {timers : List IotgoTimer} :
    Completes (timerEdit state timers) ↔
      (timers.length ≤ state.table.timerInfo.timerCnt.toNat →
        LookedUpInside state.table (timers.map IotgoTimer.id)) := by
  unfold timerEdit
  split
  · rename_i refused
    refine iff_of_true (completes_ok _) ?_
    intro few
    have empty := List.eq_nil_of_length_eq_zero (refused.resolve_left (Nat.not_lt.2 few))
    rw [empty]
    exact looked_up_nil
  · rename_i taken
    rw [not_or, Nat.not_lt] at taken
    rw [completes_bind_of_total fun _ => completes_pure _, change_timers_completes_iff,
      imp_iff_right taken.1]

theorem timer_set_enabled_completes_iff {enabled : UInt8} {ids : List UInt8} :
    Completes (timerSetEnabled enabled state ids) ↔
      (ids.length ≤ state.table.timerInfo.timerCnt.toNat → LookedUpInside state.table ids) := by
  unfold timerSetEnabled
  split
  · rename_i refused
    refine iff_of_true (completes_ok _) ?_
    intro few
    have empty := List.eq_nil_of_length_eq_zero (refused.resolve_right (Nat.not_lt.2 few))
    rw [empty]
    exact looked_up_nil
  · rename_i taken
    rw [not_or, Nat.not_lt] at taken
    rw [completes_bind_of_total fun _ => completes_pure _, change_timers_completes_iff,
      imp_iff_right taken.2, List.map_id']

theorem timer_del_completes_iff {ids : List UInt8} :
    Completes (timerDel state ids) ↔ DeletedInside state.table ids := by
  unfold timerDel
  split
  · rename_i none
    refine iff_of_true (completes_ok _) ?_
    intro front id back split
    rw [List.eq_nil_of_length_eq_zero none] at split
    simp at split
  · rw [completes_bind_of_total fun _ => completes_pure _, delete_timers_completes_iff]

theorem timer_query_completes_iff {ids : List UInt8} :
    Completes (timerQueryTimerById state ids) ↔
      (ids.length ≤ state.table.timerInfo.timerCnt.toNat → LookedUpInside state.table ids) := by
  unfold timerQueryTimerById
  split
  · rename_i many
    exact iff_of_true (completes_ok _) fun few => absurd many (Nat.not_lt.2 few)
  · rename_i few
    rw [find_timers_completes_iff, imp_iff_right (Nat.not_lt.1 few)]

/-- The ids that a request has at a member or at an index. -/
def requestIds (array : CJsonItem) : List UInt8 :=
  (arrayItems array).map fun item => UInt8.ofInt item.valueint

theorem request_ids_length (array : CJsonItem) :
    (requestIds array).length = cJSONGetArraySize array % 256 := by
  rw [requestIds, List.length_map, arrayItems, List.length_take]
  exact Nat.min_eq_left (Nat.mod_le _ _)

/-- All ids are stored before the first one is looked up. -/
theorem stored_completes_iff {Result : Type} {run : List UInt8 → Checked Result}
    {array : CJsonItem} :
    Completes (do
        let ids ← storeIds 0 (arrayItems array)
        let _ ← run ids
        return ()) ↔
      (requestIds array).length ≤ iotgoTimerNum ∧ Completes (run (requestIds array)) := by
  rw [completes_bind_iff]
  constructor
  · rintro ⟨ids, stored, later⟩
    obtain ⟨fits, rfl⟩ := store_ids_ok 0 _ stored
    refine ⟨?_, (completes_bind_of_total fun _ => completes_pure _).1 later⟩
    rw [requestIds, List.length_map]
    rcases fits with empty | fits
    · rw [empty]
      exact Nat.zero_le _
    · rwa [Nat.zero_add] at fits
  · rintro ⟨short, ends⟩
    rw [requestIds, List.length_map] at short
    refine ⟨requestIds array, store_ids_fit 0 _ (by rwa [Nat.zero_add]), ?_⟩
    exact (completes_bind_of_total fun _ => completes_pure _).2 ends

end Operations

section Requests

variable (world : TimerWorld) (state : TimerState)

/-- The ids at a member fit `id`, and the table as the operation looks them up. -/
def IdsFit (fits : List UInt8 → Prop) (cjsonTimerid : Option CJsonItem) : Prop :=
  ∀ array, cjsonTimerid = some array → array.type = .array →
    (requestIds array).length ≤ iotgoTimerNum ∧ fits (requestIds array)

/-- The first id not in use, if the request is not refused for its length before. -/
def EachInside (ids : List UInt8) : Prop :=
  ids.length ≤ state.table.timerInfo.timerCnt.toNat → LookedUpInside state.table ids

def TimersFit (cjsonTimer : Option CJsonItem) : Prop :=
  ∀ array, cjsonTimer = some array → array.type = .array →
    cJSONGetArraySize array % 256 ≤ iotgoTimerNum → ∀ timers,
    generateTimers world 0 (arrayItems array) = .ok (some timers) →
    EachInside state (timers.map IotgoTimer.id)

def UpdateIdsFit (cjsonParams : CJsonItem) : Prop :=
  ∀ act, (cJSONGetObjectItem cjsonParams (asciiBytes "timerAct")).bind CJsonItem.valuestring =
      some act →
    let timerId := cJSONGetObjectItem cjsonParams (asciiBytes "timerID")
    let timer := cJSONGetObjectItem cjsonParams (asciiBytes "timer")
    (cString act = asciiBytes "del" → IdsFit (DeletedInside state.table) timerId) ∧
      (cString act = asciiBytes "edit" → TimersFit world state timer) ∧
      (cString act = asciiBytes "enable" → IdsFit (EachInside state) timerId) ∧
      (cString act = asciiBytes "disable" → IdsFit (EachInside state) timerId)

def QueryIdsFit (cjsonParams : CJsonItem) : Prop :=
  ∀ queryType, cjsonParams.type = .array →
    (cJSONGetArrayItem cjsonParams 0).bind CJsonItem.valuestring = some queryType →
    cString queryType = asciiBytes "timerID" → cJSONGetArraySize cjsonParams % 256 ≤ 2 →
    ∀ array, cJSONGetArrayItem cjsonParams 1 = some array → array.type = .array →
      (requestIds array).length ≤ state.table.timerInfo.timerCnt.toNat →
      (requestIds array).length ≤ iotgoTimerNum ∧ LookedUpInside state.table (requestIds array)

variable {world state} {cjsonParams : CJsonItem}

theorem proc_ids_completes_iff {request : TimerState → List UInt8 → Checked (Option Batch)}
    {fits : List UInt8 → Prop} (each : ∀ ids, Completes (request state ids) ↔ fits ids)
    (array : CJsonItem) :
    Completes (procIds state request array) ↔ IdsFit fits (some array) := by
  unfold procIds IdsFit
  rw [completes_ite, stored_completes_iff, each]
  simp [completes_ok]

theorem proc_edit_completes_iff (array : CJsonItem) :
    Completes (procEdit world state array) ↔ TimersFit world state (some array) := by
  unfold procEdit TimersFit
  rw [completes_ite, completes_ite]
  cases generated : generateTimers world 0 (arrayItems array) with
  | error fault => simp [completes_ok, generated]
  | ok result =>
      cases result with
      | none => simp [completes_ok, generated]
      | some timers =>
          have edited : Completes (do
              let _ ← timerEdit state timers
              return ()) ↔ EachInside state (timers.map IotgoTimer.id) := by
            rw [completes_bind_of_total fun _ => completes_pure _, timer_edit_completes_iff,
              EachInside, List.length_map]
          dsimp only
          rw [edited]
          simp [completes_ok, generated]

theorem with_member_completes_iff {name : String} {proc : CJsonItem → Checked Unit}
    {fits : Option CJsonItem → Prop} (missing : fits none)
    (found : ∀ item, Completes (proc item) ↔ fits (some item)) :
    Completes (withMember cjsonParams name proc) ↔
      fits (cJSONGetObjectItem cjsonParams (asciiBytes name)) := by
  unfold withMember
  cases cJSONGetObjectItem cjsonParams (asciiBytes name) with
  | none => exact iff_of_true (completes_ok ()) missing
  | some item => exact found item

theorem ids_member_completes_iff {request : TimerState → List UInt8 → Checked (Option Batch)}
    {fits : List UInt8 → Prop} (each : ∀ ids, Completes (request state ids) ↔ fits ids) :
    Completes (withMember cjsonParams "timerID" (procIds state request)) ↔
      IdsFit fits (cJSONGetObjectItem cjsonParams (asciiBytes "timerID")) :=
  @with_member_completes_iff cjsonParams "timerID" _ (IdsFit fits) (fun _ absent => by cases absent)
    (proc_ids_completes_iff each)

theorem edit_member_completes_iff :
    Completes (withMember cjsonParams "timer" (procEdit world state)) ↔
      TimersFit world state (cJSONGetObjectItem cjsonParams (asciiBytes "timer")) :=
  @with_member_completes_iff cjsonParams "timer" _ (TimersFit world state)
    (fun _ absent => by cases absent) proc_edit_completes_iff

theorem update_completes_iff :
    Completes (timerProcUpdate world state cjsonParams) ↔
      UpdateIdsFit world state cjsonParams := by
  unfold timerProcUpdate UpdateIdsFit
  cases (cJSONGetObjectItem cjsonParams (asciiBytes "timerAct")).bind CJsonItem.valuestring with
  | none => simp [completes_ok]
  | some act =>
      have enabled : ∀ ids, Completes (timerEnable state ids) ↔ EachInside state ids :=
        fun _ => timer_set_enabled_completes_iff
      have disabled : ∀ ids, Completes (timerDisable state ids) ↔ EachInside state ids :=
        fun _ => timer_set_enabled_completes_iff
      simp only [Option.some.injEq, forall_eq']
      rw [completes_ite, completes_ite, completes_ite, completes_ite]
      unfold procDel procEnable procDisable
      rw [ids_member_completes_iff fun _ => timer_del_completes_iff, edit_member_completes_iff,
        ids_member_completes_iff enabled, ids_member_completes_iff disabled]
      constructor
      · rintro ⟨del, others⟩
        refine ⟨del, fun edit => ?_, fun enable => ?_, fun disable => ?_⟩
        · exact (others (edit ▸ by decide)).1 edit
        · exact ((others (enable ▸ by decide)).2 (enable ▸ by decide)).1 enable
        · exact (((others (disable ▸ by decide)).2 (disable ▸ by decide)).2
            (disable ▸ by decide)).1 disable
      · rintro ⟨del, edit, enable, disable⟩
        exact ⟨del, fun _ => ⟨edit, fun _ => ⟨enable, fun _ => ⟨disable, fun _ => completes_ok ()⟩⟩⟩⟩

theorem proc_query_completes_iff :
    Completes (procQueryTimerById state cjsonParams) ↔
      (cJSONGetArraySize cjsonParams % 256 ≤ 2 →
        ∀ array, cJSONGetArrayItem cjsonParams 1 = some array → array.type = .array →
          (requestIds array).length ≤ state.table.timerInfo.timerCnt.toNat →
          (requestIds array).length ≤ iotgoTimerNum ∧
            LookedUpInside state.table (requestIds array)) := by
  unfold procQueryTimerById
  rw [completes_ite]
  cases cJSONGetArrayItem cjsonParams 1 with
  | none => simp [completes_ok]
  | some array =>
      dsimp only
      rw [completes_ite, stored_completes_iff, timer_query_completes_iff, not_or, not_not,
        ← request_ids_length array, Nat.not_lt, Nat.not_lt]
      simp only [Option.some.injEq, forall_eq']
      constructor
      · rintro ⟨-, taken⟩ few type short
        obtain ⟨fits, inside⟩ := (taken few).2 ⟨type, short⟩
        exact ⟨fits, inside short⟩
      · intro fits
        refine ⟨fun _ => completes_ok (), fun few => ⟨fun _ => completes_ok (), ?_⟩⟩
        rintro ⟨type, short⟩
        obtain ⟨stored, inside⟩ := fits few type short
        exact ⟨stored, fun _ => inside⟩

theorem query_completes_iff :
    Completes (timerProcQuery state cjsonParams) ↔ QueryIdsFit state cjsonParams := by
  unfold timerProcQuery QueryIdsFit
  rw [completes_ite]
  cases (cJSONGetArrayItem cjsonParams 0).bind CJsonItem.valuestring with
  | none => simp [completes_ok]
  | some queryType =>
      dsimp only
      rw [completes_ite, proc_query_completes_iff]
      constructor
      · rintro ⟨-, array⟩ _ type same
        cases same
        exact (array (not_not.2 type)).1
      · intro fits
        refine ⟨fun _ => completes_ok (), fun array => ⟨?_, fun _ => completes_ok ()⟩⟩
        exact fits queryType (not_not.1 array) rfl

/-- Every id that is stored or looked up stays inside the arrays if and only if there are
at most eight ids, and the first one that is not in use is that of a slot; a deletion may
also come to an id of 0. -/
theorem request_ids_inside_iff (world : TimerWorld) (state : TimerState)
    (cjsonParams : CJsonItem) :
    (Completes (timerProcUpdate world state cjsonParams) ↔
        UpdateIdsFit world state cjsonParams) ∧
      (Completes (timerProcQuery state cjsonParams) ↔ QueryIdsFit state cjsonParams) :=
  ⟨update_completes_iff, query_completes_iff⟩

def deleteNine : CJsonItem :=
  .object [(asciiBytes "timerAct", .string (asciiBytes "del" ++ [0])),
    (asciiBytes "timerID", .array [.number 9 9])]

/-- The id 9 is looked up behind the end of the table. -/
theorem id_nine_is_outside :
    ∃ world state, ¬ Completes (timerProcUpdate world state deleteNine) := by
  refine ⟨⟨.granted, fun _ => none, fun _ => [], fun _ => [], fun _ => 0, fun _ => .zero⟩,
    ⟨.zero, fun _ => 255⟩, ?_⟩
  exact not_completes_error .outside

end Requests

end IotgoFirmware.Timers.TimerAccess
