import Mathlib.Logic.Function.Basic
import IotgoFirmware.Timers.TimerFlash

/-!
# Requests to the timer table

A request applies its batch to the tables in RAM, one element after the other, and
loads the tables from flash again where an element is refused. The arrays and the
memory for the answers are there.
-/

namespace IotgoFirmware.Timers.TimerRequests

open IotgoFirmware.Timers.TimerLayout
open IotgoFirmware.Timers.TimerFlash

set_option autoImplicit false

/-- `ERROR0`, `ERROR400` and `ERROR500`. -/
inductive TimerError where
  | error0
  | error400
  | error500
deriving DecidableEq

/-- `replyUpdate` and `replyUpdateWithId`. -/
inductive TimerReply where
  | update (result : TimerError)
  | updateWithId (result : TimerError) (ids : List UInt8)
deriving DecidableEq

def TimerReply.result : TimerReply → TimerError
  | .update result => result
  | .updateWithId result _ => result

def idOf (slot : Fin iotgoTimerNum) : UInt8 :=
  UInt8.ofNat (slot + 1)

/-- The slot `id - 1`, where the arrays have it. -/
def slotOf (id : UInt8) : Option (Fin iotgoTimerNum) :=
  if inside : 1 ≤ id.toNat ∧ id.toNat ≤ iotgoTimerNum then
    some ⟨id.toNat - 1, Nat.sub_one_lt_of_le inside.1 inside.2⟩
  else none

namespace TimerTable

variable (table : TimerTable)

def setId (slot : Fin iotgoTimerNum) (id : UInt8) : TimerTable :=
  { table with timerId := Function.update table.timerId slot id }

def setTimer (slot : Fin iotgoTimerNum) (timer : IotgoTimer) : TimerTable :=
  { table with timer := Function.update table.timer slot timer }

def setCnt (timerCnt : UInt8) : TimerTable :=
  { table with timerInfo := { table.timerInfo with timerCnt := timerCnt } }

/-- `timer_ver++`. -/
def nextVer : TimerTable :=
  { table with timerInfo := { table.timerInfo with timerVer := table.timerInfo.timerVer + 1 } }

end TimerTable

/-- The first slot without an id gets its own; `none` for the result 0. -/
def timerProductId (table : TimerTable) : Option (Fin iotgoTimerNum × TimerTable) :=
  if iotgoTimerNum ≤ table.timerInfo.timerCnt.toNat then none
  else
    ((List.finRange iotgoTimerNum).find? fun slot => table.timerId slot = 0).map fun slot =>
      (slot, TimerTable.setId table slot (idOf slot))

/-- What `iotgo_timer_id[id - 1]` says about an id; for an id of 0 the next check
refuses it whatever it says. -/
inductive FoundId where
  | absent
  | outside
  | found (slot : Fin iotgoTimerNum)

def findId (table : TimerTable) (id : UInt8) : FoundId :=
  if id = 0 then .absent
  else
    match slotOf id with
    | none => .outside
    | some slot => if id = table.timerId slot then .found slot else .absent

inductive Batch where
  | finished (table : TimerTable)
  | refused (result : TimerError) (table : TimerTable)
  | outside

/-- The loop of `timerNew`: the ids that are given, and the tables. -/
def newTimers : List IotgoTimer → List UInt8 → TimerTable → List UInt8 × Batch
  | [], ids, table => (ids, .finished table)
  | timer :: rest, ids, table =>
      match timerProductId table with
      | none => (ids, .refused .error500 table)
      | some (slot, table) =>
          let table := TimerTable.setTimer table slot timer
          if timer.id ≠ 0 then (ids, .refused .error400 table)
          else
            newTimers rest (ids ++ [idOf slot])
              (TimerTable.setCnt (TimerTable.setTimer table slot { timer with id := idOf slot })
                (table.timerInfo.timerCnt + 1))

/-- The loop of `timerEdit`, `timerEnable` and `timerDisable`: the timer of each id is
changed. -/
def eachPresent {Item : Type*} (id : Item → UInt8) (change : Item → IotgoTimer → IotgoTimer) :
    List Item → TimerTable → Batch
  | [], table => .finished table
  | item :: rest, table =>
      match findId table (id item) with
      | .absent => .refused .error500 table
      | .outside => .outside
      | .found slot =>
          eachPresent id change rest
            (TimerTable.setTimer table slot (change item (table.timer slot)))

/-- The loop of `timerDel`, with `timerDeleteId`. -/
def deleteTimers : List UInt8 → TimerTable → Batch
  | [], table => .finished table
  | id :: rest, table =>
      match findId table id with
      | .absent => .refused .error500 table
      | .outside => .outside
      | .found slot =>
          let table := TimerTable.setId table slot 0
          if table.timerInfo.timerCnt = 0 then .refused .error500 table
          else
            deleteTimers rest
              (TimerTable.setCnt (TimerTable.setTimer table slot .zero)
                (table.timerInfo.timerCnt - 1))

section Requests

variable (memory : BlockMemory) (state : TimerState)

/-- Refused, what the batch did is undone; else the version goes up and the tables are
saved. `none` where an array is left. -/
def finishBatch (reply : TimerReply) : Batch → Option (TimerState × TimerReply)
  | .finished table =>
      some (timerSaveToFlash memory.block { state with table := TimerTable.nextVer table }, reply)
  | .refused result table =>
      some (timerLoadFromFlash memory { state with table := table }, .update result)
  | .outside => none

def timerNew (timers : List IotgoTimer) : Option (TimerState × TimerReply) :=
  if iotgoTimerNum < timers.length + state.table.timerInfo.timerCnt.toNat ∨ timers.length = 0 then
    some (state, .update .error500)
  else
    match newTimers timers [] state.table with
    | (ids, batch) => finishBatch memory state (.updateWithId .error0 ids) batch

def timerEdit (timers : List IotgoTimer) : Option (TimerState × TimerReply) :=
  if state.table.timerInfo.timerCnt.toNat < timers.length ∨ timers.length = 0 then
    some (state, .update .error500)
  else
    finishBatch memory state (.update .error0)
      (eachPresent IotgoTimer.id (fun timer _ => timer) timers state.table)

def timerDel (ids : List UInt8) : Option (TimerState × TimerReply) :=
  if ids.length = 0 then some (state, .update .error500)
  else finishBatch memory state (.update .error0) (deleteTimers ids state.table)

/-- `true` is 1, `false` is 0. -/
def setEnabled (enabled : UInt8) (timer : IotgoTimer) : IotgoTimer :=
  { timer with enabled := enabled }

def timerSetEnabled (enabled : UInt8) (ids : List UInt8) : Option (TimerState × TimerReply) :=
  if ids.length = 0 ∨ state.table.timerInfo.timerCnt.toNat < ids.length then
    some (state, .update .error500)
  else
    finishBatch memory state (.update .error0)
      (eachPresent (fun id => id) (fun _ => setEnabled enabled) ids state.table)

def timerEnable : List UInt8 → Option (TimerState × TimerReply) :=
  timerSetEnabled memory state 1

def timerDisable : List UInt8 → Option (TimerState × TimerReply) :=
  timerSetEnabled memory state 0

def emptied (table : TimerTable) : TimerTable :=
  TimerTable.setCnt { table with timer := fun _ => .zero, timerId := fun _ => 0 } 0

def timerDelAll : Option (TimerState × TimerReply) :=
  finishBatch memory state (.update .error0) (.finished (emptied state.table))

/-- The loop of `timerEnableAll` and `timerDisableAll`. -/
def setAllEnabled (enabled : UInt8) (table : TimerTable) : TimerTable :=
  { table with
    timer := fun slot =>
      if (table.timer slot).id ≠ 0 then setEnabled enabled (table.timer slot)
      else table.timer slot }

def timerEnableAll : Option (TimerState × TimerReply) :=
  finishBatch memory state (.update .error0) (.finished (setAllEnabled 1 state.table))

def timerDisableAll : Option (TimerState × TimerReply) :=
  finishBatch memory state (.update .error0) (.finished (setAllEnabled 0 state.table))

inductive TimerRequest where
  | new (timers : List IotgoTimer)
  | edit (timers : List IotgoTimer)
  | del (ids : List UInt8)
  | enable (ids : List UInt8)
  | disable (ids : List UInt8)
  | delAll
  | enableAll
  | disableAll

def timerRequest : TimerRequest → Option (TimerState × TimerReply)
  | .new timers => timerNew memory state timers
  | .edit timers => timerEdit memory state timers
  | .del ids => timerDel memory state ids
  | .enable ids => timerEnable memory state ids
  | .disable ids => timerDisable memory state ids
  | .delAll => timerDelAll memory state
  | .enableAll => timerEnableAll memory state
  | .disableAll => timerDisableAll memory state

end Requests

/-- The ids of the request are 0 or those of slots. -/
def InRange : TimerRequest → Prop
  | .new _ => True
  | .edit timers => ∀ timer ∈ timers, timer.id.toNat ≤ iotgoTimerNum
  | .del ids => ∀ id ∈ ids, id.toNat ≤ iotgoTimerNum
  | .enable ids => ∀ id ∈ ids, id.toNat ≤ iotgoTimerNum
  | .disable ids => ∀ id ∈ ids, id.toNat ≤ iotgoTimerNum
  | .delAll => True
  | .enableAll => True
  | .disableAll => True

def requestTimers : TimerRequest → List IotgoTimer
  | .new timers => timers
  | .edit timers => timers
  | _ => []

section Ids

theorem id_of_to_nat (slot : Fin iotgoTimerNum) : (idOf slot).toNat = slot + 1 := by
  have bound : slot.val < 8 := slot.isLt
  rw [idOf, UInt8.toNat_ofNat']
  omega

theorem id_of_ne_zero (slot : Fin iotgoTimerNum) : idOf slot ≠ 0 := by
  intro zero
  have number := id_of_to_nat slot
  rw [zero] at number
  exact absurd number (Nat.succ_ne_zero slot.val).symm

theorem id_of_injective {left right : Fin iotgoTimerNum} (same : idOf left = idOf right) :
    left = right := by
  have numbers : left.val + 1 = right.val + 1 := by
    rw [← id_of_to_nat, ← id_of_to_nat, same]
  exact Fin.ext (Nat.succ.inj numbers)

theorem slot_of_some {id : UInt8} {slot : Fin iotgoTimerNum} (found : slotOf id = some slot) :
    id = idOf slot := by
  unfold slotOf at found
  split at found
  · rename_i inside
    cases found
    apply UInt8.toNat_inj.1
    rw [id_of_to_nat]
    exact (Nat.sub_add_cancel inside.1).symm
  · cases found

theorem slot_of_none {id : UInt8} (missing : slotOf id = none)
    (range : id.toNat ≤ iotgoTimerNum) : id = 0 := by
  unfold slotOf at missing
  split at missing
  · cases missing
  · rename_i outside
    apply UInt8.toNat_inj.1
    change id.toNat = 0
    omega

theorem find_id_cases (table : TimerTable) {id : UInt8} (range : id.toNat ≤ iotgoTimerNum) :
    findId table id = .absent ∧ (∀ slot, idOf slot = id → table.timerId slot ≠ id) ∨
      ∃ slot, findId table id = .found slot ∧ id = idOf slot ∧ table.timerId slot = idOf slot := by
  unfold findId
  split
  · rename_i zero
    refine .inl ⟨rfl, fun slot same => ?_⟩
    exact absurd (same.trans zero) (id_of_ne_zero slot)
  · rename_i positive
    cases found : slotOf id with
    | none => exact absurd (slot_of_none found range) positive
    | some slot =>
        have own := slot_of_some found
        simp only
        split
        · rename_i here
          exact .inr ⟨slot, rfl, own, here.symm.trans own⟩
        · rename_i gone
          refine .inl ⟨rfl, fun other same there => ?_⟩
          rw [id_of_injective (same.trans own)] at there
          exact gone there.symm

end Ids

section Rollback

variable {state next : TimerState} {reply : TimerReply}

theorem new_timers_inside (timers : List IotgoTimer) (ids : List UInt8) (table : TimerTable) :
    (newTimers timers ids table).2 ≠ .outside := by
  induction timers generalizing ids table with
  | nil => exact nofun
  | cons timer rest ih =>
      rw [newTimers]
      split
      · exact nofun
      · split
        · exact nofun
        · exact ih _ _

theorem each_present_inside {Item : Type*} {id : Item → UInt8}
    {change : Item → IotgoTimer → IotgoTimer} {items : List Item}
    (range : ∀ item ∈ items, (id item).toNat ≤ iotgoTimerNum) (table : TimerTable) :
    eachPresent id change items table ≠ .outside := by
  induction items generalizing table with
  | nil => exact nofun
  | cons item rest ih =>
      rw [eachPresent]
      rcases find_id_cases table (range item List.mem_cons_self) with
        ⟨absent, -⟩ | ⟨slot, found, -, -⟩
      · rw [absent]
        exact nofun
      · rw [found]
        exact ih (fun later member => range later (List.mem_cons_of_mem item member)) _

theorem delete_timers_inside {ids : List UInt8} (range : ∀ id ∈ ids, id.toNat ≤ iotgoTimerNum)
    (table : TimerTable) : deleteTimers ids table ≠ .outside := by
  induction ids generalizing table with
  | nil => exact nofun
  | cons id rest ih =>
      rw [deleteTimers]
      rcases find_id_cases table (range id List.mem_cons_self) with
        ⟨absent, -⟩ | ⟨slot, found, -, -⟩
      · rw [absent]
        exact nofun
      · rw [found]
        simp only
        split
        · exact nofun
        · exact ih (fun later member => range later (List.mem_cons_of_mem id member)) _

theorem refused_restores {memory : BlockMemory} (granted : memory.block = true)
    (loaded : loadedTable state.flash = some state.table) (table : TimerTable) :
    timerLoadFromFlash memory { state with table := table } = state := by
  have restored : timerLoadFromFlash memory { state with table := table } =
      { state with table := state.table } := load_of_loaded granted loaded
  exact restored

end Rollback

section Outcomes

variable {memory : BlockMemory} {state next : TimerState} {reply answer : TimerReply}

theorem found_in_range {table : TimerTable} {id : UInt8} {slot : Fin iotgoTimerNum}
    (found : findId table id = .found slot) : id.toNat ≤ iotgoTimerNum := by
  unfold findId at found
  split at found
  · cases found
  · cases own : slotOf id with
    | none =>
        rw [own] at found
        cases found
    | some other =>
        rw [slot_of_some own, id_of_to_nat]
        exact other.isLt

theorem each_present_range {Item : Type*} {id : Item → UInt8}
    {change : Item → IotgoTimer → IotgoTimer} {items : List Item} {table after : TimerTable}
    (finished : eachPresent id change items table = .finished after) :
    ∀ item ∈ items, (id item).toNat ≤ iotgoTimerNum := by
  induction items generalizing table with
  | nil => exact nofun
  | cons item rest ih =>
      rw [eachPresent] at finished
      split at finished
      · cases finished
      · cases finished
      · rename_i slot found
        intro later member
        rcases List.mem_cons.1 member with rfl | tail
        · exact found_in_range found
        · exact ih finished later tail

theorem delete_timers_range {ids : List UInt8} {table after : TimerTable}
    (finished : deleteTimers ids table = .finished after) :
    ∀ id ∈ ids, id.toNat ≤ iotgoTimerNum := by
  induction ids generalizing table with
  | nil => exact nofun
  | cons id rest ih =>
      rw [deleteTimers] at finished
      split at finished
      · cases finished
      · cases finished
      · rename_i slot found
        simp only at finished
        split at finished
        · cases finished
        · intro later member
          rcases List.mem_cons.1 member with rfl | tail
          · exact found_in_range found
          · exact ih finished later tail

/-- A request is refused before its batch, or it answers what its batch comes to. -/
def Answers (memory : BlockMemory) (state : TimerState) (request : TimerRequest) : Prop :=
  timerRequest memory state request = some (state, .update .error500) ∨
    ∃ reply batch, timerRequest memory state request = finishBatch memory state reply batch ∧
      reply.result = .error0 ∧ (InRange request → batch ≠ .outside) ∧
      ∀ after, batch = .finished after → InRange request

theorem set_enabled_batch (enabled : UInt8) (state : TimerState) (ids : List UInt8) :
    timerSetEnabled memory state enabled ids = some (state, .update .error500) ∨
      timerSetEnabled memory state enabled ids = finishBatch memory state (.update .error0)
        (eachPresent (fun id => id) (fun _ => setEnabled enabled) ids state.table) := by
  unfold timerSetEnabled
  split
  · exact .inl rfl
  · exact .inr rfl

theorem request_answers (state : TimerState) (request : TimerRequest) :
    Answers memory state request := by
  cases request with
  | new timers =>
      by_cases early : iotgoTimerNum < timers.length + state.table.timerInfo.timerCnt.toNat ∨
          timers.length = 0
      · exact .inl (if_pos early)
      · exact .inr ⟨.updateWithId .error0 _, _, if_neg early, rfl,
          fun _ => new_timers_inside timers [] state.table, fun _ _ => trivial⟩
  | edit timers =>
      by_cases early : state.table.timerInfo.timerCnt.toNat < timers.length ∨ timers.length = 0
      · exact .inl (if_pos early)
      · exact .inr ⟨.update .error0, _, if_neg early, rfl,
          fun range => each_present_inside range state.table,
          fun _ finished => each_present_range finished⟩
  | del ids =>
      by_cases early : ids.length = 0
      · exact .inl (if_pos early)
      · exact .inr ⟨.update .error0, _, if_neg early, rfl,
          fun range => delete_timers_inside range state.table,
          fun _ finished => delete_timers_range finished⟩
  | enable ids =>
      rcases set_enabled_batch 1 state ids with early | ends
      · exact .inl early
      · exact .inr ⟨.update .error0, _, ends, rfl,
          fun range => each_present_inside range state.table,
          fun _ finished => each_present_range finished⟩
  | disable ids =>
      rcases set_enabled_batch 0 state ids with early | ends
      · exact .inl early
      · exact .inr ⟨.update .error0, _, ends, rfl,
          fun range => each_present_inside range state.table,
          fun _ finished => each_present_range finished⟩
  | delAll =>
      exact .inr ⟨.update .error0, .finished (emptied state.table), rfl, rfl,
        fun _ => Batch.noConfusion, fun _ _ => trivial⟩
  | enableAll =>
      exact .inr ⟨.update .error0, .finished (setAllEnabled 1 state.table), rfl, rfl,
        fun _ => Batch.noConfusion, fun _ _ => trivial⟩
  | disableAll =>
      exact .inr ⟨.update .error0, .finished (setAllEnabled 0 state.table), rfl, rfl,
        fun _ => Batch.noConfusion, fun _ _ => trivial⟩

/-- Whatever its ids are, a request that stays inside the arrays leaves the tables as
they were, loads them, or saves them. -/
theorem request_after {request : TimerRequest}
    (answered : timerRequest memory state request = some (next, answer)) :
    next = state ∨ (∃ left, next = timerLoadFromFlash memory { state with table := left }) ∨
      InRange request ∧
        ∃ after, next = timerSaveToFlash memory.block { state with table := TimerTable.nextVer after } := by
  rcases request_answers state request with early | ⟨reply, batch, ends, -, -, range⟩
  · rw [early] at answered
    cases answered
    exact .inl rfl
  · rw [ends] at answered
    cases batch with
    | finished table =>
        cases answered
        exact .inr (.inr ⟨range table rfl, table, rfl⟩)
    | refused result table =>
        cases answered
        exact .inr (.inl ⟨table, rfl⟩)
    | outside => cases answered

def Batch.Leaves (batch : Batch) (left : TimerTable) : Prop :=
  batch = .finished left ∨ ∃ result, batch = .refused result left

/-- What the batch of a request leaves in RAM, before it is saved or undone. -/
def Leaves (table : TimerTable) (request : TimerRequest) (left : TimerTable) : Prop :=
  match request with
  | .new timers => (newTimers timers [] table).2.Leaves left
  | .edit timers => (eachPresent IotgoTimer.id (fun timer _ => timer) timers table).Leaves left
  | .del ids => (deleteTimers ids table).Leaves left
  | .enable ids => (eachPresent (fun id => id) (fun _ => setEnabled 1) ids table).Leaves left
  | .disable ids => (eachPresent (fun id => id) (fun _ => setEnabled 0) ids table).Leaves left
  | .delAll => left = emptied table
  | .enableAll => left = setAllEnabled 1 table
  | .disableAll => left = setAllEnabled 0 table

/-- The tables are saved with a new version, or loaded. -/
def Ended (memory : BlockMemory) (state : TimerState) (left : TimerTable) (next : TimerState) :
    Prop :=
  next = timerSaveToFlash memory.block { state with table := TimerTable.nextVer left } ∨
    next = timerLoadFromFlash memory { state with table := left }

theorem finish_batch_leaves {batch : Batch}
    (answered : finishBatch memory state reply batch = some (next, answer)) :
    ∃ left, batch.Leaves left ∧ Ended memory state left next := by
  cases batch with
  | finished table =>
      cases answered
      exact ⟨table, .inl rfl, .inl rfl⟩
  | refused result table =>
      cases answered
      exact ⟨table, .inr ⟨result, rfl⟩, .inr rfl⟩
  | outside => cases answered

theorem finish_all_leaves {after : TimerTable}
    (answered : finishBatch memory state reply (.finished after) = some (next, answer)) :
    ∃ left, left = after ∧ Ended memory state left next := by
  cases answered
  exact ⟨after, rfl, .inl rfl⟩

theorem set_enabled_leaves {enabled : UInt8} {ids : List UInt8}
    (answered : timerSetEnabled memory state enabled ids = some (next, answer)) :
    next = state ∨ ∃ left,
      (eachPresent (fun id => id) (fun _ => setEnabled enabled) ids state.table).Leaves left ∧
        Ended memory state left next := by
  rcases set_enabled_batch enabled state ids with early | ends
  · rw [early] at answered
    cases answered
    exact .inl rfl
  · rw [ends] at answered
    exact .inr (finish_batch_leaves answered)

theorem request_leaves {request : TimerRequest}
    (answered : timerRequest memory state request = some (next, answer)) :
    next = state ∨ ∃ left, Leaves state.table request left ∧ Ended memory state left next := by
  cases request with
  | new timers =>
      rw [timerRequest, timerNew] at answered
      split at answered
      · cases answered
        exact .inl rfl
      · exact .inr (finish_batch_leaves answered)
  | edit timers =>
      rw [timerRequest, timerEdit] at answered
      split at answered
      · cases answered
        exact .inl rfl
      · exact .inr (finish_batch_leaves answered)
  | del ids =>
      rw [timerRequest, timerDel] at answered
      split at answered
      · cases answered
        exact .inl rfl
      · exact .inr (finish_batch_leaves answered)
  | enable ids => exact set_enabled_leaves answered
  | disable ids => exact set_enabled_leaves answered
  | delAll => exact .inr (finish_all_leaves answered)
  | enableAll => exact .inr (finish_all_leaves answered)
  | disableAll => exact .inr (finish_all_leaves answered)

end Outcomes

section Brought

variable {Holds : IotgoTimer → Prop} {table left : TimerTable}

theorem set_timer_holds (each : ∀ slot, Holds (table.timer slot)) (slot : Fin iotgoTimerNum)
    {timer : IotgoTimer} (holds : Holds timer) (other : Fin iotgoTimerNum) :
    Holds ((TimerTable.setTimer table slot timer).timer other) := by
  unfold TimerTable.setTimer
  dsimp only
  by_cases same : other = slot
  · rw [same, Function.update_self]
    exact holds
  · rw [Function.update_of_ne same]
    exact each other

theorem each_present_holds {Item : Type*} {id : Item → UInt8}
    {change : Item → IotgoTimer → IotgoTimer} {items : List Item}
    (changed : ∀ item ∈ items, ∀ timer, Holds timer → Holds (change item timer))
    (each : ∀ slot, Holds (table.timer slot))
    (leaves : (eachPresent id change items table).Leaves left) :
    ∀ slot, Holds (left.timer slot) := by
  induction items generalizing table with
  | nil =>
      rcases leaves with done | ⟨result, refused⟩
      · cases done
        exact each
      · cases refused
  | cons item rest ih =>
      rw [eachPresent] at leaves
      split at leaves
      · rcases leaves with done | ⟨result, refused⟩
        · cases done
        · cases refused
          exact each
      · rcases leaves with done | ⟨result, refused⟩
        · cases done
        · cases refused
      · rename_i slot found
        refine ih (fun other member => changed other (List.mem_cons_of_mem item member)) ?_ leaves
        exact set_timer_holds each slot (changed item List.mem_cons_self _ (each slot))

theorem delete_timers_holds (zero : Holds .zero) {ids : List UInt8}
    (each : ∀ slot, Holds (table.timer slot)) (leaves : (deleteTimers ids table).Leaves left) :
    ∀ slot, Holds (left.timer slot) := by
  induction ids generalizing table with
  | nil =>
      rcases leaves with done | ⟨result, refused⟩
      · cases done
        exact each
      · cases refused
  | cons id rest ih =>
      rw [deleteTimers] at leaves
      split at leaves
      · rcases leaves with done | ⟨result, refused⟩
        · cases done
        · cases refused
          exact each
      · rcases leaves with done | ⟨result, refused⟩
        · cases done
        · cases refused
      · rename_i slot found
        dsimp only at leaves
        split at leaves
        · rcases leaves with done | ⟨result, refused⟩
          · cases done
          · cases refused
            exact each
        · refine ih ?_ leaves
          exact @set_timer_holds Holds (TimerTable.setId table slot 0) each slot _ zero

theorem new_timers_holds (relabelled : ∀ timer id, Holds timer → Holds { timer with id := id })
    {timers : List IotgoTimer} {ids : List UInt8} (brought : ∀ timer ∈ timers, Holds timer)
    (each : ∀ slot, Holds (table.timer slot))
    (leaves : (newTimers timers ids table).2.Leaves left) : ∀ slot, Holds (left.timer slot) := by
  induction timers generalizing ids table with
  | nil =>
      rcases leaves with done | ⟨result, refused⟩
      · cases done
        exact each
      · cases refused
  | cons timer rest ih =>
      have given := brought timer List.mem_cons_self
      rw [newTimers] at leaves
      cases produced : timerProductId table with
      | none =>
          rw [produced] at leaves
          rcases leaves with done | ⟨result, refused⟩
          · cases done
          · cases refused
            exact each
      | some product =>
          obtain ⟨slot, next⟩ := product
          have kept : ∀ other, Holds (next.timer other) := by
            unfold timerProductId at produced
            split at produced
            · cases produced
            · rcases Option.map_eq_some_iff.1 produced with ⟨free, -, same⟩
              cases same
              exact each
          rw [produced] at leaves
          dsimp only at leaves
          have stored := set_timer_holds kept slot given
          split at leaves
          · rcases leaves with done | ⟨result, refused⟩
            · cases done
            · cases refused
              exact stored
          · refine ih (fun other member => brought other (List.mem_cons_of_mem timer member)) ?_
              leaves
            exact set_timer_holds stored slot (relabelled timer (idOf slot) given)

/-- What holds of the timers in the tables and of those that a request brings holds of
the timers that its batch leaves. -/
theorem leaves_holds (zero : Holds .zero)
    (relabelled : ∀ timer id, Holds timer → Holds { timer with id := id })
    (switched : ∀ enabled timer, Holds timer → Holds (setEnabled enabled timer))
    {request : TimerRequest} (brought : ∀ timer ∈ requestTimers request, Holds timer)
    (each : ∀ slot, Holds (table.timer slot)) (leaves : Leaves table request left) :
    ∀ slot, Holds (left.timer slot) := by
  cases request with
  | new timers => exact new_timers_holds relabelled brought each leaves
  | edit timers =>
      refine each_present_holds ?_ each leaves
      exact fun timer member _ _ => brought timer member
  | del ids => exact delete_timers_holds zero each leaves
  | enable ids =>
      refine each_present_holds ?_ each leaves
      exact fun _ _ timer holds => switched 1 timer holds
  | disable ids =>
      refine each_present_holds ?_ each leaves
      exact fun _ _ timer holds => switched 0 timer holds
  | delAll =>
      rw [leaves]
      exact fun _ => zero
  | enableAll =>
      rw [leaves]
      intro slot
      change Holds (if _ then _ else _)
      split
      · exact switched 1 _ (each slot)
      · exact each slot
  | disableAll =>
      rw [leaves]
      intro slot
      change Holds (if _ then _ else _)
      split
      · exact switched 0 _ (each slot)
      · exact each slot

end Brought

/-- With memory for the block of the roll-back, a request that is answered with an error
leaves the tables and the chip as they were, whichever element is refused. -/
theorem failed_request_atomic {memory : BlockMemory} {state : TimerState} {request : TimerRequest}
    (granted : memory.block = true) (loaded : loadedTable state.flash = some state.table)
    (range : InRange request) :
    ∃ next reply, timerRequest memory state request = some (next, reply) ∧
      (reply.result ≠ .error0 → next = state) := by
  rcases @request_answers memory state request with
    early | ⟨reply, batch, ends, accepted, inside, -⟩
  · exact ⟨state, _, early, fun _ => rfl⟩
  · rw [ends]
    cases batch with
    | finished table => exact ⟨_, reply, rfl, fun refused => absurd accepted refused⟩
    | refused result table =>
        exact ⟨_, .update result, rfl, fun _ => refused_restores granted loaded table⟩
    | outside => exact absurd rfl (inside range)

/-- The second timer of the batch has an id of its own. -/
theorem failed_request_atomic_second :
    ∃ next reply, timerRequest .granted (timerSaveToFlash true ⟨.zero, fun _ => 0xFF⟩)
        (.new [.zero, { IotgoTimer.zero with id := 1 }]) = some (next, reply) ∧
      (reply.result ≠ .error0 → next = timerSaveToFlash true ⟨.zero, fun _ => 0xFF⟩) :=
  failed_request_atomic rfl (loaded_saved ⟨.zero, fun _ => 0xFF⟩) trivial

end IotgoFirmware.Timers.TimerRequests
