import IotgoFirmware.Library.SlotMaps
import IotgoFirmware.Timers.TimerRequests

/-!
# The timer table as a partial map

The ids, the timers and the count of the table say the same three times. Under the
invariant that they agree, the table is a partial map from the ids to timers, and a
request either does to it what it asks for or is refused.
-/

namespace IotgoFirmware.Timers.TimerMap

open IotgoFirmware.Library.SlotMaps
open IotgoFirmware.Timers.TimerLayout
open IotgoFirmware.Timers.TimerFlash
open IotgoFirmware.Timers.TimerRequests

set_option autoImplicit false

/-- Slot `id - 1` stands for `id`. -/
abbrev TimersById := SlotMap iotgoTimerNum IotgoTimer

def view (table : TimerTable) : TimersById := fun slot =>
  if table.timerId slot = 0 then none else some (table.timer slot)

structure TableInvariant (table : TimerTable) : Prop where
  ids : ∀ slot, table.timerId slot = 0 ∨ table.timerId slot = idOf slot
  timers : ∀ slot, (table.timer slot).id = table.timerId slot
  counted : table.timerInfo.timerCnt.toNat =
    (Finset.univ.filter fun slot => table.timerId slot ≠ 0).card
  bounded : table.timerInfo.timerCnt.toNat ≤ iotgoTimerNum

def Present (map : TimersById) (id : UInt8) : Prop :=
  ∃ slot, idOf slot = id ∧ (map slot).isSome

/-- What a request asks for can be done. -/
def Accepted (map : TimersById) : TimerRequest → Prop
  | .new timers =>
      1 ≤ timers.length ∧ timers.length + used map ≤ iotgoTimerNum ∧
        ∀ timer ∈ timers, timer.id = 0
  | .edit timers =>
      1 ≤ timers.length ∧ timers.length ≤ used map ∧ ∀ timer ∈ timers, Present map timer.id
  | .del ids => 1 ≤ ids.length ∧ ids.Nodup ∧ ∀ id ∈ ids, Present map id
  | .enable ids => 1 ≤ ids.length ∧ ids.length ≤ used map ∧ ∀ id ∈ ids, Present map id
  | .disable ids => 1 ≤ ids.length ∧ ids.length ≤ used map ∧ ∀ id ∈ ids, Present map id
  | .delAll => True
  | .enableAll => True
  | .disableAll => True

/-- The timers with one of the ids are enabled or disabled. -/
def enabledAt (enabled : UInt8) (ids : List UInt8) (map : TimersById) : TimersById := fun slot =>
  if idOf slot ∈ ids then (map slot).map (setEnabled enabled) else map slot

def applied (map : TimersById) : TimerRequest → TimersById
  | .new timers => place (fun slot timer => { timer with id := idOf slot }) timers map
  | .edit timers => fun slot =>
      (map slot).map fun old =>
        (timers.reverse.find? fun timer => idOf slot = timer.id).getD old
  | .del ids => fun slot => if idOf slot ∈ ids then none else map slot
  | .enable ids => enabledAt 1 ids map
  | .disable ids => enabledAt 0 ids map
  | .delAll => fun _ => none
  | .enableAll => fun slot => (map slot).map (setEnabled 1)
  | .disableAll => fun slot => (map slot).map (setEnabled 0)

section Views

variable {table : TimerTable} {slot : Fin iotgoTimerNum}

theorem view_some_iff : (view table slot).isSome ↔ table.timerId slot ≠ 0 := by
  unfold view
  split
  · rename_i zero
    simp [zero]
  · rename_i other
    simp [other]

theorem view_none_iff : view table slot = none ↔ table.timerId slot = 0 := by
  unfold view
  split
  · rename_i zero
    simp [zero]
  · rename_i other
    simp [other]

theorem view_own (own : table.timerId slot = idOf slot) :
    view table slot = some (table.timer slot) := by
  rw [view, own, if_neg (id_of_ne_zero slot)]

theorem used_view (table : TimerTable) :
    used (view table) = (Finset.univ.filter fun slot => table.timerId slot ≠ 0).card := by
  apply congrArg Finset.card
  ext slot
  rw [mem_used_slots, view_some_iff, Finset.mem_filter]
  exact (and_iff_right (Finset.mem_univ slot)).symm

theorem table_invariant_of
    (ids : ∀ slot, table.timerId slot = 0 ∨ table.timerId slot = idOf slot)
    (timers : ∀ slot, (table.timer slot).id = table.timerId slot)
    (counted : table.timerInfo.timerCnt.toNat = used (view table)) : TableInvariant table where
  ids := ids
  timers := timers
  counted := by rw [counted, used_view]
  bounded := by
    rw [counted]
    exact used_le (view table)

theorem TableInvariant.count (invariant : TableInvariant table) :
    table.timerInfo.timerCnt.toNat = used (view table) := by
  rw [invariant.counted, used_view]

theorem TableInvariant.present_iff (invariant : TableInvariant table) (id : UInt8) :
    Present (view table) id ↔ ∃ slot, idOf slot = id ∧ table.timerId slot = id := by
  constructor
  · rintro ⟨slot, rfl, taken⟩
    rw [view_some_iff] at taken
    exact ⟨slot, rfl, (invariant.ids slot).resolve_left taken⟩
  · rintro ⟨slot, rfl, own⟩
    refine ⟨slot, rfl, ?_⟩
    rw [view_some_iff, own]
    exact id_of_ne_zero slot

theorem find_id_present (invariant : TableInvariant table) {id : UInt8}
    (range : id.toNat ≤ iotgoTimerNum) :
    findId table id = .absent ∧ ¬ Present (view table) id ∨
      ∃ slot, findId table id = .found slot ∧ id = idOf slot ∧ table.timerId slot = idOf slot := by
  rcases find_id_cases table range with ⟨absent, nowhere⟩ | found
  · refine .inl ⟨absent, fun present => ?_⟩
    rcases (invariant.present_iff id).1 present with ⟨slot, own, there⟩
    exact nowhere slot own there
  · exact .inr found

end Views

section Changes

variable {table after : TimerTable} {slot : Fin iotgoTimerNum}

/-- The ids and the timers differ at one slot at most. -/
structure ChangedAt (slot : Fin iotgoTimerNum) (table after : TimerTable) : Prop where
  ids : ∀ other, other ≠ slot → after.timerId other = table.timerId other
  timers : ∀ other, other ≠ slot → after.timer other = table.timer other

theorem ChangedAt.same (slot : Fin iotgoTimerNum) (table : TimerTable) :
    ChangedAt slot table table where
  ids _ _ := rfl
  timers _ _ := rfl

theorem ChangedAt.setId (changed : ChangedAt slot table after) (id : UInt8) :
    ChangedAt slot table (TimerTable.setId after slot id) where
  ids other apart := (Function.update_of_ne apart _ _).trans (changed.ids other apart)
  timers := changed.timers

theorem ChangedAt.setTimer (changed : ChangedAt slot table after) (timer : IotgoTimer) :
    ChangedAt slot table (TimerTable.setTimer after slot timer) where
  ids := changed.ids
  timers other apart := (Function.update_of_ne apart _ _).trans (changed.timers other apart)

theorem ChangedAt.setCnt (changed : ChangedAt slot table after) (timerCnt : UInt8) :
    ChangedAt slot table (TimerTable.setCnt after timerCnt) where
  ids := changed.ids
  timers := changed.timers

theorem ChangedAt.view (changed : ChangedAt slot table after) {value : Option IotgoTimer}
    (here : view after slot = value) : view after = Function.update (view table) slot value := by
  funext other
  by_cases same : other = slot
  · rw [same, here, Function.update_self]
  · rw [Function.update_of_ne same, TimerMap.view, TimerMap.view, changed.ids other same,
      changed.timers other same]

theorem ChangedAt.invariant (changed : ChangedAt slot table after)
    (invariant : TableInvariant table)
    (id : after.timerId slot = 0 ∨ after.timerId slot = idOf slot)
    (timer : (after.timer slot).id = after.timerId slot)
    (counted : after.timerInfo.timerCnt.toNat = used (TimerMap.view after)) :
    TableInvariant after := by
  refine table_invariant_of ?_ ?_ counted
  · intro other
    by_cases same : other = slot
    · rw [same]
      exact id
    · rw [changed.ids other same]
      exact invariant.ids other
  · intro other
    by_cases same : other = slot
    · rw [same]
      exact timer
    · rw [changed.ids other same, changed.timers other same]
      exact invariant.timers other

theorem change_present (invariant : TableInvariant table) (own : table.timerId slot = idOf slot)
    {timer : IotgoTimer} (named : timer.id = idOf slot) :
    TableInvariant (TimerTable.setTimer table slot timer) ∧
      view (TimerTable.setTimer table slot timer) = put (view table) slot timer := by
  have changed := (ChangedAt.same slot table).setTimer timer
  have viewed := changed.view (show view _ slot = some timer by
    simp [view, TimerTable.setTimer, own, id_of_ne_zero])
  refine ⟨changed.invariant invariant (.inr own) ?_ ?_, viewed⟩
  · simp [TimerTable.setTimer, named, own]
  · refine Eq.trans ?_ (congrArg used viewed).symm
    exact invariant.count.trans
      (used_put_again (view_some_iff.2 (own ▸ id_of_ne_zero slot)) timer).symm

theorem insert_free (invariant : TableInvariant table) (free : table.timerId slot = 0)
    (room : used (view table) < iotgoTimerNum) (first timer : IotgoTimer)
    (named : timer.id = idOf slot) :
    TableInvariant
        (TimerTable.setCnt (TimerTable.setTimer (TimerTable.setTimer
          (TimerTable.setId table slot (idOf slot)) slot first) slot timer)
          (table.timerInfo.timerCnt + 1)) ∧
      view
        (TimerTable.setCnt (TimerTable.setTimer (TimerTable.setTimer
          (TimerTable.setId table slot (idOf slot)) slot first) slot timer)
          (table.timerInfo.timerCnt + 1)) = put (view table) slot timer := by
  have changed := ((((ChangedAt.same slot table).setId (idOf slot)).setTimer first).setTimer
    timer).setCnt (table.timerInfo.timerCnt + 1)
  have viewed := changed.view (show view _ slot = some timer by
    simp [view, TimerTable.setTimer, TimerTable.setId, TimerTable.setCnt, id_of_ne_zero])
  refine ⟨changed.invariant invariant ?_ ?_ ?_, viewed⟩
  · simp [TimerTable.setTimer, TimerTable.setId, TimerTable.setCnt]
  · simp [TimerTable.setTimer, TimerTable.setId, TimerTable.setCnt, named]
  · have counted : used (put (view table) slot timer) = table.timerInfo.timerCnt.toNat + 1 := by
      rw [used_put (view_none_iff.2 free), ← invariant.count]
    rw [← invariant.count] at room
    have small : table.timerInfo.timerCnt.toNat < 8 := room
    refine Eq.trans ?_ ((congrArg used viewed).trans counted).symm
    change (table.timerInfo.timerCnt + 1).toNat = _
    rw [UInt8.toNat_add]
    change (table.timerInfo.timerCnt.toNat + 1) % 256 = _
    omega

theorem delete_present (invariant : TableInvariant table)
    (own : table.timerId slot = idOf slot) :
    table.timerInfo.timerCnt ≠ 0 ∧
      TableInvariant
        (TimerTable.setCnt (TimerTable.setTimer (TimerTable.setId table slot 0) slot .zero)
          (table.timerInfo.timerCnt - 1)) ∧
      view
        (TimerTable.setCnt (TimerTable.setTimer (TimerTable.setId table slot 0) slot .zero)
          (table.timerInfo.timerCnt - 1)) = remove (view table) slot := by
  have changed := (((ChangedAt.same slot table).setId 0).setTimer .zero).setCnt
    (table.timerInfo.timerCnt - 1)
  have viewed := changed.view (show view _ slot = none by
    simp [view, TimerTable.setTimer, TimerTable.setId, TimerTable.setCnt])
  have fewer := used_remove (view_some_iff.2 (own ▸ id_of_ne_zero slot) : (view table slot).isSome)
  rw [← invariant.count] at fewer
  refine ⟨?_, changed.invariant invariant ?_ ?_ ?_, viewed⟩
  · intro zero
    rw [zero] at fewer
    exact absurd fewer (Nat.succ_ne_zero _)
  · simp [TimerTable.setTimer, TimerTable.setId, TimerTable.setCnt]
  · simp [TimerTable.setTimer, TimerTable.setId, TimerTable.setCnt, IotgoTimer.zero]
  · refine Eq.trans ?_ (congrArg used viewed).symm
    change (table.timerInfo.timerCnt - 1).toNat = used (remove (view table) slot)
    rw [UInt8.toNat_sub_of_le]
    · change table.timerInfo.timerCnt.toNat - 1 = _
      omega
    · rw [UInt8.le_iff_toNat_le]
      change 1 ≤ table.timerInfo.timerCnt.toNat
      omega

end Changes

section Batches

variable {table : TimerTable}

/-- Every item of the batch is there and all are changed, or the first one that is not
there ends the batch. -/
theorem each_present_spec {Item : Type*} (id : Item → UInt8)
    (change : Item → IotgoTimer → IotgoTimer)
    (keepsId : ∀ item timer, timer.id = id item → (change item timer).id = id item)
    {items : List Item} (invariant : TableInvariant table)
    (range : ∀ item ∈ items, (id item).toNat ≤ iotgoTimerNum) :
    (∀ item ∈ items, Present (view table) (id item)) ∧
        (∃ after, eachPresent id change items table = .finished after ∧ TableInvariant after ∧
          after.timerInfo = table.timerInfo ∧
          view after = changeEach (fun item slot => idOf slot = id item) change items
            (view table)) ∨
      (∃ item ∈ items, ¬ Present (view table) (id item)) ∧
        ∃ left, eachPresent id change items table = .refused .error500 left := by
  induction items generalizing table with
  | nil => exact .inl ⟨nofun, table, rfl, invariant, rfl, rfl⟩
  | cons item rest ih =>
      rw [eachPresent]
      rcases find_id_present invariant (range item List.mem_cons_self) with
        ⟨absent, missing⟩ | ⟨slot, found, named, own⟩
      · rw [absent]
        exact .inr ⟨⟨item, List.mem_cons_self, missing⟩, table, rfl⟩
      · rw [found]
        simp only
        have sameId : (change item (table.timer slot)).id = idOf slot := by
          rw [← named]
          apply keepsId
          rw [invariant.timers slot, own, named]
        rcases change_present invariant own sameId with ⟨kept, changed⟩
        have taken : (view table slot).isSome := view_some_iff.2 (own ▸ id_of_ne_zero slot)
        have still : ∀ key, Present (view (TimerTable.setTimer table slot
            (change item (table.timer slot)))) key ↔ Present (view table) key := by
          intro key
          rw [changed]
          apply exists_congr
          intro other
          by_cases same : other = slot
          · subst same
            simp [put, taken]
          · simp [put, same]
        have step : put (view table) slot (change item (table.timer slot)) = fun other =>
            if decide (idOf other = id item) then (view table other).map (change item)
            else view table other := by
          funext other
          by_cases same : other = slot
          · subst same
            simp [put, named, view_own own]
          · have differs : idOf other ≠ id item := by
              rw [named]
              exact fun clash => same (id_of_injective clash)
            simp [put, same, differs]
        have here : Present (view table) (id item) := ⟨slot, named.symm, taken⟩
        rcases ih kept (fun later member => range later (List.mem_cons_of_mem item member)) with
          ⟨all, after, finished, keptAfter, info, viewed⟩ | ⟨⟨later, member, missing⟩, refused⟩
        · refine .inl ⟨?_, after, finished, keptAfter, info, ?_⟩
          · intro later member
            rcases List.mem_cons.1 member with rfl | tail
            · exact here
            · exact (still _).1 (all later tail)
          · rw [viewed, changed, step, changeEach]
        · refine .inr ⟨⟨later, List.mem_cons_of_mem item member, ?_⟩, refused⟩
          exact fun present => missing ((still _).2 present)

theorem delete_timers_spec {ids : List UInt8} (invariant : TableInvariant table)
    (range : ∀ id ∈ ids, id.toNat ≤ iotgoTimerNum) :
    (ids.Nodup ∧ ∀ id ∈ ids, Present (view table) id) ∧
        (∃ after, deleteTimers ids table = .finished after ∧ TableInvariant after ∧
          after.timerInfo.timerVer = table.timerInfo.timerVer ∧
          view after = fun slot => if idOf slot ∈ ids then none else view table slot) ∨
      ¬ (ids.Nodup ∧ ∀ id ∈ ids, Present (view table) id) ∧
        ∃ left, deleteTimers ids table = .refused .error500 left := by
  induction ids generalizing table with
  | nil =>
      refine .inl ⟨⟨List.nodup_nil, nofun⟩, table, rfl, invariant, rfl, ?_⟩
      funext slot
      simp
  | cons id rest ih =>
      rw [deleteTimers]
      rcases find_id_present invariant (range id List.mem_cons_self) with
        ⟨absent, missing⟩ | ⟨slot, found, rfl, own⟩
      · rw [absent]
        exact .inr ⟨fun all => missing (all.2 id List.mem_cons_self), table, rfl⟩
      · rw [found]
        simp only
        rcases delete_present invariant own with ⟨counted, kept, changed⟩
        have count : (TimerTable.setId table slot 0).timerInfo.timerCnt =
            table.timerInfo.timerCnt := rfl
        rw [count, if_neg counted]
        have others : ∀ key, Present (remove (view table) slot) key ↔
            Present (view table) key ∧ key ≠ idOf slot := by
          intro key
          constructor
          · rintro ⟨other, rfl, taken⟩
            by_cases same : other = slot
            · subst same
              simp [remove] at taken
            · simp only [remove, Function.update_of_ne same] at taken
              exact ⟨⟨other, rfl, taken⟩, fun clash => same (id_of_injective clash)⟩
          · rintro ⟨⟨other, rfl, taken⟩, differs⟩
            have apart : other ≠ slot := fun same => differs (same ▸ rfl)
            refine ⟨other, rfl, ?_⟩
            simpa only [remove, Function.update_of_ne apart] using taken
        have here : Present (view table) (idOf slot) :=
          ⟨slot, rfl, view_some_iff.2 (own ▸ id_of_ne_zero slot)⟩
        rcases ih kept (fun later member => range later (List.mem_cons_of_mem _ member)) with
          ⟨⟨nodup, all⟩, after, finished, keptAfter, ver, viewed⟩ | ⟨wrong, refused⟩
        · rw [changed] at all viewed
          refine .inl ⟨⟨?_, ?_⟩, after, finished, keptAfter, ver, ?_⟩
          · refine List.nodup_cons.2 ⟨fun member => ?_, nodup⟩
            exact ((others _).1 (all _ member)).2 rfl
          · intro later member
            rcases List.mem_cons.1 member with rfl | tail
            · exact here
            · exact ((others _).1 (all later tail)).1
          · rw [viewed]
            funext other
            by_cases same : other = slot
            · subst same
              simp [remove]
            · have differs : idOf other ≠ idOf slot := fun clash => same (id_of_injective clash)
              simp [remove, same, differs]
        · rw [changed] at wrong
          refine .inr ⟨fun all => wrong ⟨(List.nodup_cons.1 all.1).2, ?_⟩, refused⟩
          intro later member
          refine (others later).2 ⟨all.2 later (List.mem_cons_of_mem _ member), ?_⟩
          exact ne_of_mem_of_not_mem member (List.nodup_cons.1 all.1).1

theorem product_id_spec (invariant : TableInvariant table)
    (room : used (view table) < iotgoTimerNum) :
    ∃ slot rest, freeSlots (view table) = slot :: rest ∧
      timerProductId table = some (slot, TimerTable.setId table slot (idOf slot)) := by
  rcases free_slots_cons room with ⟨slot, rest, free⟩
  have first : (List.finRange iotgoTimerNum).find? (fun slot => table.timerId slot = 0) =
      some slot := by
    have same : (fun slot => decide (table.timerId slot = 0)) =
        fun slot => (view table slot).isNone := by
      funext other
      rw [Bool.eq_iff_iff, decide_eq_true_eq, Option.isNone_iff_eq_none, view_none_iff]
    rw [same, ← List.head?_filter]
    exact congrArg List.head? free
  refine ⟨slot, rest, free, ?_⟩
  have notFull : ¬ iotgoTimerNum ≤ table.timerInfo.timerCnt.toNat := by
    rw [invariant.count]
    exact Nat.not_le.2 room
  rw [timerProductId, if_neg notFull, first]
  rfl

theorem first_free_vacant {map : TimersById} {slot : Fin iotgoTimerNum}
    {later : List (Fin iotgoTimerNum)} (free : freeSlots map = slot :: later) :
    map slot = none := by
  apply mem_free_slots.1
  rw [free]
  exact List.mem_cons_self

theorem taken_uncounted {slot : Fin iotgoTimerNum} (invariant : TableInvariant table)
    (free : table.timerId slot = 0) (timer : IotgoTimer) :
    ¬TableInvariant (TimerTable.setTimer (TimerTable.setId table slot (idOf slot)) slot timer) := by
  intro spoiled
  have changed := ((ChangedAt.same slot table).setId (idOf slot)).setTimer timer
  have viewed := changed.view (show view _ slot = some timer by
    simp [view, TimerTable.setTimer, TimerTable.setId, id_of_ne_zero])
  have counted : table.timerInfo.timerCnt.toNat = used (view table) + 1 := by
    rw [← used_put (view_none_iff.2 free) timer]
    exact spoiled.count.trans (congrArg used viewed)
  rw [invariant.count] at counted
  exact absurd counted (Nat.ne_add_one _)

/-- Where there is room for the batch, a timer with an id of its own is what refuses it;
that leaves a slot that is taken and not counted. -/
theorem new_timers_spec {timers : List IotgoTimer} (ids : List UInt8)
    (invariant : TableInvariant table)
    (room : timers.length + used (view table) ≤ iotgoTimerNum) :
    (∀ timer ∈ timers, timer.id = 0) ∧
        (∃ given after, newTimers timers ids table = (given, .finished after) ∧
          TableInvariant after ∧ after.timerInfo.timerVer = table.timerInfo.timerVer ∧
          view after = place (fun slot timer => { timer with id := idOf slot }) timers
            (view table)) ∨
      (∃ timer ∈ timers, timer.id ≠ 0) ∧
        ∃ given result left, newTimers timers ids table = (given, .refused result left) ∧
          result ≠ .error0 ∧ ¬TableInvariant left := by
  induction timers generalizing ids table with
  | nil =>
      exact .inl ⟨nofun, ids, table, rfl, invariant, rfl, (place_nil _ _).symm⟩
  | cons timer rest ih =>
      rw [List.length_cons] at room
      have vacant : used (view table) < iotgoTimerNum := by omega
      rcases product_id_spec invariant vacant with ⟨slot, later, free, produced⟩
      rw [newTimers, produced]
      simp only
      by_cases blank : timer.id = 0
      · rw [if_neg (not_not.2 blank)]
        have vacancy : table.timerId slot = 0 := view_none_iff.1 (first_free_vacant free)
        rcases insert_free invariant vacancy vacant timer { timer with id := idOf slot } rfl with
          ⟨kept, changed⟩
        have less : rest.length + used (put (view table) slot { timer with id := idOf slot }) ≤
            iotgoTimerNum := by
          rw [used_put (view_none_iff.2 vacancy)]
          omega
        rw [← changed] at less
        rcases ih _ kept less with
          ⟨all, given, after, finished, keptAfter, ver, viewed⟩ | ⟨⟨bad, member, named⟩, refused⟩
        · refine .inl ⟨?_, given, after, finished, keptAfter, ver, ?_⟩
          · intro other member
            rcases List.mem_cons.1 member with rfl | tail
            · exact blank
            · exact all other tail
          · rw [viewed, changed, place_cons _ free]
        · exact .inr ⟨⟨bad, List.mem_cons_of_mem timer member, named⟩, refused⟩
      · rw [if_pos blank]
        refine .inr ⟨⟨timer, List.mem_cons_self, blank⟩, ids, .error400, _, rfl, by decide, ?_⟩
        exact taken_uncounted invariant (view_none_iff.1 (first_free_vacant free)) timer

theorem find_id_found {id : UInt8} {slot : Fin iotgoTimerNum}
    (found : findId table id = .found slot) : id = idOf slot ∧ table.timerId slot = idOf slot := by
  rcases find_id_cases table (found_in_range found) with ⟨absent, -⟩ | ⟨other, there, named⟩
  · rw [absent] at found
    cases found
  · rw [there] at found
    cases found
    exact named

theorem each_present_keeps {Item : Type*} {id : Item → UInt8}
    {change : Item → IotgoTimer → IotgoTimer}
    (keepsId : ∀ item timer, timer.id = id item → (change item timer).id = id item)
    {items : List Item} {left : TimerTable} (invariant : TableInvariant table)
    (leaves : (eachPresent id change items table).Leaves left) : TableInvariant left := by
  induction items generalizing table with
  | nil =>
      rcases leaves with done | ⟨result, refused⟩
      · cases done
        exact invariant
      · cases refused
  | cons item rest ih =>
      rw [eachPresent] at leaves
      split at leaves
      · rcases leaves with done | ⟨result, refused⟩
        · cases done
        · cases refused
          exact invariant
      · rcases leaves with done | ⟨result, refused⟩
        · cases done
        · cases refused
      · rename_i slot found
        rcases find_id_found found with ⟨named, own⟩
        refine ih (change_present invariant own ?_).1 leaves
        rw [← named]
        apply keepsId
        rw [invariant.timers slot, own, named]

theorem delete_timers_keeps {ids : List UInt8} {left : TimerTable}
    (invariant : TableInvariant table) (leaves : (deleteTimers ids table).Leaves left) :
    TableInvariant left := by
  induction ids generalizing table with
  | nil =>
      rcases leaves with done | ⟨result, refused⟩
      · cases done
        exact invariant
      · cases refused
  | cons id rest ih =>
      rw [deleteTimers] at leaves
      split at leaves
      · rcases leaves with done | ⟨result, refused⟩
        · cases done
        · cases refused
          exact invariant
      · rcases leaves with done | ⟨result, refused⟩
        · cases done
        · cases refused
      · rename_i slot found
        rcases delete_present invariant (find_id_found found).2 with ⟨some, kept, -⟩
        have counted : (TimerTable.setId table slot 0).timerInfo.timerCnt ≠ 0 := some
        dsimp only at leaves
        rw [if_neg counted] at leaves
        exact ih kept leaves

theorem new_timers_keeps {timers : List IotgoTimer} {ids : List UInt8} {left : TimerTable}
    (blank : ∀ timer ∈ timers, timer.id = 0) (invariant : TableInvariant table)
    (leaves : (newTimers timers ids table).2.Leaves left) : TableInvariant left := by
  induction timers generalizing ids table with
  | nil =>
      rcases leaves with done | ⟨result, refused⟩
      · cases done
        exact invariant
      · cases refused
  | cons timer rest ih =>
      rw [newTimers] at leaves
      by_cases room : used (view table) < iotgoTimerNum
      · rcases product_id_spec invariant room with ⟨slot, later, free, produced⟩
        rw [produced] at leaves
        dsimp only at leaves
        rw [if_neg (not_not.2 (blank timer List.mem_cons_self))] at leaves
        refine ih (fun other member => blank other (List.mem_cons_of_mem timer member)) ?_ leaves
        exact (insert_free invariant (view_none_iff.1 (first_free_vacant free)) room timer
          { timer with id := idOf slot } rfl).1
      · have full : timerProductId table = none := by
          rw [timerProductId, invariant.count, if_pos (Nat.not_lt.1 room)]
        rw [full] at leaves
        rcases leaves with done | ⟨result, refused⟩
        · cases done
        · cases refused
          exact invariant

end Batches

section Requests

variable {memory : BlockMemory} {state : TimerState} {table : TimerTable}

theorem next_ver_invariant (invariant : TableInvariant table) :
    TableInvariant (TimerTable.nextVer table) where
  ids := invariant.ids
  timers := invariant.timers
  counted := invariant.counted
  bounded := invariant.bounded

theorem emptied_invariant (table : TimerTable) :
    TableInvariant (emptied table) ∧ view (emptied table) = fun _ => none := by
  have viewed : view (emptied table) = fun _ => none := by
    funext slot
    exact view_none_iff.2 rfl
  refine ⟨table_invariant_of (fun _ => .inl rfl) (fun _ => rfl) ?_, viewed⟩
  have nothing : usedSlots (view (emptied table)) = ∅ := by
    apply Finset.eq_empty_of_forall_notMem
    intro slot member
    rw [mem_used_slots, viewed] at member
    cases member
  rw [used, nothing]
  rfl

theorem set_all_enabled_invariant (invariant : TableInvariant table) (enabled : UInt8) :
    TableInvariant (setAllEnabled enabled table) ∧
      view (setAllEnabled enabled table) = fun slot =>
        (view table slot).map (setEnabled enabled) := by
  have viewed : view (setAllEnabled enabled table) = fun slot =>
      (view table slot).map (setEnabled enabled) := by
    funext slot
    by_cases zero : table.timerId slot = 0
    · simp [view, setAllEnabled, zero]
    · have taken : (table.timer slot).id ≠ 0 := by
        rw [invariant.timers slot]
        exact zero
      simp [view, setAllEnabled, zero, taken]
  refine ⟨table_invariant_of invariant.ids ?_ ?_, viewed⟩
  · intro slot
    change (if (table.timer slot).id ≠ 0 then setEnabled enabled (table.timer slot)
      else table.timer slot).id = table.timerId slot
    rw [← invariant.timers slot]
    split <;> rfl
  · have same : usedSlots (view (setAllEnabled enabled table)) = usedSlots (view table) := by
      ext slot
      rw [mem_used_slots, mem_used_slots, viewed, Option.isSome_map]
    rw [used, same]
    exact invariant.count

theorem zero_invariant : TableInvariant .zero :=
  (emptied_invariant .zero).1

theorem leaves_invariant {request : TimerRequest} {left : TimerTable}
    (invariant : TableInvariant table)
    (blank : ∀ timers, request = .new timers → ∀ timer ∈ timers, timer.id = 0)
    (leaves : Leaves table request left) : TableInvariant left := by
  cases request with
  | new timers => exact new_timers_keeps (blank timers rfl) invariant leaves
  | edit timers =>
      refine each_present_keeps ?_ invariant leaves
      exact fun _ _ _ => rfl
  | del ids => exact delete_timers_keeps invariant leaves
  | enable ids =>
      refine each_present_keeps ?_ invariant leaves
      exact fun _ _ same => same
  | disable ids =>
      refine each_present_keeps ?_ invariant leaves
      exact fun _ _ same => same
  | delAll =>
      rw [leaves]
      exact (emptied_invariant table).1
  | enableAll =>
      rw [leaves]
      exact (set_all_enabled_invariant invariant 1).1
  | disableAll =>
      rw [leaves]
      exact (set_all_enabled_invariant invariant 0).1

def Done (memory : BlockMemory) (state : TimerState) (request : TimerRequest) : Prop :=
  ∃ after reply,
    timerRequest memory state request =
      some (timerSaveToFlash memory.block { state with table := TimerTable.nextVer after }, reply) ∧
    reply.result = .error0 ∧ TableInvariant after ∧
    after.timerInfo.timerVer = state.table.timerInfo.timerVer ∧
    view after = applied (view state.table) request

/-- The request is refused, at once or after some of its batch. -/
def Refused (memory : BlockMemory) (state : TimerState) (request : TimerRequest) : Prop :=
  ∃ reply, reply.result ≠ .error0 ∧
    (timerRequest memory state request = some (state, reply) ∨
      ∃ left, timerRequest memory state request =
        some (timerLoadFromFlash memory { state with table := left }, reply))

theorem new_cases (invariant : TableInvariant state.table) (timers : List IotgoTimer) :
    Accepted (view state.table) (.new timers) ∧ Done memory state (.new timers) ∨
      ¬ Accepted (view state.table) (.new timers) ∧ Refused memory state (.new timers) := by
  by_cases early : iotgoTimerNum < timers.length + state.table.timerInfo.timerCnt.toNat ∨
      timers.length = 0
  · refine .inr ⟨?_, .update .error500, nofun, .inl (if_pos early)⟩
    rintro ⟨positive, room, -⟩
    rw [invariant.count] at early
    omega
  · have room : timers.length + used (view state.table) ≤ iotgoTimerNum := by
      rw [← invariant.count]
      exact Nat.not_lt.1 fun more => early (.inl more)
    rcases new_timers_spec [] invariant room with
      ⟨all, given, after, finished, kept, ver, viewed⟩ |
      ⟨⟨timer, member, named⟩, given, result, left, refused, wrong, -⟩
    · refine .inl ⟨⟨by omega, room, all⟩, after, .updateWithId .error0 given, ?_, rfl, kept, ver,
        viewed⟩
      rw [timerRequest, timerNew, if_neg early, finished]
      rfl
    · refine .inr ⟨fun accepted => named (accepted.2.2 timer member), .update result, wrong,
        .inr ⟨left, ?_⟩⟩
      rw [timerRequest, timerNew, if_neg early, refused]
      rfl

theorem edit_cases (invariant : TableInvariant state.table) {timers : List IotgoTimer}
    (range : InRange (.edit timers)) :
    Accepted (view state.table) (.edit timers) ∧ Done memory state (.edit timers) ∨
      ¬ Accepted (view state.table) (.edit timers) ∧ Refused memory state (.edit timers) := by
  by_cases early : state.table.timerInfo.timerCnt.toNat < timers.length ∨ timers.length = 0
  · refine .inr ⟨?_, .update .error500, nofun, .inl (if_pos early)⟩
    rintro ⟨positive, enough, -⟩
    rw [invariant.count] at early
    omega
  · have enough : timers.length ≤ used (view state.table) := by
      rw [← invariant.count]
      exact Nat.not_lt.1 fun more => early (.inl more)
    rcases each_present_spec IotgoTimer.id (fun timer _ => timer) (fun _ _ _ => rfl) invariant
      range with
      ⟨all, after, finished, kept, info, viewed⟩ | ⟨⟨timer, member, missing⟩, left, refused⟩
    · refine .inl ⟨⟨by omega, enough, all⟩, after, .update .error0, ?_, rfl, kept,
        congrArg IotgoTimerInfo.timerVer info, ?_⟩
      · rw [timerRequest, timerEdit, if_neg early, finished]
        rfl
      · rw [viewed, change_each_last _ fun timer => timer]
        simp [applied]
    · refine .inr ⟨fun accepted => missing (accepted.2.2 timer member), .update .error500, nofun,
        .inr ⟨left, ?_⟩⟩
      rw [timerRequest, timerEdit, if_neg early, refused]
      rfl

theorem del_cases (invariant : TableInvariant state.table) {ids : List UInt8}
    (range : InRange (.del ids)) :
    Accepted (view state.table) (.del ids) ∧ Done memory state (.del ids) ∨
      ¬ Accepted (view state.table) (.del ids) ∧ Refused memory state (.del ids) := by
  by_cases early : ids.length = 0
  · refine .inr ⟨fun accepted => ?_, .update .error500, nofun, .inl (if_pos early)⟩
    have positive := accepted.1
    omega
  · rcases delete_timers_spec invariant range with
      ⟨all, after, finished, kept, ver, viewed⟩ | ⟨wrong, left, refused⟩
    · refine .inl ⟨⟨by omega, all⟩, after, .update .error0, ?_, rfl, kept, ver, viewed⟩
      rw [timerRequest, timerDel, if_neg early, finished]
      rfl
    · refine .inr ⟨fun accepted => wrong accepted.2, .update .error500, nofun, .inr ⟨left, ?_⟩⟩
      rw [timerRequest, timerDel, if_neg early, refused]
      rfl

theorem set_enabled_cases (invariant : TableInvariant state.table) {ids : List UInt8}
    (range : ∀ id ∈ ids, id.toNat ≤ iotgoTimerNum) (enabled : UInt8) :
    (1 ≤ ids.length ∧ ids.length ≤ used (view state.table) ∧
          ∀ id ∈ ids, Present (view state.table) id) ∧
        (∃ after, timerSetEnabled memory state enabled ids =
            some (timerSaveToFlash memory.block { state with table := TimerTable.nextVer after },
              .update .error0) ∧
          TableInvariant after ∧
          after.timerInfo.timerVer = state.table.timerInfo.timerVer ∧
          view after = enabledAt enabled ids (view state.table)) ∨
      ¬ (1 ≤ ids.length ∧ ids.length ≤ used (view state.table) ∧
          ∀ id ∈ ids, Present (view state.table) id) ∧
        (timerSetEnabled memory state enabled ids = some (state, .update .error500) ∨
          ∃ left, timerSetEnabled memory state enabled ids =
            some (timerLoadFromFlash memory { state with table := left }, .update .error500)) := by
  by_cases early : ids.length = 0 ∨ state.table.timerInfo.timerCnt.toNat < ids.length
  · refine .inr ⟨?_, .inl (if_pos early)⟩
    rintro ⟨positive, enough, -⟩
    rw [invariant.count] at early
    omega
  · have enough : ids.length ≤ used (view state.table) := by
      rw [← invariant.count]
      exact Nat.not_lt.1 fun more => early (.inr more)
    rcases each_present_spec (fun id => id) (fun _ => setEnabled enabled)
      (fun _ _ same => same) invariant range with
      ⟨all, after, finished, kept, info, viewed⟩ | ⟨⟨id, member, missing⟩, left, refused⟩
    · refine .inl ⟨⟨by omega, enough, all⟩, after, ?_, kept,
        congrArg IotgoTimerInfo.timerVer info, ?_⟩
      · rw [timerSetEnabled, if_neg early, finished]
        rfl
      · have once : ∀ timer, setEnabled enabled (setEnabled enabled timer) =
            setEnabled enabled timer := fun _ => rfl
        rw [viewed, change_each_same _ once]
        funext slot
        simp [enabledAt]
    · refine .inr ⟨fun accepted => missing (accepted.2.2 id member), .inr ⟨left, ?_⟩⟩
      rw [timerSetEnabled, if_neg early, refused]
      rfl

theorem request_cases (invariant : TableInvariant state.table) {request : TimerRequest}
    (range : InRange request) :
    Accepted (view state.table) request ∧ Done memory state request ∨
      ¬ Accepted (view state.table) request ∧ Refused memory state request := by
  cases request with
  | new timers => exact new_cases invariant timers
  | edit timers => exact edit_cases invariant range
  | del ids => exact del_cases invariant range
  | enable ids =>
      rcases set_enabled_cases invariant range 1 with ⟨accepted, after, done⟩ | ⟨wrong, refused⟩
      · exact .inl ⟨accepted, after, .update .error0, done.1, rfl, done.2⟩
      · exact .inr ⟨wrong, .update .error500, nofun, refused⟩
  | disable ids =>
      rcases set_enabled_cases invariant range 0 with ⟨accepted, after, done⟩ | ⟨wrong, refused⟩
      · exact .inl ⟨accepted, after, .update .error0, done.1, rfl, done.2⟩
      · exact .inr ⟨wrong, .update .error500, nofun, refused⟩
  | delAll =>
      rcases emptied_invariant state.table with ⟨kept, viewed⟩
      exact .inl ⟨trivial, _, .update .error0, rfl, rfl, kept, rfl, viewed⟩
  | enableAll =>
      rcases set_all_enabled_invariant invariant 1 with ⟨kept, viewed⟩
      exact .inl ⟨trivial, _, .update .error0, rfl, rfl, kept, rfl, viewed⟩
  | disableAll =>
      rcases set_all_enabled_invariant invariant 0 with ⟨kept, viewed⟩
      exact .inl ⟨trivial, _, .update .error0, rfl, rfl, kept, rfl, viewed⟩

end Requests

/-- A request succeeds exactly where its batch can be done; then it does to the map what
it asks for, and the version goes up by one. -/
theorem request_refines_map (memory : BlockMemory) {state : TimerState} {request : TimerRequest}
    (invariant : TableInvariant state.table) (range : InRange request) :
    ∃ next reply, timerRequest memory state request = some (next, reply) ∧
      (Accepted (view state.table) request →
        reply.result = .error0 ∧
          view next.table = applied (view state.table) request ∧
          next.table.timerInfo.timerVer = state.table.timerInfo.timerVer + 1) ∧
      (¬ Accepted (view state.table) request → reply.result ≠ .error0) := by
  rcases @request_cases memory state invariant request range with
    ⟨accepted, after, reply, done, success, -, ver, viewed⟩ | ⟨wrong, reply, error, refused⟩
  · refine ⟨_, reply, done, fun _ => ⟨success, ?_, ?_⟩, fun wrong => absurd accepted wrong⟩
    · rw [save_table]
      exact viewed
    · rw [save_table]
      exact congrArg (· + 1) ver
  · rcases refused with kept | ⟨left, undone⟩
    · exact ⟨_, reply, kept, fun accepted => absurd accepted wrong, fun _ => error⟩
    · exact ⟨_, reply, undone, fun accepted => absurd accepted wrong, fun _ => error⟩

section Examples

def thirdSlot : Fin iotgoTimerNum := ⟨2, by decide⟩

/-- Two timers, with a free slot between them. -/
def spacedTable : TimerTable where
  timerInfo := { timerVer := 7, timerCnt := 2 }
  timerId slot := if slot.val = 0 ∨ slot = thirdSlot then idOf slot else 0
  timer slot :=
    if slot.val = 0 ∨ slot = thirdSlot then { IotgoTimer.zero with id := idOf slot } else .zero

theorem spaced_invariant : TableInvariant spacedTable where
  ids := by decide
  timers := by decide
  counted := by decide
  bounded := by decide

/-- The third timer is edited twice by one request. -/
def editedTwice : TimerRequest :=
  .edit [{ IotgoTimer.zero with id := 3, enabled := 1 },
    { IotgoTimer.zero with id := 3, type := .repeat }]

theorem request_refines_map_edited :
    ∃ next reply, timerRequest .granted ⟨spacedTable, fun _ => 0xFF⟩ editedTwice =
        some (next, reply) ∧
      reply.result = .error0 ∧ view next.table = applied (view spacedTable) editedTwice ∧
        next.table.timerInfo.timerVer = 8 := by
  have range : InRange editedTwice := by
    unfold editedTwice InRange
    decide
  rcases @request_refines_map .granted ⟨spacedTable, fun _ => 0xFF⟩ editedTwice
    spaced_invariant range with ⟨next, reply, answered, accepted, -⟩
  have present : Present (view spacedTable) 3 := ⟨thirdSlot, by decide, by decide⟩
  refine ⟨next, reply, answered, accepted ⟨by decide, ?_, ?_⟩⟩
  · rw [← spaced_invariant.count]
    decide
  · intro timer member
    have named : timer.id = 3 := by
      rcases List.mem_cons.1 member with rfl | last
      · rfl
      · rw [List.mem_singleton.1 last]
    rw [named]
    exact present

end Examples

end IotgoFirmware.Timers.TimerMap
