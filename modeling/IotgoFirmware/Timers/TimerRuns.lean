import IotgoFirmware.Timers.TimerClock
import IotgoFirmware.Timers.TimerMap

/-!
# The timers over a run

The device starts from what the flash holds, and then requests, seconds of the clock
and restarts come in any order. A second of the clock may disable a timer in RAM; it
saves nothing.
-/

namespace IotgoFirmware.Timers.TimerRuns

open IotgoFirmware.Library.NorFlash
open IotgoFirmware.Library.StepRuns
open IotgoFirmware.Timers.TimerLayout
open IotgoFirmware.Timers.TimerFlash
open IotgoFirmware.Timers.TimerClock
open IotgoFirmware.Timers.TimerRequests
open IotgoFirmware.Timers.TimerMap

set_option autoImplicit false

/-- The loop of `timerDealTime`, with the actions so far; `none` where a pass faults. -/
def dealTimers (unset : Int) (now : IoTgoGMTTime) :
    List (Fin iotgoTimerNum) → TimerTable → List (List UInt8) →
      Option (TimerTable × List (List UInt8))
  | [], table, actions => some (table, actions)
  | slot :: rest, table, actions =>
      match dealTimer unset now (table.timer slot) with
      | none => none
      | some (timer, called) =>
          dealTimers unset now rest (TimerTable.setTimer table slot timer) (actions ++ called)

/-- The callback is set before the timer that calls it is armed. -/
def timerDealTime (unset : Int) (now : IoTgoGMTTime) (table : TimerTable) :
    Option (TimerTable × List (List UInt8)) :=
  dealTimers unset now (List.finRange iotgoTimerNum) table []

/-- The tables that `timerInit` starts with. -/
def timerInit (memory : BlockMemory) (flash : Flash) : TimerState :=
  timerLoadFromFlash memory ⟨.zero, flash⟩

inductive TimerEvent where
  | request (memory : BlockMemory) (request : TimerRequest)
  | second (unset : Int) (now : IoTgoGMTTime)
  | restart (memory : BlockMemory)

def TimerStep (state : TimerState) (event : TimerEvent) (next : TimerState) : Prop :=
  match event with
  | .request memory request => ∃ reply, timerRequest memory state request = some (next, reply)
  | .second unset now =>
      ∃ table actions, timerDealTime unset now state.table = some (table, actions) ∧
        next = { state with table := table }
  | .restart memory => next = timerInit memory state.flash

/-- A batch of new timers that has room and an id in it is undone with memory for the
block. -/
def Undone (state : TimerState) : TimerEvent → Prop
  | .request memory (.new timers) =>
      timers.length + state.table.timerInfo.timerCnt.toNat ≤ iotgoTimerNum →
        (∃ timer ∈ timers, timer.id ≠ 0) → memory.block = true
  | .request _ _ => True
  | .second _ _ => True
  | .restart _ => True

/-- A flash image that the program has written: by `timerFlashErase`, or by
`timerSaveToFlash` of the tables that a run from such an image has led to, where every
step of that run met the condition. -/
inductive Written : Flash → Prop where
  | erased (state : TimerState) : Written (timerFlashErase true state).flash
  | saved {memory : BlockMemory} {image before : Flash} {state : TimerState}
      {events : List TimerEvent} (earlier : Written image)
      (met : Meets TimerStep Undone (timerInit memory image) events)
      (run : Run TimerStep (timerInit memory image) events state) :
      Written (timerSaveToFlash true ⟨state.table, before⟩).flash

section Seconds

variable {unset : Int} {now : IoTgoGMTTime} {table after : TimerTable}

/-- The timers of some slots are disarmed where they are due. -/
def disarmAt (now : IoTgoGMTTime) (slots : List (Fin iotgoTimerNum)) (table : TimerTable) :
    TimerTable :=
  { table with
    timer := fun slot =>
      if slot ∈ slots then disarmed now (table.timer slot) else table.timer slot }

theorem disarm_at_cons {slot : Fin iotgoTimerNum} {rest : List (Fin iotgoTimerNum)}
    (fresh : slot ∉ rest) :
    disarmAt now rest (TimerTable.setTimer table slot (disarmed now (table.timer slot))) =
      disarmAt now (slot :: rest) table := by
  unfold disarmAt TimerTable.setTimer
  congr 1
  funext other
  by_cases same : other = slot
  · subst same
    simp [fresh]
  · simp [same]

theorem deal_timers_disarms {slots : List (Fin iotgoTimerNum)} (nodup : slots.Nodup)
    {actions called : List (List UInt8)}
    (dealt : dealTimers unset now slots table actions = some (after, called)) :
    after = disarmAt now slots table := by
  induction slots generalizing table actions with
  | nil =>
      cases dealt
      simp [disarmAt]
  | cons slot rest ih =>
      rw [List.nodup_cons] at nodup
      rw [dealTimers] at dealt
      cases pass : dealTimer unset now (table.timer slot) with
      | none =>
          rw [pass] at dealt
          cases dealt
      | some result =>
          rcases result with ⟨timer, calls⟩
          rw [pass] at dealt
          rw [ih nodup.2 dealt, deal_timer_disarms pass, disarm_at_cons nodup.1]

theorem deal_timers_ends_iff {slots : List (Fin iotgoTimerNum)} (nodup : slots.Nodup)
    (actions : List (List UInt8)) :
    (∃ after called, dealTimers unset now slots table actions = some (after, called)) ↔
      ∀ slot ∈ slots, faults unset now (table.timer slot) = false := by
  induction slots generalizing table actions with
  | nil => exact iff_of_true ⟨table, actions, rfl⟩ nofun
  | cons slot rest ih =>
      rw [List.nodup_cons] at nodup
      rw [dealTimers, List.forall_mem_cons]
      cases pass : dealTimer unset now (table.timer slot) with
      | none =>
          refine iff_of_false nofun ?_
          rintro ⟨clash, -⟩
          rw [deal_timer_faults.1 pass] at clash
          cases clash
      | some result =>
          have first : faults unset now (table.timer slot) = false := by
            rw [← Bool.not_eq_true, ← deal_timer_faults, pass]
            exact nofun
          have others : ∀ later ∈ rest,
              (TimerTable.setTimer table slot result.1).timer later = table.timer later := by
            intro later member
            exact Function.update_of_ne (ne_of_mem_of_not_mem member nodup.1) _ _
          refine (ih nodup.2 (actions ++ result.2)).trans ?_
          rw [and_iff_right first]
          apply forall₂_congr
          intro later member
          rw [others later member]

theorem deal_time_disarms {actions : List (List UInt8)}
    (dealt : timerDealTime unset now table = some (after, actions)) :
    after = { table with timer := fun slot => disarmed now (table.timer slot) } := by
  have disarms := deal_timers_disarms (List.nodup_finRange iotgoTimerNum) dealt
  simpa [disarmAt] using disarms

theorem deal_time_ends_iff :
    (∃ after actions, timerDealTime unset now table = some (after, actions)) ↔
      ∀ slot, faults unset now (table.timer slot) = false := by
  rw [timerDealTime, deal_timers_ends_iff (List.nodup_finRange iotgoTimerNum)]
  exact ⟨fun sound slot => sound slot (List.mem_finRange slot), fun sound slot _ => sound slot⟩

theorem disarmed_table_eq_iff :
    { table with timer := fun slot => disarmed now (table.timer slot) } = table ↔
      ∀ slot, due now (table.timer slot) = false := by
  constructor
  · intro same slot
    exact disarmed_eq_iff.1 (congrFun (congrArg TimerTable.timer same) slot)
  · intro quiet
    have timers : (fun slot => disarmed now (table.timer slot)) = table.timer := by
      funext slot
      exact disarmed_eq_iff.2 (quiet slot)
    rw [timers]

theorem second_invariant (invariant : TableInvariant table) :
    TableInvariant { table with timer := fun slot => disarmed now (table.timer slot) } where
  ids := invariant.ids
  timers slot := (disarmed_id now (table.timer slot)).trans (invariant.timers slot)
  counted := invariant.counted
  bounded := invariant.bounded

end Seconds

section Images

variable {memory : BlockMemory} {state next : TimerState}

/-- The tables that would be loaded keep the invariant. -/
def LoadsSound (flash : Flash) : Prop :=
  ∃ table, loadedTable flash = some table ∧ TableInvariant table

/-- The invariant of a run: the tables keep theirs, and so do those that would be
loaded. -/
structure Sound (state : TimerState) : Prop where
  table : TableInvariant state.table
  loaded : LoadsSound state.flash

theorem load_sound (sound : Sound state) (memory : BlockMemory) :
    Sound (timerLoadFromFlash memory state) := by
  cases granted : memory.block with
  | false =>
      rw [load_refused granted]
      exact sound
  | true =>
      rcases sound.loaded with ⟨table, loaded, invariant⟩
      rw [load_of_loaded granted loaded]
      exact ⟨invariant, table, loaded, invariant⟩

theorem init_sound (loaded : LoadsSound state.flash) (memory : BlockMemory) :
    Sound (timerInit memory state.flash) :=
  @load_sound ⟨.zero, state.flash⟩ ⟨zero_invariant, loaded⟩ memory

theorem save_sound (sound : Sound state) (memory : Bool) : Sound (timerSaveToFlash memory state) := by
  cases memory with
  | false => exact sound
  | true => exact ⟨sound.table, state.table, loaded_saved state, sound.table⟩

theorem ended_sound {left : TimerTable} (loaded : LoadsSound state.flash)
    (invariant : TableInvariant left) (ended : Ended memory state left next) : Sound next := by
  rcases ended with rfl | rfl
  · exact @save_sound { state with table := _ } ⟨next_ver_invariant invariant, loaded⟩ memory.block
  · exact @load_sound { state with table := left } ⟨invariant, loaded⟩ memory

theorem few_of_room {timers : List IotgoTimer} {timerCnt : UInt8} {timer : IotgoTimer}
    (member : timer ∈ timers) (room : timers.length + timerCnt.toNat ≤ iotgoTimerNum) :
    ¬(iotgoTimerNum < timers.length + timerCnt.toNat ∨ timers.length = 0) := by
  have some := List.length_pos_of_mem member
  omega

theorem named_refused (memory : BlockMemory) {timers : List IotgoTimer} {timer : IotgoTimer}
    (invariant : TableInvariant state.table)
    (room : timers.length + state.table.timerInfo.timerCnt.toNat ≤ iotgoTimerNum)
    (member : timer ∈ timers) (named : timer.id ≠ 0) :
    ∃ left reply, timerRequest memory state (.new timers) =
      some (timerLoadFromFlash memory { state with table := left }, reply) ∧
        ¬TableInvariant left := by
  have free := room
  rw [invariant.count] at free
  rcases new_timers_spec [] invariant free with
    ⟨blank, -⟩ | ⟨-, given, result, left, refused, -, spoiled⟩
  · exact absurd (blank timer member) named
  · refine ⟨left, .update result, ?_, spoiled⟩
    rw [timerRequest, timerNew, if_neg (few_of_room member room), refused]
    rfl

theorem request_sound {request : TimerRequest} {reply : TimerReply} (sound : Sound state)
    (undone : Undone state (.request memory request))
    (answered : timerRequest memory state request = some (next, reply)) : Sound next := by
  by_cases blank : ∀ timers, request = .new timers → ∀ timer ∈ timers, timer.id = 0
  · rcases request_leaves answered with rfl | ⟨left, leaves, ended⟩
    · exact sound
    · exact ended_sound sound.loaded (leaves_invariant sound.table blank leaves) ended
  · push Not at blank
    rcases blank with ⟨timers, rfl, timer, member, named⟩
    by_cases room : timers.length + state.table.timerInfo.timerCnt.toNat ≤ iotgoTimerNum
    · rcases named_refused memory sound.table room member named with ⟨left, refusal, refused, -⟩
      rw [refused] at answered
      cases answered
      rcases sound.loaded with ⟨table, loaded, invariant⟩
      have restored : timerLoadFromFlash memory { state with table := left } =
          { state with table := table } :=
        load_of_loaded (undone room ⟨timer, member, named⟩) loaded
      rw [restored]
      exact ⟨invariant, table, loaded, invariant⟩
    · have early : timerRequest memory state (.new timers) = some (state, .update .error500) :=
        if_pos (.inl (Nat.not_le.1 room))
      rw [early] at answered
      cases answered
      exact sound

theorem undone_needed {request : TimerRequest} (invariant : TableInvariant state.table)
    (kept : ∀ next reply, timerRequest memory state request = some (next, reply) →
      TableInvariant next.table) : Undone state (.request memory request) := by
  cases request with
  | new timers =>
      rintro room ⟨timer, member, named⟩
      rcases named_refused memory invariant room member named with ⟨left, reply, refused, spoiled⟩
      by_contra missing
      have held := kept _ reply refused
      rw [load_refused (Bool.eq_false_of_not_eq_true missing)] at held
      exact spoiled held
  | edit timers => exact trivial
  | del ids => exact trivial
  | enable ids => exact trivial
  | disable ids => exact trivial
  | delAll => exact trivial
  | enableAll => exact trivial
  | disableAll => exact trivial

theorem step_sound (state : TimerState) (event : TimerEvent) (next : TimerState)
    (sound : Sound state) (undone : Undone state event) (taken : TimerStep state event next) :
    Sound next := by
  cases event with
  | request memory request =>
      rcases taken with ⟨reply, answered⟩
      exact request_sound sound undone answered
  | second unset now =>
      rcases taken with ⟨table, actions, dealt, rfl⟩
      refine ⟨?_, sound.loaded⟩
      rw [deal_time_disarms dealt]
      exact second_invariant sound.table
  | restart memory =>
      rw [taken]
      exact init_sound sound.loaded memory

theorem step_sound_iff (event : TimerEvent) (sound : Sound state) :
    (∀ next, TimerStep state event next → TableInvariant next.table) ↔ Undone state event := by
  constructor
  · intro kept
    cases event with
    | request memory request =>
        exact undone_needed sound.table fun next reply answered => kept next ⟨reply, answered⟩
    | second unset now => exact trivial
    | restart memory => exact trivial
  · intro undone next taken
    exact (step_sound state event next sound undone taken).table

theorem written_loads {image : Flash} (written : Written image) : LoadsSound image := by
  induction written with
  | erased state => exact ⟨.zero, loaded_erased state, zero_invariant⟩
  | @saved memory image before state events earlier met run ih =>
      have kept := keeps_of_meets Sound step_sound (@init_sound ⟨.zero, image⟩ ih memory) met
      exact ⟨state.table, loaded_saved ⟨state.table, before⟩, (keeps_final kept run).table⟩

end Images

/-- Whatever requests, seconds of the clock and restarts follow, the ids, the timers and
the count of the table agree, if and only if no batch of new timers with an id in it is
left in the tables for want of memory. -/
theorem table_invariant_kept_iff {image : Flash} (written : Written image) (memory : BlockMemory)
    (events : List TimerEvent) :
    Keeps TimerStep (fun state => TableInvariant state.table) (timerInit memory image) events ↔
      Meets TimerStep Undone (timerInit memory image) events := by
  have started : Sound (timerInit memory image) :=
    @init_sound ⟨.zero, image⟩ (written_loads written) memory
  apply keeps_iff_held Sound step_sound _ started started.table
  exact fun state event sound _ => step_sound_iff event sound

section Examples

/-- The second timer of a batch has an id, and there is no memory to undo the first: both
hold slots, and one is counted. -/
theorem new_left_without_memory :
    ∃ state, Run TimerStep (timerInit .granted (timerFlashErase true ⟨.zero, fun _ => 0xFF⟩).flash)
        [.request ⟨false, false⟩ (.new [.zero, { IotgoTimer.zero with id := 5 }])] state ∧
      ¬TableInvariant state.table := by
  have started : timerInit .granted (timerFlashErase true ⟨.zero, fun _ => 0xFF⟩).flash =
      ⟨.zero, (timerFlashErase true ⟨.zero, fun _ => 0xFF⟩).flash⟩ :=
    load_of_loaded rfl (loaded_erased ⟨.zero, fun _ => 0xFF⟩)
  rw [started]
  generalize (timerFlashErase true ⟨.zero, fun _ => 0xFF⟩).flash = chip
  have member : { IotgoTimer.zero with id := 5 } ∈ [IotgoTimer.zero, { IotgoTimer.zero with id := 5 }] :=
    List.mem_cons_of_mem _ List.mem_cons_self
  have room : 2 + TimerTable.zero.timerInfo.timerCnt.toNat ≤ iotgoTimerNum := by decide
  rcases @named_refused ⟨.zero, chip⟩ ⟨false, false⟩ [.zero, { IotgoTimer.zero with id := 5 }] _
    zero_invariant room member (by decide) with ⟨left, reply, refused, spoiled⟩
  rw [load_refused rfl] at refused
  exact ⟨⟨left, chip⟩, .cons ⟨reply, refused⟩ .nil, spoiled⟩

/-- A timer is added, a second passes, and the device starts again without memory. -/
theorem table_invariant_kept_erased :
    Keeps TimerStep (fun state => TableInvariant state.table)
        (timerInit .granted (timerFlashErase true ⟨.zero, fun _ => 0xFF⟩).flash)
        [.request .granted (.new [.zero]), .second 0 ⟨2016, 6, 1, 12, 0, 0⟩,
          .restart ⟨false, false⟩] ↔
      Meets TimerStep Undone (timerInit .granted (timerFlashErase true ⟨.zero, fun _ => 0xFF⟩).flash)
        [.request .granted (.new [.zero]), .second 0 ⟨2016, 6, 1, 12, 0, 0⟩,
          .restart ⟨false, false⟩] :=
  table_invariant_kept_iff (.erased _) _ _

end Examples

section Durability

variable {memory : BlockMemory} {state next : TimerState}

/-- The tables in RAM are those that would be loaded. -/
def Durable (state : TimerState) : Prop :=
  loadedTable state.flash = some state.table

/-- In a second that `timerDealTime` gets through, no one-shot timer is due. -/
def Unfired (state : TimerState) : TimerEvent → Prop
  | .request _ _ => True
  | .second unset now =>
      (∀ slot, faults unset now (state.table.timer slot) = false) →
        ∀ slot, due now (state.table.timer slot) = false
  | .restart _ => True

/-- The first of the ids is in use. -/
def FirstFound (table : TimerTable) (ids : List UInt8) : Prop :=
  ∃ id slot, ids.head? = some id ∧ findId table id = .found slot

/-- The request comes to change the tables: its number is allowed, and so is its first id. -/
def Begins (table : TimerTable) : TimerRequest → Prop
  | .new timers =>
      timers ≠ [] ∧ timers.length + table.timerInfo.timerCnt.toNat ≤ iotgoTimerNum
  | .edit timers =>
      timers.length ≤ table.timerInfo.timerCnt.toNat ∧ FirstFound table (timers.map IotgoTimer.id)
  | .del ids => FirstFound table ids
  | .enable ids => ids.length ≤ table.timerInfo.timerCnt.toNat ∧ FirstFound table ids
  | .disable ids => ids.length ≤ table.timerInfo.timerCnt.toNat ∧ FirstFound table ids
  | .delAll => True
  | .enableAll => True
  | .disableAll => True

/-- What changes the tables is saved or undone with memory for the block; so is a restart
with timers in RAM, and no one-shot timer fires. -/
def Saved (state : TimerState) : TimerEvent → Prop
  | .request memory request => Begins state.table request → memory.block = true
  | .second unset now => Unfired state (.second unset now)
  | .restart memory => state.table ≠ .zero → memory.block = true

theorem finish_untouched {reply answer : TimerReply} {batch : Batch}
    (refused : memory.block = false)
    (stays : batch = .outside ∨ ∃ result, batch = .refused result state.table)
    (answered : finishBatch memory state reply batch = some (next, answer)) : next = state := by
  rcases stays with rfl | ⟨result, rfl⟩
  · cases answered
  · cases answered
    exact load_refused refused state

theorem each_present_begins {Item : Type*} {id : Item → UInt8}
    {change : Item → IotgoTimer → IotgoTimer} {items : List Item} {table : TimerTable}
    (some : items.length ≠ 0) (waits : ¬FirstFound table (items.map id)) :
    eachPresent id change items table = .outside ∨
      ∃ result, eachPresent id change items table = .refused result table := by
  cases items with
  | nil => exact absurd rfl some
  | cons item rest =>
      rw [eachPresent]
      cases found : findId table (id item) with
      | absent => exact .inr ⟨.error500, rfl⟩
      | outside => exact .inl rfl
      | found slot => exact absurd ⟨id item, slot, rfl, found⟩ waits

theorem delete_timers_begins {ids : List UInt8} {table : TimerTable} (some : ids.length ≠ 0)
    (waits : ¬FirstFound table ids) :
    deleteTimers ids table = .outside ∨
      ∃ result, deleteTimers ids table = .refused result table := by
  cases ids with
  | nil => exact absurd rfl some
  | cons id rest =>
      rw [deleteTimers]
      cases found : findId table id with
      | absent => exact .inr ⟨.error500, rfl⟩
      | outside => exact .inl rfl
      | found slot => exact absurd ⟨id, slot, rfl, found⟩ waits

theorem set_enabled_untouched {enabled : UInt8} {ids : List UInt8} {reply : TimerReply}
    (refused : memory.block = false)
    (waits : ¬(ids.length ≤ state.table.timerInfo.timerCnt.toNat ∧ FirstFound state.table ids))
    (answered : timerSetEnabled memory state enabled ids = some (next, reply)) : next = state := by
  rw [timerSetEnabled] at answered
  split at answered
  · cases answered
    rfl
  · rename_i early
    rw [not_or, Nat.not_lt] at early
    refine finish_untouched refused (each_present_begins early.1 ?_) answered
    rw [List.map_id']
    exact fun first => waits ⟨early.2, first⟩

theorem request_untouched {request : TimerRequest} {reply : TimerReply}
    (refused : memory.block = false) (waits : ¬Begins state.table request)
    (answered : timerRequest memory state request = some (next, reply)) : next = state := by
  cases request with
  | new timers =>
      rw [timerRequest, timerNew] at answered
      split at answered
      · cases answered
        rfl
      · rename_i early
        rw [not_or, Nat.not_lt] at early
        exact absurd ⟨List.length_eq_zero_iff.not.1 early.2, early.1⟩ waits
  | edit timers =>
      rw [timerRequest, timerEdit] at answered
      split at answered
      · cases answered
        rfl
      · rename_i early
        rw [not_or, Nat.not_lt] at early
        refine finish_untouched refused (each_present_begins early.2 ?_) answered
        exact fun first => waits ⟨early.1, first⟩
  | del ids =>
      rw [timerRequest, timerDel] at answered
      split at answered
      · cases answered
        rfl
      · rename_i early
        exact finish_untouched refused (delete_timers_begins early waits) answered
  | enable ids => exact set_enabled_untouched refused waits answered
  | disable ids => exact set_enabled_untouched refused waits answered
  | delAll => exact absurd trivial waits
  | enableAll => exact absurd trivial waits
  | disableAll => exact absurd trivial waits

theorem request_durable {request : TimerRequest} {reply : TimerReply} (durable : Durable state)
    (saved : Saved state (.request memory request))
    (answered : timerRequest memory state request = some (next, reply)) : Durable next := by
  cases granted : memory.block with
  | false =>
      have waits : ¬Begins state.table request := by
        intro begins
        exact absurd (granted.symm.trans (saved begins)) Bool.false_ne_true
      rw [request_untouched granted waits answered]
      exact durable
  | true =>
      rcases request_after answered with rfl | ⟨left, rfl⟩ | ⟨-, after, rfl⟩
      · exact durable
      · rw [refused_restores granted durable left]
        exact durable
      · rw [granted]
        exact loaded_saved { state with table := TimerTable.nextVer after }

theorem second_durable {unset : Int} {now : IoTgoGMTTime} (durable : Durable state) :
    (∀ next, TimerStep state (.second unset now) next → Durable next) ↔
      Unfired state (.second unset now) := by
  constructor
  · intro kept sound
    rcases deal_time_ends_iff.2 sound with ⟨after, actions, dealt⟩
    have loaded : loadedTable state.flash = some after :=
      kept { state with table := after } ⟨after, actions, dealt, rfl⟩
    have same : after = state.table := Option.some.inj (loaded.symm.trans durable)
    rw [deal_time_disarms dealt] at same
    exact disarmed_table_eq_iff.1 same
  · rintro unfired next ⟨after, actions, dealt, rfl⟩
    have quiet := unfired (deal_time_ends_iff.1 ⟨after, actions, dealt⟩)
    rw [deal_time_disarms dealt, disarmed_table_eq_iff.2 quiet]
    exact durable

theorem restart_durable (durable : Durable state)
    (saved : Saved state (.restart memory)) : Durable (timerInit memory state.flash) := by
  cases granted : memory.block with
  | true =>
      have started : timerInit memory state.flash = state :=
        refused_restores granted durable .zero
      rw [started]
      exact durable
  | false =>
      have empty : state.table = .zero := by
        by_contra timers
        exact absurd (granted.symm.trans (saved timers)) Bool.false_ne_true
      have started : timerInit memory state.flash = ⟨.zero, state.flash⟩ :=
        load_refused granted _
      rw [started, ← empty]
      exact durable

theorem step_durable (state : TimerState) (event : TimerEvent) (next : TimerState)
    (durable : Durable state) (saved : Saved state event) (taken : TimerStep state event next) :
    Durable next := by
  cases event with
  | request memory request =>
      rcases taken with ⟨reply, answered⟩
      exact request_durable durable saved answered
  | second unset now => exact (second_durable durable).2 saved next taken
  | restart memory =>
      rw [taken]
      exact restart_durable durable saved

theorem unfired_needed (event : TimerEvent) (durable : Durable state)
    (kept : ∀ next, TimerStep state event next → Durable next) : Unfired state event := by
  cases event with
  | request memory request => exact trivial
  | second unset now => exact (second_durable durable).1 kept
  | restart memory => exact trivial

end Durability

theorem init_durable (flash : Flash) : Durable (timerInit .granted flash) := by
  cases loaded : loadedTable flash with
  | none =>
      have started : timerInit .granted flash = timerFlashErase true ⟨.zero, flash⟩ := by
        rw [timerInit, timerLoadFromFlash, loaded]
        rfl
      rw [started]
      exact loaded_erased ⟨.zero, flash⟩
  | some table =>
      have started : timerInit .granted flash = ⟨table, flash⟩ := load_of_loaded rfl loaded
      rw [started]
      exact loaded

/-- From a start of the device on, the chip holds the tables for as long as no one-shot
timer fires and what changes the tables finds memory; a fired timer always parts them. -/
theorem durable_while_saved (flash : Flash) (events : List TimerEvent) :
    (Meets TimerStep Saved (timerInit .granted flash) events →
      Keeps TimerStep Durable (timerInit .granted flash) events) ∧
    (Keeps TimerStep Durable (timerInit .granted flash) events →
      Meets TimerStep Unfired (timerInit .granted flash) events) := by
  constructor
  · exact keeps_of_meets Durable step_durable (init_durable flash)
  · apply meets_of_keeps
    exact fun state event durable => unfired_needed event durable

section Reboot

/-- A one-shot timer for 1 June 2016, 12:00. -/
def noonTimer : IotgoTimer :=
  { IotgoTimer.zero with
    enabled := 1
    type := .once
    timing := fun index => [0xE0, 0x07, 6, 1, 12, 0].getD index 0 }

def noon : IoTgoGMTTime where
  year := 2016
  month := 6
  day := 1
  hour := 12
  minute := 0
  second := 0

def firstSlot : Fin iotgoTimerNum := ⟨0, by decide⟩

/-- The table with the timer as its only one. -/
def noonTable : TimerTable where
  timerInfo := { timerVer := 1, timerCnt := 1 }
  timerId := Function.update (fun _ => 0) firstSlot 1
  timer := Function.update (fun _ => .zero) firstSlot { noonTimer with id := 1 }

theorem noon_added (flash : Flash) :
    timerRequest .granted ⟨.zero, flash⟩ (.new [noonTimer]) =
      some (timerSaveToFlash true ⟨noonTable, flash⟩, .updateWithId .error0 [1]) := by
  have product : timerProductId .zero = some (firstSlot, TimerTable.setId .zero firstSlot 1) := rfl
  have added : newTimers [noonTimer] [] .zero =
      ([1], .finished (TimerTable.setCnt (TimerTable.setTimer
        (TimerTable.setTimer (TimerTable.setId .zero firstSlot 1) firstSlot noonTimer)
        firstSlot { noonTimer with id := 1 }) 1)) := by
    rw [newTimers, product]
    rfl
  have timers : TimerTable.nextVer (TimerTable.setCnt (TimerTable.setTimer
      (TimerTable.setTimer (TimerTable.setId .zero firstSlot 1) firstSlot noonTimer)
      firstSlot { noonTimer with id := 1 }) 1) = noonTable := by
    simp only [TimerTable.setTimer, TimerTable.setId, TimerTable.setCnt, TimerTable.nextVer,
      Function.update_idem]
    rfl
  have room : ¬ (iotgoTimerNum < [noonTimer].length + TimerTable.zero.timerInfo.timerCnt.toNat ∨
      [noonTimer].length = 0) := by
    decide
  rw [timerRequest, timerNew, if_neg room, added]
  rw [← timers]
  rfl

theorem noon_due : due noon (noonTable.timer firstSlot) = true := by
  decide

theorem noon_sound (slot : Fin iotgoTimerNum) : faults 0 noon (noonTable.timer slot) = false := by
  revert slot
  decide

theorem noon_fires {state : TimerState} (armed : state.table = noonTable)
    (held : loadedTable state.flash = some noonTable) :
    ∃ fired, TimerStep state (.second 0 noon) fired ∧ ¬ Durable fired ∧
      (fired.table.timer firstSlot).enabled = 0 ∧
      ((timerInit .granted fired.flash).table.timer firstSlot).enabled = 1 := by
  rcases deal_time_ends_iff.2 noon_sound with ⟨after, actions, dealt⟩
  have off : (after.timer firstSlot).enabled = 0 := by
    rw [deal_time_disarms dealt]
    simp only [disarmed, noon_due, if_true]
  have loaded : timerInit .granted state.flash = ⟨noonTable, state.flash⟩ := load_of_loaded rfl held
  refine ⟨{ state with table := after }, ⟨after, actions, armed ▸ dealt, rfl⟩, ?_, off, ?_⟩
  · intro durable
    have same : noonTable = after := Option.some.inj (held.symm.trans durable)
    rw [← same] at off
    exact absurd off (by decide)
  · rw [loaded]
    rfl

theorem noon_runs {chip : Flash} (empty : loadedTable chip = some .zero) :
    ∃ fired, Run TimerStep (timerInit .granted chip) [.request .granted (.new [noonTimer]), .second 0 noon] fired ∧
      ¬ Durable fired ∧ (fired.table.timer firstSlot).enabled = 0 ∧
      ((timerInit .granted fired.flash).table.timer firstSlot).enabled = 1 := by
  have started : timerInit .granted chip = ⟨.zero, chip⟩ := load_of_loaded rfl empty
  have first : TimerStep (timerInit .granted chip) (.request .granted (.new [noonTimer]))
      (timerSaveToFlash true ⟨noonTable, chip⟩) := by
    rw [started]
    exact ⟨_, noon_added chip⟩
  rcases noon_fires (save_table true ⟨noonTable, chip⟩) (loaded_saved ⟨noonTable, chip⟩) with
    ⟨fired, second, undone⟩
  exact ⟨fired, .cons first (.cons second .nil), undone⟩

/-- A one-shot timer that has fired is not what the chip holds: a reboot arms it again. -/
theorem fired_timer_armed_again :
    ∃ fired, Run TimerStep (timerInit .granted (timerFlashErase true ⟨.zero, fun _ => 0xFF⟩).flash)
        [.request .granted (.new [noonTimer]), .second 0 noon] fired ∧
      ¬ Durable fired ∧ (fired.table.timer firstSlot).enabled = 0 ∧
      ((timerInit .granted fired.flash).table.timer firstSlot).enabled = 1 :=
  noon_runs (loaded_erased ⟨.zero, fun _ => 0xFF⟩)

/-- A timer is added, the device starts again, and a request without timers finds no memory. -/
theorem durable_while_saved_noon :
    Keeps TimerStep Durable (timerInit .granted fun _ => 0xFF)
      [.request .granted (.new [noonTimer]), .restart .granted,
        .request ⟨false, false⟩ (.new [])] := by
  apply (durable_while_saved _ _).1
  refine ⟨fun _ => rfl, fun _ _ => ⟨fun _ => rfl, fun _ _ => ⟨?_, fun _ _ => trivial⟩⟩⟩
  exact fun begins => absurd rfl begins.1

end Reboot

end IotgoFirmware.Timers.TimerRuns
