import IotgoFirmware.Timers.TimerProc
import IotgoFirmware.Timers.TimerRuns

/-!
# Where the timers come from

An accepted update changes what is configured: the JSON object of each timer. In every run
of updates, seconds of the clock and restarts, the timer in a slot is what `generateTimer`
has made of the object that is configured for it, in the tables and in the flash.
-/

namespace IotgoFirmware.Timers.TimerOrigins

open IotgoFirmware.Library.CFaults
open IotgoFirmware.Library.CJsonItems
open IotgoFirmware.Library.CStrings
open IotgoFirmware.Library.NorFlash
open IotgoFirmware.Library.SlotMaps
open IotgoFirmware.Library.StepRuns
open IotgoFirmware.Timers.TimerClock
open IotgoFirmware.Timers.TimerFlash
open IotgoFirmware.Timers.TimerJson
open IotgoFirmware.Timers.TimerLayout
open IotgoFirmware.Timers.TimerMap
open IotgoFirmware.Timers.TimerProc
open IotgoFirmware.Timers.TimerRequests
open IotgoFirmware.Timers.TimerRuns

set_option autoImplicit false

section Configuration

/-- The object of the timer in each slot. -/
abbrev Configuration := SlotMap iotgoTimerNum CJsonItem

def itemId (item : CJsonItem) : UInt8 :=
  match cJSONGetObjectItem item (asciiBytes "id") with
  | some (.number valueint _) => UInt8.ofInt valueint
  | _ => 0

/-- The items of an array that is a member of the parameters. -/
def itemsOf (cjsonParams : CJsonItem) (name : String) : List CJsonItem :=
  ((cJSONGetObjectItem cjsonParams (asciiBytes name)).map arrayItems).getD []

def idsOf (cjsonParams : CJsonItem) : List UInt8 :=
  (itemsOf cjsonParams "timerID").map fun item => UInt8.ofInt item.valueint

/-- What an action asks to configure: new objects in the lowest free slots, the last object
with an id in its slot, or no object in the slots of some ids. -/
def configuredBy (config : Configuration) (cjsonParams : CJsonItem) (act : List UInt8) :
    Configuration :=
  if act = asciiBytes "del" then fun slot =>
    if idOf slot ∈ idsOf cjsonParams then none else config slot
  else if act = asciiBytes "new" then place (fun _ item => item) (itemsOf cjsonParams "timer") config
  else if act = asciiBytes "edit" then fun slot =>
    (config slot).map fun old =>
      ((itemsOf cjsonParams "timer").reverse.find? fun item => idOf slot = itemId item).getD old
  else if act = asciiBytes "delAll" then fun _ => none
  else config

def configured (config : Configuration) (cjsonParams : CJsonItem) : Configuration :=
  match (cJSONGetObjectItem cjsonParams (asciiBytes "timerAct")).bind CJsonItem.valuestring with
  | none => config
  | some act => configuredBy config cjsonParams (cString act)

end Configuration

section Outcomes

variable {memory : BlockMemory} {state next : TimerState} {reply : TimerReply}

theorem each_present_error {Item : Type*} {id : Item → UInt8}
    {change : Item → IotgoTimer → IotgoTimer} {items : List Item} {table left : TimerTable}
    {result : TimerError} (refused : eachPresent id change items table = .refused result left) :
    result = .error500 := by
  induction items generalizing table with
  | nil => cases refused
  | cons item rest ih =>
      rw [eachPresent] at refused
      split at refused
      · cases refused
        rfl
      · cases refused
      · exact ih refused

theorem delete_timers_error {ids : List UInt8} {table left : TimerTable} {result : TimerError}
    (refused : deleteTimers ids table = .refused result left) : result = .error500 := by
  induction ids generalizing table with
  | nil => cases refused
  | cons id rest ih =>
      rw [deleteTimers] at refused
      split at refused
      · cases refused
        rfl
      · cases refused
      · dsimp only at refused
        split at refused
        · cases refused
          rfl
        · exact ih refused

/-- A batch that names ids beyond the slots is not finished. -/
theorem finish_batch_refused {batch : Batch} {answer : TimerReply}
    (error : ∀ result left, batch = .refused result left → result = .error500)
    (unfinished : ∀ after, batch ≠ .finished after)
    (answered : finishBatch memory state answer batch = some (next, reply)) :
    reply.result ≠ .error0 := by
  cases batch with
  | finished after => exact absurd rfl (unfinished after)
  | outside => cases answered
  | refused result left =>
      cases answered
      rw [error result left rfl]
      exact TimerError.noConfusion

theorem set_enabled_refused {enabled : UInt8} {ids : List UInt8}
    (range : ¬∀ id ∈ ids, id.toNat ≤ iotgoTimerNum)
    (answered : timerSetEnabled memory state enabled ids = some (next, reply)) :
    reply.result ≠ .error0 := by
  rcases set_enabled_batch enabled state ids with early | ends
  · rw [early] at answered
    cases answered
    exact TimerError.noConfusion
  · rw [ends] at answered
    exact finish_batch_refused (fun _ _ => each_present_error)
      (fun after finished => range (each_present_range finished)) answered

theorem outside_refused {request : TimerRequest} (range : ¬InRange request)
    (answered : timerRequest memory state request = some (next, reply)) : reply.result ≠ .error0 := by
  cases request with
  | new timers => exact absurd trivial range
  | edit timers =>
      rw [timerRequest, timerEdit] at answered
      split at answered
      · cases answered
        exact TimerError.noConfusion
      · exact finish_batch_refused (fun _ _ => each_present_error)
          (fun after finished => range (each_present_range finished)) answered
  | del ids =>
      rw [timerRequest, timerDel] at answered
      split at answered
      · cases answered
        exact TimerError.noConfusion
      · exact finish_batch_refused (fun _ _ => delete_timers_error)
          (fun after finished => range (delete_timers_range finished)) answered
  | enable ids => exact set_enabled_refused range answered
  | disable ids => exact set_enabled_refused range answered
  | delAll => exact absurd trivial range
  | enableAll => exact absurd trivial range
  | disableAll => exact absurd trivial range

/-- Done, the map becomes what is asked for and is saved; refused, the tables stay as they
are or are loaded again. -/
def Outcome (memory : BlockMemory) (holds : TimersById → Prop) (state : TimerState)
    (done : TimerState × TimerReply) : Prop :=
  (done.2.result = .error0 ∧ ∃ after,
      done.1 = timerSaveToFlash memory.block { state with table := TimerTable.nextVer after } ∧
      TableInvariant after ∧ holds (view after)) ∨
    done.2.result ≠ .error0 ∧
      (done.1 = state ∨ ∃ left, done.1 = timerLoadFromFlash memory { state with table := left })

theorem request_outcome (invariant : TableInvariant state.table) {request : TimerRequest}
    {holds : TimersById → Prop}
    (asked : Accepted (view state.table) request → InRange request →
      holds (applied (view state.table) request))
    (answered : timerRequest memory state request = some (next, reply)) :
    Outcome memory holds state (next, reply) := by
  by_cases range : InRange request
  · rcases request_cases invariant range with
      ⟨accepted, after, answer, done, success, kept, -, viewed⟩ | ⟨-, answer, failure, refused⟩
    · rw [done] at answered
      cases answered
      refine .inl ⟨success, after, rfl, kept, ?_⟩
      rw [viewed]
      exact asked accepted range
    · rcases refused with same | ⟨left, undone⟩
      · rw [same] at answered
        cases answered
        exact .inr ⟨failure, .inl rfl⟩
      · rw [undone] at answered
        cases answered
        exact .inr ⟨failure, .inr ⟨left, rfl⟩⟩
  · have failure := outside_refused range answered
    rcases request_after answered with rfl | undone | ⟨inside, -⟩
    · exact .inr ⟨failure, .inl rfl⟩
    · exact .inr ⟨failure, .inr undone⟩
    · exact absurd inside range

end Outcomes

section Updates

variable {world : TimerWorld} {state : TimerState} {config : Configuration}
  {done : TimerState × TimerReply} {cjsonParams : CJsonItem}

theorem made_id {print : CJsonItem → List UInt8} {behind : List UInt8} {start timer : IotgoTimer}
    {item : CJsonItem} (made : generateTimer print behind start item = .ok (some timer)) :
    itemId item = timer.id := by
  rcases generated_members made with ⟨⟨valueint, valuedouble, found, id⟩, -⟩
  rw [itemId, found, id]

/-- The timer is what `generateTimer` makes of the object. -/
def MadeFrom (print : CJsonItem → List UInt8) (item : CJsonItem) (timer : IotgoTimer) : Prop :=
  ∃ behind, generateTimer print behind .zero item = .ok (some timer)

theorem made_origin {print : CJsonItem → List UInt8} {item : CJsonItem} {timer : IotgoTimer}
    (made : MadeFrom print item timer) : Origin print item timer := by
  rcases made with ⟨behind, generated⟩
  exact ⟨behind, timer, generated, rfl⟩

theorem looked_up_present {map : TimersById} {id : UInt8}
    (present : Present map (lookedUp world id)) : lookedUp world id = id := by
  rcases present with ⟨slot, own, -⟩
  unfold lookedUp at own ⊢
  split
  · rfl
  · rename_i absent
    rw [if_neg absent] at own
    exact absurd own (id_of_ne_zero slot)

theorem looked_up_ids {map : TimersById} {ids : List UInt8}
    (present : ∀ id ∈ ids.map (lookedUp world), Present map id) : ids.map (lookedUp world) = ids := by
  refine (List.map_congr_left fun id member => ?_).trans (List.map_id ids)
  exact looked_up_present (present _ (List.mem_map_of_mem member))

theorem looked_up_timers {map : TimersById} {timers : List IotgoTimer}
    (present : ∀ timer ∈ timers.map fun timer => { timer with id := lookedUp world timer.id },
      Present map timer.id) :
    timers.map (fun timer => { timer with id := lookedUp world timer.id }) = timers := by
  refine (List.map_congr_left fun timer member => ?_).trans (List.map_id timers)
  have here := looked_up_present (present _ (List.mem_map_of_mem member))
  rw [here]
  rfl

/-- The maps of the timers that are made from a configuration. -/
abbrev FromConfig (print : CJsonItem → List UInt8) (config : Configuration) (map : TimersById) :
    Prop :=
  Related (Origin print) config map

variable (related : FromConfig world.print config (view state.table))
include related

theorem del_related {ids : List UInt8} (items : idsOf cjsonParams = ids)
    (accepted : Accepted (view state.table) (lookedUpRequest world (.del ids))) :
    FromConfig world.print (configuredBy config cjsonParams (asciiBytes "del"))
      (applied (view state.table) (lookedUpRequest world (.del ids))) := by
  have same : ids.map (lookedUp world) = ids := looked_up_ids accepted.2.2
  intro slot
  rw [lookedUpRequest, same, configuredBy, if_pos rfl, items, applied]
  dsimp only
  split
  · exact .none
  · exact related slot

theorem new_related {timers : List IotgoTimer}
    (made : List.Forall₂ (MadeFrom world.print) (itemsOf cjsonParams "timer") timers) :
    FromConfig world.print (configuredBy config cjsonParams (asciiBytes "new"))
      (applied (view state.table) (lookedUpRequest world (.new timers))) := by
  have same : lookedUpRequest world (.new timers) = .new timers := rfl
  rw [same, configuredBy, if_neg (by decide), if_pos rfl, applied]
  apply place_related related
  exact made.imp fun item timer origin slot => origin_id (made_origin origin) (idOf slot)

theorem edit_related {timers : List IotgoTimer}
    (made : List.Forall₂ (MadeFrom world.print) (itemsOf cjsonParams "timer") timers)
    (accepted : Accepted (view state.table) (lookedUpRequest world (.edit timers))) :
    FromConfig world.print (configuredBy config cjsonParams (asciiBytes "edit"))
      (applied (view state.table) (lookedUpRequest world (.edit timers))) := by
  have same := looked_up_timers accepted.2.2
  intro slot
  rw [lookedUpRequest, same, configuredBy, if_neg (by decide), if_neg (by decide), if_pos rfl,
    applied]
  dsimp only
  have last := @find_last_related _ _ (fun item => idOf slot = itemId item)
    (fun timer : IotgoTimer => idOf slot = timer.id) _ _ _ made (by
      rintro item timer ⟨behind, generated⟩
      rw [made_id generated])
  have here := related slot
  generalize config slot = old at here ⊢
  generalize view state.table slot = oldTimer at here ⊢
  generalize List.find? (fun item => decide (idOf slot = itemId item)) _ = item at last ⊢
  generalize List.find? (fun timer : IotgoTimer => decide (idOf slot = timer.id)) _ = timer at last ⊢
  cases here with
  | none => exact .none
  | some origin =>
      cases last with
      | none => exact .some origin
      | some generated => exact .some (made_origin generated)

theorem enabled_at_related (enabled : UInt8) (ids : List UInt8) :
    FromConfig world.print config (enabledAt enabled ids (view state.table)) := by
  intro slot
  have here := related slot
  unfold enabledAt
  generalize config slot = old at here ⊢
  generalize view state.table slot = oldTimer at here ⊢
  split
  · cases here with
    | none => exact .none
    | some origin => exact .some (origin_enabled origin enabled)
  · exact here

theorem enabled_all_related (enabled : UInt8) :
    FromConfig world.print config fun slot => (view state.table slot).map (setEnabled enabled) := by
  intro slot
  have here := related slot
  dsimp only
  generalize config slot = old at here ⊢
  generalize view state.table slot = oldTimer at here ⊢
  cases here with
  | none => exact .none
  | some origin => exact .some (origin_enabled origin enabled)

omit related in
theorem execute_outcome (invariant : TableInvariant state.table) {request : TimerRequest}
    (asked : Accepted (view state.table) (lookedUpRequest world request) →
      FromConfig world.print config (applied (view state.table) (lookedUpRequest world request)))
    (executed : execute world state request = .ok done) :
    Outcome world.memory (FromConfig world.print config) state done := by
  unfold execute at executed
  cases answered : timerRequest world.memory state (lookedUpRequest world request) with
  | none =>
      rw [answered] at executed
      cases executed
  | some result =>
      rw [answered] at executed
      cases executed
      exact request_outcome invariant (fun accepted _ => asked accepted) answered

omit related in
theorem proc_error_outcome (refused : procError state = .ok done) :
    Outcome world.memory (FromConfig world.print config) state done := by
  cases refused
  exact .inr ⟨TimerError.noConfusion, .inl rfl⟩

omit related in
theorem ids_outcome (invariant : TableInvariant state.table) {request : List UInt8 → TimerRequest}
    (asked : Accepted (view state.table) (lookedUpRequest world (request (idsOf cjsonParams))) →
      FromConfig world.print config
        (applied (view state.table) (lookedUpRequest world (request (idsOf cjsonParams)))))
    (ended : withMember state cjsonParams "timerID" (procIds world state request) = .ok done) :
    Outcome world.memory (FromConfig world.print config) state done := by
  unfold withMember at ended
  split at ended
  · exact proc_error_outcome ended
  · rename_i array found
    unfold procIds at ended
    split at ended
    · exact proc_error_outcome ended
    · rcases bind_ok_iff.1 ended with ⟨ids, stored, executed⟩
      have same : ids = idsOf cjsonParams := by
        rw [(store_ids_ok 0 _ stored).2, idsOf, itemsOf, found]
        rfl
      rw [same] at executed
      exact execute_outcome invariant asked executed

omit related in
theorem timers_outcome (invariant : TableInvariant state.table)
    {request : List IotgoTimer → TimerRequest}
    (asked : ∀ timers,
      List.Forall₂ (MadeFrom world.print) (itemsOf cjsonParams "timer") timers →
      Accepted (view state.table) (lookedUpRequest world (request timers)) →
      FromConfig world.print config
        (applied (view state.table) (lookedUpRequest world (request timers))))
    (ended : withMember state cjsonParams "timer" (procTimers world state request) = .ok done) :
    Outcome world.memory (FromConfig world.print config) state done := by
  unfold withMember at ended
  split at ended
  · exact proc_error_outcome ended
  · rename_i array found
    unfold procTimers at ended
    split at ended
    · exact proc_error_outcome ended
    · split at ended
      · exact proc_error_outcome ended
      · rcases bind_ok_iff.1 ended with ⟨timers, generated, last⟩
        cases timers with
        | none => exact proc_error_outcome last
        | some timers =>
            have made := generate_timers_made generated
            have items : itemsOf cjsonParams "timer" = arrayItems array := by
              rw [itemsOf, found]
              rfl
            rw [← items] at made
            exact execute_outcome invariant (asked timers made) last

theorem act_outcome (invariant : TableInvariant state.table) {act : List UInt8}
    (ended : procAct world state cjsonParams act = .ok done) :
    Outcome world.memory (FromConfig world.print (configuredBy config cjsonParams act)) state done := by
  unfold procAct at ended
  split at ended
  · rename_i del
    rw [del]
    exact ids_outcome invariant (del_related related rfl) ended
  · rename_i notDel
    split at ended
    · rename_i new
      rw [new]
      exact timers_outcome invariant (fun timers made _ => new_related related made) ended
    · rename_i notNew
      split at ended
      · rename_i edit
        rw [edit]
        exact timers_outcome invariant (fun timers made => edit_related related made) ended
      · rename_i notEdit
        rw [configuredBy, if_neg notDel, if_neg notNew, if_neg notEdit]
        split at ended
        · rename_i enable
          rw [enable, if_neg (by decide)]
          exact @ids_outcome world state config done cjsonParams invariant .enable
            (fun _ => enabled_at_related related 1 _) ended
        · split at ended
          · rename_i disable
            rw [disable, if_neg (by decide)]
            exact @ids_outcome world state config done cjsonParams invariant .disable
              (fun _ => enabled_at_related related 0 _) ended
          · split at ended
            · rename_i delAll
              rw [if_pos delAll]
              exact execute_outcome invariant (fun _ slot => .none) ended
            · rename_i notDelAll
              rw [if_neg notDelAll]
              split at ended
              · exact @execute_outcome world state config done invariant .enableAll
                  (fun _ => enabled_all_related related 1) ended
              · split at ended
                · exact @execute_outcome world state config done invariant .disableAll
                    (fun _ => enabled_all_related related 0) ended
                · exact proc_error_outcome ended

/-- An update that is accepted configures its objects, and another one changes nothing. -/
theorem update_outcome (invariant : TableInvariant state.table)
    (ended : timerProcUpdate world state cjsonParams = .ok done) :
    Outcome world.memory (FromConfig world.print (configured config cjsonParams)) state done := by
  unfold timerProcUpdate at ended
  unfold configured
  cases named : cJSONGetObjectItem cjsonParams (asciiBytes "timerAct") with
  | none =>
      rw [named] at ended
      exact proc_error_outcome ended
  | some cjsonTimerAct =>
      rw [named] at ended
      rcases bind_ok_iff.1 ended with ⟨act, string, acted⟩
      rw [deref_ok_iff] at string
      rw [Option.bind_some, string]
      exact act_outcome related invariant acted

end Updates

section Runs

/-- The timers, and the configuration that they stand for. -/
structure ManagerState where
  timers : TimerState
  config : Configuration

inductive ManagerEvent where
  | update (world : TimerWorld) (cjsonParams : CJsonItem)
  | second (unset : Int) (now : IoTgoGMTTime)
  | restart (memory : BlockMemory)

variable (print : CJsonItem → List UInt8)

/-- An update that gets through, a second of the clock or a restart; `print` is the printer of
all updates. An update whose reply is an error configures nothing. -/
def ManagerStep (state : ManagerState) (event : ManagerEvent) (next : ManagerState) : Prop :=
  match event with
  | .update world cjsonParams =>
      world.print = print ∧ ∃ reply,
        timerProcUpdate world state.timers cjsonParams = .ok (next.timers, reply) ∧
          next.config =
            if reply.result = .error0 then configured state.config cjsonParams else state.config
  | .second unset now =>
      TimerStep state.timers (.second unset now) next.timers ∧ next.config = state.config
  | .restart memory => next = { state with timers := timerInit memory state.timers.flash }

/-- There is memory for the blocks of the flash functions. -/
def Provided (event : ManagerEvent) : Prop :=
  match event with
  | .update world _ => world.memory.block = true
  | .second _ _ => True
  | .restart memory => memory.block = true

/-- What the device starts with: an erased flash, or the tables that a run has saved. The steps
of that run meet the condition. -/
inductive Started (condition : ManagerState → ManagerEvent → Prop) : ManagerState → Prop where
  | erased (state : TimerState) :
      Started condition ⟨timerInit .granted (timerFlashErase true state).flash, fun _ => none⟩
  | saved {start state : ManagerState} {before : Flash} {events : List ManagerEvent}
      (earlier : Started condition start) (met : Meets (ManagerStep print) condition start events)
      (run : Run (ManagerStep print) start events state) :
      Started condition
        ⟨timerInit .granted (timerSaveToFlash true ⟨state.timers.table, before⟩).flash,
          state.config⟩

/-- The timers, and those that would be loaded, are made from the configuration. -/
structure FollowsConfig (state : ManagerState) : Prop where
  table : TableInvariant state.timers.table
  timers : FromConfig print state.config (view state.timers.table)
  loaded : ∃ table, loadedTable state.timers.flash = some table ∧ TableInvariant table ∧
    FromConfig print state.config (view table)

variable {print} {state next : ManagerState}

theorem follows_loaded {memory : BlockMemory} (granted : memory.block = true)
    {timers : TimerState} {config : Configuration} {table : TimerTable}
    (loaded : loadedTable timers.flash = some table) (invariant : TableInvariant table)
    (related : FromConfig print config (view table)) :
    FollowsConfig print ⟨timerLoadFromFlash memory timers, config⟩ := by
  rw [load_of_loaded granted loaded]
  exact ⟨invariant, related, table, loaded, invariant, related⟩

theorem follows_saved (flash : Flash) {config : Configuration} {table : TimerTable}
    (invariant : TableInvariant table) (related : FromConfig print config (view table)) :
    FollowsConfig print ⟨timerSaveToFlash true ⟨table, flash⟩, config⟩ :=
  ⟨invariant, related, table, loaded_saved ⟨table, flash⟩, invariant, related⟩

/-- A second of the clock does no more to the map than to disable some timers. -/
theorem second_related {config : Configuration} {table : TimerTable}
    (related : FromConfig print config (view table)) (now : IoTgoGMTTime) :
    FromConfig print config
      (view { table with timer := fun slot => disarmed now (table.timer slot) }) := by
  intro slot
  have here := related slot
  unfold view at here ⊢
  dsimp only
  split
  · rename_i free
    rw [if_pos free] at here
    exact here
  · rename_i taken
    rw [if_neg taken] at here
    generalize config slot = item at here ⊢
    cases here with
    | some origin =>
        unfold disarmed
        split
        · exact .some (origin_enabled origin 0)
        · exact .some origin

theorem update_follows {world : TimerWorld} {cjsonParams : CJsonItem}
    (follows : FollowsConfig print state) (granted : world.memory.block = true)
    (taken : ManagerStep print state (.update world cjsonParams) next) :
    FollowsConfig print next := by
  rcases taken with ⟨rfl, reply, ended, config⟩
  obtain ⟨timers, config'⟩ := next
  dsimp only at ended config
  rcases update_outcome follows.timers follows.table ended with
    ⟨success, after, saved, invariant, related⟩ | ⟨failure, kept⟩
  · dsimp only at success saved
    rw [if_pos success] at config
    rw [config, saved, granted]
    exact follows_saved state.timers.flash (next_ver_invariant invariant) related
  · dsimp only at failure kept
    rw [if_neg failure] at config
    rw [config]
    rcases kept with rfl | ⟨left, rfl⟩
    · exact follows
    · rcases follows.loaded with ⟨table, loaded, invariant, related⟩
      exact @follows_loaded world.print world.memory granted { state.timers with table := left }
        state.config table loaded invariant related

theorem step_follows (state : ManagerState) (event : ManagerEvent) (next : ManagerState)
    (follows : FollowsConfig print state) (provided : Provided event)
    (taken : ManagerStep print state event next) : FollowsConfig print next := by
  cases event with
  | update world cjsonParams => exact update_follows follows provided taken
  | second unset now =>
      rcases taken with ⟨⟨table, actions, dealt, timers⟩, config⟩
      obtain ⟨timers', config'⟩ := next
      dsimp only at timers config
      rw [timers, config, deal_time_disarms dealt]
      exact ⟨second_invariant follows.table, second_related follows.timers now, follows.loaded⟩
  | restart memory =>
      rcases follows.loaded with ⟨table, loaded, invariant, related⟩
      rw [taken]
      exact follows_loaded provided loaded invariant related

theorem started_follows {condition : ManagerState → ManagerEvent → Prop}
    (provides : ∀ state event, condition state event → Provided event)
    (started : Started print condition state) : FollowsConfig print state := by
  induction started with
  | erased state => exact follows_loaded rfl (loaded_erased state) zero_invariant fun _ => .none
  | @saved start state before events _ met run ih =>
      have reached := keeps_of_meets (FollowsConfig print)
        (fun state event next follows holds => step_follows state event next follows
          (provides state event holds)) ih met
      have last := keeps_final reached run
      exact follows_loaded rfl (loaded_saved ⟨state.timers.table, before⟩) last.table last.timers

end Runs

end IotgoFirmware.Timers.TimerOrigins
