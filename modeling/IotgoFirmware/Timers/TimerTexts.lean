import IotgoFirmware.Json.RoundTrips
import IotgoFirmware.Timers.TimerQueries

/-!
# Timers in texts

The reply to a query, as cJSON prints it. What a server parses from it has all that there is
to a timer: sent back as an edit it changes none.
-/

namespace IotgoFirmware.Timers.TimerTexts

open IotgoFirmware.Library.CFaults IotgoFirmware.Library.CJsonItems
open IotgoFirmware.Library.CJsonTrees IotgoFirmware.Library.CStrings
open IotgoFirmware.Library.Doubles IotgoFirmware.Json.ItemPrinting
open IotgoFirmware.Json.ItemParsing IotgoFirmware.Json.RoundTrips
open IotgoFirmware.Timers.TimerClock IotgoFirmware.Timers.TimerFlash
open IotgoFirmware.Timers.TimerJson IotgoFirmware.Timers.TimerLayout
open IotgoFirmware.Timers.TimerMap IotgoFirmware.Timers.TimerProc
open IotgoFirmware.Timers.TimerQueries IotgoFirmware.Timers.TimerRequests

set_option autoImplicit false

section Code

/-- What a reply to the app has besides the result: `owner_uuid`, `deviceid` and the sequence
of the request. -/
structure AppReply where
  ownerUuid : List UInt8
  deviceid : List UInt8
  sequence : List UInt8

/-- `timer_manager` is the app, or the MCU. -/
def createBaseObject (app : Option AppReply) (result : Int) : CJsonItem :=
  let root := cJSONAddNumberToObject cJSONCreateObject (asciiBytes "error") result
  match app with
  | none => root
  | some reply =>
      cJSONAddStringToObject (cJSONAddStringToObject (cJSONAddStringToObject
        (cJSONAddStringToObject root (asciiBytes "userAgent") (asciiBytes "device"))
        (asciiBytes "apikey") (cString reply.ownerUuid))
        (asciiBytes "deviceid") (cString reply.deviceid))
        (asciiBytes "sequence") (cString reply.sequence)

def createTimerInfoObject (info : IotgoTimerInfo) : CJsonItem :=
  cJSONAddNumberToObject (cJSONAddNumberToObject cJSONCreateObject
    (asciiBytes "timerCnt") info.timerCnt.toNat) (asciiBytes "timerVer") info.timerVer.toNat

def queryParams (info : IotgoTimerInfo) (timers : List CJsonItem) : CJsonItem :=
  cJSONAddItemToObject (cJSONAddItemToObject cJSONCreateObject (asciiBytes "timerInfo")
    (createTimerInfoObject info)) (asciiBytes "timer") (.array timers)

/-- The object that `replyQueryTimer` prints. -/
def queryObject (app : Option AppReply) (info : IotgoTimerInfo) (timers : List CJsonItem) :
    CJsonItem :=
  cJSONAddItemToObject (createBaseObject app 0) (asciiBytes "params") (queryParams info timers)

end Code

section Trees

variable {object item : CJsonItem} {name text : List UInt8}

theorem printable_add (printable : Printable object) (nameFree : (0 : UInt8) ∉ name)
    (inside : Printable item) : Printable (cJSONAddItemToObject object name item) := by
  cases object with
  | object children =>
      have each := every_object printable
      refine .object ?_ ?_
      · intro child member
        rcases List.mem_append.1 member with member | member
        · exact (each child member).1
        · rwa [List.mem_singleton.1 member]
      · intro child member
        rcases List.mem_append.1 member with member | member
        · exact (each child member).2
        · rwa [List.mem_singleton.1 member]
  | _ => exact printable

theorem printable_add_string (printable : Printable object) (nameFree : (0 : UInt8) ∉ name)
    (textFree : (0 : UInt8) ∉ text) : Printable (cJSONAddStringToObject object name text) :=
  printable_add printable nameFree (.string textFree)

theorem printable_add_number (printable : Printable object) (nameFree : (0 : UInt8) ∉ name)
    {number : Int} (range : IsInt number) :
    Printable (cJSONAddNumberToObject object name number) :=
  printable_add printable nameFree (.number ⟨range, rfl⟩)

theorem printable_create : Printable cJSONCreateObject :=
  .object (fun _ absent => absurd absent List.not_mem_nil)
    fun _ absent => absurd absent List.not_mem_nil

theorem byte_is_int (byte : UInt8) : IsInt byte.toNat := by
  have small := byte.toNat_lt
  unfold IsInt
  omega

theorem printable_base (app : Option AppReply) : Printable (createBaseObject app 0) := by
  have root := printable_add_number printable_create (show (0 : UInt8) ∉ asciiBytes "error" by decide)
    (show IsInt 0 by unfold IsInt; decide)
  cases app with
  | none => exact root
  | some reply =>
      refine printable_add_string (printable_add_string (printable_add_string
        (printable_add_string root ?_ ?_) ?_ (c_string_nul_free _)) ?_ (c_string_nul_free _)) ?_
        (c_string_nul_free _) <;> decide

theorem printable_query {app : Option AppReply} {info : IotgoTimerInfo} {timers : List CJsonItem}
    (version : info.timerVer.toNat < 2147483648) (each : ∀ timer ∈ timers, Printable timer) :
    Printable (queryObject app info timers) := by
  have counted := printable_add_number printable_create
    (show (0 : UInt8) ∉ asciiBytes "timerCnt" by decide) (byte_is_int info.timerCnt)
  have timerInfo := printable_add_number counted
    (show (0 : UInt8) ∉ asciiBytes "timerVer" by decide)
    (show IsInt info.timerVer.toNat by unfold IsInt; omega)
  refine printable_add (printable_base app) (by decide) ?_
  exact printable_add (printable_add printable_create (by decide) timerInfo) (by decide)
    (.array each)

/-- The members in front of a new one are found before it. -/
theorem get_params (app : Option AppReply) (params : CJsonItem) :
    cJSONGetObjectItem (cJSONAddItemToObject (createBaseObject app 0) (asciiBytes "params") params)
      (asciiBytes "params") = some params := by
  cases app <;> rfl

end Trees

def relabelled (id enabled : UInt8) (timer : IotgoTimer) : IotgoTimer :=
  { timer with id, enabled }

section Labels

variable {print : CJsonItem → List UInt8} {behind text : List UInt8}
  {start timer typed : IotgoTimer} {object created : CJsonItem} (id enabled : UInt8)

theorem get_timer_type_relabelled :
    getTimerType (relabelled id enabled timer) object =
      (getTimerType timer object).map (relabelled id enabled) := by
  unfold getTimerType
  split
  · split <;> rfl
  · rfl

theorem get_timing_relabelled :
    getTiming behind (relabelled id enabled timer) text =
      (getTiming behind timer text).map (Option.map (relabelled id enabled)) := by
  have same : (relabelled id enabled timer).type = timer.type := rfl
  unfold getTiming
  rw [same]
  cases timer.type with
  | once =>
      cases parseGMTTimeFromString text <;> rfl
  | «repeat» =>
      dsimp only
      cases parseCronFromString (text ++ 0 :: behind) with
      | error fault => rfl
      | ok cron => cases cron <;> rfl
  | duration =>
      cases parseFromATString text with
      | none => rfl
      | some fields =>
          dsimp only [Option.bind_some]
          cases parseGMTTimeFromString fields.1 <;> rfl
  | invalid => rfl

theorem get_timer_at_relabelled :
    getTImerAt behind (relabelled id enabled timer) object =
      (getTImerAt behind timer object).map (Option.map (relabelled id enabled)) := by
  unfold getTImerAt
  split
  · rename_i valuestring found
    cases strcpy 30 valuestring with
    | error fault => rfl
    | ok copied =>
        exact @get_timing_relabelled behind copied
          { timer with timerAt := fun index => copied.getD index 0 } id enabled
  · rfl

theorem store_action_relabelled (offset : Nat) (action : CJsonItem) :
    storeAction print (relabelled id enabled timer) offset action =
      (storeAction print timer offset action).map (relabelled id enabled) := by
  unfold storeAction
  cases strcpy 100 (print action) <;> rfl

theorem get_timer_action_relabelled :
    getTimerAction print (relabelled id enabled timer) object =
      (getTimerAction print timer object).map (Option.map (relabelled id enabled)) := by
  unfold getTimerAction
  simp only [store_action_relabelled]
  split
  · rename_i cjsonDo found
    split
    · rfl
    · cases storeAction print timer 0 cjsonDo <;> rfl
  · split
    · rename_i startDo endDo _ _
      split
      · rfl
      · cases storeAction print timer 0 startDo with
        | error fault => rfl
        | ok started =>
            change (storeAction print (relabelled id enabled started) 100 endDo >>= _) = _
            rw [store_action_relabelled]
            change _ = (storeAction print started 100 endDo >>= _).map _
            cases storeAction print started 100 endDo <;> rfl
    · rfl

/-- An object with the same type, time and action, but other numbers. -/
structure SamePlan (left right : CJsonItem) : Prop where
  members : ∀ name ∈ ["type", "at"], member left name = member right name
  actions : actionMembers left = actionMembers right

variable {id enabled}

theorem generate_relabelled (same : SamePlan created object)
    (idItem : member created "id" = some (.number id.toNat id.toNat))
    (enabledItem : member created "enabled" = some (.number enabled.toNat enabled.toNat))
    (accepted : generateTimer print behind start object = .ok (some timer)) :
    generateTimer print behind start created = .ok (some (relabelled id enabled timer)) := by
  obtain ⟨typed, timed, head, timing, done⟩ := generate_timer_parts accepted
  obtain ⟨numbered, before, type⟩ := Option.bind_eq_some_iff.1 head
  have byte : ∀ value : UInt8, UInt8.ofInt (value.toNat : Int) = value := by
    intro value
    have small := value.toNat_lt
    have kept : ((value.toNat : Int) % 2 ^ 8).toNat = value.toNat := by omega
    rw [UInt8.ofInt, kept, UInt8.ofNat_toNat]
  have labels : (getTimerId start created).bind (getTimerEnabled · created) =
      some (relabelled id enabled start) := by
    unfold getTimerId getTimerEnabled
    rw [member_number.1 idItem, member_number.1 enabledItem, Option.bind_some]
    dsimp only
    rw [byte, byte]
    rfl
  have others : relabelled id enabled start = relabelled id enabled numbered := by
    obtain ⟨first, idDone, enabledDone⟩ := Option.bind_eq_some_iff.1 before
    unfold getTimerId at idDone
    unfold getTimerEnabled at enabledDone
    split at idDone
    · split at enabledDone
      · cases idDone
        cases enabledDone
        rfl
      · cases enabledDone
    · cases idDone
  unfold generateTimer
  rw [labels, Option.bind_some, others, get_timer_type_relabelled,
    get_timer_type_congr _ (same.members "type" (by simp)), type]
  change (getTImerAt behind (relabelled id enabled typed) created >>= _) = _
  rw [get_timer_at_relabelled, get_timer_at_congr _ _ (same.members "at" (by simp)), timing]
  change getTimerAction print (relabelled id enabled timed) created = _
  rw [get_timer_action_relabelled, get_timer_action_congr _ _ same.actions, done]
  rfl

end Labels

/-- The timer was made from an object with a `do` that can be printed, and its text reaches to
the week days. It may have got another id and have been switched on or off since. -/
structure Restorable (double : CDouble) (timer : IotgoTimer) : Prop where
  source : ∃ behind object generated action,
    generateTimer (printText double) behind .zero object = .ok (some generated) ∧
    cJSONGetObjectItem object (asciiBytes "do") = some action ∧ Printable action ∧
    (∀ text, member object "type" = some (.string (asciiBytes "repeat")) →
      member object "at" = some (.string text) → ∀ minute hour blank,
        parseMinuteHour text = some (minute, hour, blank) → blank + 5 ≤ text.length) ∧
    timer = relabelled timer.id timer.enabled generated

section Restored

variable {double : CDouble} {timer : IotgoTimer} {created : CJsonItem}

theorem created_printable {parse : List UInt8 → Option CJsonItem}
    (made : createTimerObjcet parse timer = some created)
    (actions : ∀ action, parse (cString (actionDo timer)) = some action → Printable action) :
    Printable created ∧ created.type = .object := by
  unfold createTimerObjcet at made
  cases known : typeName timer.type with
  | none =>
      rw [known] at made
      cases made
  | some name =>
      rw [known] at made
      dsimp only at made
      split at made
      · obtain ⟨action, parsed, rfl⟩ := Option.map_eq_some_iff.1 made
        have nameFree : (0 : UInt8) ∉ name := by
          rw [← type_name_seen known]
          exact c_string_nul_free name
        refine ⟨printable_add (printable_add_string (printable_add_string (printable_add_number
          (printable_add_number printable_create ?_ (byte_is_int _)) ?_ (byte_is_int _)) ?_
          (c_string_nul_free _)) ?_ nameFree) ?_ (actions action parsed), rfl⟩ <;> decide
      · split at made
        · rename_i empty both
          exact absurd both.1 empty
        · cases made

/-- A timer comes back from the object that is made of it. -/
theorem created_restores (exact : double.Exact) (restorable : Restorable double timer) :
    ∃ created, createTimerObjcet (parseText double) timer = some created ∧
      Printable created ∧ created.type = .object ∧
      ∀ behind, generateTimer (printText double) behind .zero created = .ok (some timer) := by
  obtain ⟨behind, object, generated, action, accepted, found, printable, weeks, same⟩ :=
    restorable.source
  obtain ⟨-, -, ⟨name, type, known⟩, timerAt, text⟩ := generated_members accepted
  have parsed : parseText double (cString (actionDo generated)) = some action := by
    rw [text action found, parse_text_print exact printable]
  rw [same]
  obtain ⟨created, made⟩ := @created_of_do (parseText double)
    (relabelled timer.id timer.enabled generated) action name known (parse_text_nil double) parsed
  obtain ⟨idMade, enabledMade, atMade, typeMade, again, parsedAgain, only⟩ := created_members made
  have plan : SamePlan created object := by
    constructor
    · intro field listed
      rcases List.mem_cons.1 listed with rfl | listed
      · rw [typeMade, type]
        change (typeName generated.type).map CJsonItem.string = _
        rw [known]
        rfl
      · rw [List.mem_singleton.1 listed, atMade, timerAt]
        rfl
    · have equal : again = action := Option.some.inj (parsedAgain.symm.trans parsed)
      rw [only, equal, actionMembers, found]
  obtain ⟨inside, kind⟩ := created_printable made fun other read => by
    have equal : action = other := Option.some.inj (parsed.symm.trans read)
    rwa [← equal]
  refine ⟨created, made, inside, kind, fun other => ?_⟩
  have storable : Storable created := by
    refine ⟨?_, ⟨timer.id, member_number.1 idMade⟩, ⟨timer.enabled, member_number.1 enabledMade⟩, ?_⟩
    · rw [← lookup_do, only]
      exact Option.some_ne_none again
    · rw [plan.members "type" (by simp), plan.members "at" (by simp)]
      exact weeks
  rw [generate_timer_behind storable other behind]
  exact generate_relabelled plan idMade enabledMade accepted

/-- As a list, as a query replies it and a request is read. -/
theorem timers_restored (exact : double.Exact) {world : TimerWorld}
    (prints : world.print = printText double) {timers : List IotgoTimer}
    (restorable : ∀ timer ∈ timers, Restorable double timer) :
    ∃ objects, timers.mapM (createTimerObjcet (parseText double)) = some objects ∧
      objects.length = timers.length ∧ (∀ object ∈ objects, Printable object) ∧
      ∀ index, generateTimers world index objects = .ok (some timers) := by
  induction timers with
  | nil => exact ⟨[], rfl, rfl, fun _ absent => absurd absent List.not_mem_nil, fun _ => rfl⟩
  | cons timer timers ih =>
      obtain ⟨first, later⟩ := List.forall_mem_cons.1 restorable
      obtain ⟨created, made, printable, kind, restored⟩ := created_restores exact first
      obtain ⟨objects, others, length, each, read⟩ := ih later
      refine ⟨created :: objects, by simp [List.mapM_cons, made, others], by simp [length], ?_, ?_⟩
      · exact List.forall_mem_cons.2 ⟨printable, each⟩
      · intro index
        rw [generateTimers, if_neg (not_not.2 kind), prints, restored]
        change (do return (← generateTimers world (index + 1) objects).map (timer :: ·)) = _
        rw [read]
        rfl

end Restored

section Edits

variable {world : TimerWorld} {state : TimerState}

/-- The timers that there are, sent as an edit. -/
theorem edit_used_timers (invariant : TableInvariant state.table)
    (present : 0 < state.table.timerInfo.timerCnt.toNat) :
    ∃ next reply, execute world state (.edit (usedTimers state.table)) = .ok (next, reply) ∧
      reply.result = .error0 ∧ view next.table = view state.table := by
  have own : ∀ timer ∈ usedTimers state.table, ∃ slot, timer = state.table.timer slot ∧
      timer.id = idOf slot ∧ state.table.timerId slot = idOf slot := by
    intro timer member
    obtain ⟨slot, used, rfl⟩ := List.mem_map.1 member
    exact ⟨slot, rfl, (used_slot invariant used).1, (used_slot invariant used).2⟩
  have range : InRange (.edit (usedTimers state.table)) := by
    intro timer member
    obtain ⟨slot, -, id, -⟩ := own timer member
    rw [id]
    exact id_of_bounded slot
  have looked : lookedUpRequest world (.edit (usedTimers state.table)) =
      .edit (usedTimers state.table) := by
    refine congrArg TimerRequest.edit ?_
    conv_rhs => rw [← List.map_id (usedTimers state.table)]
    refine List.map_congr_left fun timer member => ?_
    rw [lookedUp, if_pos (.inl (range timer member))]
    rfl
  have length := used_timers_length invariant
  have accepted : Accepted (view state.table) (.edit (usedTimers state.table)) := by
    refine ⟨by omega, ?_, ?_⟩
    · rw [← invariant.count, length]
    · intro timer member
      obtain ⟨slot, -, id, taken⟩ := own timer member
      rw [id]
      exact (invariant.present_iff _).2 ⟨slot, rfl, taken⟩
  have unchanged : applied (view state.table) (.edit (usedTimers state.table)) =
      view state.table := by
    funext slot
    change (view state.table slot).map _ = _
    cases seen : view state.table slot with
    | none => rfl
    | some old =>
        have taken : state.table.timerId slot ≠ 0 :=
          view_some_iff.1 (by rw [seen]; rfl)
        have same : old = state.table.timer slot := by
          rw [view_own ((invariant.ids slot).resolve_left taken)] at seen
          exact (Option.some.inj seen).symm
        rw [Option.map_some]
        congr 1
        cases found : (usedTimers state.table).reverse.find? fun timer => idOf slot = timer.id with
        | none => rfl
        | some timer =>
            obtain ⟨place, timerSlot, id, -⟩ :=
              own timer (List.mem_reverse.1 (List.mem_of_find?_eq_some found))
            have named : idOf slot = timer.id := by simpa using List.find?_some found
            have here : slot = place := by
              have ids := (slot_of_id slot).symm.trans (named.trans id ▸ slot_of_id place)
              exact Option.some.inj ids
            rw [Option.getD_some, timerSlot, same, here]
  unfold execute
  rw [looked]
  rcases edit_cases invariant range with ⟨-, after, reply, done, result, -, -, viewed⟩ |
    ⟨refused, -⟩
  · rw [done]
    refine ⟨_, reply, rfl, result, ?_⟩
    rw [save_table]
    exact viewed.trans unchanged
  · exact absurd accepted refused

/-- What a query for all timers replies is a text. The `params` that are parsed from it, sent
back to be edited, are accepted and change no timer. -/
theorem query_reply_edits_nothing {double : CDouble} (exact : double.Exact)
    (parses : world.parse = parseText double) (prints : world.print = printText double)
    (invariant : TableInvariant state.table)
    (present : 0 < state.table.timerInfo.timerCnt.toNat)
    (version : state.table.timerInfo.timerVer.toNat < 2147483648)
    (restorable : ∀ timer ∈ usedTimers state.table, Restorable double timer)
    (app : Option AppReply) :
    ∃ objects text root params,
      timerQueryTimerByIndex world state 0 (state.table.timerInfo.timerCnt - 1) =
        .ok (.timers state.table.timerInfo objects) ∧
      cJSONPrintUnformatted double (queryObject app state.table.timerInfo objects) = .ok text ∧
      cJSONParse double (text ++ [0]) = .ok (some root) ∧
      cJSONGetObjectItem root (asciiBytes "params") = some params ∧
      ∃ next reply,
        timerProcUpdate world state
          (cJSONAddStringToObject params (asciiBytes "timerAct") (asciiBytes "edit")) =
            .ok (next, reply) ∧
        reply.result = .error0 ∧ view next.table = view state.table := by
  obtain ⟨objects, created, length, each, read⟩ := timers_restored exact prints restorable
  have counted := used_timers_length invariant
  have bounded : state.table.timerInfo.timerCnt.toNat ≤ 8 := invariant.bounded
  have last : (state.table.timerInfo.timerCnt - 1).toNat =
      state.table.timerInfo.timerCnt.toNat - 1 := by
    rw [UInt8.toNat_sub_of_le _ _ (by rw [UInt8.le_iff_toNat_le]; exact present)]
    rfl
  have replied : timerQueryTimerByIndex world state 0 (state.table.timerInfo.timerCnt - 1) =
      .ok (.timers state.table.timerInfo objects) := by
    have inside : state.table.timerInfo.timerCnt - 1 < state.table.timerInfo.timerCnt := by
      rw [UInt8.lt_iff_toNat_lt, last]
      omega
    have copied : ((List.range ((state.table.timerInfo.timerCnt - 1).toNat -
        (0 : UInt8).toNat + 1)).map fun rank =>
          if (0 : UInt8).toNat ≤ rank ∧
              rank ≤ (state.table.timerInfo.timerCnt - 1).toNat then
            (usedTimers state.table).getD rank .zero
          else .zero) = usedTimers state.table := by
      conv_rhs => rw [← @List.take_length _ (usedTimers state.table)]
      rw [← take_used (Nat.le_refl _), counted, last]
      have steps : state.table.timerInfo.timerCnt.toNat - 1 - (0 : UInt8).toNat + 1 =
          state.table.timerInfo.timerCnt.toNat := by
        change state.table.timerInfo.timerCnt.toNat - 1 - 0 + 1 = _
        omega
      rw [steps]
      refine List.map_congr_left fun rank member => if_pos ⟨Nat.zero_le _, ?_⟩
      have bound := List.mem_range.1 member
      omega
    rw [query_inside invariant (UInt8.zero_le) inside, copied, replyQueryTimer, parses, created]
  have printable := @printable_query app state.table.timerInfo objects version each
  refine ⟨objects, _, _, _, replied, print_text_eq printable, parse_item_ok exact printable,
    get_params app _, ?_⟩
  obtain ⟨next, reply, done, result, same⟩ := @edit_used_timers world state invariant present
  refine ⟨next, reply, ?_, result, same⟩
  change procEdit world state (.array objects) = _
  have size : cJSONGetArraySize (.array objects) % 256 = objects.length := by
    change objects.length % 256 = objects.length
    omega
  have all : arrayItems (.array objects) = objects := by
    rw [arrayItems, size]
    exact List.take_length
  have kind : (CJsonItem.array objects).type = .array := rfl
  unfold procEdit procTimers
  rw [if_neg (not_not.2 kind), size, if_neg (by change ¬ 8 < _; omega), all, read]
  exact done

end Edits

section Instances

theorem cron_restorable {timer : IotgoTimer}
    (accepted : generateTimer (printText unrounded) [] .zero cronObject = .ok (some timer))
    (id : UInt8) : Restorable unrounded { timer with id } := by
  refine ⟨[], cronObject, timer, switchOn, accepted, rfl, switch_on_printable, ?_, rfl⟩
  intro text _ found minute hour blank parsed
  have known : text = asciiBytes "10 8 * * 1" := by
    cases found
    rfl
  have place : parseMinuteHour (asciiBytes "10 8 * * 1") = some (10, 8, 4) := by decide +kernel
  rw [known, place] at parsed
  cases parsed
  rw [known]
  decide

theorem query_reply_edits_nothing_cron :
    ∃ timer, generateTimer (printText unrounded) [] .zero cronObject = .ok (some timer) ∧
      ∃ objects text root params,
        timerQueryTimerByIndex cjsonWorld ⟨twoTimers timer, fun _ => 255⟩ 0 (2 - 1) =
          .ok (.timers ⟨1, 2⟩ objects) ∧
        cJSONPrintUnformatted unrounded (queryObject none ⟨1, 2⟩ objects) = .ok text ∧
        cJSONParse unrounded (text ++ [0]) = .ok (some root) ∧
        cJSONGetObjectItem root (asciiBytes "params") = some params ∧
        ∃ next reply,
          timerProcUpdate cjsonWorld ⟨twoTimers timer, fun _ => 255⟩
            (cJSONAddStringToObject params (asciiBytes "timerAct") (asciiBytes "edit")) =
              .ok (next, reply) ∧
          reply.result = .error0 ∧ view next.table = view (twoTimers timer) := by
  obtain ⟨timer, accepted⟩ := cron_timer_made
  refine ⟨timer, accepted, @query_reply_edits_nothing cjsonWorld ⟨twoTimers timer, fun _ => 255⟩
    unrounded unrounded_exact rfl rfl (two_timers_invariant timer) ?_ ?_ ?_ none⟩
  · change 0 < (2 : UInt8).toNat
    decide
  · change (1 : UInt32).toNat < 2147483648
    decide
  · intro other member
    obtain ⟨slot, used, rfl⟩ := List.mem_map.1 member
    have low : slot.val < 2 := by
      by_contra high
      have set := (List.mem_filter.1 used).2
      unfold twoTimers at set
      simp [high, IotgoTimer.zero] at set
    change Restorable unrounded (if slot.val < 2 then { timer with id := idOf slot } else .zero)
    rw [if_pos low]
    exact cron_restorable accepted (idOf slot)

end Instances

end IotgoFirmware.Timers.TimerTexts
