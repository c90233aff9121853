import IotgoFirmware.Mcu.CmdHandlers

/-!
# The dispatch of the commands of the MCU

`processCmd` looks the first element of the array up in the table of `FWTRX_TC.c`, and
`processErrorCmd` tells the MCU what the handler has returned, unless it is success. The
first element is compared as a string whatever it is.
-/

namespace IotgoFirmware.Mcu.CmdDispatch

open IotgoFirmware.Library.CFaults
open IotgoFirmware.Library.CJsonItems
open IotgoFirmware.Library.CStrings
open IotgoFirmware.Mcu.CmdHandlers
open IotgoFirmware.Timers.TimerMap
open IotgoFirmware.Timers.TimerProc
open IotgoFirmware.Uart.U2artSchedule (U2artError errorCode)

set_option autoImplicit false

section Dispatch

variable (world : TimerWorld) (reads : CmdReads) (state : CmdState)

/-- `tc_cmd`; every entry has an action. -/
def tcCmd : List (List UInt8 × (CJsonItem → CmdRun)) :=
  [(asciiBytes "tick", processTickCmd state),
    (asciiBytes "baudrate", processBaudCmd state),
    (asciiBytes "dog", processDogCmd state),
    (asciiBytes "sled", processSledCmd state),
    (asciiBytes "stateInfo", processStateInfoCmd state),
    (asciiBytes "state", processStateCmd reads state),
    (asciiBytes "rssi", processRssiCmd reads state),
    (asciiBytes "time", processTimeCmd reads state),
    (asciiBytes "setting", processSettingCmd reads state),
    (asciiBytes "version", processVersionCmd state),
    (asciiBytes "deviceid", processDeviceId reads state),
    (asciiBytes "stamac", processStamacCmd reads state),
    (asciiBytes "sapmac", processSapMacCmd reads state),
    (asciiBytes "update", processUpdateCmd reads state),
    (asciiBytes "respond", processRespondCmd reads state),
    (asciiBytes "query", processQueryCmd reads state),
    (asciiBytes "tmrNew", processTimerUpdateWithParamCmd world state),
    (asciiBytes "tmrEdit", processTimerUpdateWithParamCmd world state),
    (asciiBytes "tmrDel", processTimerUpdateWithParamCmd world state),
    (asciiBytes "tmrDelAll", processTimerUpdateCmd world reads state),
    (asciiBytes "tmrEnable", processTimerUpdateWithParamCmd world state),
    (asciiBytes "tmrEnableAll", processTimerUpdateCmd world reads state),
    (asciiBytes "tmrDisable", processTimerUpdateWithParamCmd world state),
    (asciiBytes "tmrDisableAll", processTimerUpdateCmd world reads state),
    (asciiBytes "tmrQuery", processTimerQueryDevCmd world state),
    (asciiBytes "crc", processCrcCmd state),
    (asciiBytes "tmrMsg", processTmrMsgCmd state),
    (asciiBytes "ret", processRetCmd state)]

/-- The type of the first element is not looked at. -/
def processCmd (root : CJsonItem) : CmdRun :=
  if root.type ≠ .array then refuse state .formatError
  else
    match cJSONGetArrayItem root 0 with
    | none => refuse state .formatError
    | some cmd => do
        let valuestring ← deref cmd.valuestring
        match (tcCmd world reads state).find? fun entry => entry.1 = cString valuestring with
        | some entry => entry.2 root
        | none => refuse state .noSupport

def processErrorCmd (result : U2artError × CmdState) : CmdState :=
  match errorCode result.1 with
  | some code => result.2.emit (.frame (.ret code))
  | none => result.2

/-- What `parseU2artData` does with the payload of a frame. -/
def serveCmd (root : CJsonItem) : Checked CmdState := do
  let result ← processCmd world reads state root
  return processErrorCmd result

end Dispatch

section Serving

/-- The frames that a command is to be answered with. -/
def answerCount (root : CJsonItem) : Nat :=
  match cJSONGetArrayItem root 0 with
  | some (.string valuestring) => if cString valuestring = asciiBytes "ret" then 0 else 1
  | _ => 1

/-- The command is served without a fault, and with as many frames as are due to it. -/
def Served (world : TimerWorld) (reads : CmdReads) (state : CmdState) (root : CJsonItem) : Prop :=
  ∃ next, serveCmd world reads state root = .ok next ∧
    next.frames = state.frames + answerCount root

/-- The arguments of a command fit its buffers: the answer to `sapmac` has no mac, a request
to the timers fits theirs, and the first item of a query is a string. -/
def ArgsFit (world : TimerWorld) (reads : CmdReads) (state : CmdState) (name : List UInt8)
    (root : CJsonItem) : Prop :=
  (name = asciiBytes "sapmac" → cJSONGetArraySize root = 1 → reads.sapMac = none) ∧
    (∀ act members, timerActOf name = some act → cJSONGetArraySize root = 2 →
      cJSONGetArrayItem root 1 = some (.object members) →
        UpdateFits world state.timers
          (cJSONAddStringToObject (.object members) (asciiBytes "timerAct") act)) ∧
    (name = asciiBytes "tmrQuery" → cJSONGetArraySize root = 2 → ∀ items first,
      cJSONGetArrayItem root 1 = some (.array items) → items[0]? = some first →
        first.type = .string)

/-- The first element is a string, and the other elements fit. -/
def CmdFits (world : TimerWorld) (reads : CmdReads) (state : CmdState) (root : CJsonItem) : Prop :=
  ∃ name, cJSONGetArrayItem root 0 = some (.string name) ∧
    ArgsFit world reads state (cString name) root

variable {world : TimerWorld} {reads : CmdReads} {state : CmdState} {root : CJsonItem}
  {name : List UInt8}

theorem args_fit_of_plain (sapmac : name ≠ asciiBytes "sapmac") (act : timerActOf name = none)
    (query : name ≠ asciiBytes "tmrQuery") : ArgsFit world reads state name root := by
  refine ⟨fun same => absurd same sapmac, fun _ _ named => ?_, fun same => absurd same query⟩
  rw [act] at named
  cases named

theorem with_param_iff (invariant : TableInvariant state.timers.table) (array : root.type = .array)
    {valuestring : List UInt8} (first : cJSONGetArrayItem root 0 = some (.string valuestring))
    (sapmac : cString valuestring ≠ asciiBytes "sapmac")
    (query : cString valuestring ≠ asciiBytes "tmrQuery") :
    Serves state (processTimerUpdateWithParamCmd world state root) ↔
      ArgsFit world reads state (cString valuestring) root := by
  rw [timer_update_with_param_serves_iff invariant]
  constructor
  · intro fits
    refine ⟨fun same => absurd same sapmac, fun act members named size object => ?_,
      fun same => absurd same query⟩
    exact fits array size valuestring members act first object named
  · intro fits _ size valuestring' members act found object named
    rw [first] at found
    cases found
    exact fits.2.1 act members named size object

theorem sapmac_iff (array : root.type = .array) :
    Serves state (processSapMacCmd reads state root) ↔
      ArgsFit world reads state (asciiBytes "sapmac") root := by
  rw [sapmac_serves_iff]
  constructor
  · intro fits
    refine ⟨fun _ => fits array, fun act members named => ?_, fun same => absurd same (by decide)⟩
    cases named
  · intro fits _
    exact fits.1 rfl

theorem query_iff (invariant : TableInvariant state.timers.table) (array : root.type = .array) :
    Serves state (processTimerQueryDevCmd world state root) ↔
      ArgsFit world reads state (asciiBytes "tmrQuery") root := by
  rw [timer_query_serves_iff invariant]
  constructor
  · intro fits
    refine ⟨fun same => absurd same (by decide), fun act members named => ?_, fun _ => fits array⟩
    cases named
  · intro fits _
    exact fits.2.2 rfl

theorem entry_serves_iff (invariant : TableInvariant state.timers.table)
    (array : root.type = .array) {valuestring : List UInt8}
    (first : cJSONGetArrayItem root 0 = some (.string valuestring))
    {name : List UInt8} {action : CJsonItem → CmdRun}
    (listed : (name, action) ∈ tcCmd world reads state)
    (named : name = cString valuestring) (ret : name ≠ asciiBytes "ret") :
    Serves state (action root) ↔ ArgsFit world reads state (cString valuestring) root := by
  simp only [tcCmd, List.mem_cons, List.not_mem_nil, or_false, Prod.mk.injEq] at listed
  rw [← named]
  have plain : ∀ {name : List UInt8} {run : CmdRun}, Serves state run →
      name ≠ asciiBytes "sapmac" → timerActOf name = none → name ≠ asciiBytes "tmrQuery" →
        (Serves state run ↔ ArgsFit world reads state name root) :=
    fun served sapmac act query => iff_of_true served (args_fit_of_plain sapmac act query)
  have param : ∀ {name : List UInt8}, name = cString valuestring →
      name ≠ asciiBytes "sapmac" → name ≠ asciiBytes "tmrQuery" →
        (Serves state (processTimerUpdateWithParamCmd world state root) ↔
          ArgsFit world reads state name root) := by
    rintro name rfl sapmac query
    exact with_param_iff invariant array first sapmac query
  rcases listed with ⟨rfl, rfl⟩ | ⟨rfl, rfl⟩ | ⟨rfl, rfl⟩ | ⟨rfl, rfl⟩ | ⟨rfl, rfl⟩ |
    ⟨rfl, rfl⟩ | ⟨rfl, rfl⟩ | ⟨rfl, rfl⟩ | ⟨rfl, rfl⟩ | ⟨rfl, rfl⟩ | ⟨rfl, rfl⟩ | ⟨rfl, rfl⟩ |
    ⟨rfl, rfl⟩ | ⟨rfl, rfl⟩ | ⟨rfl, rfl⟩ | ⟨rfl, rfl⟩ | ⟨rfl, rfl⟩ | ⟨rfl, rfl⟩ | ⟨rfl, rfl⟩ |
    ⟨rfl, rfl⟩ | ⟨rfl, rfl⟩ | ⟨rfl, rfl⟩ | ⟨rfl, rfl⟩ | ⟨rfl, rfl⟩ | ⟨rfl, rfl⟩ | ⟨rfl, rfl⟩ |
    ⟨rfl, rfl⟩ | ⟨rfl, rfl⟩
  · exact plain tick_serves (by decide) rfl (by decide)
  · exact plain baud_serves (by decide) rfl (by decide)
  · exact plain dog_serves (by decide) rfl (by decide)
  · exact plain sled_serves (by decide) rfl (by decide)
  · exact plain state_info_serves (by decide) rfl (by decide)
  · exact plain state_serves (by decide) rfl (by decide)
  · exact plain rssi_serves (by decide) rfl (by decide)
  · exact plain time_serves (by decide) rfl (by decide)
  · exact plain setting_serves (by decide) rfl (by decide)
  · exact plain version_serves (by decide) rfl (by decide)
  · exact plain device_id_serves (by decide) rfl (by decide)
  · exact plain stamac_serves (by decide) rfl (by decide)
  · exact sapmac_iff array
  · exact plain update_serves (by decide) rfl (by decide)
  · exact plain respond_serves (by decide) rfl (by decide)
  · exact plain query_serves (by decide) rfl (by decide)
  · exact param named (by decide) (by decide)
  · exact param named (by decide) (by decide)
  · exact param named (by decide) (by decide)
  · exact plain (timer_update_serves invariant) (by decide) rfl (by decide)
  · exact param named (by decide) (by decide)
  · exact plain (timer_update_serves invariant) (by decide) rfl (by decide)
  · exact param named (by decide) (by decide)
  · exact plain (timer_update_serves invariant) (by decide) rfl (by decide)
  · exact query_iff invariant array
  · exact plain crc_serves (by decide) rfl (by decide)
  · exact plain tmr_msg_serves (by decide) rfl (by decide)
  · exact absurd rfl ret

theorem frames_error_cmd (result : U2artError × CmdState) :
    (processErrorCmd result).frames = result.2.frames + (errorCode result.1).toList.length := by
  unfold processErrorCmd
  cases errorCode result.1 with
  | none => rfl
  | some code => exact frames_emit _

theorem one_frame_iff {run : CmdRun} :
    (∃ next, (run >>= fun result => pure (processErrorCmd result)) = .ok next ∧
      next.frames = state.frames + 1) ↔ Serves state run := by
  constructor
  · rintro ⟨next, done, counted⟩
    rcases bind_ok_iff.1 done with ⟨result, first, last⟩
    cases last
    refine ⟨result, first, ?_⟩
    rw [frames_error_cmd] at counted
    exact counted
  · rintro ⟨result, first, answered⟩
    refine ⟨processErrorCmd result, bind_ok_iff.2 ⟨result, first, rfl⟩, ?_⟩
    rw [frames_error_cmd]
    exact answered

theorem timer_act_listed {act : List UInt8} (named : timerActOf name = some act) :
    name ∈ (tcCmd world reads state).map Prod.fst := by
  simp only [tcCmd, List.map_cons, List.map_nil]
  unfold timerActOf at named
  split at named
  · rename_i same
    rw [same]
    decide
  · split at named
    · rename_i same
      rw [same]
      decide
    · split at named
      · rename_i same
        rw [same]
        decide
      · split at named
        · rename_i same
          rw [same]
          decide
        · split at named
          · rename_i same
            rw [same]
            decide
          · cases named

theorem args_fit_of_unlisted (unlisted : name ∉ (tcCmd world reads state).map Prod.fst) :
    ArgsFit world reads state name root := by
  apply args_fit_of_plain
  · rintro rfl
    apply unlisted
    simp only [tcCmd, List.map_cons, List.map_nil]
    decide
  · cases named : timerActOf name with
    | none => rfl
    | some act => exact absurd (timer_act_listed named) unlisted
  · rintro rfl
    apply unlisted
    simp only [tcCmd, List.map_cons, List.map_nil]
    decide

/-- The entry that is found for a name, if there is one. -/
def actionOf (world : TimerWorld) (reads : CmdReads) (state : CmdState) (name : List UInt8)
    (root : CJsonItem) : CmdRun :=
  match (tcCmd world reads state).find? fun entry => entry.1 = name with
  | some entry => entry.2 root
  | none => refuse state .noSupport

theorem process_cmd_string (array : root.type = .array) {valuestring : List UInt8}
    (first : cJSONGetArrayItem root 0 = some (.string valuestring)) :
    processCmd world reads state root = actionOf world reads state (cString valuestring) root := by
  unfold processCmd
  rw [if_neg (not_not.2 array), first]
  rfl

theorem action_serves_iff (invariant : TableInvariant state.timers.table)
    (array : root.type = .array) {valuestring : List UInt8}
    (first : cJSONGetArrayItem root 0 = some (.string valuestring))
    (ret : cString valuestring ≠ asciiBytes "ret") :
    Serves state (actionOf world reads state (cString valuestring) root) ↔
      ArgsFit world reads state (cString valuestring) root := by
  unfold actionOf
  cases found : (tcCmd world reads state).find? fun entry => entry.1 = cString valuestring with
  | none =>
      refine iff_of_true (serves_refuse rfl rfl) (args_fit_of_unlisted fun member => ?_)
      rcases List.mem_map.1 member with ⟨entry, listed, named⟩
      have missed := List.find?_eq_none.1 found entry listed
      exact missed (decide_eq_true named)
  | some entry =>
      have chosen := List.find?_some found
      have named : entry.1 = cString valuestring := of_decide_eq_true chosen
      exact entry_serves_iff invariant array first (List.mem_of_find?_eq_some found) named
        (named ▸ ret)

/-- A command is served, and answered once, where its name is a string and its arguments
fit. -/
theorem cmd_served_iff (invariant : TableInvariant state.timers.table)
    (array : root.type = .array) (filled : 0 < cJSONGetArraySize root) :
    Served world reads state root ↔ CmdFits world reads state root := by
  rcases item_of_size filled with ⟨cmd, first⟩
  cases string : cmd.valuestring with
  | none =>
      constructor
      · rintro ⟨next, done, -⟩
        unfold serveCmd processCmd at done
        rw [if_neg (not_not.2 array), first] at done
        dsimp only at done
        rw [string] at done
        cases done
      · rintro ⟨name, other, -⟩
        rw [first] at other
        cases other
        cases string
  | some valuestring =>
      rw [valuestring_some_iff] at string
      subst string
      have fits : CmdFits world reads state root ↔
          ArgsFit world reads state (cString valuestring) root := by
        unfold CmdFits
        rw [first]
        constructor
        · rintro ⟨name, same, args⟩
          cases same
          exact args
        · intro args
          exact ⟨valuestring, rfl, args⟩
      rw [fits]
      unfold Served serveCmd answerCount
      rw [process_cmd_string array first, first]
      by_cases ret : cString valuestring = asciiBytes "ret"
      · rcases @ret_is_silent state root array with ⟨next, done, silent⟩
        have action : actionOf world reads state (asciiBytes "ret") root = .ok (.success, next) :=
          done
        dsimp only
        rw [if_pos ret, ret, action]
        exact iff_of_true ⟨next, rfl, silent⟩ (args_fit_of_plain (by decide) rfl (by decide))
      · dsimp only
        rw [if_neg ret, ← action_serves_iff invariant array first ret]
        exact one_frame_iff

end Serving

section Parser

open IotgoFirmware.Uart.U2artSchedule (CJson Cmd CmdAnswer CmdProcessor U2art)

/-- What the parser of the frames sees of the payload. -/
def parserView (root : CJsonItem) : CJson where
  isArray := decide (root.type = .array)
  items := root.child.map fun item => item.valuestring.map cString

/-- What it sees of the table. -/
def parserTable (world : TimerWorld) (reads : CmdReads) (state : CmdState) : List Cmd :=
  (tcCmd world reads state).map fun entry => ⟨entry.1, true⟩

variable {world : TimerWorld} {reads : CmdReads} {state : CmdState} {root : CJsonItem}
  {Queue : Type} {processor : CmdProcessor} {answer : CmdAnswer}
  {parser : U2art Queue}

theorem parser_view_first (array : root.type = .array) :
    ((some (parserView root)).filter (·.isArray)).bind (·.items[0]?) =
      (cJSONGetArrayItem root 0).map fun item => item.valuestring.map cString := by
  have isArray : (parserView root).isArray = true := decide_eq_true array
  rw [Option.filter_some_pos isArray]
  exact List.getElem?_map

/-- The parser's `processCmd` ends with the result of the handler, for any answer that the
handler gives. -/
theorem process_cmd_refines (table : processor.cmd = parserTable world reads state)
    (payload : parser.data.root = some (parserView root)) {result : U2artError × CmdState}
    (done : processCmd world reads state root = .ok result) (given : answer.1 = result.1) :
    ∃ next, Uart.U2artSchedule.processCmd processor answer parser = some next ∧
      next.result = result.1 := by
  unfold processCmd at done
  unfold Uart.U2artSchedule.processCmd
  rw [payload, table]
  by_cases array : root.type = .array
  · rw [parser_view_first array]
    rw [if_neg (not_not.2 array)] at done
    cases first : cJSONGetArrayItem root 0 with
    | none =>
        rw [first] at done
        cases done
        exact ⟨_, rfl, rfl⟩
    | some cmd =>
        rw [first] at done
        rcases bind_ok_iff.1 done with ⟨valuestring, string, later⟩
        rw [deref_ok_iff] at string
        rw [Option.map_some, string, Option.map_some]
        have looked : (parserTable world reads state).find?
            (fun entry => entry.cmd = cString valuestring) =
              ((tcCmd world reads state).find? fun entry => entry.1 = cString valuestring).map
                fun entry => ⟨entry.1, true⟩ :=
          List.find?_map ..
        dsimp only
        rw [looked]
        cases found : (tcCmd world reads state).find? fun entry =>
            entry.1 = cString valuestring with
        | none =>
            rw [found] at later
            cases later
            exact ⟨_, rfl, rfl⟩
        | some entry => exact ⟨_, rfl, given⟩
  · have seen : ((some (parserView root)).filter (·.isArray)).bind (·.items[0]?) = none := by
      simp [parserView, array]
    rw [seen]
    rw [if_pos array] at done
    cases done
    exact ⟨_, rfl, rfl⟩

theorem process_cmd_stuck (table : processor.cmd = parserTable world reads state)
    (payload : parser.data.root = some (parserView root)) (array : root.type = .array)
    {item : CJsonItem} (first : cJSONGetArrayItem root 0 = some item)
    (other : item.valuestring = none) :
    Uart.U2artSchedule.processCmd processor answer parser = none ∧
      processCmd world reads state root = .error .null := by
  unfold processCmd Uart.U2artSchedule.processCmd
  rw [payload, table, parser_view_first array, first, Option.map_some, other,
    if_neg (not_not.2 array)]
  refine ⟨if_neg nofun, ?_⟩
  dsimp only
  rw [other]
  rfl

end Parser

section Instances

def someReads : CmdReads where
  mode := .workNormal
  iotgoWifiRssi := -60
  gmtTime := ⟨2016, 1, 1, 8, 0, 0⟩
  device := ⟨asciiBytes "owner-1", asciiBytes "1000000001"⟩
  deviceidShort := by decide
  stationMac := some fun _ => 0x5C
  sapMac := some fun _ => 0x5E
  created := true
  sendIoTgoPkg := 0

def idleCmdState : CmdState where
  tcConfig := ⟨9600, false, 0, false, 0, false⟩
  normalModeLedOff := false
  crcEnable := false
  tmrMsgFlag := false
  flow := .initial
  timers := ⟨.zero, fun _ => 0xFF⟩
  tc := .initial
  log := []

/-- Memory of zeros, and a parser and a printer that are not used. -/
def blankWorld : TimerWorld where
  memory := .granted
  parse _ := none
  print _ := []
  behind _ := []
  stray _ := 0
  strayTimer _ := .zero

/-- `["tmrDel",{"timerID":[1]}]`. -/
def deleteFirst : CJsonItem :=
  .array [.string (asciiBytes "tmrDel"),
    .object [(asciiBytes "timerID", .array [.number 1 1])]]

theorem cmd_served_delete : Served blankWorld someReads idleCmdState deleteFirst := by
  refine (cmd_served_iff zero_invariant rfl (by decide)).2 ⟨asciiBytes "tmrDel", rfl, ?_, ?_, ?_⟩
  · intro same
    exact absurd same (by decide)
  · intro act members named size object
    cases named
    cases object
    intro cjsonTimerAct found
    cases found
    refine ⟨asciiBytes "del", rfl, fun _ => ?_, fun same => ?_, fun same => ?_, fun same => ?_,
      fun same => ?_⟩
    · intro array listed _
      cases listed
      refine ⟨by decide, fun front id back split _ _ beyond => ?_⟩
      have member : id ∈ [(1 : UInt8)] := by
        change id ∈ (arrayItems (.array [.number 1 1])).map fun item => UInt8.ofInt item.valueint
        rw [split]
        exact List.mem_append_right front List.mem_cons_self
      rw [List.mem_singleton.1 member] at beyond
      exact absurd beyond (by decide)
    all_goals
      exact absurd same (by decide)
  · intro same
    exact absurd same (by decide)

/-- `["sapmac"]`: the answer is longer than the array it is put together in. -/
theorem sapmac_overflows :
    ¬ ∀ (world : TimerWorld) (reads : CmdReads) (state : CmdState) (root : CJsonItem),
      TableInvariant state.timers.table → root.type = .array → 0 < cJSONGetArraySize root →
        Served world reads state root := by
  intro served
  have answered := served blankWorld someReads idleCmdState
    (.array [.string (asciiBytes "sapmac")]) zero_invariant rfl (by decide)
  unfold Served serveCmd at answered
  rw [process_cmd_string rfl rfl] at answered
  have fits := (action_serves_iff zero_invariant rfl rfl (by decide)).1 (one_frame_iff.1 answered)
  cases fits.1 (by decide) rfl

end Instances

end IotgoFirmware.Mcu.CmdDispatch
