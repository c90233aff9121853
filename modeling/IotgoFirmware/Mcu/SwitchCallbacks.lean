import IotgoFirmware.Core.PkgNesting
import IotgoFirmware.Mcu.FlowControl
import IotgoFirmware.Mcu.TcQueue
import IotgoFirmware.Timers.TimerProc

/-!
# The messages of the server to the device

Three callbacks of `FWTRX_TC.c` take the texts that `parseTypeOfIoTgoPkg` has found to
be an update, a query or the response to a query, and parse them once more, with cJSON.
What `cJSON_Parse` returns is tested for `NULL` by way of its type.
-/

namespace IotgoFirmware.Mcu.SwitchCallbacks

open IotgoFirmware.Core.PkgNesting
open IotgoFirmware.Core.PkgScan
open IotgoFirmware.Library.CFaults
open IotgoFirmware.Library.CJsonItems
open IotgoFirmware.Library.CStrings
open IotgoFirmware.Library.JsonDocuments
open IotgoFirmware.Mcu.FlowControl (deleteField)
open IotgoFirmware.Mcu.TcQueue
open IotgoFirmware.Timers.TimerJson (switchOn printSwitch)
open IotgoFirmware.Timers.TimerLayout
open IotgoFirmware.Timers.TimerFlash
open IotgoFirmware.Timers.TimerMap
open IotgoFirmware.Timers.TimerProc

set_option autoImplicit false

section Callbacks

/-- The variables the callbacks use; `replies` are the answers of the timers to the server. -/
structure SwitchState where
  serverSequenceValue : List UInt8
  timers : TimerState
  tc : TcState
  tmrMsgFlag : Bool
  replies : List ManagerReply

/-- `IOTGO_STRING_INVALID_SEQUENCE`. -/
def invalidSequence : List UInt8 :=
  asciiBytes "Invalid sequence"

variable (world : TimerWorld) (state : SwitchState)

/-- `server_sequence_value` has 51 bytes. -/
def storeSequence (cjsonSequence : CJsonItem) : Checked SwitchState := do
  let valuestring ← deref cjsonSequence.valuestring
  let serverSequenceValue ← strcpy 51 valuestring
  return { state with serverSequenceValue := serverSequenceValue }

def addDataToQueue (data : List UInt8) : SwitchState :=
  { state with tc := (tcAddDataToQueue state.tc (some data) tcNull false).2 }

/-- Both items are printed, and put together in as many bytes as they have and `more`; `NULL`
is printed as `NULL`. -/
def addMessage (opening : String) (more : Nat) (cjsonSequence cjsonParams : Option CJsonItem) :
    Checked SwitchState := do
  let params ← deref (cjsonParams.map world.print)
  let sequence ← deref (cjsonSequence.map world.print)
  let data ← strcpy (strlen params + strlen sequence + more)
    (asciiBytes opening ++ cString sequence ++ asciiBytes "," ++ cString params ++ asciiBytes "]")
  return addDataToQueue state data

/-- The answer for the number 0. -/
def addEmptyResponse (cjsonSequence : CJsonItem) : Checked SwitchState := do
  let sequence := world.print cjsonSequence
  let data ← strcpy (strlen sequence + 16)
    (asciiBytes "[\"respond\"," ++ cString sequence ++ asciiBytes ",\x7b\x7d]")
  return addDataToQueue state data

/-- A query for the timers is answered here; any other goes to the MCU. -/
def queryParams (cjsonSequence cjsonParams : CJsonItem) : Checked SwitchState :=
  match cJSONGetArrayItem cjsonParams 0 with
  | none => .ok state
  | some cjsonTimerAct => do
      let act ← deref cjsonTimerAct.valuestring
      if cString act = asciiBytes "timerInfo" ∨ cString act = asciiBytes "timerIndex" ∨
          cString act = asciiBytes "timerID" then
        return { state with
          replies := state.replies ++ [← timerProcQuery world state.timers cjsonParams] }
      else addMessage world state "[\"queryDev\"," 15 (some cjsonSequence) (some cjsonParams)

/-- `cjson_root == NULL && cjson_root->type != cJSON_Object` reads the type of `NULL`, and
lets every other document pass. -/
def switchReqQueryCallback (data : List UInt8) : Checked SwitchState := do
  let cjsonRoot ← deref (world.parse (cString data))
  match cJSONGetObjectItem cjsonRoot (asciiBytes "sequence") with
  | none => return { state with serverSequenceValue := invalidSequence }
  | some cjsonSequence =>
      let stored ← storeSequence state cjsonSequence
      match cJSONGetObjectItem cjsonRoot (asciiBytes "params") with
      | none => return stored
      | some cjsonParams =>
          if cjsonParams.type = .array then queryParams world stored cjsonSequence cjsonParams
          else return stored

def switchRespQueryCallback (data : List UInt8) : Checked SwitchState := do
  let cjsonRoot ← deref (world.parse (cString data))
  match cJSONGetObjectItem cjsonRoot (asciiBytes "d_seq") with
  | none => return state
  | some cjsonSequence =>
      match cJSONGetObjectItem cjsonRoot (asciiBytes "params") with
      | none => return state
      | some cjsonParams =>
          let kept := deleteField cjsonParams
          if kept.1 then
            addMessage world state "[\"respond\"," 14 (some cjsonSequence) (some kept.2)
          else if cjsonParams.type = .number ∧ cjsonParams.valueint = 0 then
            addEmptyResponse world state cjsonSequence
          else return state

/-- `{"timerCnt":...,"timerVer":...}`. -/
def timerInfoObject (timerInfo : IotgoTimerInfo) : CJsonItem :=
  cJSONAddNumberToObject
    (cJSONAddNumberToObject cJSONCreateObject (asciiBytes "timerCnt") timerInfo.timerCnt.toNat)
    (asciiBytes "timerVer") timerInfo.timerVer.toNat

/-- Where the request is done the MCU is told of it, if it wants to be. -/
def updateTimers (cjsonParams : CJsonItem) : Checked SwitchState := do
  let done ← timerProcUpdate world state.timers cjsonParams
  let next := { state with timers := done.1, replies := state.replies ++ [.update done.2] }
  if done.2.result = .error0 ∧ state.tmrMsgFlag then
    return addDataToQueue next (world.print (timerInfoObject done.1.table.timerInfo))
  else return next

/-- A `timerAct` is for the timers, every other object for the MCU. -/
def updateParams (cjsonSequence : Option CJsonItem) (cjsonParams : CJsonItem) :
    Checked SwitchState :=
  match cJSONGetObjectItem cjsonParams (asciiBytes "timerAct") with
  | some _ => updateTimers world state cjsonParams
  | none =>
      let kept := deleteField cjsonParams
      if kept.1 then addMessage world state "[\"update\"," 13 cjsonSequence (some kept.2)
      else .ok state

/-- Without a `sequence` the update goes on. -/
def updateSequence : Option CJsonItem → Checked SwitchState
  | some cjsonSequence => storeSequence state cjsonSequence
  | none => .ok { state with serverSequenceValue := invalidSequence }

def switchReqUpdateCallback (data : List UInt8) : Checked SwitchState := do
  let cjsonRoot ← deref (world.parse (cString data))
  let cjsonSequence := cJSONGetObjectItem cjsonRoot (asciiBytes "sequence")
  let stored ← updateSequence state cjsonSequence
  match cJSONGetObjectItem cjsonRoot (asciiBytes "params") with
  | none => return stored
  | some cjsonParams => updateParams world stored cjsonSequence cjsonParams

/-- The calls of `clientTCPSproOnePkgCb`; the other types do not come to the three. -/
def callback (type : IoTgoPkgType) (data : List UInt8) : Checked SwitchState :=
  match type with
  | .reqOfUpdate => switchReqUpdateCallback world state data
  | .reqOfQuery => switchReqQueryCallback world state data
  | .respOfQuery => switchRespQueryCallback world state data
  | _ => .ok state

end Callbacks

section Completion

/-- The sequence is a string of at most 50 bytes. -/
def SequenceFits (cjsonSequence : CJsonItem) : Prop :=
  ∃ text, cjsonSequence = .string text ∧ strlen text < 51

/-- With a sequence, the first item of an array of parameters is a string. -/
def QueryFits (cjsonRoot : CJsonItem) : Prop :=
  ∀ cjsonSequence, cJSONGetObjectItem cjsonRoot (asciiBytes "sequence") = some cjsonSequence →
    SequenceFits cjsonSequence ∧
      ∀ cjsonParams, cJSONGetObjectItem cjsonRoot (asciiBytes "params") = some cjsonParams →
        cjsonParams.type = .array →
          ∀ first, cJSONGetArrayItem cjsonParams 0 = some first → first.type = .string

/-- A request to the timers fits their buffers, and any other object of parameters has a
sequence. -/
def UpdateRequestFits (world : TimerWorld) (timers : TimerState) (cjsonRoot : CJsonItem) : Prop :=
  (∀ cjsonSequence, cJSONGetObjectItem cjsonRoot (asciiBytes "sequence") = some cjsonSequence →
    SequenceFits cjsonSequence) ∧
  ∀ cjsonParams, cJSONGetObjectItem cjsonRoot (asciiBytes "params") = some cjsonParams →
    UpdateFits world timers cjsonParams ∧
      (cJSONGetObjectItem cjsonParams (asciiBytes "timerAct") = none →
        cjsonParams.type = .object →
          cJSONGetObjectItem cjsonRoot (asciiBytes "sequence") ≠ none)

/-- cJSON takes the text, and what the callback reads of the document fits. -/
def Fits (world : TimerWorld) (timers : TimerState) (type : IoTgoPkgType) (data : List UInt8) :
    Prop :=
  match type with
  | .reqOfUpdate =>
      ∃ cjsonRoot, world.parse (cString data) = some cjsonRoot ∧
        UpdateRequestFits world timers cjsonRoot
  | .reqOfQuery => ∃ cjsonRoot, world.parse (cString data) = some cjsonRoot ∧ QueryFits cjsonRoot
  | .respOfQuery => world.parse (cString data) ≠ none
  | _ => True

variable {world : TimerWorld} {state : SwitchState}

theorem store_sequence_completes_iff {cjsonSequence : CJsonItem} :
    Completes (storeSequence state cjsonSequence) ↔ SequenceFits cjsonSequence := by
  unfold storeSequence SequenceFits
  rw [completes_bind_iff]
  refine exists_congr fun text => ?_
  rw [completes_bind_of_total fun _ => completes_pure _, completes_strcpy_iff, deref_ok_iff,
    valuestring_some_iff]

theorem store_sequence_timers {cjsonSequence : CJsonItem} {stored : SwitchState}
    (done : storeSequence state cjsonSequence = .ok stored) : stored.timers = state.timers := by
  rcases bind_ok_iff.1 done with ⟨valuestring, -, later⟩
  rcases bind_ok_iff.1 later with ⟨serverSequenceValue, -, last⟩
  cases last
  rfl

theorem update_sequence_completes_iff {cjsonSequence : Option CJsonItem} :
    Completes (updateSequence state cjsonSequence) ↔
      ∀ found, cjsonSequence = some found → SequenceFits found := by
  cases cjsonSequence with
  | none => simp [updateSequence, completes_ok]
  | some found => simp [updateSequence, store_sequence_completes_iff]

theorem update_sequence_timers {cjsonSequence : Option CJsonItem} {stored : SwitchState}
    (done : updateSequence state cjsonSequence = .ok stored) : stored.timers = state.timers := by
  cases cjsonSequence with
  | none =>
      cases done
      rfl
  | some found => exact store_sequence_timers done

theorem add_message_completes_iff {opening : String} {more : Nat}
    {cjsonSequence cjsonParams : Option CJsonItem}
    (room : (asciiBytes opening).length + 2 < more) :
    Completes (addMessage world state opening more cjsonSequence cjsonParams) ↔
      cjsonParams ≠ none ∧ cjsonSequence ≠ none := by
  have fits : ∀ sequence params : List UInt8, Completes (do
      let data ← strcpy (strlen params + strlen sequence + more)
        (asciiBytes opening ++ cString sequence ++ asciiBytes "," ++ cString params ++
          asciiBytes "]")
      return addDataToQueue state data) := by
    intro sequence params
    rw [completes_bind_of_total fun _ => completes_pure _, completes_strcpy_iff]
    refine Nat.lt_of_le_of_lt (strlen_le_length _) ?_
    simp only [List.length_append, strlen]
    have comma : (asciiBytes ",").length = 1 := rfl
    have bracket : (asciiBytes "]").length = 1 := rfl
    omega
  unfold addMessage
  cases cjsonParams with
  | none => simp [deref, completes_bind_iff]
  | some params =>
      cases cjsonSequence with
      | none => simp [deref, completes_bind_iff]
      | some sequence =>
          refine iff_of_true (fits _ _) ?_
          simp

theorem add_empty_response_completes (cjsonSequence : CJsonItem) :
    Completes (addEmptyResponse world state cjsonSequence) := by
  unfold addEmptyResponse
  dsimp only
  rw [completes_bind_of_total fun _ => completes_pure _, completes_strcpy_iff]
  refine Nat.lt_of_le_of_lt (strlen_le_length _) ?_
  have opening : (asciiBytes "[\"respond\",").length = 11 := rfl
  have closing : (asciiBytes ",\x7b\x7d]").length = 4 := rfl
  simp only [List.length_append, strlen]
  omega

theorem query_params_completes_iff (invariant : TableInvariant state.timers.table)
    {cjsonSequence cjsonParams : CJsonItem} (array : cjsonParams.type = .array) :
    Completes (queryParams world state cjsonSequence cjsonParams) ↔
      ∀ first, cJSONGetArrayItem cjsonParams 0 = some first → first.type = .string := by
  have queried := @timer_proc_query_completes_iff world state.timers invariant cjsonParams
  rw [imp_iff_right array] at queried
  unfold queryParams
  cases item : cJSONGetArrayItem cjsonParams 0 with
  | none =>
      refine iff_of_true (completes_ok _) fun first found => ?_
      cases found
  | some cjsonTimerAct =>
      rw [item] at queried
      dsimp only
      rw [completes_bind_iff]
      constructor
      · rintro ⟨act, read, -⟩ first found
        cases found
        rw [deref_ok_iff, valuestring_some_iff] at read
        rw [read]
        rfl
      · intro strings
        rcases valuestring_of_string (strings cjsonTimerAct rfl) with ⟨act, read⟩
        refine ⟨act, deref_ok_iff.2 read, ?_⟩
        rw [completes_ite]
        constructor
        · intro _
          rw [completes_bind_of_total fun _ => completes_pure _]
          exact queried.2 strings
        · intro _
          exact (add_message_completes_iff (by decide)).2 ⟨nofun, nofun⟩

theorem update_timers_completes_iff (invariant : TableInvariant state.timers.table)
    {cjsonParams : CJsonItem} :
    Completes (updateTimers world state cjsonParams) ↔
      UpdateFits world state.timers cjsonParams := by
  unfold updateTimers
  rw [completes_bind_of_total, timer_proc_update_completes_iff invariant]
  intro done
  dsimp only
  rw [completes_ite]
  exact ⟨fun _ => completes_pure _, fun _ => completes_pure _⟩

theorem delete_field_iff {cjsonRoot : CJsonItem} :
    (deleteField cjsonRoot).1 = true ↔ cjsonRoot.type = .object := by
  cases cjsonRoot <;> simp [deleteField, CJsonItem.type]

theorem update_params_completes_iff (invariant : TableInvariant state.timers.table)
    {cjsonSequence : Option CJsonItem} {cjsonParams : CJsonItem} :
    Completes (updateParams world state cjsonSequence cjsonParams) ↔
      UpdateFits world state.timers cjsonParams ∧
        (cJSONGetObjectItem cjsonParams (asciiBytes "timerAct") = none →
          cjsonParams.type = .object → cjsonSequence ≠ none) := by
  unfold updateParams
  cases act : cJSONGetObjectItem cjsonParams (asciiBytes "timerAct") with
  | some cjsonTimerAct =>
      dsimp only
      rw [update_timers_completes_iff invariant]
      simp
  | none =>
      have fits : UpdateFits world state.timers cjsonParams := by
        intro cjsonTimerAct found
        rw [act] at found
        cases found
      dsimp only
      rw [completes_ite, delete_field_iff, add_message_completes_iff (by decide)]
      constructor
      · rintro ⟨message, -⟩
        exact ⟨fits, fun _ object => (message object).2⟩
      · rintro ⟨-, sequence⟩
        exact ⟨fun object => ⟨nofun, sequence rfl object⟩, fun _ => completes_ok _⟩

theorem req_query_completes_iff (invariant : TableInvariant state.timers.table)
    {data : List UInt8} :
    Completes (switchReqQueryCallback world state data) ↔
      ∃ cjsonRoot, world.parse (cString data) = some cjsonRoot ∧ QueryFits cjsonRoot := by
  unfold switchReqQueryCallback
  rw [completes_bind_iff]
  refine exists_congr fun cjsonRoot => ?_
  rw [deref_ok_iff]
  refine and_congr_right fun _ => ?_
  unfold QueryFits
  cases cJSONGetObjectItem cjsonRoot (asciiBytes "sequence") with
  | none =>
      refine iff_of_true (completes_pure _) fun cjsonSequence found => ?_
      cases found
  | some cjsonSequence =>
      simp only [Option.some.injEq, forall_eq']
      rw [← @store_sequence_completes_iff state]
      refine completes_bind_iff_and fun stored done => ?_
      cases cJSONGetObjectItem cjsonRoot (asciiBytes "params") with
      | none => simp [completes_pure]
      | some cjsonParams =>
          have kept : TableInvariant stored.timers.table := by
            rw [store_sequence_timers done]
            exact invariant
          simp only [Option.some.injEq, forall_eq']
          rw [completes_ite]
          constructor
          · rintro ⟨queried, -⟩ array
            exact (query_params_completes_iff kept array).1 (queried array)
          · intro strings
            exact ⟨fun array => (query_params_completes_iff kept array).2 (strings array),
              fun _ => completes_pure _⟩

theorem resp_query_completes_iff {data : List UInt8} :
    Completes (switchRespQueryCallback world state data) ↔ world.parse (cString data) ≠ none := by
  unfold switchRespQueryCallback
  rw [completes_bind_of_total, completes_deref_iff]
  intro cjsonRoot
  cases cJSONGetObjectItem cjsonRoot (asciiBytes "d_seq") with
  | none => exact completes_pure _
  | some cjsonSequence =>
      cases cJSONGetObjectItem cjsonRoot (asciiBytes "params") with
      | none => exact completes_pure _
      | some cjsonParams =>
          dsimp only
          rw [completes_ite, completes_ite, add_message_completes_iff (by decide)]
          exact ⟨fun _ => ⟨nofun, nofun⟩,
            fun _ => ⟨fun _ => add_empty_response_completes _, fun _ => completes_pure _⟩⟩

theorem req_update_completes_iff (invariant : TableInvariant state.timers.table)
    {data : List UInt8} :
    Completes (switchReqUpdateCallback world state data) ↔
      ∃ cjsonRoot, world.parse (cString data) = some cjsonRoot ∧
        UpdateRequestFits world state.timers cjsonRoot := by
  unfold switchReqUpdateCallback
  rw [completes_bind_iff]
  refine exists_congr fun cjsonRoot => ?_
  rw [deref_ok_iff]
  refine and_congr_right fun _ => ?_
  unfold UpdateRequestFits
  rw [← @update_sequence_completes_iff state]
  refine completes_bind_iff_and fun next done => ?_
  cases cJSONGetObjectItem cjsonRoot (asciiBytes "params") with
  | none => simp [completes_pure]
  | some cjsonParams =>
      have same := update_sequence_timers done
      simp only [Option.some.injEq, forall_eq']
      rw [← same, update_params_completes_iff]
      rw [same]
      exact invariant

/-- What `jsonparse` makes of the text does not matter, beyond the type it gives it. -/
theorem callback_completes_iff (jsonparse : List UInt8 → List JsonToken) (device : IoTgoDevice)
    (world : TimerWorld) (state : SwitchState) (invariant : TableInvariant state.timers.table)
    (data : List UInt8) :
    Completes (callback world state (parseTypeOfIoTgoPkg jsonparse device data).1 data) ↔
      Fits world state.timers (parseTypeOfIoTgoPkg jsonparse device data).1 data := by
  generalize (parseTypeOfIoTgoPkg jsonparse device data).1 = type
  cases type with
  | reqOfUpdate => exact req_update_completes_iff invariant
  | reqOfQuery => exact req_query_completes_iff invariant
  | respOfQuery => exact resp_query_completes_iff
  | _ => exact iff_of_true (completes_ok _) trivial

end Completion

section Instances

/-- An update request that sets the switch, with the members in front of its action. -/
def updateText (more : String) : List UInt8 :=
  ownerText ("\x7b" ++ more ++ "\"action\":\"update\",")
    "\"params\":\x7b\"switch\":\"on\"\x7d\x7d"

def updateParser (more : String) (members : List (List UInt8 × Json)) :
    List UInt8 → List JsonToken :=
  parserOf [(updateText more, .object (members ++ textMember "action" "update" ::
    ownerMembers ++ [(PkgKey.params.name, nestedSwitch)]))]

def updateRoot (members : List (List UInt8 × CJsonItem)) : CJsonItem :=
  .object (members ++ [(asciiBytes "action", .string (asciiBytes "update")),
    (asciiBytes "apikey", .string (asciiBytes "owner-1")),
    (asciiBytes "deviceid", .string (asciiBytes "1000000001")),
    (asciiBytes "params", switchOn)])

/-- cJSON on one text, and memory of zeros. -/
def updateWorld (more : String) (members : List (List UInt8 × CJsonItem)) : TimerWorld where
  memory := .granted
  parse data := if data = updateText more then some (updateRoot members) else none
  print := printSwitch
  behind _ := []
  stray _ := 0
  strayTimer _ := .zero

def idleState : SwitchState where
  serverSequenceValue := []
  timers := ⟨.zero, fun _ => 0xFF⟩
  tc := .initial
  tmrMsgFlag := false
  replies := []

/-- The sequence stands in front of the request. -/
def sequencedMembers : List (List UInt8 × CJsonItem) :=
  [(asciiBytes "sequence", .string (asciiBytes "1"))]

theorem update_text_parsed {more : String} {members : List (List UInt8 × CJsonItem)}
    (whole : cString (updateText more) = updateText more) :
    (updateWorld more members).parse (cString (updateText more)) = some (updateRoot members) := by
  simp [updateWorld, whole]

theorem callback_completes_sequenced :
    Completes (callback (updateWorld "\"sequence\":\"1\"," sequencedMembers) idleState
      (parseTypeOfIoTgoPkg (updateParser "\"sequence\":\"1\"," [textMember "sequence" "1"])
        someDevice (updateText "\"sequence\":\"1\",")).1 (updateText "\"sequence\":\"1\",")) := by
  refine (callback_completes_iff _ someDevice _ idleState zero_invariant _).2 ?_
  have type : (parseTypeOfIoTgoPkg
      (updateParser "\"sequence\":\"1\"," [textMember "sequence" "1"]) someDevice
      (updateText "\"sequence\":\"1\",")).1 = .reqOfUpdate := by
    decide +kernel
  rw [type]
  refine ⟨updateRoot sequencedMembers, update_text_parsed (by decide +kernel), ?_, ?_⟩
  · intro cjsonSequence found
    cases found
    exact ⟨asciiBytes "1", rfl, by decide⟩
  · intro cjsonParams found
    cases found
    refine ⟨fun cjsonTimerAct missing => ?_, fun _ _ => nofun⟩
    cases missing

/-- An update request without a sequence: the callback prints the item that is not there. -/
theorem update_without_sequence_faults :
    ¬ ∀ (jsonparse : List UInt8 → List JsonToken) (device : IoTgoDevice) (world : TimerWorld)
      (state : SwitchState) (data : List UInt8), TableInvariant state.timers.table →
        (parseTypeOfIoTgoPkg jsonparse device data).1 ∈
          [IoTgoPkgType.reqOfUpdate, .reqOfQuery, .respOfQuery] →
          Completes (callback world state (parseTypeOfIoTgoPkg jsonparse device data).1 data) := by
  intro complete
  have type : (parseTypeOfIoTgoPkg (updateParser "" []) someDevice (updateText "")).1 =
      .reqOfUpdate := by
    decide +kernel
  have completes := complete (updateParser "" []) someDevice (updateWorld "" []) idleState
    (updateText "") zero_invariant (by rw [type]; decide)
  rw [type] at completes
  rcases (req_update_completes_iff zero_invariant).1 completes with ⟨root, parsed, -, params⟩
  rw [update_text_parsed (by decide +kernel)] at parsed
  cases parsed
  exact (params switchOn rfl).2 rfl rfl rfl

end Instances

end IotgoFirmware.Mcu.SwitchCallbacks
