import Mathlib.Logic.Function.Basic
import IotgoFirmware.Core.PkgScan
import IotgoFirmware.Receive.SproEvents
import IotgoFirmware.Send.SendJson

/-!
# The request to the distributor

`iotgo_bconn.c` and the messages of the core task that start and stop it. A request looks
up the distributor, connects to it, sends one HTTP request 200 ms later and waits for the
response; its result goes to the core task as `MSG_CORE_DISTRIBUTOR_FINISHED`, at most once
for each start. The connection, the timers and the flag are the same for all requests, and
the callbacks of a connection or of a lookup come whenever the network has them.

The requests are numbered, and whatever belongs to one carries its number; the numbers are
not in the source.
-/

namespace IotgoFirmware.Core.Distributor

open IotgoFirmware.Library.CStrings
open IotgoFirmware.Library.JsonDocuments
open IotgoFirmware.Core.PkgScan (jsonIoTgoGetString jsonIoTgoGetNumber)
open IotgoFirmware.Receive.SproObject
open IotgoFirmware.Receive.SproEvents
open IotgoFirmware.Send.SendJson (IoTgoDeviceMode coreQueueLength)

set_option autoImplicit false

section Response

/-- The variables of the scan in `distorSproOnePkgCb`; a field is set where its flag is. -/
structure DistorFields where
  longServerIp : Option (List UInt8)
  longServerPort : Option Int
  error : Option Int
  reason : Option (List UInt8)

def DistorFields.initial : DistorFields where
  longServerIp := none
  longServerPort := none
  error := none
  reason := none

/-- A field of the wrong type ends the scan. -/
def readField {Value : Type} (fields : DistorFields) (set : Value → DistorFields) :
    Option Value → Except DistorFields (DistorFields × Nat)
  | some value => .ok (set value, 2)
  | none => .error fields

def readName (fields : DistorFields) (name : List UInt8) (rest : List JsonToken) :
    Except DistorFields (DistorFields × Nat) :=
  if Matches name (asciiBytes "IP") then
    readField fields (fun text => { fields with longServerIp := some text })
      (jsonIoTgoGetString rest 51)
  else if Matches name (asciiBytes "port") then
    readField fields (fun value => { fields with longServerPort := some value })
      (jsonIoTgoGetNumber rest)
  else if Matches name (asciiBytes "error") then
    readField fields (fun value => { fields with error := some value }) (jsonIoTgoGetNumber rest)
  else if Matches name (asciiBytes "reason") then
    readField fields (fun text => { fields with reason := some text }) (jsonIoTgoGetString rest 50)
  else .ok (fields, 0)

def scanFields (tokens : List JsonToken) : DistorFields :=
  scanLast readName .initial tokens

/-- The server's address in a package, if the response is a success and has one. -/
def serverOf (jsonparse : List UInt8 → List JsonToken) (pdata : List UInt8) :
    Option (List UInt8 × Int) :=
  match strstr pdata (asciiBytes "HTTP/1.1 200 OK\r\n"), strstr pdata (asciiBytes "\x7b"),
      strstr pdata (asciiBytes "\x7d"), strstr pdata (asciiBytes "\r\n\r\n") with
  | some _, some index, some _, some _ =>
      let fields := scanFields (jsonparse (cString (pdata.drop index)))
      match fields.error, fields.longServerIp, fields.longServerPort with
      | some 0, some host, some port => some (host, port)
      | _, _, _ => none
  | _, _, _, _ => none

end Response

section State

/-- `IOTGO_DISTRIBUTOR_RESULT_OK` and the errors. -/
inductive DistorCode where
  | ok
  | errDns
  | errConn
  | errResp
  | errReq
  | errTimeout
deriving DecidableEq

/-- A result that was posted: during which request, from an event of which one, and through the
receive object of which one, if it is that of a package. -/
structure DistorResult where
  request : Nat
  source : Nat
  object : Option Nat
  code : DistorCode
deriving DecidableEq

inductive DistorMessage where
  | distributor
  | finished (result : DistorResult)
  | joinAp
  | other
deriving DecidableEq

/-- `IOTGO_IOT_TCP_CLIENT_RECV_BUFFER_SIZE`. -/
def recvBufferSize : UInt16 := 2048

/-- `objects` are the receive objects that are allocated, and `spro` says which of them the
pointer is at. `registered` is whether the receive and disconnect callbacks are registered in
`distor_conn`; `lookups` and `connections` are those that were begun. `handled` has the
results that the core task has taken, with the request it was in. -/
structure DistorState where
  mode : IoTgoDeviceMode
  serverInfo : List UInt8 × Int
  postResultFlag : Bool
  distorTimeoutTimer : Bool
  distorConnTimer : Option Nat
  tryDistorTimer : Bool
  spro : Option Nat
  objects : Nat → Option (Session recvBufferSize)
  registered : Bool
  distorLastIp : UInt32
  distorErrorCnt : UInt8
  flashLastIp : UInt32
  inbox : List DistorMessage
  request : Nat
  lookups : List Nat
  connections : List Nat
  results : List DistorResult
  handled : List (DistorResult × Nat)

/-- `flashLastIp` is what the flash has. -/
def DistorState.initial (mode : IoTgoDeviceMode) (flashLastIp : UInt32) : DistorState where
  mode := mode
  serverInfo := ([], 0)
  postResultFlag := false
  distorTimeoutTimer := false
  distorConnTimer := none
  tryDistorTimer := false
  spro := none
  objects _ := none
  registered := false
  distorLastIp := 0
  distorErrorCnt := 0
  flashLastIp := flashLastIp
  inbox := []
  request := 0
  lookups := []
  connections := []
  results := []
  handled := []

/-- The parser of the SDK, and `ipaddr_addr` of the distributor's host. -/
structure DistorBoard where
  jsonparse : List UInt8 → List JsonToken
  hostIp : UInt32

end State

section Functions

variable (state : DistorState)

def systemOsPost (message : DistorMessage) : DistorState :=
  if state.inbox.length < coreQueueLength then
    { state with inbox := state.inbox ++ [message] }
  else state

/-- The last address is saved where it differs from that in the flash. -/
def countResult (code : DistorCode) : DistorState :=
  if code = .ok then
    { state with
      distorErrorCnt := 0
      flashLastIp := if state.distorLastIp ≠ 0 then state.distorLastIp else state.flashLastIp }
  else { state with distorErrorCnt := state.distorErrorCnt + 1 }

def distorPostResultToNetworkCenter (source : Nat) (object : Option Nat) (code : DistorCode) :
    DistorState :=
  if state.postResultFlag then state
  else
    let result := ⟨state.request, source, object, code⟩
    let posted := systemOsPost
      { state with
        distorTimeoutTimer := false
        distorConnTimer := none
        postResultFlag := true } (.finished result)
    countResult { posted with results := posted.results ++ [result] } code

def cbDistorConnTimer (source : Nat) (sent : Bool) : DistorState :=
  if sent then state else distorPostResultToNetworkCenter state source none .errReq

def distorSetServerInfo (host : List UInt8) (port : Int) : DistorState :=
  { state with serverInfo := (host, port) }

/-- `source` is the connection that the data came by, or the object that has timed out. -/
def distorSproOnePkgCb (board : DistorBoard) (source object : Nat) (pdata : List UInt8) :
    DistorState :=
  match serverOf board.jsonparse pdata with
  | some (host, port) =>
      distorPostResultToNetworkCenter (distorSetServerInfo state host port) source (some object) .ok
  | none => distorPostResultToNetworkCenter state source (some object) .errResp

def distorPkgCalls (board : DistorBoard) (source object : Nat) (calls : List PkgCall) :
    DistorState :=
  calls.foldl (fun state call => distorSproOnePkgCb state board source object call.memory) state

def distorConnTCPConnectedCallback (source : Nat) : DistorState :=
  { state with registered := true, distorConnTimer := some source }

/-- `connected` is a result of 0 of `espconn_connect`. -/
def connToDistributor (source : Nat) (connected : Bool) : DistorState :=
  if connected then { state with connections := state.connections ++ [source] }
  else distorPostResultToNetworkCenter state source none .errConn

def distorDnsFoundCallback (source : Nat) (ipaddr : Option UInt32) (connected : Bool) :
    DistorState :=
  match ipaddr with
  | none => distorPostResultToNetworkCenter state source none .errDns
  | some addr =>
      if addr ≠ 0 then connToDistributor { state with distorLastIp := addr } source connected
      else distorPostResultToNetworkCenter state source none .errDns

def distorGetDistorServerIP (board : DistorBoard) : UInt32 × DistorState :=
  if 3 ≤ state.distorErrorCnt then
    (if state.flashLastIp ≠ 0 then state.flashLastIp else 0xFFFFFFFF,
      { state with distorErrorCnt := 0 })
  else (board.hostIp, state)

/-- The callbacks of `distor_conn` are cleared; that for the connection is set again. -/
def launchTCPConnToDistributor (board : DistorBoard) (connected : Bool) : DistorState :=
  let found := distorGetDistorServerIP state board
  let cleared := { found.2 with registered := false }
  if found.1 = 0xFFFFFFFF then
    { cleared with lookups := cleared.lookups ++ [cleared.request] }
  else connToDistributor cleared cleared.request connected

/-- `startDistorRequest` up to the launch; `memory` is a successful `spCreateObject`. An object
that the pointer was at before is not released. -/
def resetRequest (memory : Bool) : DistorState :=
  let request := state.request + 1
  let object := spCreateObject recvBufferSize .http11 true
  { state with
    request := request
    distorLastIp := 0
    distorTimeoutTimer := true
    spro := if memory then some request else none
    objects := if memory then Function.update state.objects request (some object)
      else state.objects
    postResultFlag := false }

def startDistorRequest (board : DistorBoard) (memory connected : Bool) : DistorState :=
  launchTCPConnToDistributor (resetRequest state memory) board connected

/-- The disconnection has its callback later. -/
def stopDistorRequest : DistorState :=
  match state.spro with
  | some object =>
      { state with spro := none, objects := Function.update state.objects object none }
  | none => state

def tryDistorTmrCb : DistorState :=
  if state.mode ≠ .workInit ∧ state.mode ≠ .workNormal ∧ state.mode ≠ .workApErr ∧
      state.mode ≠ .setting then
    systemOsPost state .distributor
  else state

/-- The handlers of `taskIoTgoNetworkCenter` that have to do with the distributor. -/
def handleMessage (board : DistorBoard) (memory connected : Bool) : DistorMessage → DistorState
  | .distributor =>
      if state.mode ≠ .setting then startDistorRequest state board memory connected else state
  | .finished result =>
      let stopped := stopDistorRequest
        { state with handled := state.handled ++ [(result, state.request)] }
      if result.code = .ok then systemOsPost stopped .other
      else { stopped with tryDistorTimer := true }
  | .joinAp => { state with tryDistorTimer := false, mode := .workApErr }
  | .other => state

end Functions

section Machine

/-- A callback names the request whose lookup, connection or object it belongs to. `handle` takes
the next message of the core task; `sent` is a result of 0 of `espconn_send`; `post` stands
for the other modules. -/
inductive DistorEvent where
  | handle (memory connected : Bool)
  | dnsFound (source : Nat) (ipaddr : Option UInt32) (connected : Bool)
  | connected (source : Nat)
  | received (source : Nat) (segment : Segment)
  | disconnected (source : Nat)
  | reconnected (source : Nat)
  | connTimer (sent : Bool)
  | timeoutTimer
  | sproTimer (object : Nat) (env : Ambient)
  | tryDistorTimer
  | setMode (mode : IoTgoDeviceMode)
  | postDistributor
  | postJoinAp
  | postOther

/-- A one-shot timer is off before its callback runs. -/
def distorExec (board : DistorBoard) (state : DistorState) : DistorEvent → Option DistorState
  | .handle memory connected =>
      match state.inbox with
      | [] => none
      | message :: rest =>
          some (handleMessage { state with inbox := rest } board memory connected message)
  | .dnsFound source ipaddr connected =>
      if source ∈ state.lookups then
        some (distorDnsFoundCallback { state with lookups := state.lookups.erase source } source
          ipaddr connected)
      else none
  | .connected source =>
      if source ∈ state.connections then some (distorConnTCPConnectedCallback state source)
      else none
  | .received _ _ => none
  | .disconnected source =>
      if source ∈ state.connections ∧ state.registered then
        some (distorPostResultToNetworkCenter state source none .errConn)
      else none
  | .reconnected source =>
      if source ∈ state.connections then
        some (distorPostResultToNetworkCenter state source none .errConn)
      else none
  | .connTimer sent =>
      state.distorConnTimer.map fun source =>
        cbDistorConnTimer { state with distorConnTimer := none } source sent
  | .timeoutTimer =>
      if state.distorTimeoutTimer then
        some (distorPostResultToNetworkCenter { state with distorTimeoutTimer := false }
          state.request none .errTimeout)
      else none
  | .sproTimer object env =>
      match state.objects object with
      | none => none
      | some session =>
          if session.timer.any fun due => decide (due ≤ env.now) then
            let next := spro10sTimerCallback env session
            some (distorPkgCalls
              { state with objects := Function.update state.objects object (some next) } board
              object object (next.calls.drop session.calls.length))
          else none
  | .tryDistorTimer =>
      if state.tryDistorTimer then some (tryDistorTmrCb { state with tryDistorTimer := false })
      else none
  | .setMode mode => some { state with mode := mode }
  | .postDistributor => some (systemOsPost state .distributor)
  | .postJoinAp => some (systemOsPost state .joinAp)
  | .postOther => some (systemOsPost state .other)

/-- The state after data of a connection; `next` is what it makes of the object. -/
def afterReceived (board : DistorBoard) (state : DistorState) (source object : Nat)
    (session next : Session recvBufferSize) : DistorState :=
  distorPkgCalls { state with objects := Function.update state.objects object (some next) } board
    source object (next.calls.drop session.calls.length)

/-- `distorConnTCPRecvCallback` passes the data to the object that the pointer is at. -/
inductive RecvStep (board : DistorBoard) (state : DistorState) (source : Nat) (segment : Segment) :
    DistorState → Prop where
  | ignored (null : state.spro = none) : RecvStep board state source segment state
  | passed {object : Nat} {session next : Session recvBufferSize}
      (pointed : state.spro = some object)
      (allocated : state.objects object = some session)
      (received : Received segment session next) :
      RecvStep board state source segment (afterReceived board state source object session next)

def DistorStep (board : DistorBoard) (state : DistorState) (event : DistorEvent)
    (next : DistorState) : Prop :=
  match event with
  | .received source segment =>
      source ∈ state.connections ∧ state.registered = true ∧
        RecvStep board state source segment next
  | event => distorExec board state event = some next

end Machine

end IotgoFirmware.Core.Distributor
