import IotgoFirmware.Receive.HttpProgress

/-!
# One receive object for every connection

`network_spro` is created once and outlives the TCP connections. A new
connection changes its package type and nothing else, so what the old one left,
bytes as well as a running timer, is still there. Where the timer is off nothing
is left that a later call could see, and the two connections are isolated.
-/

namespace IotgoFirmware.Receive.ConnectionReuse

open IotgoFirmware.Library.ByteRegions
open IotgoFirmware.Library.CIntegers
open IotgoFirmware.Library.LoopRules
open IotgoFirmware.Library.StepRuns
open IotgoFirmware.Receive.SproObject
open IotgoFirmware.Receive.SproWebsocket
open IotgoFirmware.Receive.SproHttp
open IotgoFirmware.Receive.SproEvents
open IotgoFirmware.Receive.HttpProgress

set_option autoImplicit false

variable {size : UInt16}

/-- `IOTGO_IOT_TCP_CLIENT_RECV_BUFFER_SIZE`. -/
def recvBufferSize : UInt16 := 2048

/-- `network_spro` as `iotgoPconnInit` creates it. -/
def networkSpro : Session recvBufferSize :=
  spCreateObject recvBufferSize .http11 true

/-- The part that concerns the receive object; the handshake is sent afterwards. -/
def iotgoPconnSwitchToWebSocket (session : Session size) : Session size :=
  spSetPkgType session .http11

inductive CoreConnectMsg where
  | serverConnected
  | wsConnect

/-- `MSG_CORE_SERVER_CONNECTED` empties the send queue and posts
`MSG_CORE_WS_CONNECT`. -/
def taskIoTgoNetworkCenter (session : Session size) : CoreConnectMsg → Session size
  | .serverConnected => session
  | .wsConnect => iotgoPconnSwitchToWebSocket session

/-- The object once both messages are handled; the record of its calls starts
anew. -/
def newConnection (session : Session size) : Session size :=
  { taskIoTgoNetworkCenter (taskIoTgoNetworkCenter session .serverConnected) .wsConnect with
    calls := [] }

/-- After the events, or at a loop head of the call that handles the last one. -/
inductive Reaches (session : Session size) : List SproEvent → Session size → Prop where
  | between {events : List SproEvent} {reached : Session size}
      (run : Run SproStep session events reached) : Reaches session events reached
  | within {events : List SproEvent} {segment : Segment} {before reached : Session size}
      (run : Run SproStep session events before) (passes : PassesHead segment before reached) :
      Reaches session (events ++ [.recv segment]) reached

def Shows (session : Session size) (events : List SproEvent) (calls : List PkgCall) : Prop :=
  ∃ reached, Reaches session events reached ∧ reached.calls = calls

section Rested

/-- With the timer off its flag is down; an empty buffer holds zeros. -/
structure Accounted (session : Session size) : Prop where
  flag : session.timer = none → session.timerOpenedFlag = false
  empty : session.bufferIndex = 0 → session.buffer.bytes = List.replicate size.toNat 0
  small : session.bufferIndex < 65536

/-- Between calls, with the timer off, nothing is buffered. -/
structure Rested (session : Session size) : Prop extends Accounted session where
  idle : session.timer = none → session.bufferIndex = 0

theorem write_empty {spro : Spro size}
    (empty : spro.bufferIndex = 0 → spro.buffer.bytes = List.replicate size.toNat 0)
    (pdata : List UInt8) (none : (serverRxWrite spro pdata).bufferIndex = 0) :
    (serverRxWrite spro pdata).buffer.bytes = List.replicate size.toNat 0 := by
  induction pdata generalizing spro with
  | nil => exact empty none
  | cons byte rest ih =>
      rw [serverRxWrite] at none ⊢
      split at none
      · rename_i room
        rw [if_pos room]
        apply ih _ none
        intro clash
        cases clash
      · rename_i full
        rw [if_neg full]
        have zero : size.toNat = 0 := none
        have nothing : spro.buffer.bytes = [] := by
          apply List.eq_nil_of_length_eq_zero
          rw [Region.sized]
          exact zero
        have nothing' : List.replicate size.toNat (0 : UInt8) = [] := by
          rw [zero]
          rfl
        exact nothing.trans nothing'.symm

theorem write_small {spro : Spro size} (small : spro.bufferIndex < 65536) (pdata : List UInt8) :
    (serverRxWrite spro pdata).bufferIndex < 65536 := by
  have bound := write_index_le spro pdata
  have limit := size_lt size
  omega

theorem read_empty {spro : Spro size} (beyond : List UInt8)
    (empty : spro.bufferIndex = 0 → spro.buffer.bytes = List.replicate size.toNat 0)
    (small : spro.bufferIndex < 65536) (length : spro.pkgLen < 65536)
    (none : (serverRxRead beyond spro).bufferIndex = 0) :
    (serverRxRead beyond spro).buffer.bytes = List.replicate size.toNat 0 := by
  unfold serverRxRead at none ⊢
  split_ifs at none ⊢ with nothing all
  · exact empty none
  · exact flush_bytes spro
  · simp only [uint16] at none
    omega

theorem read_small {spro : Spro size} (beyond : List UInt8) (small : spro.bufferIndex < 65536) :
    (serverRxRead beyond spro).bufferIndex < 65536 := by
  unfold serverRxRead serverRxFlush
  split_ifs
  · exact small
  · exact Nat.zero_lt_succ _
  · simp only [uint16]
    omega

variable {env : Ambient} {arg : Nat} {session : Session size}

theorem open_timer_runs (accounted : Accounted session) : (openTimer env session).timer ≠ none := by
  cases flag : session.timerOpenedFlag with
  | true =>
      rw [open_timer_running env session flag]
      intro off
      have down := accounted.flag off
      rw [flag] at down
      cases down
  | false =>
      rw [(open_timer_started env session flag).1]
      intro off
      cases off

theorem open_timer_accounted (accounted : Accounted session) :
    Accounted (openTimer env session) where
  flag off := absurd off (open_timer_runs accounted)
  empty := by simpa using accounted.empty
  small := by simpa using accounted.small

theorem reject_accounted (accounted : Accounted session) :
    Accounted (rejectBuffer env arg session) where
  flag := by simpa using accounted.flag
  empty _ := by
    rw [reject_spro]
    exact flush_bytes _
  small := Nat.zero_lt_succ _

theorem take_accounted (accounted : Accounted session) {pkgLen : Nat} (length : pkgLen < 65536) :
    Accounted (takePackage env arg pkgLen session) where
  flag _ := take_package_timer_opened_flag env arg
  empty := by
    rw [take_package_spro]
    exact read_empty env.beyond accounted.empty accounted.small length
  small := by
    rw [take_package_spro]
    exact read_small env.beyond accounted.small

theorem write_accounted (accounted : Accounted session) (pdata : List UInt8) :
    Accounted { session with toSpro := serverRxWrite session.toSpro pdata } where
  flag := by simpa using accounted.flag
  empty := write_empty accounted.empty pdata
  small := write_small accounted.small pdata

/-- At a loop head of `processHTTPPackage`: where the loop is left for want of a
terminator with the timer off, nothing is buffered. -/
structure HttpRests (env : Ambient) (head : Session size) : Prop extends Accounted head where
  ends : head.timer = none → httpHead (head.buffer.seen env.beyond) head.bufferIndex = .noTerminator →
    head.bufferIndex = 0

theorem http_enter_rests (rested : Rested session) (pdata : List UInt8) :
    HttpRests env (httpEnter env pdata session) := by
  let written : Session size := { session with toSpro := serverRxWrite session.toSpro pdata }
  have accounted : Accounted written := write_accounted rested.toAccounted pdata
  unfold httpEnter
  by_cases absent : sint16 (indexOf (written.buffer.seen env.beyond) crlfcrlf) = -1
  · rw [if_pos absent]
    split
    · rename_i up
      refine ⟨accounted, fun off => ?_⟩
      have down := accounted.flag off
      rw [up] at down
      cases down
    · constructor
      · constructor
        · intro off
          cases off
        · exact accounted.empty
        · exact accounted.small
      · intro off
        cases off
  · rw [if_neg absent]
    refine ⟨accounted, fun _ verdict => ?_⟩
    exact absurd ((http_no_terminator_iff _ _).1 verdict) absent

theorem http_deliver_rests (rests : HttpRests env session) (announced : Int) :
    HttpRests env (httpDeliver env arg announced session) := by
  have taken : Accounted (takePackage env arg (uint16 announced) session) :=
    take_accounted rests.toAccounted (uint16_lt announced)
  simp only [httpDeliver]
  split
  · constructor
    · constructor
      · intro off
        cases off
      · exact taken.empty
      · exact taken.small
    · intro off
      cases off
  · rename_i nothing
    exact ⟨taken, fun _ _ => Nat.eq_zero_of_not_pos nothing⟩

theorem http_rested {next : Session size} (rested : Rested session) {pdata : List UInt8}
    (exits : Exits (httpBody env arg) (httpEnter env pdata session) next) : Rested next := by
  apply exits_keeps (HttpRests env) _ _ (http_enter_rests rested pdata) exits
  · intro head next rests continues
    rcases http_continues continues with ⟨announced, -, rfl⟩
    exact http_deliver_rests rests announced
  · intro head final rests leaves
    rcases http_body_cases env arg head with ⟨verdict, pass⟩ | ⟨-, pass⟩ | ⟨announced, -, pass⟩
    all_goals
      rw [pass] at leaves
      cases leaves
    · exact ⟨rests.toAccounted, fun off => rests.ends off verdict⟩
    · have lowered : Accounted { head with pkgOneFlag := false } :=
        ⟨rests.flag, rests.empty, rests.small⟩
      exact ⟨open_timer_accounted lowered, fun off => absurd off (open_timer_runs lowered)⟩

/-- At a loop head of `processWebsocketPackage`, likewise with the flag that
ends the loop. -/
structure WebsocketRests (head : Session size) : Prop extends Accounted head where
  ends : head.timer = none → head.pkgOneFlag = false → head.bufferIndex = 0

theorem reject_rests (accounted : Accounted session) :
    WebsocketRests (rejectBuffer env arg session) where
  toAccounted := reject_accounted accounted
  ends _ _ := reject_index env arg session

theorem open_timer_rests (accounted : Accounted session) :
    WebsocketRests (openTimer env session) where
  toAccounted := open_timer_accounted accounted
  ends off := absurd off (open_timer_runs accounted)

theorem websocket_enter_rests (rested : Rested session) (pdata : List UInt8) :
    WebsocketRests (websocketEnter env arg pdata session) := by
  have accounted := write_accounted rested.toAccounted pdata
  simp only [websocketEnter]
  split
  · refine ⟨⟨accounted.flag, accounted.empty, accounted.small⟩, fun _ down => ?_⟩
    cases down
  · exact reject_rests accounted

theorem websocket_deliver_rests (accounted : Accounted session) (length : Nat) :
    WebsocketRests (websocketDeliver env arg length session) := by
  have taken : Accounted (takePackage env arg (uint16 length) session) :=
    take_accounted accounted (uint16_lt length)
  simp only [websocketDeliver]
  split
  · split
    · exact open_timer_rests ⟨taken.flag, taken.empty, taken.small⟩
    · exact reject_rests taken
  · rename_i nothing
    exact ⟨⟨taken.flag, taken.empty, taken.small⟩, fun _ _ => Nat.eq_zero_of_not_pos nothing⟩

theorem websocket_rested {next : Session size} (rested : Rested session) {pdata : List UInt8}
    (exits : Exits (websocketBody env arg) (websocketEnter env arg pdata session) next) :
    Rested next := by
  apply exits_keeps WebsocketRests _ _ (websocket_enter_rests rested pdata) exits
  · intro head next rests continues
    rcases websocket_body_cases env arg head with ⟨-, pass⟩ | ⟨-, -, pass⟩ |
      ⟨length, -, -, pass⟩ | ⟨-, -, pass⟩
    all_goals
      rw [pass] at continues
      cases continues
    · exact open_timer_rests ⟨rests.flag, rests.empty, rests.small⟩
    · exact websocket_deliver_rests rests.toAccounted length
  · intro head final rests leaves
    rcases websocket_body_cases env arg head with ⟨down, pass⟩ | ⟨-, -, pass⟩ |
      ⟨length, -, -, pass⟩ | ⟨-, -, pass⟩
    all_goals
      rw [pass] at leaves
      cases leaves
    · exact ⟨rests.toAccounted, fun off => rests.ends off down⟩
    · exact ⟨reject_accounted rests.toAccounted, fun _ => reject_index env arg head⟩

theorem tick_rested (env : Ambient) (rested : Rested session) : Rested (clockTick env session) := by
  unfold clockTick
  split
  · split
    · constructor
      · constructor
        · exact fun _ => rfl
        · exact fun _ => flush_bytes _
        · exact Nat.zero_lt_succ _
      · exact fun _ => rfl
    · exact rested
  · exact rested

theorem received_rested {segment : Segment} {next : Session size} (rested : Rested session)
    (received : Received segment session next) : Rested next := by
  have addressed : Rested { session with arg := segment.arg } :=
    ⟨⟨rested.flag, rested.empty, rested.small⟩, rested.idle⟩
  by_cases http : usesHttp session.pkgType = true
  · exact http_rested addressed ((received_http http).1 received)
  · cases kind : session.pkgType with
    | null =>
        rw [(received_null kind).1 received, passSegment]
        split
        · exact ⟨⟨rested.flag, rested.empty, rested.small⟩, rested.idle⟩
        · exact addressed
    | websocket13 => exact websocket_rested addressed ((received_websocket kind).1 received)
    | http11 => simp [usesHttp, kind] at http
    | iotUpgrade => simp [usesHttp, kind] at http

theorem step_rested (session : Session size) (event : SproEvent) (next : Session size)
    (rested : Rested session) (taken : SproStep session event next) : Rested next := by
  cases event with
  | recv segment => exact received_rested rested taken
  | tick env =>
      cases taken
      exact tick_rested env rested
  | setPkgType pkgType =>
      cases taken
      exact ⟨⟨rested.flag, rested.empty, rested.small⟩, rested.idle⟩

theorem fresh_rested (pkgType : SproPkgType) (pkgProcCb : Bool) :
    Rested (spCreateObject size pkgType pkgProcCb) where
  flag _ := rfl
  empty _ := rfl
  small := Nat.zero_lt_succ _
  idle _ := rfl

end Rested

section Twins

/-- Two objects that show the same, whatever address they were last called with
and whatever their `_pkg_one_flag` is. -/
structure Twins (left right : Session size) : Prop where
  setup : left.setup = right.setup
  bytes : left.buffer.bytes = right.buffer.bytes
  index : left.bufferIndex = right.bufferIndex
  timer : left.timer = right.timer
  flag : left.timerOpenedFlag = right.timerOpenedFlag
  calls : left.calls = right.calls

/-- Between calls these two matter to the timer alone. -/
structure Alike (left right : Session size) : Prop extends Twins left right where
  pending : left.timer ≠ none → left.arg = right.arg ∧ left.pkgOneFlag = right.pkgOneFlag

variable {env : Ambient} {arg : Nat} {left right : Session size}

theorem twins_symm (twins : Twins left right) : Twins right left where
  setup := twins.setup.symm
  bytes := twins.bytes.symm
  index := twins.index.symm
  timer := twins.timer.symm
  flag := twins.flag.symm
  calls := twins.calls.symm

theorem alike_symm (alike : Alike left right) : Alike right left where
  toTwins := twins_symm alike.toTwins
  pending armed := by
    rw [← alike.timer] at armed
    rcases alike.pending armed with ⟨arg, one⟩
    exact ⟨arg.symm, one.symm⟩

theorem twins_seen (twins : Twins left right) (beyond : List UInt8) :
    left.buffer.seen beyond = right.buffer.seen beyond := by
  rw [Region.seen, Region.seen, twins.bytes]

theorem twins_lower (twins : Twins left right) (one : Bool) :
    Twins { left with pkgOneFlag := one } { right with pkgOneFlag := one } :=
  ⟨twins.setup, twins.bytes, twins.index, twins.timer, twins.flag, twins.calls⟩

theorem start_time_twins (twins : Twins left right) :
    Twins (startTime env left) (startTime env right) where
  setup := twins.setup
  bytes := twins.bytes
  index := twins.index
  timer := rfl
  flag := twins.flag
  calls := twins.calls

theorem call_twins (twins : Twins left right) (one : left.pkgOneFlag = right.pkgOneFlag)
    {len twinLen : Nat} (lens : len = twinLen) :
    Twins (callPkgProcCb env arg len left) (callPkgProcCb env arg twinLen right) := by
  have registered : left.pkgProcCb = right.pkgProcCb := setup_registered twins.setup
  subst lens
  unfold callPkgProcCb
  rw [registered]
  split
  · constructor
    · exact twins.setup
    · exact twins.bytes
    · exact twins.index
    · exact twins.timer
    · exact twins.flag
    · simp only [twins.calls, twins_seen twins, one, twins.index]
  · exact twins

theorem flush_twins (twins : Twins left right) :
    Twins { left with toSpro := serverRxFlush left.toSpro }
      { right with toSpro := serverRxFlush right.toSpro } where
  setup := twins.setup
  bytes := (flush_bytes left.toSpro).trans (flush_bytes right.toSpro).symm
  index := rfl
  timer := twins.timer
  flag := twins.flag
  calls := twins.calls

theorem write_twins (twins : Twins left right) (pdata : List UInt8) :
    Twins { left with toSpro := serverRxWrite left.toSpro pdata }
      { right with toSpro := serverRxWrite right.toSpro pdata } where
  setup := by simpa [Session.setup] using twins.setup
  bytes := (write_congr twins.bytes twins.index pdata).1
  index := (write_congr twins.bytes twins.index pdata).2
  timer := by simpa using twins.timer
  flag := by simpa using twins.flag
  calls := twins.calls

theorem read_twins (twins : Twins left right) (pkgLen : left.pkgLen = right.pkgLen)
    (beyond : List UInt8) :
    Twins { left with toSpro := serverRxRead beyond left.toSpro }
      { right with toSpro := serverRxRead beyond right.toSpro } where
  setup := by simpa [Session.setup] using twins.setup
  bytes := (read_congr twins.bytes twins.index pkgLen beyond).1
  index := (read_congr twins.bytes twins.index pkgLen beyond).2
  timer := by simpa using twins.timer
  flag := by simpa using twins.flag
  calls := twins.calls

theorem take_twins (twins : Twins left right) (pkgLen : Nat) :
    Twins (takePackage env arg pkgLen left) (takePackage env arg pkgLen right) := by
  let stopped (session : Session size) : Session size :=
    { session with
      pkgOneFlag := true
      pkgLen := pkgLen
      timer := none
      timerOpenedFlag := false }
  have stops : Twins (stopped left) (stopped right) :=
    ⟨twins.setup, twins.bytes, twins.index, rfl, rfl, twins.calls⟩
  apply read_twins (call_twins stops rfl rfl)
  rw [call_pkg_proc_cb_spro, call_pkg_proc_cb_spro]

theorem open_timer_twins (twins : Twins left right) :
    Twins (openTimer env left) (openTimer env right) := by
  unfold openTimer
  rw [twins.flag]
  split
  · exact twins
  · exact ⟨twins.setup, twins.bytes, twins.index, rfl, rfl, twins.calls⟩

theorem reject_twins (twins : Twins left right) :
    Twins (rejectBuffer env arg left) (rejectBuffer env arg right) :=
  flush_twins (call_twins (twins_lower twins false) rfl twins.index)

end Twins

section Calls

variable {env : Ambient} {arg : Nat} {left right : Session size}

/-- Within a call the address is the same as well. -/
structure HttpAlike (left right : Session size) : Prop extends Alike left right where
  arg : left.arg = right.arg

theorem http_enter_alike (alike : Alike left right) (arg : left.arg = right.arg)
    (pdata : List UInt8) : HttpAlike (httpEnter env pdata left) (httpEnter env pdata right) := by
  let written (session : Session size) : Session size :=
    { session with toSpro := serverRxWrite session.toSpro pdata }
  have twins : Twins (written left) (written right) := write_twins alike.toTwins pdata
  have kept : HttpAlike (written left) (written right) := by
    refine ⟨⟨twins, fun armed => ?_⟩, by simpa [written] using arg⟩
    have armed : left.timer ≠ none := by simpa [written] using armed
    simpa [written] using alike.pending armed
  have same := twins_seen twins env.beyond
  unfold httpEnter
  change HttpAlike (if sint16 (indexOf ((written left).buffer.seen env.beyond) crlfcrlf) = -1
      then if (written left).timerOpenedFlag then written left
        else startTime env { written left with pkgOneFlag := false, timerOpenedFlag := true }
      else written left)
    (if sint16 (indexOf ((written right).buffer.seen env.beyond) crlfcrlf) = -1
      then if (written right).timerOpenedFlag then written right
        else startTime env { written right with pkgOneFlag := false, timerOpenedFlag := true }
      else written right)
  rw [same, twins.flag]
  split
  · split
    · exact kept
    · refine ⟨⟨?_, fun _ => ⟨kept.arg, rfl⟩⟩, kept.arg⟩
      exact ⟨twins.setup, twins.bytes, twins.index, rfl, rfl, twins.calls⟩
  · exact kept

theorem http_deliver_alike (alike : HttpAlike left right) (announced : Int) :
    HttpAlike (httpDeliver env arg announced left) (httpDeliver env arg announced right) := by
  have twins : Twins (takePackage env arg (uint16 announced) left)
      (takePackage env arg (uint16 announced) right) := take_twins alike.toTwins _
  have addressed : (takePackage env arg (uint16 announced) left).arg =
      (takePackage env arg (uint16 announced) right).arg := by
    simpa using alike.arg
  have more : (0 < (takePackage env arg (uint16 announced) left).bufferIndex) =
      (0 < (takePackage env arg (uint16 announced) right).bufferIndex) := by
    rw [twins.index]
  simp only [httpDeliver, more]
  split
  · refine ⟨⟨?_, fun _ => ⟨addressed, rfl⟩⟩, addressed⟩
    exact start_time_twins (twins_lower twins false)
  · refine ⟨⟨twins, fun _ => ⟨addressed, ?_⟩⟩, addressed⟩
    rw [take_package_pkg_one_flag, take_package_pkg_one_flag]

theorem http_body_alike (alike : HttpAlike left right) :
    StepsRelated HttpAlike (httpBody env arg left) (httpBody env arg right) := by
  have verdict : httpHead (left.buffer.seen env.beyond) left.bufferIndex =
      httpHead (right.buffer.seen env.beyond) right.bufferIndex := by
    rw [twins_seen alike.toTwins, alike.index]
  unfold httpBody
  rw [verdict]
  split
  · exact .exit alike
  · have lowered := twins_lower alike.toTwins false
    apply StepsRelated.exit
    refine ⟨⟨open_timer_twins lowered, fun _ => ⟨?_, ?_⟩⟩, ?_⟩
    · simpa using alike.arg
    · rw [open_timer_pkg_one_flag, open_timer_pkg_one_flag]
    · simpa using alike.arg
  · exact .again (http_deliver_alike alike _)

/-- Within a call on a WebSocket object the flag is the same as well. -/
structure WebsocketAlike (left right : Session size) : Prop extends Twins left right where
  arg : left.arg = right.arg
  one : left.pkgOneFlag = right.pkgOneFlag

theorem websocket_alike (alike : WebsocketAlike left right) : Alike left right :=
  ⟨alike.toTwins, fun _ => ⟨alike.arg, alike.one⟩⟩

theorem reject_alike (twins : Twins left right) (addressed : left.arg = right.arg) :
    WebsocketAlike (rejectBuffer env arg left) (rejectBuffer env arg right) := by
  refine ⟨reject_twins twins, by simpa using addressed, ?_⟩
  rw [reject_pkg_one_flag, reject_pkg_one_flag]

theorem open_timer_alike (alike : WebsocketAlike left right) :
    WebsocketAlike (openTimer env left) (openTimer env right) :=
  ⟨open_timer_twins alike.toTwins, by simpa using alike.arg, by simpa using alike.one⟩

theorem websocket_enter_alike (alike : Alike left right) (addressed : left.arg = right.arg)
    (pdata : List UInt8) :
    WebsocketAlike (websocketEnter env arg pdata left) (websocketEnter env arg pdata right) := by
  let written (session : Session size) : Session size :=
    { session with toSpro := serverRxWrite session.toSpro pdata }
  have twins : Twins (written left) (written right) := write_twins alike.toTwins pdata
  have arg' : (written left).arg = (written right).arg := by simpa [written] using addressed
  have first : (written left).buffer.read env.beyond 0 = (written right).buffer.read env.beyond 0 :=
    congrArg (fun seen => seen.getD 0 0) (twins_seen twins env.beyond)
  unfold websocketEnter
  change WebsocketAlike (if websocketStart ((written left).buffer.read env.beyond 0)
      then { written left with pkgOneFlag := true } else rejectBuffer env arg (written left))
    (if websocketStart ((written right).buffer.read env.beyond 0)
      then { written right with pkgOneFlag := true } else rejectBuffer env arg (written right))
  rw [first]
  split
  · exact ⟨twins_lower twins true, arg', rfl⟩
  · exact reject_alike twins arg'

theorem websocket_deliver_alike (alike : WebsocketAlike left right) (length : Nat) :
    WebsocketAlike (websocketDeliver env arg length left)
      (websocketDeliver env arg length right) := by
  have twins : Twins (takePackage env arg (uint16 length) left)
      (takePackage env arg (uint16 length) right) := take_twins alike.toTwins _
  have addressed : (takePackage env arg (uint16 length) left).arg =
      (takePackage env arg (uint16 length) right).arg := by
    simpa using alike.arg
  have first : (takePackage env arg (uint16 length) left).buffer.read env.beyond 0 =
      (takePackage env arg (uint16 length) right).buffer.read env.beyond 0 :=
    congrArg (fun seen => seen.getD 0 0) (twins_seen twins env.beyond)
  have more : (0 < (takePackage env arg (uint16 length) left).bufferIndex) =
      (0 < (takePackage env arg (uint16 length) right).bufferIndex) := by
    rw [twins.index]
  simp only [websocketDeliver, more, first]
  split
  · split
    · exact open_timer_alike ⟨twins_lower twins true, addressed, rfl⟩
    · exact reject_alike twins addressed
  · exact ⟨twins_lower twins false, addressed, rfl⟩

theorem websocket_body_alike (alike : WebsocketAlike left right) :
    StepsRelated WebsocketAlike (websocketBody env arg left) (websocketBody env arg right) := by
  have verdict : websocketHead (left.buffer.seen env.beyond) left.bufferIndex =
      websocketHead (right.buffer.seen env.beyond) right.bufferIndex := by
    rw [twins_seen alike.toTwins, alike.index]
  unfold websocketBody
  rw [alike.one, verdict]
  split
  · split
    · exact .again (open_timer_alike ⟨twins_lower alike.toTwins false, alike.arg, rfl⟩)
    · exact .again (websocket_deliver_alike alike _)
    · exact .exit (reject_alike alike.toTwins alike.arg)
  · exact .exit alike

end Calls

section Connections

variable {left right : Session size}

theorem alike_addressed (alike : Alike left right) (arg : Nat) :
    Alike { left with arg := arg } { right with arg := arg } := by
  refine ⟨?_, fun armed => ⟨rfl, (alike.pending armed).2⟩⟩
  exact ⟨alike.setup, alike.bytes, alike.index, alike.timer, alike.flag, alike.calls⟩

theorem pass_segment_alike (alike : Alike left right) (arg : Nat) (pdata : List UInt8) :
    Alike (passSegment arg pdata left) (passSegment arg pdata right) := by
  have registered : left.pkgProcCb = right.pkgProcCb := setup_registered alike.setup
  unfold passSegment
  rw [registered]
  split
  · refine ⟨?_, alike.pending⟩
    refine ⟨alike.setup, alike.bytes, alike.index, alike.timer, alike.flag, ?_⟩
    simp only [alike.calls, alike.index]
  · exact alike

theorem tick_alike (alike : Alike left right) (env : Ambient) :
    Alike (clockTick env left) (clockTick env right) := by
  unfold clockTick
  rw [alike.timer]
  split
  · rename_i due armed
    split
    · have pending := alike.pending (by rw [alike.timer, armed]; intro off; cases off)
      have passed : Twins (callPkgProcCb env left.arg left.bufferIndex left)
          (callPkgProcCb env right.arg right.bufferIndex right) := by
        rw [pending.1]
        exact call_twins alike.toTwins pending.2 alike.index
      have flushed := flush_twins passed
      refine ⟨?_, fun armed => absurd rfl armed⟩
      exact ⟨flushed.setup, flushed.bytes, rfl, rfl, rfl, flushed.calls⟩
    · exact alike
  · exact alike

theorem received_alike {segment : Segment} {next : Session size} (alike : Alike left right)
    (received : Received segment left next) :
    ∃ twin, Received segment right twin ∧ Alike next twin := by
  have entered := alike_addressed alike segment.arg
  have kinds : left.pkgType = right.pkgType := setup_kind alike.setup
  by_cases http : usesHttp left.pkgType = true
  · have http' : usesHttp right.pkgType = true := kinds ▸ http
    rcases exits_related HttpAlike (fun _ _ => http_body_alike)
      (http_enter_alike entered rfl segment.bytes) ((received_http http).1 received) with
      ⟨twin, exits, kept⟩
    exact ⟨twin, (received_http http').2 exits, kept.toAlike⟩
  · cases kind : left.pkgType with
    | null =>
        have kind' : right.pkgType = .null := kinds ▸ kind
        refine ⟨_, (received_null kind').2 rfl, ?_⟩
        rw [(received_null kind).1 received]
        exact pass_segment_alike entered _ _
    | websocket13 =>
        have kind' : right.pkgType = .websocket13 := kinds ▸ kind
        rcases exits_related WebsocketAlike (fun _ _ => websocket_body_alike)
          (websocket_enter_alike entered rfl segment.bytes) ((received_websocket kind).1 received)
          with ⟨twin, exits, kept⟩
        exact ⟨twin, (received_websocket kind').2 exits, websocket_alike kept⟩
    | http11 => simp [usesHttp, kind] at http
    | iotUpgrade => simp [usesHttp, kind] at http

theorem passes_alike {segment : Segment} {head : Session size} (alike : Alike left right)
    (passes : PassesHead segment left head) :
    ∃ twin, PassesHead segment right twin ∧ Alike head twin := by
  have entered := alike_addressed alike segment.arg
  have kinds : left.pkgType = right.pkgType := setup_kind alike.setup
  by_cases http : usesHttp left.pkgType = true
  · have http' : usesHttp right.pkgType = true := kinds ▸ http
    rcases visits_related HttpAlike (fun _ _ => http_body_alike)
      (http_enter_alike entered rfl segment.bytes) ((passes_http http).1 passes) with
      ⟨twin, visited, kept⟩
    exact ⟨twin, (passes_http http').2 visited, kept.toAlike⟩
  · cases kind : left.pkgType with
    | null => exact absurd passes (not_passes_null kind)
    | websocket13 =>
        have kind' : right.pkgType = .websocket13 := kinds ▸ kind
        rcases visits_related WebsocketAlike (fun _ _ => websocket_body_alike)
          (websocket_enter_alike entered rfl segment.bytes) ((passes_websocket kind).1 passes)
          with ⟨twin, visited, kept⟩
        exact ⟨twin, (passes_websocket kind').2 visited, websocket_alike kept⟩
    | http11 => simp [usesHttp, kind] at http
    | iotUpgrade => simp [usesHttp, kind] at http

theorem step_alike (left right : Session size) (event : SproEvent) (next : Session size)
    (alike : Alike left right) (taken : SproStep left event next) :
    ∃ twin, SproStep right event twin ∧ Alike next twin := by
  cases event with
  | recv segment => exact received_alike alike taken
  | tick env =>
      cases taken
      exact ⟨_, rfl, tick_alike alike env⟩
  | setPkgType pkgType =>
      cases taken
      refine ⟨_, rfl, ?_, alike.pending⟩
      have registered : left.pkgProcCb = right.pkgProcCb := setup_registered alike.setup
      exact ⟨congrArg (Prod.mk pkgType) registered, alike.bytes, alike.index, alike.timer,
        alike.flag, alike.calls⟩

/-- Whatever one of two like objects shows, the other shows too. -/
theorem shows_alike (alike : Alike left right) {events : List SproEvent} {calls : List PkgCall}
    (shown : Shows left events calls) : Shows right events calls := by
  rcases shown with ⟨reached, reaches, rfl⟩
  cases reaches with
  | between run =>
      rcases run_related Alike step_alike alike run with ⟨twin, run, kept⟩
      exact ⟨twin, .between run, kept.calls.symm⟩
  | within run passes =>
      rcases run_related Alike step_alike alike run with ⟨before, run, kept⟩
      rcases passes_alike kept passes with ⟨twin, passes, kept⟩
      exact ⟨twin, .within run passes, kept.calls.symm⟩

theorem new_connection_alike {session later : Session size} (rested : Rested session)
    (rested' : Rested later) (off : session.timer = none) (off' : later.timer = none)
    (registered : session.pkgProcCb = later.pkgProcCb) :
    Alike (newConnection session) (newConnection later) := by
  refine ⟨?_, fun armed => absurd off armed⟩
  constructor
  · exact congrArg (Prod.mk SproPkgType.http11) registered
  · exact (rested.empty (rested.idle off)).trans (rested'.empty (rested'.idle off')).symm
  · exact (rested.idle off).trans (rested'.idle off').symm
  · exact off.trans off'.symm
  · exact (rested.flag off).trans (rested'.flag off').symm
  · rfl

/-- An old timer passes what it finds into the new connection. -/
theorem armed_shows {session : Session size} {due : Nat} (armed : session.timer = some due)
    (registered : session.pkgProcCb = true) :
    ∃ call, Shows (newConnection session) [.tick ⟨due, []⟩] [call] := by
  let ticked := clockTick ⟨due, []⟩ (newConnection session)
  have fired : ticked = spro10sTimerCallback ⟨due, []⟩ (newConnection session) := by
    change clockTick _ (newConnection session) = _
    have armed : (newConnection session).timer = some due := armed
    rw [clockTick, armed]
    exact if_pos (Nat.le_refl due)
  have registered : (newConnection session).pkgProcCb = true := registered
  have passed : ∃ call, ticked.calls = [call] := by
    rw [fired, spro10sTimerCallback, callPkgProcCb, if_pos registered]
    exact ⟨_, rfl⟩
  rcases passed with ⟨call, calls⟩
  exact ⟨call, ticked, .between (.cons rfl .nil), calls⟩

theorem unarmed_shows {session : Session size} (off : session.timer = none) {env : Ambient}
    {calls : List PkgCall} (shown : Shows (newConnection session) [.tick env] calls) :
    calls = [] := by
  have quiet : clockTick env (newConnection session) = newConnection session := by
    have off : (newConnection session).timer = none := off
    rw [clockTick, off]
  rcases shown with ⟨reached, reaches, rfl⟩
  generalize events : [SproEvent.tick env] = list at reaches
  cases reaches with
  | between run =>
      subst events
      cases run with
      | cons first later =>
          cases later with
          | nil =>
              have same : reached = clockTick env (newConnection session) := first
              rw [same, quiet]
              rfl
  | @within front segment before reached run passes =>
      have last : [SproEvent.tick env].getLast? = (front ++ [SproEvent.recv segment]).getLast? :=
        congrArg List.getLast? events
      rw [List.getLast?_append] at last
      cases last

theorem step_registered (session : Session size) (event : SproEvent) (next : Session size)
    (registered : session.pkgProcCb = true) (taken : SproStep session event next) :
    next.pkgProcCb = true := by
  cases event with
  | recv segment => exact (setup_registered (received_setup taken)).trans registered
  | tick env =>
      cases taken
      exact (setup_registered (tick_setup env session)).trans registered
  | setPkgType pkgType =>
      cases taken
      exact registered

/-- The new connection shows what it would show after any other history that
left the timer off, exactly if this one left it off as well. -/
theorem connection_isolated {history : List SproEvent} {session : Session recvBufferSize}
    (run : Run SproStep networkSpro history session) :
    (∀ (other : List SproEvent) (later : Session recvBufferSize),
      Run SproStep networkSpro other later → later.timer = none →
      ∀ events calls, Shows (newConnection session) events calls ↔
        Shows (newConnection later) events calls) ↔
      session.timer = none := by
  have fresh : Rested networkSpro := fresh_rested .http11 true
  have rested : Rested session := run_keeps Rested step_rested fresh run
  have registered : session.pkgProcCb = true :=
    run_keeps (fun reached : Session recvBufferSize => reached.pkgProcCb = true) step_registered
      rfl run
  constructor
  · intro isolated
    cases armed : session.timer with
    | none => rfl
    | some due =>
        rcases armed_shows armed registered with ⟨call, shown⟩
        have same := isolated [] networkSpro .nil rfl [.tick ⟨due, []⟩] [call]
        have silent := unarmed_shows rfl (same.1 shown)
        cases silent
  · intro off other later run' off' events calls
    have rested' : Rested later := run_keeps Rested step_rested fresh run'
    have registered' : later.pkgProcCb = true :=
      run_keeps (fun reached : Session recvBufferSize => reached.pkgProcCb = true) step_registered
        rfl run'
    have alike : Alike (newConnection session) (newConnection later) :=
      new_connection_alike rested rested' off off' (registered.trans registered'.symm)
    exact ⟨shows_alike alike, shows_alike (alike_symm alike)⟩

/-- The old connection ends three bytes into a frame. -/
def brokenFrame : List SproEvent :=
  [.setPkgType .websocket13, .recv ⟨⟨0, []⟩, 7, [0x81, 5, 104]⟩]

theorem connection_isolated_expired :
    ∃ session, Run SproStep networkSpro (brokenFrame ++ [.tick ⟨10000, []⟩]) session ∧
      ∀ events calls, Shows (newConnection session) events calls ↔
        Shows (newConnection networkSpro) events calls := by
  have expires : (execRun (sproExec 4) networkSpro (brokenFrame ++ [.tick ⟨10000, []⟩])).any
      (fun session => session.timer.isNone) = true := by decide +kernel
  rcases exists_run_of_exec (spro_exec_sound 4) expires with ⟨session, run, off⟩
  have off : session.timer = none := Option.isNone_iff_eq_none.1 off
  exact ⟨session, run, (connection_isolated run).2 off [] networkSpro .nil rfl⟩

def response : Segment := ⟨⟨20, []⟩, 7, crlfcrlf⟩

/-- A new object shows no package of seven bytes for it. -/
theorem response_shown {calls : List PkgCall}
    (shown : Shows (newConnection networkSpro) [.recv response] calls) :
    (calls.any fun call => call.pkgLen == 7) = false := by
  let entered := httpEnter response.env response.bytes
    { newConnection networkSpro with arg := response.arg }
  let taken := httpDeliver response.env response.arg 4 entered
  have whole : httpHead (entered.buffer.seen response.env.beyond) entered.bufferIndex =
      .package 4 := by decide +kernel
  have flushed : taken.buffer.bytes = List.replicate 2048 0 := by
    have all : entered.bufferIndex = 4 := by decide +kernel
    rw [http_deliver_buffer, take_package_spro, read_all _ (Nat.zero_lt_succ 3) all.symm]
    exact flush_bytes _
  have nothing : httpHead (taken.buffer.seen response.env.beyond) taken.bufferIndex =
      .noTerminator := by
    rw [Region.seen, flushed]
    decide +kernel
  have passes : httpBody response.env response.arg entered = .again taken := by
    rw [httpBody, whole]
  have leaves : httpBody response.env response.arg taken = .exit taken := by
    rw [httpBody, nothing]
  have four : (taken.calls.any fun call => call.pkgLen == 7) = false := by decide +kernel
  rcases shown with ⟨reached, reaches, rfl⟩
  generalize events : [SproEvent.recv response] = list at reaches
  cases reaches with
  | between run =>
      subst events
      cases run with
      | cons first later =>
          cases later with
          | nil =>
              have exits := (received_http rfl).1 first
              rw [exits_exit leaves (exits_again passes exits)]
              exact four
  | @within front segment before reached run passed =>
      rcases List.append_eq_singleton_iff.1 events.symm with ⟨rfl, last⟩ | ⟨-, last⟩
      · cases run
        cases last
        have visited := (passes_http rfl).1 passed
        cases visited with
        | here => rfl
        | later continues rest =>
            have same := passes.symm.trans continues
            cases same
            cases rest with
            | here => exact four
            | later continues' _ =>
                have clash := leaves.symm.trans continues'
                cases clash
      · cases last

/-- The front of a frame becomes part of the first package of the new
connection. -/
theorem connection_leaks :
    ¬ ∀ (left right : List SproEvent) (session later : Session recvBufferSize),
      Run SproStep networkSpro left session → Run SproStep networkSpro right later →
      ∀ events calls, Shows (newConnection session) events calls ↔
        Shows (newConnection later) events calls := by
  intro claimed
  have leaks : (execRun (sproExec 4) networkSpro brokenFrame).any (fun session =>
      match spTcpRecv 1 response.env response.arg response.bytes (newConnection session) with
      | .again head => head.calls.any fun call => call.pkgLen == 7
      | .exit _ => false) = true := by decide +kernel
  rcases exists_run_of_exec (spro_exec_sound 4) leaks with ⟨session, run, answered⟩
  split at answered
  · rename_i head running
    have shown : Shows (newConnection session) [.recv response] head.calls :=
      ⟨head, @Reaches.within _ _ [] _ _ _ .nil ⟨1, running⟩, rfl⟩
    have same := claimed brokenFrame [] session networkSpro run .nil [.recv response] head.calls
    rw [response_shown (same.1 shown)] at answered
    cases answered
  · cases answered

end Connections

end IotgoFirmware.Receive.ConnectionReuse
