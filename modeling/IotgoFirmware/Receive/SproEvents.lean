import IotgoFirmware.Library.StepRuns
import IotgoFirmware.Receive.SproHttp

/-!
# The receive object between its events

A `Spro` object is driven from outside by three kinds of event: a TCP segment
arrives, time passes, or its owner changes the package type. A call of
`spTcpRecv` need not return, so a step is a relation; the loop heads a call
passes are states in their own right.
-/

namespace IotgoFirmware.Receive.SproEvents

open IotgoFirmware.Library.LoopRules
open IotgoFirmware.Receive.SproObject
open IotgoFirmware.Receive.SproWebsocket
open IotgoFirmware.Receive.SproHttp

set_option autoImplicit false

variable {size : UInt16}

def spro10sTimerCallback (env : Ambient) (session : Session size) : Session size :=
  let passed := callPkgProcCb env session.arg session.bufferIndex session
  { passed with
    toSpro := { serverRxFlush passed.toSpro with timer := none, timerOpenedFlag := false } }

/-- `SPRO_PKG_TYPE_NULL`: the segment itself is the package. -/
def passSegment (arg : Nat) (pdata : List UInt8) (session : Session size) : Session size :=
  if session.pkgProcCb then
    { session with
      calls := session.calls ++
        [{ arg := arg
           memory := pdata
           pkgLen := pdata.length
           flag := true
           buffered := session.bufferIndex }] }
  else session

def spTcpRecv (fuel : Nat) (env : Ambient) (arg : Nat) (pdata : List UInt8)
    (session : Session size) : LoopStep (Session size) :=
  match session.pkgType with
  | .http11 => processHTTPPackage fuel env arg pdata { session with arg := arg }
  | .websocket13 => processWebsocketPackage fuel env arg pdata { session with arg := arg }
  | .iotUpgrade => processHTTPPackage fuel env arg pdata { session with arg := arg }
  | .null => .exit (passSegment arg pdata { session with arg := arg })

/-- The timer runs out when its time has come, and not before. -/
def clockTick (env : Ambient) (session : Session size) : Session size :=
  match session.timer with
  | some due => if due ≤ env.now then spro10sTimerCallback env session else session
  | none => session

/-- One call of the TCP receive callback. -/
structure Segment where
  env : Ambient
  arg : Nat
  bytes : List UInt8

inductive SproEvent where
  | recv (segment : Segment)
  | tick (env : Ambient)
  | setPkgType (pkgType : SproPkgType)

def Received (segment : Segment) (session next : Session size) : Prop :=
  ∃ fuel, spTcpRecv fuel segment.env segment.arg segment.bytes session = .exit next

/-- The call passes the head of its loop in this state. -/
def PassesHead (segment : Segment) (session head : Session size) : Prop :=
  ∃ fuel, spTcpRecv fuel segment.env segment.arg segment.bytes session = .again head

def SproStep (session : Session size) : SproEvent → Session size → Prop
  | .recv segment, next => Received segment session next
  | .tick env, next => next = clockTick env session
  | .setPkgType pkgType, next => next = spSetPkgType session pkgType

/-- The segment finds room behind what is buffered. -/
def FitsBuffer (session : Session size) : SproEvent → Prop
  | .recv segment => session.bufferIndex + segment.bytes.length ≤ size.toNat
  | _ => True

instance (session : Session size) : (event : SproEvent) → Decidable (FitsBuffer session event)
  | .recv segment =>
      inferInstanceAs (Decidable (session.bufferIndex + segment.bytes.length ≤ size.toNat))
  | .tick _ => .isTrue trivial
  | .setPkgType _ => .isTrue trivial

/-- A step, computed as far as the fuel allows. -/
def sproExec (fuel : Nat) (session : Session size) : SproEvent → Option (Session size)
  | .recv segment =>
      match spTcpRecv fuel segment.env segment.arg segment.bytes session with
      | .exit next => some next
      | .again _ => none
  | .tick env => some (clockTick env session)
  | .setPkgType pkgType => some (spSetPkgType session pkgType)

/-- Is the package type one that `processHTTPPackage` handles? -/
def usesHttp (pkgType : SproPkgType) : Bool :=
  pkgType = .http11 || pkgType = .iotUpgrade

section Appended

variable {session : Session size} {segment : Segment}

def appended (segment : Segment) (session : Session size) : Spro size :=
  serverRxWrite { session.toSpro with arg := segment.arg } segment.bytes

theorem appended_index (inside : session.bufferIndex ≤ size.toNat) :
    (appended segment session).bufferIndex =
      min (session.bufferIndex + segment.bytes.length) size.toNat := by
  have room : ({ session.toSpro with arg := segment.arg } : Spro size).bufferIndex ≤ size.toNat :=
    inside
  exact write_index room segment.bytes

theorem appended_first (inside : session.bufferIndex ≤ size.toNat) (some : session.bufferIndex ≠ 0)
    (beyond later : List UInt8) :
    (appended segment session).buffer.read later 0 = session.buffer.read beyond 0 := by
  have room : ({ session.toSpro with arg := segment.arg } : Spro size).bufferIndex ≤ size.toNat :=
    inside
  exact write_first room some segment.bytes beyond later

end Appended

theorem received_websocket {segment : Segment} {session next : Session size}
    (websocket : session.pkgType = .websocket13) :
    Received segment session next ↔
      Exits (websocketBody segment.env segment.arg)
        (websocketEnter segment.env segment.arg segment.bytes { session with arg := segment.arg })
        next := by
  rw [← exits_iff_iterate]
  simp only [Received, spTcpRecv, websocket, processWebsocketPackage]

theorem passes_websocket {segment : Segment} {session head : Session size}
    (websocket : session.pkgType = .websocket13) :
    PassesHead segment session head ↔
      Visits (websocketBody segment.env segment.arg)
        (websocketEnter segment.env segment.arg segment.bytes { session with arg := segment.arg })
        head := by
  rw [← visits_iff_iterate]
  simp only [PassesHead, spTcpRecv, websocket, processWebsocketPackage]

theorem received_http {segment : Segment} {session next : Session size}
    (http : usesHttp session.pkgType = true) :
    Received segment session next ↔
      Exits (httpBody segment.env segment.arg)
        (httpEnter segment.env segment.bytes { session with arg := segment.arg }) next := by
  rw [← exits_iff_iterate]
  cases kind : session.pkgType <;>
    simp_all [usesHttp, Received, spTcpRecv, processHTTPPackage]

theorem passes_http {segment : Segment} {session head : Session size}
    (http : usesHttp session.pkgType = true) :
    PassesHead segment session head ↔
      Visits (httpBody segment.env segment.arg)
        (httpEnter segment.env segment.bytes { session with arg := segment.arg }) head := by
  rw [← visits_iff_iterate]
  cases kind : session.pkgType <;>
    simp_all [usesHttp, PassesHead, spTcpRecv, processHTTPPackage]

theorem received_null {segment : Segment} {session next : Session size}
    (null : session.pkgType = .null) :
    Received segment session next ↔
      next = passSegment segment.arg segment.bytes { session with arg := segment.arg } := by
  simp [Received, spTcpRecv, null, eq_comm]

theorem not_passes_null {segment : Segment} {session head : Session size}
    (null : session.pkgType = .null) : ¬ PassesHead segment session head := by
  simp [PassesHead, spTcpRecv, null]

/-- A loop whose passes keep the setup. -/
theorem exits_setup {body : Session size → LoopStep (Session size)} {head final : Session size}
    (again : ∀ head next, body head = .again next → next.setup = head.setup)
    (exit : ∀ head final, body head = .exit final → final.setup = head.setup)
    (exits : Exits body head final) : final.setup = head.setup := by
  apply exits_keeps (fun reached : Session size => reached.setup = head.setup) _ _ rfl exits
  · intro reached next kept continues
    exact (again reached next continues).trans kept
  · intro reached final kept leaves
    exact (exit reached final leaves).trans kept

theorem websocket_exits_setup {env : Ambient} {arg : Nat} {head final : Session size}
    (exits : Exits (websocketBody env arg) head final) : final.setup = head.setup := by
  apply exits_setup _ _ exits
  · intro head next continues
    rcases websocket_body_cases env arg head with ⟨-, pass⟩ | ⟨-, -, pass⟩ |
      ⟨length, -, -, pass⟩ | ⟨-, -, pass⟩
    all_goals
      rw [pass] at continues
      cases continues
    · exact open_timer_setup env { head with pkgOneFlag := false }
    · exact websocket_deliver_setup env arg head length
  · intro head final leaves
    rcases websocket_body_cases env arg head with ⟨-, pass⟩ | ⟨-, -, pass⟩ |
      ⟨length, -, -, pass⟩ | ⟨-, -, pass⟩
    all_goals
      rw [pass] at leaves
      cases leaves
    · rfl
    · exact reject_setup env arg head

theorem http_exits_setup {env : Ambient} {arg : Nat} {head final : Session size}
    (exits : Exits (httpBody env arg) head final) : final.setup = head.setup := by
  apply exits_setup _ _ exits
  · intro head next continues
    rcases http_body_cases env arg head with ⟨-, pass⟩ | ⟨-, pass⟩ | ⟨announced, -, pass⟩
    all_goals
      rw [pass] at continues
      cases continues
    exact http_deliver_setup env arg head announced
  · intro head final leaves
    rcases http_body_cases env arg head with ⟨-, pass⟩ | ⟨-, pass⟩ | ⟨announced, -, pass⟩
    all_goals
      rw [pass] at leaves
      cases leaves
    · rfl
    · exact open_timer_setup env { head with pkgOneFlag := false }

theorem received_setup {segment : Segment} {session next : Session size}
    (received : Received segment session next) : next.setup = session.setup := by
  by_cases http : usesHttp session.pkgType = true
  · rw [http_exits_setup ((received_http http).1 received), http_enter_setup]
    rfl
  · cases kind : session.pkgType with
    | null =>
        rw [(received_null kind).1 received, passSegment]
        split <;> rfl
    | websocket13 =>
        rw [websocket_exits_setup ((received_websocket kind).1 received), websocket_enter_setup]
        rfl
    | http11 => simp [usesHttp, kind] at http
    | iotUpgrade => simp [usesHttp, kind] at http

theorem received_pkg_type {segment : Segment} {session next : Session size}
    (received : Received segment session next) : next.pkgType = session.pkgType :=
  setup_kind (received_setup received)

theorem received_unique {segment : Segment} {session left right : Session size}
    (first : Received segment session left) (second : Received segment session right) :
    left = right := by
  cases kind : session.pkgType with
  | null => rw [(received_null kind).1 first, (received_null kind).1 second]
  | websocket13 =>
      exact exits_unique ((received_websocket kind).1 first) ((received_websocket kind).1 second)
  | http11 =>
      have http : usesHttp session.pkgType = true := by simp [usesHttp, kind]
      exact exits_unique ((received_http http).1 first) ((received_http http).1 second)
  | iotUpgrade =>
      have http : usesHttp session.pkgType = true := by simp [usesHttp, kind]
      exact exits_unique ((received_http http).1 first) ((received_http http).1 second)

theorem spro_step_unique (session : Session size) (event : SproEvent) (left right : Session size)
    (first : SproStep session event left) (second : SproStep session event right) :
    left = right := by
  cases event with
  | recv segment => exact received_unique first second
  | tick env => exact first.trans second.symm
  | setPkgType pkgType => exact first.trans second.symm

theorem spro_exec_sound (fuel : Nat) (session : Session size) (event : SproEvent)
    (next : Session size) (computed : sproExec fuel session event = some next) :
    SproStep session event next := by
  cases event with
  | recv segment =>
      refine ⟨fuel, ?_⟩
      simp only [sproExec] at computed
      split at computed
      · rename_i final returns
        rw [returns, Option.some.inj computed]
      · cases computed
  | tick env => exact (Option.some.inj computed).symm
  | setPkgType pkgType => exact (Option.some.inj computed).symm

end IotgoFirmware.Receive.SproEvents
