import IotgoFirmware.Library.LoopRules
import IotgoFirmware.Library.StreamFraming
import IotgoFirmware.Receive.SproObject

/-!
# WebSocket packages

`processWebsocketPackage` appends a segment and takes complete frames off the
buffer. Only the two header forms a server sends are known: a length byte up to
125 and a 16-bit length after 126; ping and pong frames must be empty. Anything
else is passed to the callback as it stands and thrown away.
-/

namespace IotgoFirmware.Receive.SproWebsocket

open IotgoFirmware.Library.ByteRegions
open IotgoFirmware.Library.CIntegers
open IotgoFirmware.Library.LoopRules
open IotgoFirmware.Library.StreamFraming
open IotgoFirmware.Receive.SproObject

set_option autoImplicit false

variable {size : UInt16}

def websocketStart (byte : UInt8) : Bool :=
  byte = 0x81 || byte = 0x82 || byte = 0x8a || byte = 0x89

/-- What the loop decides about the frame at the front of the buffer. -/
def websocketHead (memory : List UInt8) (available : Nat) : Verdict :=
  if memory.getD 0 0 = 0x81 ∨ memory.getD 0 0 = 0x82 then
    if 2 ≤ available then
      if (memory.getD 1 0).toNat ≤ 125 then
        if available < (memory.getD 1 0).toNat + 2 then .wait
        else .package ((memory.getD 1 0).toNat + 2)
      else if (memory.getD 1 0).toNat = 126 then
        if available < 4 ∨
            available < (memory.getD 2 0).toNat * 256 + (memory.getD 3 0).toNat + 4 then .wait
        else .package ((memory.getD 2 0).toNat * 256 + (memory.getD 3 0).toNat + 4)
      else .invalid
    else .wait
  else if memory.getD 0 0 = 0x8a ∨ memory.getD 0 0 = 0x89 then
    if available < 2 then .wait
    else if memory.getD 1 0 = 0x00 then .package 2
    else .invalid
  else .invalid

/-- `if(!obj->_timer_opened_flag)`: raise the flag and start the timer. -/
def openTimer (env : Ambient) (session : Session size) : Session size :=
  if session.timerOpenedFlag then session
  else startTime env { session with timerOpenedFlag := true }

/-- Pass everything buffered with the flag down, and drop it. The timer is left
as it is. -/
def rejectBuffer (env : Ambient) (arg : Nat) (session : Session size) : Session size :=
  let passed := callPkgProcCb env arg session.bufferIndex { session with pkgOneFlag := false }
  { passed with toSpro := serverRxFlush passed.toSpro }

/-- The part before the loop. -/
def websocketEnter (env : Ambient) (arg : Nat) (pdata : List UInt8) (session : Session size) :
    Session size :=
  let written : Session size := { session with toSpro := serverRxWrite session.toSpro pdata }
  if websocketStart (written.buffer.read env.beyond 0) then { written with pkgOneFlag := true }
  else rejectBuffer env arg written

/-- A complete frame. The loop goes on if the next byte can start one. -/
def websocketDeliver (env : Ambient) (arg length : Nat) (session : Session size) :
    Session size :=
  let taken := takePackage env arg (uint16 length) session
  if 0 < taken.bufferIndex then
    if websocketStart (taken.buffer.read env.beyond 0) then
      openTimer env { taken with pkgOneFlag := true }
    else rejectBuffer env arg taken
  else { taken with pkgOneFlag := false }

def websocketBody (env : Ambient) (arg : Nat) (session : Session size) :
    LoopStep (Session size) :=
  if session.pkgOneFlag then
    match websocketHead (session.buffer.seen env.beyond) session.bufferIndex with
    | .wait => .again (openTimer env { session with pkgOneFlag := false })
    | .package length => .again (websocketDeliver env arg length session)
    | .invalid => .exit (rejectBuffer env arg session)
  else .exit session

def processWebsocketPackage (fuel : Nat) (env : Ambient) (arg : Nat) (pdata : List UInt8)
    (session : Session size) : LoopStep (Session size) :=
  iterate (websocketBody env arg) fuel (websocketEnter env arg pdata session)

section OpenTimer

variable (env : Ambient) (session : Session size)

@[simp] theorem open_timer_buffer : (openTimer env session).buffer = session.buffer := by
  unfold openTimer startTime
  split <;> rfl

@[simp] theorem open_timer_index : (openTimer env session).bufferIndex = session.bufferIndex := by
  unfold openTimer startTime
  split <;> rfl

@[simp] theorem open_timer_pkg_type : (openTimer env session).pkgType = session.pkgType := by
  unfold openTimer startTime
  split <;> rfl

@[simp] theorem open_timer_pkg_proc_cb :
    (openTimer env session).pkgProcCb = session.pkgProcCb := by
  unfold openTimer startTime
  split <;> rfl

@[simp] theorem open_timer_pkg_one_flag :
    (openTimer env session).pkgOneFlag = session.pkgOneFlag := by
  unfold openTimer startTime
  split <;> rfl

@[simp] theorem open_timer_arg : (openTimer env session).arg = session.arg := by
  unfold openTimer startTime
  split <;> rfl

@[simp] theorem open_timer_calls : (openTimer env session).calls = session.calls := by
  unfold openTimer startTime
  split <;> rfl

theorem open_timer_started (flag : session.timerOpenedFlag = false) :
    (openTimer env session).timer = some (env.now + 10000) ∧
      (openTimer env session).timerOpenedFlag = true := by
  unfold openTimer
  rw [flag, if_neg (by decide)]
  exact ⟨rfl, rfl⟩

theorem open_timer_running (flag : session.timerOpenedFlag = true) :
    openTimer env session = session := by
  unfold openTimer
  rw [if_pos flag]

theorem receiving_open_timer {pkgType : SproPkgType} {live : List UInt8}
    (receiving : Receiving pkgType session live) :
    Receiving pkgType (openTimer env session) live where
  holds := ⟨by simpa using receiving.holds.index, by simpa using receiving.holds.front⟩
  kind := by simpa using receiving.kind
  registered := by simpa using receiving.registered

end OpenTimer

section Reject

variable (env : Ambient) (arg : Nat) (session : Session size)

theorem reject_spro :
    (rejectBuffer env arg session).toSpro =
      serverRxFlush { session.toSpro with pkgOneFlag := false } := by
  simp only [rejectBuffer, call_pkg_proc_cb_spro]

@[simp] theorem reject_index : (rejectBuffer env arg session).bufferIndex = 0 := rfl

@[simp] theorem reject_pkg_one_flag : (rejectBuffer env arg session).pkgOneFlag = false := by
  rw [reject_spro]
  rfl

@[simp] theorem reject_arg : (rejectBuffer env arg session).arg = session.arg := by
  rw [reject_spro]
  rfl

@[simp] theorem reject_timer : (rejectBuffer env arg session).timer = session.timer := by
  rw [reject_spro]
  rfl

@[simp] theorem reject_timer_opened_flag :
    (rejectBuffer env arg session).timerOpenedFlag = session.timerOpenedFlag := by
  rw [reject_spro]
  rfl

theorem reject_leaves : websocketBody env arg (rejectBuffer env arg session) =
    .exit (rejectBuffer env arg session) := by
  rw [websocketBody, reject_pkg_one_flag, if_neg (by decide)]

end Reject

section Setup

variable (env : Ambient) (arg : Nat) (session : Session size)

theorem open_timer_setup : (openTimer env session).setup = session.setup := by
  simp [Session.setup]

theorem reject_setup : (rejectBuffer env arg session).setup = session.setup :=
  call_setup env arg session.bufferIndex { session with pkgOneFlag := false }

theorem websocket_enter_setup (pdata : List UInt8) :
    (websocketEnter env arg pdata session).setup = session.setup := by
  have written : Session.setup { session with toSpro := serverRxWrite session.toSpro pdata } =
      session.setup := by
    simp [Session.setup]
  simp only [websocketEnter]
  split
  · exact written
  · rw [reject_setup]
    exact written

theorem websocket_deliver_setup (length : Nat) :
    (websocketDeliver env arg length session).setup = session.setup := by
  have taken := take_setup env arg (uint16 length) session
  simp only [websocketDeliver]
  split
  · split
    · rw [open_timer_setup]
      exact taken
    · rw [reject_setup]
      exact taken
  · exact taken

end Setup

theorem websocket_head_package {memory : List UInt8} {available length : Nat}
    (verdict : websocketHead memory available = .package length) :
    2 ≤ length ∧ length ≤ available := by
  unfold websocketHead at verdict
  split_ifs at verdict with data two short few long far control one zero <;>
    simp only [Verdict.package.injEq] at verdict <;> omega

/-- What one pass of the loop can do. -/
theorem websocket_body_cases (env : Ambient) (arg : Nat) (session : Session size) :
    (session.pkgOneFlag = false ∧ websocketBody env arg session = .exit session) ∨
    (session.pkgOneFlag = true ∧
      websocketHead (session.buffer.seen env.beyond) session.bufferIndex = .wait ∧
      websocketBody env arg session = .again (openTimer env { session with pkgOneFlag := false })) ∨
    (∃ length, session.pkgOneFlag = true ∧
      websocketHead (session.buffer.seen env.beyond) session.bufferIndex = .package length ∧
      websocketBody env arg session = .again (websocketDeliver env arg length session)) ∨
    (session.pkgOneFlag = true ∧
      websocketHead (session.buffer.seen env.beyond) session.bufferIndex = .invalid ∧
      websocketBody env arg session = .exit (rejectBuffer env arg session)) := by
  cases flag : session.pkgOneFlag with
  | false => exact .inl ⟨rfl, by simp [websocketBody, flag]⟩
  | true =>
      right
      cases head : websocketHead (session.buffer.seen env.beyond) session.bufferIndex with
      | wait => exact .inl ⟨rfl, rfl, by simp [websocketBody, flag, head]⟩
      | package length => exact .inr (.inl ⟨length, rfl, rfl, by simp [websocketBody, flag, head]⟩)
      | invalid => exact .inr (.inr ⟨rfl, rfl, by simp [websocketBody, flag, head]⟩)

/-- Where a frame leaves the loop: nothing left, something foreign, or the
start of a frame. -/
theorem websocket_deliver_cases (env : Ambient) (arg : Nat) {session : Session size}
    {live : List UInt8} (holds : Holds session.toSpro live) {length : Nat} (positive : 0 < length)
    (bounded : length ≤ live.length) :
    (live.drop length = [] ∧ websocketDeliver env arg length session =
      { takePackage env arg length session with pkgOneFlag := false }) ∨
    (live.drop length ≠ [] ∧ websocketStart ((live.drop length).getD 0 0) = false ∧
      websocketDeliver env arg length session =
        rejectBuffer env arg (takePackage env arg length session)) ∨
    (live.drop length ≠ [] ∧ websocketStart ((live.drop length).getD 0 0) = true ∧
      websocketDeliver env arg length session =
        openTimer env { takePackage env arg length session with pkgOneFlag := true }) := by
  have small : length < 65536 := by
    have room := holds_length holds
    have bound := size_lt size
    omega
  have taken := take_package_holds env arg holds positive bounded
  simp only [websocketDeliver, uint16_natCast small]
  by_cases left : live.drop length = []
  · have none : (takePackage env arg length session).bufferIndex = 0 := by
      rw [taken.index, left]
      rfl
    rw [if_neg (by omega)]
    exact .inl ⟨left, rfl⟩
  · right
    have positive := List.length_pos_of_ne_nil left
    have some : 0 < (takePackage env arg length session).bufferIndex := by
      rw [taken.index]
      exact positive
    have first : (takePackage env arg length session).buffer.read env.beyond 0 =
        (live.drop length).getD 0 0 := by
      rw [Region.read, holds_read_byte taken env.beyond positive]
    rw [if_pos some, first]
    cases start : websocketStart ((live.drop length).getD 0 0) with
    | false => exact .inl ⟨left, rfl, if_neg (by decide)⟩
    | true => exact .inr ⟨left, rfl, if_pos rfl⟩

theorem websocket_head_start {memory : List UInt8} {available : Nat}
    (valid : websocketHead memory available ≠ .invalid) :
    websocketStart (memory.getD 0 0) = true := by
  unfold websocketHead at valid
  unfold websocketStart
  split_ifs at valid with data _ _ _ _ _ control <;> simp_all

/-- Only buffered bytes are looked at once there is one. -/
theorem websocket_head_congr {left right : List UInt8} {available : Nat}
    (some : 0 < available)
    (same : ∀ index < available, left.getD index 0 = right.getD index 0) :
    websocketHead left available = websocketHead right available := by
  unfold websocketHead
  rw [same 0 some]
  by_cases two : 2 ≤ available
  · rw [same 1 (by omega)]
    by_cases four : 4 ≤ available
    · rw [same 2 (by omega), same 3 (by omega)]
    · have few : available < 4 := by omega
      simp only [few, true_or, if_true]
  · have one : available < 2 := by omega
    simp only [two, one, if_false, if_true]

/-- The frames a receiver of this protocol is meant to see. -/
def websocketFraming : Framing UInt8 := fun held =>
  if held = [] then .wait else websocketHead held held.length

@[simp] theorem websocket_framing_nil : websocketFraming [] = .wait := rfl

theorem holds_websocket_head {spro : Spro size} {live : List UInt8} (holds : Holds spro live)
    (beyond : List UInt8) (nonempty : live ≠ []) :
    websocketHead (spro.buffer.seen beyond) spro.bufferIndex = websocketFraming live := by
  rw [websocketFraming, if_neg nonempty, holds.index]
  apply websocket_head_congr (List.length_pos_of_ne_nil nonempty)
  intro index bound
  exact holds_read_byte holds beyond bound

/-- Frames as a server sends them; the length bounds are those of their length
fields. -/
inductive ServerFrame where
  | short (binary : Bool) (payload : List UInt8) (fits : payload.length ≤ 125)
  | extended (binary : Bool) (payload : List UInt8) (fits : payload.length < 65536)
  | control (pong : Bool)

def dataOpcode (binary : Bool) : UInt8 :=
  if binary then 0x82 else 0x81

def ServerFrame.bytes : ServerFrame → List UInt8
  | .short binary payload _ => dataOpcode binary :: UInt8.ofNat payload.length :: payload
  | .extended binary payload _ =>
      dataOpcode binary :: 126 :: UInt8.ofNat (payload.length / 256) ::
        UInt8.ofNat (payload.length % 256) :: payload
  | .control pong => [if pong then 0x8a else 0x89, 0x00]

end IotgoFirmware.Receive.SproWebsocket
