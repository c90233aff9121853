import IotgoFirmware.Library.ByteRegions
import IotgoFirmware.Library.CIntegers
import IotgoFirmware.Library.CStrings
import Mathlib.Data.List.Forall2
import Mathlib.Data.List.Infix

/-!
# The receive object

`Spro` collects the bytes of one TCP stream and hands complete packages to a
callback. This module has its fields and the operations on the receive buffer,
`serverRxAvailable` to `serverRxWrite`. The one-shot timer is kept as the time
at which it is due; the callback is only remembered to be registered or not, and
what it is called with is recorded.
-/

namespace IotgoFirmware.Receive.SproObject

open IotgoFirmware.Library.ByteRegions
open IotgoFirmware.Library.CIntegers
open IotgoFirmware.Library.CStrings

set_option autoImplicit false

inductive SproPkgType where
  | null
  | http11
  | websocket13
  | iotUpgrade
  deriving DecidableEq

/-- `_buffer_size` is the size of the region, `timer` the due time in
milliseconds while armed, `pkgProcCb` whether `_pkg_proc_cb` is non-NULL. -/
structure Spro (size : UInt16) where
  pkgType : SproPkgType
  buffer : Region size.toNat
  timer : Option Nat
  pkgLen : Nat
  bufferIndex : Nat
  pkgOneFlag : Bool
  timerOpenedFlag : Bool
  pkgProcCb : Bool
  arg : Nat
  deriving DecidableEq

/-- What a call finds outside the object: the clock and the memory behind the
buffer. -/
structure Ambient where
  now : Nat
  beyond : List UInt8
  deriving DecidableEq

/-- One call of `_pkg_proc_cb`. The package is a pointer to the buffer, so it is
the memory seen from there; `buffered` is `_buffer_index` at that moment. -/
structure PkgCall where
  arg : Nat
  memory : List UInt8
  pkgLen : Nat
  flag : Bool
  buffered : Nat
  deriving DecidableEq

/-- The object together with the calls it has made so far. -/
structure Session (size : UInt16) extends Spro size where
  calls : List PkgCall
  deriving DecidableEq

def PkgCall.Delivers (call : PkgCall) (package : List UInt8) : Prop :=
  call.flag = true ∧ call.pkgLen = package.length ∧ call.memory.take call.pkgLen = package

variable {size : UInt16}

def spCreateObject (size : UInt16) (pkgType : SproPkgType) (pkgProcCb : Bool) : Session size where
  pkgType := pkgType
  buffer := Region.zeros size.toNat
  timer := none
  pkgLen := 0
  bufferIndex := 0
  pkgOneFlag := false
  timerOpenedFlag := false
  pkgProcCb := pkgProcCb
  arg := 0
  calls := []

def spSetPkgType (session : Session size) (pkgType : SproPkgType) : Session size :=
  { session with pkgType := pkgType }

def startTime (env : Ambient) (session : Session size) : Session size :=
  { session with timer := some (env.now + 10000) }

/-- `if(obj->_pkg_proc_cb) obj->_pkg_proc_cb(arg, obj->_buffer, len, obj->_pkg_one_flag)`. -/
def callPkgProcCb (env : Ambient) (arg len : Nat) (session : Session size) : Session size :=
  if session.pkgProcCb then
    { session with
      calls := session.calls ++
        [{ arg := arg
           memory := session.buffer.seen env.beyond
           pkgLen := len
           flag := session.pkgOneFlag
           buffered := session.bufferIndex }] }
  else session

def serverRxFlush (spro : Spro size) : Spro size :=
  { spro with
    bufferIndex := 0
    buffer := spro.buffer.fill 0 size.toNat 0 }

/-- The second `memset` clears as many bytes as are left, not as many as were
taken. -/
def serverRxRead (beyond : List UInt8) (spro : Spro size) : Spro size :=
  if spro.pkgLen = 0 then spro
  else if spro.pkgLen = spro.bufferIndex then serverRxFlush spro
  else
    let moved := spro.buffer.copyForward beyond (spro.bufferIndex - spro.pkgLen) spro.pkgLen 0
    let bufferIndex := uint16 ((spro.bufferIndex : Int) - spro.pkgLen)
    { spro with
      bufferIndex := bufferIndex
      buffer := moved.fill bufferIndex bufferIndex 0 }

def serverRxWrite (spro : Spro size) : List UInt8 → Spro size
  | [] => spro
  | byte :: rest =>
      if spro.bufferIndex < size.toNat then
        serverRxWrite
          { spro with
            buffer := spro.buffer.write spro.bufferIndex byte
            bufferIndex := spro.bufferIndex + 1 } rest
      else { spro with bufferIndex := size.toNat }

/-- A complete package: stop the timer, pass the package, take it off. -/
def takePackage (env : Ambient) (arg pkgLen : Nat) (session : Session size) : Session size :=
  let passed := callPkgProcCb env arg pkgLen
    { session with
      pkgOneFlag := true
      pkgLen := pkgLen
      timer := none
      timerOpenedFlag := false }
  { passed with toSpro := serverRxRead env.beyond passed.toSpro }

theorem size_lt (size : UInt16) : size.toNat < 65536 :=
  size.toNat_lt

section WriteFrame

variable (spro : Spro size) (pdata : List UInt8)

theorem server_rx_write_frame :
    serverRxWrite spro pdata =
      { spro with
        buffer := (serverRxWrite spro pdata).buffer
        bufferIndex := (serverRxWrite spro pdata).bufferIndex } := by
  induction pdata generalizing spro with
  | nil => rfl
  | cons byte rest ih =>
      rw [serverRxWrite]
      split
      · rw [ih]
      · rfl

@[simp] theorem write_pkg_type : (serverRxWrite spro pdata).pkgType = spro.pkgType := by
  rw [server_rx_write_frame]

@[simp] theorem write_timer : (serverRxWrite spro pdata).timer = spro.timer := by
  rw [server_rx_write_frame]

@[simp] theorem write_timer_opened_flag :
    (serverRxWrite spro pdata).timerOpenedFlag = spro.timerOpenedFlag := by
  rw [server_rx_write_frame]

@[simp] theorem write_pkg_proc_cb : (serverRxWrite spro pdata).pkgProcCb = spro.pkgProcCb := by
  rw [server_rx_write_frame]

@[simp] theorem write_pkg_one_flag :
    (serverRxWrite spro pdata).pkgOneFlag = spro.pkgOneFlag := by
  rw [server_rx_write_frame]

@[simp] theorem write_arg : (serverRxWrite spro pdata).arg = spro.arg := by
  rw [server_rx_write_frame]

end WriteFrame

theorem write_index {spro : Spro size} (inside : spro.bufferIndex ≤ size.toNat)
    (pdata : List UInt8) :
    (serverRxWrite spro pdata).bufferIndex =
      min (spro.bufferIndex + pdata.length) size.toNat := by
  induction pdata generalizing spro with
  | nil => simp [serverRxWrite, inside]
  | cons byte rest ih =>
      rw [serverRxWrite]
      split
      · rename_i room
        rw [ih (Nat.succ_le_of_lt room)]
        simp only [List.length_cons]
        omega
      · simp only [List.length_cons]
        omega

theorem write_index_le (spro : Spro size) (pdata : List UInt8) :
    (serverRxWrite spro pdata).bufferIndex ≤ max spro.bufferIndex size.toNat := by
  induction pdata generalizing spro with
  | nil => exact Nat.le_max_left _ _
  | cons byte rest ih =>
      rw [serverRxWrite]
      split
      · rename_i room
        have later := ih { spro with
          buffer := spro.buffer.write spro.bufferIndex byte
          bufferIndex := spro.bufferIndex + 1 }
        simp only at later
        omega
      · exact Nat.le_max_right _ _

/-- What is appended depends on the bytes in the buffer and its index alone. -/
theorem write_congr {left right : Spro size} (bytes : left.buffer.bytes = right.buffer.bytes)
    (index : left.bufferIndex = right.bufferIndex) (pdata : List UInt8) :
    (serverRxWrite left pdata).buffer.bytes = (serverRxWrite right pdata).buffer.bytes ∧
      (serverRxWrite left pdata).bufferIndex = (serverRxWrite right pdata).bufferIndex := by
  induction pdata generalizing left right with
  | nil => exact ⟨bytes, index⟩
  | cons byte rest ih =>
      simp only [serverRxWrite, index]
      split
      · apply ih
        · simp only [Region.write_bytes, bytes]
        · rfl
      · exact ⟨bytes, rfl⟩

theorem write_inside {spro : Spro size} {pdata : List UInt8}
    (inside : spro.bufferIndex ≤ size.toNat ∨ pdata ≠ []) :
    (serverRxWrite spro pdata).bufferIndex ≤ size.toNat := by
  by_cases room : spro.bufferIndex ≤ size.toNat
  · have bound := write_index_le spro pdata
    omega
  · cases pdata with
    | nil => simp [room] at inside
    | cons byte rest =>
        rw [serverRxWrite, if_neg (by omega)]

theorem write_stray (spro : Spro size) (pdata : List UInt8) :
    (serverRxWrite spro pdata).buffer.stray = spro.buffer.stray := by
  induction pdata generalizing spro with
  | nil => rfl
  | cons byte rest ih =>
      rw [serverRxWrite]
      split
      · rename_i room
        rw [ih, Region.write_stray _ _ room]
      · rfl

/-- The appended bytes stand behind the buffered ones; nothing else changes. -/
theorem write_get {spro : Spro size} (inside : spro.bufferIndex ≤ size.toNat)
    (pdata : List UInt8) (index : Nat) :
    (serverRxWrite spro pdata).buffer.bytes[index]? =
      if spro.bufferIndex ≤ index ∧ index < min (spro.bufferIndex + pdata.length) size.toNat then
        pdata[index - spro.bufferIndex]?
      else spro.buffer.bytes[index]? := by
  induction pdata generalizing spro with
  | nil =>
      rw [if_neg (by simp; omega)]
      rfl
  | cons byte rest ih =>
      rw [serverRxWrite]
      split
      · rename_i room
        rw [ih (Nat.succ_le_of_lt room)]
        simp only [List.length_cons]
        by_cases same : index = spro.bufferIndex
        · subst same
          rw [if_neg (by omega), if_pos (by omega), Region.write_bytes,
            List.getElem?_set_self (by simpa using room)]
          simp
        · by_cases later : spro.bufferIndex + 1 ≤ index ∧
              index < min (spro.bufferIndex + 1 + rest.length) size.toNat
          · rw [if_pos later, if_pos (by omega),
              show index - spro.bufferIndex = index - (spro.bufferIndex + 1) + 1 by omega,
              List.getElem?_cons_succ]
          · rw [if_neg later, if_neg (by omega), Region.write_bytes,
              List.getElem?_set_ne (Ne.symm same)]
      · rw [if_neg (by omega)]

theorem write_first {spro : Spro size} (inside : spro.bufferIndex ≤ size.toNat)
    (some : spro.bufferIndex ≠ 0) (pdata beyond later : List UInt8) :
    (serverRxWrite spro pdata).buffer.read later 0 = spro.buffer.read beyond 0 := by
  have room : 0 < size.toNat := by omega
  rw [Region.read_inside _ _ room, Region.read_inside _ _ room, write_get inside, if_neg (by omega)]

theorem flush_bytes (spro : Spro size) :
    (serverRxFlush spro).buffer.bytes = List.replicate size.toNat 0 :=
  Region.fill_all _ _

theorem flush_stray (spro : Spro size) :
    (serverRxFlush spro).buffer.stray = spro.buffer.stray :=
  Region.fill_all_stray _ _

section ReadFrame

variable (beyond : List UInt8) (spro : Spro size)

theorem server_rx_read_frame :
    serverRxRead beyond spro =
      { spro with
        buffer := (serverRxRead beyond spro).buffer
        bufferIndex := (serverRxRead beyond spro).bufferIndex } := by
  unfold serverRxRead serverRxFlush
  split_ifs <;> rfl

@[simp] theorem read_pkg_type : (serverRxRead beyond spro).pkgType = spro.pkgType := by
  rw [server_rx_read_frame]

@[simp] theorem read_timer : (serverRxRead beyond spro).timer = spro.timer := by
  rw [server_rx_read_frame]

@[simp] theorem read_timer_opened_flag :
    (serverRxRead beyond spro).timerOpenedFlag = spro.timerOpenedFlag := by
  rw [server_rx_read_frame]

@[simp] theorem read_pkg_proc_cb : (serverRxRead beyond spro).pkgProcCb = spro.pkgProcCb := by
  rw [server_rx_read_frame]

@[simp] theorem read_pkg_one_flag :
    (serverRxRead beyond spro).pkgOneFlag = spro.pkgOneFlag := by
  rw [server_rx_read_frame]

@[simp] theorem read_arg : (serverRxRead beyond spro).arg = spro.arg := by
  rw [server_rx_read_frame]

end ReadFrame

theorem read_index {spro : Spro size} (beyond : List UInt8) (inside : spro.pkgLen ≤ spro.bufferIndex)
    (small : spro.bufferIndex < 65536) :
    (serverRxRead beyond spro).bufferIndex = spro.bufferIndex - spro.pkgLen := by
  unfold serverRxRead serverRxFlush
  split_ifs with nothing all
  · omega
  · simp only
    omega
  · simp only
    rw [uint16_of_lt (by omega) (by omega)]
    omega

/-- Taking everything flushes the buffer. -/
theorem read_all {spro : Spro size} (beyond : List UInt8) (positive : 0 < spro.pkgLen)
    (all : spro.pkgLen = spro.bufferIndex) : serverRxRead beyond spro = serverRxFlush spro := by
  rw [serverRxRead, if_neg (Nat.ne_of_gt positive), if_pos all]

/-- Taking more than is buffered wraps the index around. -/
theorem read_index_wraps {spro : Spro size} (beyond : List UInt8)
    (past : spro.bufferIndex < spro.pkgLen) (small : spro.pkgLen < 65536) :
    (serverRxRead beyond spro).bufferIndex = 65536 + spro.bufferIndex - spro.pkgLen := by
  unfold serverRxRead
  rw [if_neg (by omega), if_neg (by omega)]
  simp only [uint16]
  omega

/-- Taking part of what is buffered: the rest moves to the front, and as many
bytes as are left are cleared behind it. -/
theorem read_get {spro : Spro size} (beyond : List UInt8) (positive : 0 < spro.pkgLen)
    (part : spro.pkgLen < spro.bufferIndex) (inside : spro.bufferIndex ≤ size.toNat) (index : Nat) :
    (serverRxRead beyond spro).buffer.bytes[index]? =
      if index < spro.bufferIndex - spro.pkgLen then spro.buffer.bytes[index + spro.pkgLen]?
      else if index < 2 * (spro.bufferIndex - spro.pkgLen) then (spro.buffer.bytes[index]?).map fun _ => 0
      else spro.buffer.bytes[index]? := by
  have small := size_lt size
  have left : uint16 ((spro.bufferIndex : Int) - spro.pkgLen) = spro.bufferIndex - spro.pkgLen := by
    rw [uint16_of_lt (by omega) (by omega)]
    omega
  unfold serverRxRead
  rw [if_neg (by omega), if_neg (by omega)]
  simp only [left]
  rw [Region.fill_get, Region.copy_forward_get _ _ _ _ _ _ positive (by omega)]
  by_cases moved : index < spro.bufferIndex - spro.pkgLen
  · rw [if_pos (by omega), if_pos moved]
    simp only [Nat.sub_zero]
    rw [Option.map_congr (f := fun old => if spro.bufferIndex - spro.pkgLen ≤ index ∧
      index < spro.bufferIndex - spro.pkgLen + (spro.bufferIndex - spro.pkgLen) then 0 else old)
      (g := id) (by intro old _; rw [if_neg (by omega)]; rfl)]
    simp
  · rw [if_neg (by omega), if_neg moved]
    by_cases cleared : index < 2 * (spro.bufferIndex - spro.pkgLen)
    · rw [if_pos cleared]
      refine Option.map_congr fun old _ => if_pos (by omega)
    · rw [if_neg cleared, Option.map_congr (g := id) (by intro old _; rw [if_neg (by omega)]; rfl)]
      simp

/-- What is left depends on the bytes in the buffer, its index and the package
length. -/
theorem read_congr {left right : Spro size} (bytes : left.buffer.bytes = right.buffer.bytes)
    (index : left.bufferIndex = right.bufferIndex) (pkgLen : left.pkgLen = right.pkgLen)
    (beyond : List UInt8) :
    (serverRxRead beyond left).buffer.bytes = (serverRxRead beyond right).buffer.bytes ∧
      (serverRxRead beyond left).bufferIndex = (serverRxRead beyond right).bufferIndex := by
  simp only [serverRxRead, serverRxFlush, index, pkgLen]
  split_ifs
  · exact ⟨bytes, index⟩
  · exact ⟨Region.fill_bytes_congr bytes _ _ _, rfl⟩
  · refine ⟨Region.fill_bytes_congr ?_ _ _ _, rfl⟩
    exact Region.copy_forward_bytes_congr bytes _ _ _ _

/-- The buffered bytes, at the front of the buffer. -/
structure Holds (spro : Spro size) (live : List UInt8) : Prop where
  index : spro.bufferIndex = live.length
  front : live <+: spro.buffer.bytes

theorem holds_length {spro : Spro size} {live : List UInt8} (holds : Holds spro live) :
    live.length ≤ size.toNat := by
  simpa using holds.front.length_le

theorem front_of_get {front bytes : List UInt8}
    (same : ∀ index < front.length, bytes[index]? = front[index]?) : front <+: bytes := by
  rw [List.prefix_iff_getElem?]
  intro index bound
  rw [same index bound, List.getElem?_eq_getElem bound]

theorem holds_get {spro : Spro size} {live : List UInt8} (holds : Holds spro live) {index : Nat}
    (bound : index < live.length) : spro.buffer.bytes[index]? = live[index]? := by
  rw [List.prefix_iff_getElem?.1 holds.front index bound, List.getElem?_eq_getElem bound]

theorem holds_write {spro : Spro size} {live : List UInt8} (holds : Holds spro live)
    {segment : List UInt8} (fits : spro.bufferIndex + segment.length ≤ size.toNat) :
    Holds (serverRxWrite spro segment) (live ++ segment) := by
  have inside : spro.bufferIndex ≤ size.toNat := by omega
  have index := holds.index
  constructor
  · rw [write_index inside, List.length_append]
    omega
  · apply front_of_get
    intro position bound
    rw [write_get inside]
    simp only [List.length_append] at bound
    by_cases old : position < live.length
    · rw [if_neg (by omega), holds_get holds old, List.getElem?_append_left old]
    · rw [if_pos (by omega), List.getElem?_append_right (by omega), index]

theorem holds_flush (spro : Spro size) : Holds (serverRxFlush spro) [] :=
  ⟨rfl, List.nil_prefix⟩

theorem holds_read {spro : Spro size} {live : List UInt8} (holds : Holds spro live)
    (beyond : List UInt8) (positive : 0 < spro.pkgLen) (bounded : spro.pkgLen ≤ live.length) :
    Holds (serverRxRead beyond spro) (live.drop spro.pkgLen) := by
  have index := holds.index
  have room := holds_length holds
  have small := size_lt size
  constructor
  · rw [read_index beyond (by omega) (by omega), List.length_drop, index]
  · apply front_of_get
    intro position bound
    simp only [List.length_drop] at bound
    rw [read_get beyond positive (by omega) (by omega), if_pos (by omega), List.getElem?_drop,
      holds_get holds (by omega), Nat.add_comm]

/-- Whatever part of a package is left is followed by a NUL. -/
theorem read_terminates {spro : Spro size} (beyond : List UInt8) (positive : 0 < spro.pkgLen)
    (part : spro.pkgLen < spro.bufferIndex) (inside : spro.bufferIndex ≤ size.toNat) :
    (serverRxRead beyond spro).buffer.bytes[spro.bufferIndex - spro.pkgLen]? = some 0 := by
  rw [read_get beyond positive part inside, if_neg (by omega), if_pos (by omega),
    List.getElem?_eq_getElem (by simp; omega)]
  rfl

theorem holds_inside {spro : Spro size} (inside : spro.bufferIndex ≤ size.toNat) :
    Holds spro (spro.buffer.bytes.take spro.bufferIndex) := by
  constructor
  · rw [List.length_take, Region.sized]
    omega
  · exact List.take_prefix _ _

theorem seen_take {spro : Spro size} {live : List UInt8} (holds : Holds spro live)
    (beyond : List UInt8) : (spro.buffer.seen beyond).take spro.bufferIndex = live := by
  rcases holds.front with ⟨tail, split⟩
  rw [Region.seen, ← split, List.append_assoc, holds.index, List.take_left]

/-- Text that is followed by a NUL is all the string functions see. -/
theorem seen_text {spro : Spro size} {live : List UInt8} (holds : Holds spro live)
    (terminated : spro.buffer.bytes[live.length]? = some 0) (beyond : List UInt8) :
    cString (spro.buffer.seen beyond) = cString live := by
  rcases holds.front with ⟨tail, split⟩
  rw [← split, List.getElem?_append_right (Nat.le_refl _), Nat.sub_self] at terminated
  rcases tail with - | ⟨first, tail⟩
  · cases terminated
  · simp only [List.getElem?_cons_zero, Option.some.injEq] at terminated
    rw [Region.seen, ← split, terminated, List.append_assoc, List.cons_append, c_string_append_nul]

/-- What is left of a package is all the string functions see. -/
theorem read_text {spro : Spro size} {live : List UInt8} (holds : Holds spro live)
    (beyond later : List UInt8) (positive : 0 < spro.pkgLen)
    (bounded : spro.pkgLen ≤ live.length) :
    cString ((serverRxRead beyond spro).buffer.seen later) = cString (live.drop spro.pkgLen) := by
  have index := holds.index
  have room := holds_length holds
  by_cases part : spro.pkgLen < spro.bufferIndex
  · apply seen_text (holds_read holds beyond positive bounded)
    rw [List.length_drop, ← index]
    exact read_terminates beyond positive part (by omega)
  · have all : spro.pkgLen = spro.bufferIndex := by omega
    have none : live.drop spro.pkgLen = [] := List.drop_eq_nil_of_le (by omega)
    have flushed : (serverRxRead beyond spro).buffer.bytes = List.replicate size.toNat 0 := by
      rw [read_all beyond positive all, flush_bytes]
    have some : size.toNat = size.toNat - 1 + 1 := by omega
    rw [none, Region.seen, flushed, some, List.replicate_succ]
    rfl

theorem holds_take {spro : Spro size} {live : List UInt8} (holds : Holds spro live)
    (beyond : List UInt8) {length : Nat} (bounded : length ≤ live.length) :
    (spro.buffer.seen beyond).take length = live.take length := by
  obtain ⟨tail, split⟩ := holds.front
  rw [Region.seen, ← split, List.append_assoc, List.take_append_of_le_length bounded]

theorem holds_read_byte {spro : Spro size} {live : List UInt8} (holds : Holds spro live)
    (beyond : List UInt8) {index : Nat} (bounded : index < live.length) :
    (spro.buffer.seen beyond).getD index 0 = live.getD index 0 := by
  obtain ⟨tail, split⟩ := holds.front
  rw [Region.seen, ← split, List.append_assoc, List.getD_append _ _ _ _ bounded]

theorem call_pkg_proc_cb_spro (env : Ambient) (arg len : Nat) (session : Session size) :
    (callPkgProcCb env arg len session).toSpro = session.toSpro := by
  unfold callPkgProcCb
  split <;> rfl

theorem take_package_spro (env : Ambient) (arg pkgLen : Nat) (session : Session size) :
    (takePackage env arg pkgLen session).toSpro =
      serverRxRead env.beyond
        { session.toSpro with
          pkgOneFlag := true
          pkgLen := pkgLen
          timer := none
          timerOpenedFlag := false } := by
  unfold takePackage
  simp only [call_pkg_proc_cb_spro]

/-- What no call of the object changes. -/
def Session.setup (session : Session size) : SproPkgType × Bool :=
  (session.pkgType, session.pkgProcCb)

theorem setup_kind {left right : Session size} (same : left.setup = right.setup) :
    left.pkgType = right.pkgType :=
  congrArg Prod.fst same

theorem setup_registered {left right : Session size} (same : left.setup = right.setup) :
    left.pkgProcCb = right.pkgProcCb :=
  congrArg Prod.snd same

theorem call_setup (env : Ambient) (arg len : Nat) (session : Session size) :
    (callPkgProcCb env arg len session).setup = session.setup := by
  unfold Session.setup
  rw [call_pkg_proc_cb_spro]

theorem take_setup (env : Ambient) (arg pkgLen : Nat) (session : Session size) :
    (takePackage env arg pkgLen session).setup = session.setup := by
  unfold Session.setup
  rw [take_package_spro, read_pkg_type, read_pkg_proc_cb]

/-- The calls made from one state to a later one hand out these packages. -/
def Emits (session later : Session size) (packages : List (List UInt8)) : Prop :=
  ∃ calls, later.calls = session.calls ++ calls ∧ List.Forall₂ PkgCall.Delivers calls packages

theorem emits_nil {session later : Session size} (same : later.calls = session.calls) :
    Emits session later [] :=
  ⟨[], by simpa using same, .nil⟩

theorem emits_append {session middle later : Session size} {front back : List (List UInt8)}
    (first : Emits session middle front) (second : Emits middle later back) :
    Emits session later (front ++ back) := by
  obtain ⟨calls, callsEq, delivers⟩ := first
  obtain ⟨more, moreEq, delivers'⟩ := second
  refine ⟨calls ++ more, ?_, List.rel_append delivers delivers'⟩
  rw [moreEq, callsEq, List.append_assoc]

/-- A live receiver of the given type, its callback registered. -/
structure Receiving (pkgType : SproPkgType) (session : Session size) (live : List UInt8) :
    Prop where
  holds : Holds session.toSpro live
  kind : session.pkgType = pkgType
  registered : session.pkgProcCb = true

theorem call_delivers {env : Ambient} {arg : Nat} {session : Session size} {live : List UInt8}
    (registered : session.pkgProcCb = true) (flag : session.pkgOneFlag = true)
    (holds : Holds session.toSpro live) {length : Nat} (bounded : length ≤ live.length) :
    Emits session (callPkgProcCb env arg length session) [live.take length] := by
  refine ⟨_, by rw [callPkgProcCb, if_pos registered], .cons ⟨flag, ?_, ?_⟩ .nil⟩
  · simp [bounded]
  · exact holds_take holds env.beyond bounded

section TakePackage

variable {session : Session size} {live : List UInt8} {pkgLen : Nat} (env : Ambient) (arg : Nat)

@[simp] theorem take_package_timer : (takePackage env arg pkgLen session).timer = none := by
  rw [take_package_spro, read_timer]

@[simp] theorem take_package_timer_opened_flag :
    (takePackage env arg pkgLen session).timerOpenedFlag = false := by
  rw [take_package_spro, read_timer_opened_flag]

@[simp] theorem take_package_pkg_one_flag :
    (takePackage env arg pkgLen session).pkgOneFlag = true := by
  rw [take_package_spro, read_pkg_one_flag]

@[simp] theorem take_package_arg : (takePackage env arg pkgLen session).arg = session.arg := by
  rw [take_package_spro, read_arg]

theorem take_package_holds (holds : Holds session.toSpro live) (positive : 0 < pkgLen)
    (bounded : pkgLen ≤ live.length) :
    Holds (takePackage env arg pkgLen session).toSpro (live.drop pkgLen) := by
  rw [take_package_spro]
  apply holds_read _ env.beyond positive bounded
  exact ⟨holds.index, holds.front⟩

theorem take_package_text (holds : Holds session.toSpro live) (positive : 0 < pkgLen)
    (bounded : pkgLen ≤ live.length) (later : List UInt8) :
    cString ((takePackage env arg pkgLen session).buffer.seen later) =
      cString (live.drop pkgLen) := by
  rw [take_package_spro]
  apply read_text _ env.beyond later positive bounded
  exact ⟨holds.index, holds.front⟩

/-- Taking a package of buffered bytes delivers it and keeps the rest. -/
theorem take_package_receiving {pkgType : SproPkgType} (receiving : Receiving pkgType session live)
    (positive : 0 < pkgLen) (bounded : pkgLen ≤ live.length) :
    Receiving pkgType (takePackage env arg pkgLen session) (live.drop pkgLen) ∧
      Emits session (takePackage env arg pkgLen session) [live.take pkgLen] := by
  let ready : Session size :=
    { session with
      pkgOneFlag := true
      pkgLen := pkgLen
      timer := none
      timerOpenedFlag := false }
  have before : Holds ready.toSpro live := ⟨receiving.holds.index, receiving.holds.front⟩
  have callable : ready.pkgProcCb = true := receiving.registered
  have setup := take_setup env arg pkgLen session
  have delivered : Emits ready (callPkgProcCb env arg pkgLen ready) [live.take pkgLen] :=
    call_delivers callable rfl before bounded
  constructor
  · constructor
    · exact take_package_holds env arg receiving.holds positive bounded
    · exact (setup_kind setup).trans receiving.kind
    · exact (setup_registered setup).trans receiving.registered
  · exact delivered

end TakePackage

end IotgoFirmware.Receive.SproObject
