import IotgoFirmware.Receive.BufferInvariant
import IotgoFirmware.Receive.ConnectionReuse
import IotgoFirmware.Receive.WebsocketOverflow

/-!
# What the message parser gets to see

`clientTCPSproOnePkgCb` checks the length of a text frame and then hands the
pointer to its payload on as a string. The string ends at the first NUL, and the
frame has none of its own: where the payload ends is up to what stands behind it
in the receive buffer.
-/

namespace IotgoFirmware.Receive.FrameDispatch

open IotgoFirmware.Library.ByteRegions
open IotgoFirmware.Library.CIntegers
open IotgoFirmware.Library.CStrings
open IotgoFirmware.Library.LoopRules
open IotgoFirmware.Library.StepRuns
open IotgoFirmware.Library.StreamFraming
open IotgoFirmware.Receive.SproObject
open IotgoFirmware.Receive.SproWebsocket
open IotgoFirmware.Receive.SproEvents
open IotgoFirmware.Receive.WebsocketReassembly
open IotgoFirmware.Receive.WebsocketOverflow
open IotgoFirmware.Receive.BufferInvariant
open IotgoFirmware.Receive.ConnectionReuse

set_option autoImplicit false

variable {size : UInt16}

def switchingProtocols : List UInt8 := asciiBytes "HTTP/1.1 101 Switching Protocols"

inductive IgnoredPkg where
  | lengthErr1
  | lengthErr2
  | lengthErr3
  | unknownType
  deriving DecidableEq

/-- What the callback does with a package: it posts `MSG_CORE_WS_CONNECTED` or
`MSG_CORE_WS_PING_OK`, hands the string at `data` to `parseTypeOfIoTgoPkg` and to
the device callback for the type found, or warns and ignores the package. -/
inductive PkgOutcome where
  | wsConnected
  | pingOk
  | parsed (data : List UInt8)
  | ignored (reason : IgnoredPkg)
  deriving DecidableEq

/-- `pdata` is the memory seen from the pointer. -/
def clientTCPSproOnePkgCb (pdata : List UInt8) (len : Nat) : PkgOutcome :=
  if (strstr pdata switchingProtocols).isSome then .wsConnected
  else if pdata.getD 0 0 = 0x81 then
    if (pdata.getD 1 0).toNat ≤ 125 then
      if (pdata.getD 1 0).toNat + 2 = len then .parsed (cString (pdata.drop 2))
      else .ignored .lengthErr1
    else if (pdata.getD 1 0).toNat = 126 then
      if (pdata.getD 2 0).toNat * 256 + (pdata.getD 3 0).toNat + 4 = len then
        .parsed (cString (pdata.drop 4))
      else .ignored .lengthErr2
    else .ignored .lengthErr3
  else if pdata.getD 0 0 = 0x8a ∧ pdata.getD 1 0 = 0 then .pingOk
  else .ignored .unknownType

def pkgOutcome (call : PkgCall) : PkgOutcome :=
  clientTCPSproOnePkgCb call.memory call.pkgLen

/-- A text frame whose payload is a string. -/
inductive TextFrame where
  | short (payload : List UInt8) (text : (0 : UInt8) ∉ payload) (fits : payload.length ≤ 125)
  | extended (payload : List UInt8) (text : (0 : UInt8) ∉ payload) (fits : payload.length < 65536)

namespace TextFrame

def payload : TextFrame → List UInt8
  | .short payload _ _ => payload
  | .extended payload _ _ => payload

def serverFrame : TextFrame → ServerFrame
  | .short payload _ fits => .short false payload fits
  | .extended payload _ fits => .extended false payload fits

def bytes (frame : TextFrame) : List UInt8 :=
  frame.serverFrame.bytes

end TextFrame

/-- Every frame ends with a segment: no segment carries bytes of two frames. Where
the frame fills the buffer there is a NUL behind it, and the frame does not
contain the text the callback takes for a handshake. -/
inductive Separated (size : Nat) : List UInt8 → List TextFrame → List Segment → Prop where
  | done : Separated size [] [] []
  | waits {held : List UInt8} {frame : TextFrame} {frames : List TextFrame} {segment : Segment}
      {segments : List Segment} (short : (held ++ segment.bytes).length < frame.bytes.length)
      (rest : Separated size (held ++ segment.bytes) (frame :: frames) segments) :
      Separated size held (frame :: frames) (segment :: segments)
  | ends {held : List UInt8} {frame : TextFrame} {frames : List TextFrame} {segment : Segment}
      {segments : List Segment} (whole : held ++ segment.bytes = frame.bytes)
      (plain : strstr frame.bytes switchingProtocols = none)
      (closed : frame.bytes.length = size → cString segment.env.beyond = [])
      (rest : Separated size [] frames segments) :
      Separated size held (frame :: frames) (segment :: segments)

section Callback

variable (frame : TextFrame) (tail : List UInt8)

/-- The string at the payload goes on to the first NUL behind the frame. -/
theorem callback_frame :
    clientTCPSproOnePkgCb (frame.bytes ++ tail) frame.bytes.length =
      if (strstr (frame.bytes ++ tail) switchingProtocols).isSome then .wsConnected
      else .parsed (frame.payload ++ cString tail) := by
  unfold clientTCPSproOnePkgCb
  split
  · rfl
  · cases frame with
    | short payload text fits =>
        have length := byte_of_nat (show payload.length < 256 by omega)
        simp only [TextFrame.bytes, TextFrame.serverFrame, ServerFrame.bytes, TextFrame.payload,
          dataOpcode, Bool.false_eq_true, if_false, List.cons_append, List.getD_cons_zero,
          List.getD_cons_succ, length, if_true, List.length_cons, List.drop_succ_cons,
          List.drop_zero]
        rw [if_pos fits, c_string_append tail text]
    | extended payload text fits =>
        have length := extended_length fits
        simp only [TextFrame.bytes, TextFrame.serverFrame, ServerFrame.bytes, TextFrame.payload,
          dataOpcode, Bool.false_eq_true, if_false, List.cons_append, List.getD_cons_zero,
          List.getD_cons_succ, length, if_true, List.length_cons, List.drop_succ_cons,
          List.drop_zero]
        rw [if_neg (by decide), if_pos (by decide), c_string_append tail text]

theorem callback_frame_iff :
    clientTCPSproOnePkgCb (frame.bytes ++ tail) frame.bytes.length = .parsed frame.payload ↔
      strstr frame.bytes switchingProtocols = none ∧ cString tail = [] := by
  have same (empty : cString tail = []) :
      strstr (frame.bytes ++ tail) switchingProtocols = strstr frame.bytes switchingProtocols := by
    rw [strstr, strstr, c_string_append_empty frame.bytes empty]
  rw [callback_frame]
  constructor
  · intro parsed
    split at parsed
    · cases parsed
    · rename_i absent
      have empty : cString tail = [] := by simpa using parsed
      rw [same empty] at absent
      exact ⟨by simpa using absent, empty⟩
  · rintro ⟨plain, empty⟩
    rw [same empty, plain, empty, List.append_nil]
    rfl

end Callback

section Calls

variable {session next : Session size} {segment : Segment} {held : List UInt8}

/-- The call that passes a package at the front of the buffer. -/
def frontCall (segment : Segment) (session : Session size) (length : Nat) : PkgCall where
  arg := segment.arg
  memory := (appended segment session).buffer.seen segment.env.beyond
  pkgLen := length
  flag := true
  buffered := (appended segment session).bufferIndex

theorem call_grows (env : Ambient) (arg len : Nat) (session : Session size) :
    session.calls <+: (callPkgProcCb env arg len session).calls := by
  unfold callPkgProcCb
  split
  · exact List.prefix_append _ _
  · exact List.prefix_rfl

theorem take_calls (env : Ambient) (arg length : Nat) {session : Session size}
    (registered : session.pkgProcCb = true) :
    (takePackage env arg length session).calls =
      session.calls ++ [⟨arg, session.buffer.seen env.beyond, length, true, session.bufferIndex⟩] := by
  simp only [takePackage, callPkgProcCb]
  rw [if_pos registered]

theorem reject_grows (env : Ambient) (arg : Nat) (session : Session size) :
    session.calls <+: (rejectBuffer env arg session).calls :=
  call_grows env arg session.bufferIndex { session with pkgOneFlag := false }

theorem deliver_grows (env : Ambient) (arg length : Nat) (session : Session size) :
    (takePackage env arg (uint16 length) session).calls <+:
      (websocketDeliver env arg length session).calls := by
  simp only [websocketDeliver]
  split
  · split
    · rw [open_timer_calls]
    · exact reject_grows env arg _
  · exact List.prefix_rfl

theorem take_grows (env : Ambient) (arg length : Nat) (session : Session size) :
    session.calls <+: (takePackage env arg length session).calls :=
  call_grows env arg length
    { session with
      pkgOneFlag := true
      pkgLen := length
      timer := none
      timerOpenedFlag := false }

theorem websocket_grows {env : Ambient} {arg : Nat} {head final : Session size}
    (exits : Exits (websocketBody env arg) head final) : head.calls <+: final.calls := by
  apply exits_keeps (fun reached : Session size => head.calls <+: reached.calls) _ _
    List.prefix_rfl exits
  · intro reached next grown continues
    rcases websocket_body_cases env arg reached with ⟨-, pass⟩ | ⟨-, -, pass⟩ |
      ⟨length, -, -, pass⟩ | ⟨-, -, pass⟩
    all_goals
      rw [pass] at continues
      cases continues
    · rw [open_timer_calls]
      exact grown
    · exact (grown.trans (take_grows env arg _ reached)).trans (deliver_grows env arg length reached)
  · intro reached final grown leaves
    rcases websocket_body_cases env arg reached with ⟨-, pass⟩ | ⟨-, -, pass⟩ |
      ⟨length, -, -, pass⟩ | ⟨-, -, pass⟩
    all_goals
      rw [pass] at leaves
      cases leaves
    · exact grown
    · exact grown.trans (reject_grows env arg reached)

/-- The first package of a call is passed with everything that stands behind it
in the buffer. -/
theorem first_call (receiving : Receiving .websocket13 session held)
    (some : held ++ segment.bytes ≠ [])
    (fits : session.bufferIndex + segment.bytes.length ≤ size.toNat) {length : Nat}
    (verdict : websocketFraming (held ++ segment.bytes) = .package length)
    (received : Received segment session next) :
    session.calls ++ [frontCall segment session length] <+: next.calls := by
  rcases websocket_raises receiving some fits (package_valid verdict) with ⟨enters, entering⟩
  have bounded : length ≤ (held ++ segment.bytes).length := by
    rw [websocketFraming, if_neg some] at verdict
    exact (websocket_head_package verdict).2
  have small : length < 65536 := by
    have room := holds_length entering.holds
    have limit := size_lt size
    omega
  have pass : websocketBody segment.env segment.arg (raised segment session) =
      .again (websocketDeliver segment.env segment.arg length (raised segment session)) := by
    rw [websocketBody, if_pos (raised_flag segment session),
      holds_websocket_head entering.holds segment.env.beyond some, verdict]
  have grown := (deliver_grows segment.env segment.arg length (raised segment session)).trans
    (websocket_grows (exits_again pass ((enters next).1 received)))
  rw [take_calls segment.env segment.arg _ entering.registered, uint16_natCast small] at grown
  exact grown

/-- A segment that does not complete the frame. -/
theorem front_received (receiving : Receiving .websocket13 session held)
    (clean : RxClean session.toSpro) (some : held ++ segment.bytes ≠ [])
    (fits : session.bufferIndex + segment.bytes.length ≤ size.toNat)
    (verdict : websocketFraming (held ++ segment.bytes) = .wait) :
    ∃ next, Received segment session next ∧
      Receiving .websocket13 next (held ++ segment.bytes) ∧ RxClean next.toSpro ∧
      next.calls = session.calls := by
  rcases websocket_raises receiving some fits (wait_valid verdict) with ⟨enters, entering⟩
  let lowered : Session size := { raised segment session with pkgOneFlag := false }
  let waiting := openTimer segment.env lowered
  have pass : websocketBody segment.env segment.arg (raised segment session) = .again waiting := by
    rw [websocketBody, if_pos (raised_flag segment session),
      holds_websocket_head entering.holds segment.env.beyond some, verdict]
  have leaves : websocketBody segment.env segment.arg waiting = .exit waiting := by
    simp [websocketBody, waiting, lowered]
  have still : Receiving .websocket13 lowered (held ++ segment.bytes) :=
    ⟨⟨entering.holds.index, entering.holds.front⟩, entering.kind, entering.registered⟩
  have before : RxClean { session.toSpro with arg := segment.arg } :=
    clean_of_same clean rfl rfl
  have written : RxClean (appended segment session) := write_clean before segment.bytes
  refine ⟨waiting, (enters waiting).2 (.later pass (.now leaves)),
    receiving_open_timer segment.env lowered still, ?_, ?_⟩
  · exact clean_of_same written (open_timer_buffer segment.env lowered)
      (open_timer_index segment.env lowered)
  · exact open_timer_calls segment.env lowered

/-- A segment that ends with the frame. -/
theorem frame_received (receiving : Receiving .websocket13 session held)
    (clean : RxClean session.toSpro) (some : held ++ segment.bytes ≠ [])
    (fits : session.bufferIndex + segment.bytes.length ≤ size.toNat)
    (verdict : websocketFraming (held ++ segment.bytes) = .package (held ++ segment.bytes).length) :
    ∃ next, Received segment session next ∧ Receiving .websocket13 next [] ∧
      RxClean next.toSpro ∧
      next.calls = session.calls ++ [frontCall segment session (held ++ segment.bytes).length] := by
  rcases websocket_raises receiving some fits (package_valid verdict) with ⟨enters, entering⟩
  let entered := raised segment session
  let taken := takePackage segment.env segment.arg (held ++ segment.bytes).length entered
  let final : Session size := { taken with pkgOneFlag := false }
  have positive := List.length_pos_of_ne_nil some
  have pass : websocketBody segment.env segment.arg entered = .again final := by
    rw [websocketBody, if_pos (raised_flag segment session),
      holds_websocket_head entering.holds segment.env.beyond some, verdict]
    rcases websocket_deliver_cases segment.env segment.arg entering.holds positive
      (Nat.le_refl _) with ⟨-, next⟩ | ⟨left, -⟩ | ⟨left, -⟩
    · exact congrArg LoopStep.again next
    · exact absurd List.drop_length left
    · exact absurd List.drop_length left
  have leaves : websocketBody segment.env segment.arg final = .exit final := by
    rw [websocketBody, if_neg (show ¬ final.pkgOneFlag = true from Bool.false_ne_true)]
  have still := (take_package_receiving segment.env segment.arg entering positive
    (Nat.le_refl _)).1
  rw [List.drop_length] at still
  have before : RxClean { session.toSpro with arg := segment.arg } :=
    clean_of_same clean rfl rfl
  have written : RxClean (appended segment session) := write_clean before segment.bytes
  have flushed : RxClean taken.toSpro := by
    have index : (held ++ segment.bytes).length = entered.bufferIndex := entering.holds.index.symm
    rw [take_package_spro, read_all _ positive index]
    exact flush_clean written.kept
  refine ⟨final, (enters final).2 (.later pass (.now leaves)), ?_, ?_, ?_⟩
  · exact ⟨⟨still.holds.index, still.holds.front⟩, still.kind, still.registered⟩
  · exact clean_of_same flushed rfl rfl
  · exact take_calls segment.env segment.arg _ entering.registered

theorem received_grows (websocket : session.pkgType = .websocket13)
    (received : Received segment session next) : session.calls <+: next.calls := by
  have entered : session.calls <+: (websocketEnter segment.env segment.arg segment.bytes
      { session with arg := segment.arg }).calls := by
    simp only [websocketEnter]
    split
    · exact List.prefix_rfl
    · exact reject_grows segment.env segment.arg
        { session with toSpro := appended segment session }
  exact entered.trans (websocket_grows ((received_websocket websocket).1 received))

theorem run_grows {segments : List Segment} {final : Session size}
    (websocket : session.pkgType = .websocket13)
    (run : Run (fun session segment => SproStep session (.recv segment)) session segments final) :
    session.calls <+: final.calls := by
  induction run with
  | nil => exact List.prefix_rfl
  | cons first _ ih =>
      apply (received_grows websocket first).trans
      exact ih ((received_pkg_type first).trans websocket)

end Calls

section Streams

variable {session : Session size} {segment : Segment} {held : List UInt8}

theorem text_frame_first (frame : TextFrame) : ∃ rest, frame.bytes = 0x81 :: rest := by
  cases frame with
  | short payload text fits => exact ⟨_, rfl⟩
  | extended payload text fits => exact ⟨_, rfl⟩

theorem text_frame_length_pos (frame : TextFrame) : 0 < frame.bytes.length := by
  rcases text_frame_first frame with ⟨rest, first⟩
  rw [first]
  exact Nat.succ_pos _

theorem text_frames_unfinished (frames : List TextFrame) :
    Unfinished [] (frames.map TextFrame.bytes) := by
  apply unfinished_nil
  intro item member
  rcases List.mem_map.1 member with ⟨frame, -, rfl⟩
  exact List.ne_nil_of_length_pos (text_frame_length_pos frame)

theorem clean_bytes {spro : Spro size} {live : List UInt8} (holds : Holds spro live)
    (clean : RxClean spro) :
    spro.buffer.bytes = live ++ List.replicate (size.toNat - live.length) 0 := by
  rcases holds.front with ⟨tail, split⟩
  have index := holds.index
  have lengths := congrArg List.length split
  rw [List.length_append, Region.sized] at lengths
  have zeros : tail = List.replicate (size.toNat - live.length) 0 := by
    apply List.eq_replicate_iff.2
    constructor
    · omega
    · intro byte member
      rcases List.getElem_of_mem member with ⟨position, bound, rfl⟩
      have zero := clean.tail (live.length + position) (by omega) (by omega)
      rw [← split, List.getElem?_append_right (by omega), Nat.add_sub_cancel_left,
        List.getElem?_eq_getElem bound, Option.some.injEq] at zero
      exact zero
  rw [← split, zeros]

theorem appended_holds (receiving : Receiving .websocket13 session held)
    (fits : session.bufferIndex + segment.bytes.length ≤ size.toNat) :
    Holds (appended segment session) (held ++ segment.bytes) := by
  have before : Holds { session.toSpro with arg := segment.arg } held :=
    ⟨receiving.holds.index, receiving.holds.front⟩
  exact holds_write before fits

/-- A frame that ends with its segment is parsed as its payload exactly if a NUL
follows and the frame is not taken for a handshake. -/
theorem whole_frame_parsed {frame : TextFrame} (receiving : Receiving .websocket13 session held)
    (clean : RxClean session.toSpro)
    (fits : session.bufferIndex + segment.bytes.length ≤ size.toNat)
    (whole : held ++ segment.bytes = frame.bytes) :
    pkgOutcome (frontCall segment session (held ++ segment.bytes).length) =
        .parsed frame.payload ↔
      strstr frame.bytes switchingProtocols = none ∧
        (frame.bytes.length = size.toNat → cString segment.env.beyond = []) := by
  have before : RxClean { session.toSpro with arg := segment.arg } :=
    clean_of_same clean rfl rfl
  have written := appended_holds receiving fits
  have bytes := clean_bytes written (write_clean before segment.bytes)
  have room := holds_length written
  rw [whole] at bytes room
  have outcome := callback_frame_iff frame
    (List.replicate (size.toNat - frame.bytes.length) 0 ++ segment.env.beyond)
  rw [← List.append_assoc, ← bytes] at outcome
  rw [whole]
  apply outcome.trans
  apply and_congr_right
  intro _
  cases left : size.toNat - frame.bytes.length with
  | zero =>
      have full : frame.bytes.length = size.toNat := by omega
      simp [full]
  | succ count =>
      have short : frame.bytes.length ≠ size.toNat := by omega
      simp [short, List.replicate_succ, cString]

/-- A frame with bytes of the next one behind it is not. -/
theorem followed_frame_not_parsed {frame : TextFrame} {extra : List UInt8}
    (receiving : Receiving .websocket13 session held)
    (fits : session.bufferIndex + segment.bytes.length ≤ size.toNat)
    (further : held ++ segment.bytes = frame.bytes ++ 0x81 :: extra) :
    pkgOutcome (frontCall segment session frame.bytes.length) ≠ .parsed frame.payload := by
  rcases (appended_holds receiving fits).front with ⟨tail, split⟩
  have memory : (frontCall segment session frame.bytes.length).memory =
      frame.bytes ++ (0x81 :: extra ++ tail ++ segment.env.beyond) := by
    change (appended segment session).buffer.bytes ++ segment.env.beyond = _
    rw [← split, further]
    simp
  intro parsed
  rw [pkgOutcome, memory] at parsed
  have empty := ((callback_frame_iff frame _).1 parsed).2
  simp [cString] at empty

/-- The first frame ends with the segment, goes on behind it, or ends before
it. -/
theorem first_frame_cases {frame : TextFrame} {frames : List TextFrame} {coming : List UInt8}
    (stream : (held ++ segment.bytes) ++ coming = frame.bytes ++ (frames.map TextFrame.bytes).flatten) :
    held ++ segment.bytes = frame.bytes ∨
    (∃ back, frame.bytes = held ++ segment.bytes ++ back ∧ back ≠ []) ∨
    (∃ extra, held ++ segment.bytes = frame.bytes ++ 0x81 :: extra) := by
  rcases List.append_eq_append_iff.1 stream with ⟨back, split, -⟩ | ⟨extra, split, rest⟩
  · by_cases none : back = []
    · rw [none, List.append_nil] at split
      exact .inl split.symm
    · exact .inr (.inl ⟨back, split, none⟩)
  · cases extra with
    | nil =>
        rw [List.append_nil] at split
        exact .inl split
    | cons byte extra =>
        cases frames with
        | nil => cases rest
        | cons other frames =>
            rcases text_frame_first other with ⟨bytes, first⟩
            simp only [List.map_cons, List.flatten_cons, first, List.cons_append,
              List.cons.injEq] at rest
            rw [← rest.1] at split
            exact .inr (.inr ⟨extra, split⟩)

def parsedPayloads (frames : List TextFrame) : List PkgOutcome :=
  frames.map fun frame => .parsed frame.payload

/-- The segments leave a final state, and every frame is parsed as its payload
exactly if every frame ends with a segment. -/
def ParsesSeparated (session : Session size) (held : List UInt8) (frames : List TextFrame)
    (segments : List Segment) : Prop :=
  ∃ final calls, Run (fun session segment => SproStep session (.recv segment)) session segments
      final ∧ final.calls = session.calls ++ calls ∧
    (calls.map pkgOutcome = parsedPayloads frames ↔ Separated size.toNat held frames segments)

section Cases

variable {frame : TextFrame} {frames : List TextFrame} {segments : List Segment}

theorem parses_whole (receiving : Receiving .websocket13 session held)
    (clean : RxClean session.toSpro)
    (room : session.bufferIndex + segment.bytes.length ≤ size.toNat)
    (whole : held ++ segment.bytes = frame.bytes)
    (rest : ∀ next : Session size, Received segment session next →
      Receiving .websocket13 next [] → RxClean next.toSpro →
      ParsesSeparated next [] frames segments) :
    ParsesSeparated session held (frame :: frames) (segment :: segments) := by
  have some : held ++ segment.bytes ≠ [] := by
    rw [whole]
    exact List.ne_nil_of_length_pos (text_frame_length_pos frame)
  have verdict : websocketFraming (held ++ segment.bytes) =
      .package (held ++ segment.bytes).length := by
    have complete := frame_complete frame.serverFrame []
    rw [List.append_nil] at complete
    rw [whole]
    exact complete
  have first := whole_frame_parsed receiving clean room whole
  rcases frame_received receiving clean some room verdict with
    ⟨next, received, still, cleared, callsEq⟩
  rcases rest next received still cleared with ⟨final, calls, run, grown, parsed⟩
  refine ⟨final, frontCall segment session (held ++ segment.bytes).length :: calls,
    .cons received run, ?_, ?_⟩
  · rw [grown, callsEq, List.append_assoc]
    rfl
  · simp only [parsedPayloads, List.map_cons, List.cons.injEq] at parsed ⊢
    rw [first, parsed]
    constructor
    · intro ⟨⟨plain, closed⟩, separated⟩
      exact .ends whole plain closed separated
    · intro separated
      cases separated with
      | waits short => exact absurd (congrArg List.length whole) (Nat.ne_of_lt short)
      | ends _ plain closed separated => exact ⟨⟨plain, closed⟩, separated⟩

theorem parses_front (receiving : Receiving .websocket13 session held)
    (clean : RxClean session.toSpro)
    (room : session.bufferIndex + segment.bytes.length ≤ size.toNat)
    (some : held ++ segment.bytes ≠ []) {back : List UInt8}
    (front : frame.bytes = held ++ segment.bytes ++ back) (more : back ≠ [])
    (rest : ∀ next : Session size, Received segment session next →
      Receiving .websocket13 next (held ++ segment.bytes) → RxClean next.toSpro →
      ParsesSeparated next (held ++ segment.bytes) (frame :: frames) segments) :
    ParsesSeparated session held (frame :: frames) (segment :: segments) := by
  have verdict : websocketFraming (held ++ segment.bytes) = .wait :=
    frame_waits frame.serverFrame (held ++ segment.bytes) back front more
  have shorter : (held ++ segment.bytes).length < frame.bytes.length := by
    have missing := List.length_pos_of_ne_nil more
    rw [front]
    simp only [List.length_append]
    omega
  rcases front_received receiving clean some room verdict with
    ⟨next, received, still, cleared, callsEq⟩
  rcases rest next received still cleared with ⟨final, calls, run, grown, parsed⟩
  refine ⟨final, calls, .cons received run, by rw [grown, callsEq], ?_⟩
  apply parsed.trans
  constructor
  · exact .waits shorter
  · intro separated
    cases separated with
    | waits _ separated => exact separated
    | ends whole => exact absurd (congrArg List.length whole) (Nat.ne_of_lt shorter)

theorem parses_over (receiving : Receiving .websocket13 session held)
    (room : session.bufferIndex + segment.bytes.length ≤ size.toNat) {extra : List UInt8}
    (further : held ++ segment.bytes = frame.bytes ++ 0x81 :: extra) :
    ParsesSeparated session held (frame :: frames) (segment :: segments) := by
  have some : held ++ segment.bytes ≠ [] := by
    rw [further]
    simp
  have verdict : websocketFraming (held ++ segment.bytes) = .package frame.bytes.length := by
    rw [further]
    exact frame_complete frame.serverFrame (0x81 :: extra)
  have longer : frame.bytes.length < (held ++ segment.bytes).length := by
    rw [further, List.length_append, List.length_cons]
    omega
  have inside : session.bufferIndex ≤ size.toNat := by omega
  rcases websocket_returns receiving.kind inside segment with ⟨next, received⟩
  have kind := (received_pkg_type received).trans receiving.kind
  have index := (received_account receiving.kind inside received).2
  rcases websocket_runs kind index segments with ⟨final, run⟩
  rcases (first_call receiving some room verdict received).trans (run_grows kind run) with
    ⟨calls, grown⟩
  refine ⟨final, frontCall segment session frame.bytes.length :: calls, .cons received run, ?_, ?_⟩
  · rw [← grown, List.append_assoc]
    rfl
  · constructor
    · intro parsed
      exact absurd (List.cons.inj parsed).1 (followed_frame_not_parsed receiving room further)
    · intro separated
      cases separated with
      | waits short => exact absurd longer (Nat.lt_asymm short)
      | ends whole => exact absurd (congrArg List.length whole) (Nat.ne_of_gt longer)

end Cases

theorem parses_separated {frames : List TextFrame} {segments : List Segment}
    (receiving : Receiving .websocket13 session held) (clean : RxClean session.toSpro)
    (unfinished : Unfinished held (frames.map TextFrame.bytes))
    (nonempty : ∀ segment ∈ segments, segment.bytes ≠ [])
    (stream : held ++ (segments.map Segment.bytes).flatten =
      (frames.map TextFrame.bytes).flatten)
    (fits : Meets (fun session segment => SproStep session (.recv segment))
      (fun session segment => FitsBuffer session (.recv segment)) session segments) :
    ParsesSeparated session held frames segments := by
  induction segments generalizing session held frames with
  | nil =>
      rcases unfinished with ⟨none, rfl⟩ | ⟨item, more, back, items, rfl, some⟩
      · have none := List.map_eq_nil_iff.1 none
        subst none
        exact ⟨session, [], .nil, by simp, ⟨fun _ => .done, fun _ => rfl⟩⟩
      · have lengths := congrArg List.length stream
        have missing := List.length_pos_of_ne_nil some
        simp only [items, List.map_nil, List.flatten_nil, List.append_nil, List.flatten_cons,
          List.length_append] at lengths
        omega
  | cons segment segments ih =>
      have filled : segment.bytes ≠ [] := nonempty segment List.mem_cons_self
      have later : ∀ segment ∈ segments, segment.bytes ≠ [] :=
        fun other member => nonempty other (List.mem_cons_of_mem _ member)
      rcases fits with ⟨room, fits⟩
      have stream : (held ++ segment.bytes) ++ (segments.map Segment.bytes).flatten =
          (frames.map TextFrame.bytes).flatten := by
        simpa using stream
      cases frames with
      | nil => simp [filled] at stream
      | cons frame frames =>
          simp only [List.map_cons, List.flatten_cons] at stream
          rcases first_frame_cases stream with whole | ⟨back, front, more⟩ | ⟨extra, further⟩
          · have rest : [] ++ (segments.map Segment.bytes).flatten =
                (frames.map TextFrame.bytes).flatten := by
              rw [whole] at stream
              exact List.append_cancel_left stream
            apply parses_whole receiving clean room whole
            intro next received still cleared
            exact ih still cleared (text_frames_unfinished frames) later rest (fits next received)
          · apply parses_front receiving clean room (by simp [filled]) front more
            intro next received still cleared
            exact ih still cleared (.inr ⟨_, _, back, rfl, front, more⟩) later stream
              (fits next received)
          · exact parses_over receiving room further

/-- Over all streams of text frames whose segments find room: the strings the
parser gets are the payloads, in order, exactly if every frame ends with a
segment. -/
theorem payloads_isolated (size : UInt16) (frames : List TextFrame) (segments : List Segment)
    (nonempty : ∀ segment ∈ segments, segment.bytes ≠ [])
    (cut : (segments.map Segment.bytes).flatten = (frames.map TextFrame.bytes).flatten)
    (fits : Meets SproStep FitsBuffer (spCreateObject size .websocket13 true)
      (segments.map SproEvent.recv)) :
    ∃ final, Run SproStep (spCreateObject size .websocket13 true) (segments.map SproEvent.recv)
        final ∧
      (final.calls.map pkgOutcome = parsedPayloads frames ↔
        Separated size.toNat [] frames segments) := by
  rcases parses_separated (fresh_receiving size .websocket13) (fresh_clean size .websocket13 true)
    (text_frames_unfinished frames) nonempty cut (meets_map.1 fits) with
    ⟨final, calls, run, grown, parsed⟩
  refine ⟨final, run_map run, ?_⟩
  rw [grown]
  exact parsed

theorem payloads_isolated_whole :
    ∃ final, Run SproStep (spCreateObject 4 .websocket13 true)
        ([⟨⟨0, []⟩, 7, [0x81, 1]⟩, ⟨⟨1, []⟩, 7, [65]⟩, ⟨⟨2, []⟩, 7, [0x81, 1, 66]⟩].map
          SproEvent.recv) final ∧
      (final.calls.map pkgOutcome = [.parsed [65], .parsed [66]] ↔
        Separated 4 [] [.short [65] (by decide) (by decide), .short [66] (by decide) (by decide)]
          [⟨⟨0, []⟩, 7, [0x81, 1]⟩, ⟨⟨1, []⟩, 7, [65]⟩, ⟨⟨2, []⟩, 7, [0x81, 1, 66]⟩]) := by
  apply payloads_isolated 4
    [.short [65] (by decide) (by decide), .short [66] (by decide) (by decide)]
  · decide
  · rfl
  · exact meets_of_exec spro_step_unique (spro_exec_sound 4) (by decide)

/-- Two frames in one segment: the first one is parsed with the second behind
it. -/
theorem payloads_coalesced :
    ¬ ∀ (frames : List TextFrame) (segments : List Segment),
      (∀ segment ∈ segments, segment.bytes ≠ []) →
      (segments.map Segment.bytes).flatten = (frames.map TextFrame.bytes).flatten →
      Meets SproStep FitsBuffer (spCreateObject recvBufferSize .websocket13 true)
        (segments.map SproEvent.recv) →
      ∀ final, Run SproStep (spCreateObject recvBufferSize .websocket13 true)
          (segments.map SproEvent.recv) final →
        final.calls.map pkgOutcome = parsedPayloads frames := by
  intro claimed
  let first : TextFrame := .short [65] (by decide) (by decide)
  let second : TextFrame := .short [66] (by decide) (by decide)
  let segment : Segment := ⟨⟨0, []⟩, 7, [0x81, 1, 65, 0x81, 1, 66]⟩
  have fits : Meets SproStep FitsBuffer (spCreateObject recvBufferSize .websocket13 true)
      ([segment].map SproEvent.recv) := ⟨by decide, fun _ _ => trivial⟩
  have further : [] ++ segment.bytes = first.bytes ++ 0x81 :: [1, 66] := rfl
  rcases parses_over (fresh_receiving recvBufferSize .websocket13) (by decide) further with
    ⟨final, calls, run, grown, parsed⟩
  have same := claimed [first, second] [segment] (by decide) rfl fits final (run_map run)
  rw [grown] at same
  have separated : Separated recvBufferSize.toNat [] [first, second] [segment] := parsed.1 same
  cases separated with
  | waits short => exact absurd short (by decide)
  | ends whole => exact absurd whole (by decide)

end Streams

end IotgoFirmware.Receive.FrameDispatch
