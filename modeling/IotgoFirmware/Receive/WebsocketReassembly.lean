import IotgoFirmware.Receive.SproEvents

/-!
# WebSocket frames arrive whole

A frame is recognised from its last byte on and waited for before that. The loop
of `processWebsocketPackage` therefore drains the buffer exactly as the framing
says, and every frame of a stream is delivered once, in order, wherever the
stream is cut.
-/

namespace IotgoFirmware.Receive.WebsocketReassembly

open IotgoFirmware.Library.ByteRegions
open IotgoFirmware.Library.CIntegers
open IotgoFirmware.Library.LoopRules
open IotgoFirmware.Library.StepRuns
open IotgoFirmware.Library.StreamFraming
open IotgoFirmware.Receive.SproObject
open IotgoFirmware.Receive.SproWebsocket
open IotgoFirmware.Receive.SproEvents

set_option autoImplicit false

variable {size : UInt16}

section Frames

theorem byte_of_nat {value : Nat} (small : value < 256) : (UInt8.ofNat value).toNat = value := by
  rw [UInt8.toNat_ofNat']
  omega

theorem data_opcode_is (binary : Bool) :
    dataOpcode binary = 0x81 ∨ dataOpcode binary = 0x82 := by
  cases binary
  · exact .inl rfl
  · exact .inr rfl

theorem head_of_opcode {binary : Bool} {rest : List UInt8} (available : Nat) :
    websocketHead (dataOpcode binary :: rest) available =
      if 2 ≤ available then
        if (rest.getD 0 0).toNat ≤ 125 then
          if available < (rest.getD 0 0).toNat + 2 then .wait
          else .package ((rest.getD 0 0).toNat + 2)
        else if (rest.getD 0 0).toNat = 126 then
          if available < 4 ∨
              available < (rest.getD 1 0).toNat * 256 + (rest.getD 2 0).toNat + 4 then .wait
          else .package ((rest.getD 1 0).toNat * 256 + (rest.getD 2 0).toNat + 4)
        else .invalid
      else .wait := by
  simp only [websocketHead, List.getD_cons_zero, List.getD_cons_succ]
  rw [if_pos (data_opcode_is binary)]

theorem extended_length {length : Nat} (small : length < 65536) :
    (UInt8.ofNat (length / 256)).toNat * 256 + (UInt8.ofNat (length % 256)).toNat = length := by
  rw [byte_of_nat (by omega), byte_of_nat (by omega)]
  omega

theorem frame_complete (frame : ServerFrame) (rest : List UInt8) :
    websocketFraming (frame.bytes ++ rest) = .package frame.bytes.length := by
  cases frame with
  | short binary payload fits =>
      have length := byte_of_nat (show payload.length < 256 by omega)
      simp only [ServerFrame.bytes, List.cons_append, websocketFraming, reduceCtorEq, if_false,
        head_of_opcode, List.getD_cons_zero, length, List.length_cons, List.length_append]
      rw [if_pos (by omega), if_pos fits, if_neg (by omega)]
  | extended binary payload fits =>
      have length := extended_length fits
      simp only [ServerFrame.bytes, List.cons_append, websocketFraming, reduceCtorEq, if_false,
        head_of_opcode, List.getD_cons_zero, List.getD_cons_succ, length, List.length_cons,
        List.length_append]
      rw [if_pos (by omega), if_neg (by decide), if_pos (by decide), if_neg (by omega)]
  | control pong =>
      cases pong <;> simp [ServerFrame.bytes, websocketFraming, websocketHead]

theorem frame_waits (frame : ServerFrame) (front back : List UInt8)
    (split : frame.bytes = front ++ back) (more : back ≠ []) : websocketFraming front = .wait := by
  have missing := List.length_pos_of_ne_nil more
  have lengths := congrArg List.length split
  rw [List.length_append] at lengths
  cases front with
  | nil => rfl
  | cons first front =>
      cases frame with
      | short binary payload fits =>
          have length := byte_of_nat (show payload.length < 256 by omega)
          simp only [ServerFrame.bytes, List.cons_append, List.cons.injEq, List.length_cons]
            at split lengths
          rw [← split.1, websocketFraming, if_neg (by simp), head_of_opcode]
          cases front with
          | nil => rfl
          | cons second front =>
              have byte : UInt8.ofNat payload.length = second := by
                simpa using (List.cons.inj split.2).1
              simp only [List.length_cons] at lengths ⊢
              rw [← byte, List.getD_cons_zero, length, if_pos (by omega), if_pos fits,
                if_pos (by omega)]
      | extended binary payload fits =>
          have length := extended_length fits
          simp only [ServerFrame.bytes, List.cons_append, List.cons.injEq, List.length_cons]
            at split lengths
          rw [← split.1, websocketFraming, if_neg (by simp), head_of_opcode]
          have tail := split.2
          cases front with
          | nil => rfl
          | cons second front =>
              have byte : 126 = second := by simpa using (List.cons.inj tail).1
              simp only [List.length_cons] at lengths ⊢
              rw [← byte, List.getD_cons_zero, if_pos (by omega), if_neg (by decide),
                if_pos (by decide)]
              cases front with
              | nil => rw [if_pos (by simp)]
              | cons third front =>
                  cases front with
                  | nil => rw [if_pos (by simp)]
                  | cons fourth front =>
                      simp only [List.cons_append, List.cons.injEq] at tail
                      simp only [List.length_cons] at lengths ⊢
                      rw [if_pos]
                      refine .inr ?_
                      rw [← tail.2.1, ← tail.2.2.1, List.getD_cons_succ, List.getD_cons_zero,
                        List.getD_cons_succ, List.getD_cons_succ, List.getD_cons_zero, length]
                      omega
      | control pong =>
          simp only [ServerFrame.bytes, List.cons_append, List.cons.injEq, List.length_cons,
            List.length_nil] at split lengths
          have none : front = [] := List.eq_nil_of_length_eq_zero (by omega)
          rw [none, ← split.1]
          cases pong <;> rfl

def anyBytes (_ : List UInt8) : Prop := True

theorem frame_recognised (frame : ServerFrame) :
    Recognised websocketFraming anyBytes frame.bytes where
  nonempty := by cases frame <;> simp [ServerFrame.bytes]
  complete rest _ := frame_complete frame rest
  waits := frame_waits frame

end Frames

section Loop

variable {session : Session size} {live : List UInt8}

/-- One complete frame is passed and taken off; the loop goes on if bytes are
left. -/
theorem websocket_deliver_spec (receiving : Receiving .websocket13 session live) (env : Ambient)
    (arg : Nat) {length : Nat}
    (positive : 0 < length) (bounded : length ≤ live.length)
    (start : live.drop length ≠ [] → websocketStart ((live.drop length).getD 0 0) = true) :
    Receiving .websocket13 (websocketDeliver env arg length session) (live.drop length) ∧
      (websocketDeliver env arg length session).pkgOneFlag = decide (live.drop length ≠ []) ∧
      Emits session (websocketDeliver env arg length session) [live.take length] := by
  rcases take_package_receiving env arg receiving positive bounded with ⟨still, emitted⟩
  have holding := still.holds
  rcases websocket_deliver_cases env arg receiving.holds positive bounded with ⟨none, delivered⟩ |
    ⟨more, foreign, -⟩ | ⟨more, -, delivered⟩
  · rw [delivered]
    constructor
    · exact ⟨⟨holding.index, holding.front⟩, still.kind, still.registered⟩
    · exact ⟨by simp [none], emitted⟩
  · rw [start more] at foreign
    cases foreign
  · rw [delivered]
    have raised : Receiving .websocket13
        { takePackage env arg length session with pkgOneFlag := true } (live.drop length) :=
      ⟨⟨holding.index, holding.front⟩, still.kind, still.registered⟩
    rcases emitted with ⟨calls, callsEq, delivers⟩
    constructor
    · exact receiving_open_timer env _ raised
    · exact ⟨by simp [more], calls, by simpa using callsEq, delivers⟩

theorem framing_start {held : List UInt8} (nonempty : held ≠ [])
    (valid : websocketFraming held ≠ .invalid) : websocketStart (held.getD 0 0) = true := by
  rw [websocketFraming, if_neg nonempty] at valid
  exact websocket_head_start valid

/-- The loop drains the buffer as the framing says. -/
theorem websocket_loop_drains {left : List UInt8} {packages : List (List UInt8)}
    (drains : Drains websocketFraming live packages left)
    (receiving : Receiving .websocket13 session live)
    (running : session.pkgOneFlag = decide (live ≠ [])) (env : Ambient) (arg : Nat) :
    ∃ final, Exits (websocketBody env arg) session final ∧
      Receiving .websocket13 final left ∧ Emits session final packages := by
  induction drains generalizing session with
  | @waits held verdict =>
      by_cases empty : held = []
      · have leaves : websocketBody env arg session = .exit session := by
          simp [websocketBody, running, empty]
        exact ⟨session, .now leaves, receiving, emits_nil rfl⟩
      · let waiting := openTimer env { session with pkgOneFlag := false }
        have head := holds_websocket_head receiving.holds env.beyond empty
        have waits : websocketBody env arg session = .again waiting := by
          rw [websocketBody, running, if_pos (by simp [empty]), head, verdict]
        have leaves : websocketBody env arg waiting = .exit waiting := by
          simp [websocketBody, waiting]
        have lowered : Receiving .websocket13 { session with pkgOneFlag := false } held :=
          ⟨⟨receiving.holds.index, receiving.holds.front⟩, receiving.kind, receiving.registered⟩
        exact ⟨waiting, .later waits (.now leaves), receiving_open_timer env _ lowered,
          emits_nil (by simp [waiting])⟩
  | @delivers held left packages length verdict positive bounded rest ih =>
      have nonempty : held ≠ [] := by
        rintro rfl
        simp at verdict
      have head := holds_websocket_head receiving.holds env.beyond nonempty
      have start : held.drop length ≠ [] → websocketStart ((held.drop length).getD 0 0) = true :=
        fun more => framing_start more (drains_valid rest)
      obtain ⟨still, flag, emitted⟩ :=
        websocket_deliver_spec receiving env arg positive bounded start
      obtain ⟨final, exits, last, later⟩ := ih still flag
      have passes : websocketBody env arg session =
          .again (websocketDeliver env arg length session) := by
        rw [websocketBody, running, if_pos (by simp [nonempty]), head, verdict]
      exact ⟨final, .later passes exits, last, emits_append emitted later⟩

end Loop

/-- Bytes that can start a frame are appended with the flag up. -/
def raised (segment : Segment) (session : Session size) : Session size :=
  { session with toSpro := { appended segment session with pkgOneFlag := true } }

theorem raised_flag (segment : Segment) (session : Session size) :
    (raised segment session).pkgOneFlag = true := rfl

/-- A segment that fits is appended, and the loop is entered. -/
theorem websocket_raises {segment : Segment} {session : Session size} {held : List UInt8}
    (receiving : Receiving .websocket13 session held) (some : held ++ segment.bytes ≠ [])
    (fits : session.bufferIndex + segment.bytes.length ≤ size.toNat)
    (valid : websocketFraming (held ++ segment.bytes) ≠ .invalid) :
    (∀ next, Received segment session next ↔
        Exits (websocketBody segment.env segment.arg) (raised segment session) next) ∧
      Receiving .websocket13 (raised segment session) (held ++ segment.bytes) := by
  have before : Holds { session.toSpro with arg := segment.arg } held :=
    ⟨receiving.holds.index, receiving.holds.front⟩
  have written : Holds (appended segment session) (held ++ segment.bytes) :=
    holds_write before fits
  have start : websocketStart ((appended segment session).buffer.read segment.env.beyond 0) =
      true := by
    rw [Region.read, holds_read_byte written _ (List.length_pos_of_ne_nil some)]
    exact framing_start some valid
  have enters : websocketEnter segment.env segment.arg segment.bytes
      { session with arg := segment.arg } = raised segment session := by
    simp only [websocketEnter]
    exact if_pos start
  constructor
  · intro next
    rw [received_websocket receiving.kind, enters]
  · constructor
    · exact ⟨written.index, written.front⟩
    · exact (write_pkg_type _ _).trans receiving.kind
    · exact (write_pkg_proc_cb _ _).trans receiving.registered

/-- A segment that fits is appended and the buffer drained. -/
theorem websocket_receives {segment : Segment} {session : Session size} {held left : List UInt8}
    {packages : List (List UInt8)} (receiving : Receiving .websocket13 session held)
    (some : held ++ segment.bytes ≠ [])
    (fits : session.bufferIndex + segment.bytes.length ≤ size.toNat)
    (drains : Drains websocketFraming (held ++ segment.bytes) packages left) :
    ∃ next, Received segment session next ∧ Receiving .websocket13 next left ∧
      Emits session next packages := by
  rcases websocket_raises receiving some fits (drains_valid drains) with ⟨enters, entering⟩
  obtain ⟨final, exits, last, emitted⟩ :=
    websocket_loop_drains drains entering (decide_eq_true some).symm segment.env segment.arg
  exact ⟨final, (enters final).2 exits, last, emitted⟩

/-- The form in which the stream rule asks for it. -/
theorem websocket_completes (session : Session size) (segment : Segment) (held : List UInt8)
    (done rest : List (List UInt8)) (front : List UInt8)
    (receiving : Receiving .websocket13 session held)
    (room : FitsBuffer session (.recv segment) ∧ segment.bytes ≠ [])
    (split : held ++ segment.bytes = done.flatten ++ front) (unfinished : Unfinished front rest)
    (well : ∀ item ∈ done ++ rest, Recognised websocketFraming anyBytes item) :
    ∃ next, SproStep session (.recv segment) next ∧ Receiving .websocket13 next front ∧
      Emits session next done := by
  have drains := split_drains (fun _ _ any => any) websocket_framing_nil well trivial split
    unfinished
  exact websocket_receives receiving (by simp [room.2]) room.1 drains

theorem fresh_receiving (size : UInt16) (pkgType : SproPkgType) :
    Receiving pkgType (spCreateObject size pkgType true) [] :=
  ⟨⟨rfl, List.nil_prefix⟩, rfl, rfl⟩

theorem frames_recognised (frames : List ServerFrame) :
    ∀ item ∈ frames.map ServerFrame.bytes, Recognised websocketFraming anyBytes item := by
  intro item member
  rcases List.mem_map.1 member with ⟨frame, -, rfl⟩
  exact frame_recognised frame

theorem frames_unfinished (frames : List ServerFrame) :
    Unfinished [] (frames.map ServerFrame.bytes) :=
  unfinished_nil fun item member => (frames_recognised frames item member).nonempty

/-- Every frame of a stream is passed exactly once, in order and whole, wherever
the stream is cut, as long as every segment finds room. -/
theorem websocket_stream_reassembled (size : UInt16) (frames : List ServerFrame)
    (segments : List Segment) (nonempty : ∀ segment ∈ segments, segment.bytes ≠ [])
    (cut : (segments.map Segment.bytes).flatten = (frames.map ServerFrame.bytes).flatten)
    (fits : Meets SproStep FitsBuffer (spCreateObject size .websocket13 true)
      (segments.map SproEvent.recv)) :
    ∃ final, Run SproStep (spCreateObject size .websocket13 true) (segments.map SproEvent.recv)
        final ∧
      List.Forall₂ PkgCall.Delivers final.calls (frames.map ServerFrame.bytes) := by
  have room := meets_and_all (meets_map.1 fits) nonempty
  have recognised := frames_recognised frames
  have start := fresh_receiving size .websocket13
  have unfinished := frames_unfinished frames
  have nothing : ∀ session : Session size, Emits session session [] := fun _ => emits_nil rfl
  have some : ∀ item, Recognised websocketFraming anyBytes item → item ≠ [] :=
    fun _ item => item.nonempty
  obtain ⟨final, run, -, emitted⟩ :=
    delivers_every_cut nothing (fun _ _ _ _ _ => emits_append) some websocket_completes start
      unfinished recognised cut room
  obtain ⟨calls, callsEq, delivers⟩ := emitted
  refine ⟨final, run_map run, ?_⟩
  rw [callsEq]
  exact delivers

theorem websocket_stream_reassembled_coalesced :
    ∃ final, Run SproStep (spCreateObject 6 .websocket13 true)
        ([⟨⟨0, []⟩, 7, [0x81, 2]⟩, ⟨⟨1, []⟩, 7, [65, 66, 0x89]⟩, ⟨⟨2, []⟩, 7, [0]⟩].map
          SproEvent.recv) final ∧
      List.Forall₂ PkgCall.Delivers final.calls [[0x81, 2, 65, 66], [0x89, 0]] := by
  apply websocket_stream_reassembled 6 [.short false [65, 66] (by decide), .control false]
  · decide
  · rfl
  · exact meets_of_exec spro_step_unique (spro_exec_sound 4) (by decide)

end IotgoFirmware.Receive.WebsocketReassembly
