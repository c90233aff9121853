import IotgoFirmware.Uart.FrameDecode

/-!
# Messages one after the other on the serial line

What `cmdSendDataToMcu` writes for a list of messages comes in as one stream of bytes. However
the bytes and the calls of the parser alternate, a message is taken when it is complete, the
bytes behind it stay in the ring, and the messages are handed on in their order, each once.
-/

namespace IotgoFirmware.Uart.FrameStreams

open IotgoFirmware.Library.CStrings
open IotgoFirmware.Library.RingQueues
open IotgoFirmware.Library.StepRuns
open IotgoFirmware.Uart.U2artSchedule
open IotgoFirmware.Uart.U2artSchedule.ByteQueue
open IotgoFirmware.Uart.U2artQueue
open IotgoFirmware.Uart.FrameDecode

set_option autoImplicit false

section Frames

variable {frame : Frame} {processor : CmdProcessor} {state : U2art (List UInt8)}
variable {behind pending : List UInt8}

/-- The stored bytes begin with all that is wanted next. -/
theorem split_front {stored front rest : List UInt8} (bytes : stored ++ pending = front ++ rest)
    (enough : front.length ≤ stored.length) :
    ∃ more, stored = front ++ more ∧ more ++ pending = rest := by
  obtain ⟨more, same⟩ := List.prefix_of_prefix_length_le (List.prefix_append front rest)
    (bytes ▸ List.prefix_append stored pending) enough
  refine ⟨more, same.symm, ?_⟩
  rw [← same, List.append_assoc] at bytes
  exact List.append_cancel_left bytes

/-- Too few bytes are stored: some are still to come. -/
theorem pending_ne_nil {stored front rest : List UInt8} (bytes : stored ++ pending = front ++ rest)
    (few : stored.length < front.length) : pending ≠ [] := by
  intro nothing
  have lengths := congrArg List.length bytes
  rw [nothing, List.append_nil, List.length_append] at lengths
  omega

/-- The parser has the header of a frame that has the bytes `behind` after it; `pending` are
still to come. -/
inductive Ahead (frame : Frame) (behind : List UInt8) (state : U2art (List UInt8))
    (pending : List UInt8) : Prop where
  | opened (data : state.data = frame.opened) (unread : state.getLength = false)
      (bytes : state.rxBuffer ++ pending = frame.extended ++ (frame.body ++ behind))
  | measured (data : state.data = frame.measured) (read : state.getLength = true)
      (bytes : state.rxBuffer ++ pending = frame.body ++ behind)

theorem ahead_started (ahead : Ahead frame behind state pending) : state.data.start = true := by
  cases ahead with
  | opened data => rw [data]; rfl
  | measured data => rw [data]; rfl

theorem ahead_counted (ahead : Ahead frame behind state pending) :
    Ahead frame behind (countCall state) pending := by
  cases ahead with
  | opened data unread bytes => exact .opened data unread bytes
  | measured data read bytes => exact .measured data read bytes

theorem take_length_ahead (ahead : Ahead frame behind state pending)
    (quiet : state.result = .null) :
    (∃ more, takeLength state = { state with
        rxBuffer := more, getLength := true, data := frame.measured } ∧
      more ++ pending = frame.body ++ behind) ∨
    (takeLength state = state ∧ state.getLength = false ∧ pending ≠ []) := by
  cases ahead with
  | opened data unread bytes =>
      by_cases few : state.rxBuffer.length < frame.extended.length
      · exact .inr ⟨take_length_waits frame state unread quiet data few, unread,
          pending_ne_nil bytes few⟩
      · obtain ⟨more, stored, rest⟩ := split_front bytes (Nat.le_of_not_lt few)
        exact .inl ⟨more, take_length_frame frame state unread quiet data stored, rest⟩
  | measured data read bytes =>
      refine .inl ⟨state.rxBuffer, ?_, bytes⟩
      rw [takeLength, if_pos read, ← data, ← read]

variable {json : CJson} {name : List UInt8}

/-- The frame waits for its rest, or it is taken and what is behind it is left. -/
theorem take_frame_ahead (answer : CmdAnswer)
    (parses : processor.cJSONParse frame.payload = some json) (array : json.isArray = true)
    (first : json.items[0]? = some (some name)) (ahead : Ahead frame behind state pending)
    (quiet : state.result = .null) :
    (pending ≠ [] ∧ ∃ next, takeFrame processor answer state = some next ∧
      Ahead frame behind next pending ∧ next.result = .null ∧
      next.timeroutCouter = state.timeroutCouter ∧ next.log = state.log) ∨
    ∃ more, more ++ pending = behind ∧ takeFrame processor answer state = some { state with
      rxBuffer := more
      data := .zero
      result := .null
      getLength := false
      log := state.log ++ decodeEffects processor answer frame.payload json name } := by
  rw [takeFrame, if_pos (ahead_started ahead)]
  rcases take_length_ahead ahead quiet with ⟨rest, taken, bytes⟩ | ⟨waits, unread, incomplete⟩
  · by_cases few : rest.length < frame.body.length
    · let next : U2art (List UInt8) :=
        { state with rxBuffer := rest, getLength := true, data := frame.measured }
      rw [taken, take_data_waits frame processor answer next quiet rfl few]
      exact .inl ⟨pending_ne_nil bytes few, next, rfl, .measured rfl rfl bytes, quiet, rfl, rfl⟩
    · obtain ⟨more, stored, left⟩ := split_front bytes (Nat.le_of_not_lt few)
      refine .inr ⟨more, left, ?_⟩
      rw [taken, take_data_frame frame processor answer _ parses array first rfl rfl stored]
      rfl
  · rw [waits, takeData, unread]
    exact .inl ⟨incomplete, state, rfl, ahead, quiet, rfl, rfl⟩

end Frames

section Messages

/-- A text for the device that the JSON parser takes for a command. -/
structure Message (processor : CmdProcessor) where
  crcEnable : Bool
  payload : List UInt8
  json : CJson
  name : List UInt8
  nonempty : payload ≠ []
  bound : payload.length ≤ 255
  nulFree : (0 : UInt8) ∉ payload
  parses : processor.cJSONParse payload = some json
  array : json.isArray = true
  first : json.items[0]? = some (some name)

variable {processor : CmdProcessor}

namespace Message

def sent (message : Message processor) : List UInt8 :=
  cmdSendDataToMcu message.crcEnable (some message.payload) message.payload.length

def frame (message : Message processor) : Frame :=
  encodedFrame message.crcEnable message.payload message.nonempty message.bound message.nulFree

theorem sent_frame (message : Message processor) : message.sent = message.frame.bytes :=
  send_data_bytes message.nonempty message.bound message.nulFree

/-- The message is parsed and run once; `answer` is what its action returned. -/
def Taken (message : Message processor) (effects : List U2artEffect) : Prop :=
  ∃ answer, effects = decodeEffects processor answer message.payload message.json message.name

end Message

def stream (messages : List (Message processor)) : List UInt8 :=
  messages.flatMap Message.sent

/-- The messages before `left` have been taken, in their order. -/
def Delivered (messages left : List (Message processor)) (before after : List U2artEffect) :
    Prop :=
  ∃ taken effects, messages = taken ++ left ∧ List.Forall₂ Message.Taken taken effects ∧
    after = before ++ effects.flatten

theorem delivered_none (messages : List (Message processor)) (log : List U2artEffect) :
    Delivered messages messages log log :=
  ⟨[], [], rfl, .nil, (List.append_nil log).symm⟩

theorem delivered_first {message : Message processor} {left : List (Message processor)}
    {before effects : List U2artEffect} (taken : message.Taken effects) :
    Delivered (message :: left) left before (before ++ effects) :=
  ⟨[message], [effects], rfl, .cons taken .nil, by rw [List.flatten_singleton]⟩

theorem delivered_trans {messages middle left : List (Message processor)}
    {before between after : List U2artEffect} (first : Delivered messages middle before between)
    (later : Delivered middle left between after) : Delivered messages left before after := by
  obtain ⟨taken, effects, rfl, each, rfl⟩ := first
  obtain ⟨taken', effects', rfl, each', rfl⟩ := later
  refine ⟨taken ++ taken', effects ++ effects', (List.append_assoc ..).symm,
    List.rel_append each each', ?_⟩
  rw [List.flatten_append, List.append_assoc]

inductive Streaming (messages : List (Message processor)) (state : U2art (List UInt8))
    (pending : List UInt8) : Prop where
  | waiting (waiting : Waiting state) (bytes : state.rxBuffer ++ pending = stream messages)
  | reading {message : Message processor} {left : List (Message processor)}
      (split : messages = message :: left)
      (ahead : Ahead message.frame (stream left) state pending) (quiet : state.result = .null)

/-- A byte finds room in the ring, and a frame that has begun is not given up. -/
def Fits {Queue : Type} [ByteQueue Queue] (state : U2art Queue) : U2artEvent → Prop
  | .uart0RxWrite _ => uart0RxAvailable state.rxBuffer + 1 < uart0RxBufferSize
  | .parseU2artData _ => state.data.start = true → state.timeroutCouter + 1 < timeroutTime

variable {messages : List (Message processor)} {state : U2art (List UInt8)}
variable {pending : List UInt8}

theorem streaming_write {byte : UInt8} (streaming : Streaming messages state (byte :: pending))
    (fits : Fits state (.uart0RxWrite byte)) :
    Streaming messages { state with rxBuffer := uart0RxWrite state.rxBuffer byte } pending := by
  have room : state.rxBuffer.length < 1023 := Nat.succ_lt_succ_iff.1 fits
  have moved : (state.rxBuffer ++ [byte]) ++ pending = state.rxBuffer ++ byte :: pending :=
    List.append_assoc ..
  rw [write_room _ room]
  cases streaming with
  | waiting waiting bytes =>
      exact .waiting ⟨waiting.data, waiting.quiet, waiting.unread, waiting.counter⟩
        (moved.trans bytes)
  | reading split ahead quiet =>
      refine .reading split ?_ quiet
      cases ahead with
      | opened data unread bytes => exact .opened data unread (moved.trans bytes)
      | measured data read bytes => exact .measured data read (moved.trans bytes)

/-- The rest of a call that has the header of the first message. -/
theorem streaming_frame {message : Message processor} {left : List (Message processor)}
    (answer : CmdAnswer) (ahead : Ahead message.frame (stream left) state pending)
    (quiet : state.result = .null)
    (counter : pending ≠ [] → state.timeroutCouter < timeroutTime) :
    ∃ next rest, (takeFrame processor answer state).map checkTimerout = some next ∧
      Delivered (message :: left) rest state.log next.log ∧ Streaming rest next pending ∧
      (pending = [] → rest = left) := by
  rcases take_frame_ahead answer message.parses message.array message.first ahead quiet with
    ⟨incomplete, next, taken, later, quiet', counter', log'⟩ | ⟨more, bytes, taken⟩
  · have early : next.timeroutCouter < timeroutTime := by
      rw [counter']
      exact counter incomplete
    refine ⟨next, message :: left, ?_, log' ▸ delivered_none _ _, .reading rfl later quiet',
      fun complete => absurd complete incomplete⟩
    rw [taken, Option.map_some, check_timerout_early early]
  · let done : U2art (List UInt8) := { state with
      rxBuffer := more
      data := .zero
      result := .null
      getLength := false
      log := state.log ++
        decodeEffects processor answer message.payload message.json message.name }
    obtain ⟨count, early, timed⟩ := check_timerout_idle done rfl rfl
    have waiting : Waiting { done with timeroutCouter := count } := ⟨rfl, rfl, rfl, early⟩
    refine ⟨{ done with timeroutCouter := count }, left, ?_, delivered_first ⟨answer, rfl⟩,
      .waiting waiting bytes, fun _ => rfl⟩
    rw [taken]
    exact congrArg some timed

theorem stream_cons (message : Message processor) (left : List (Message processor)) :
    stream (message :: left) = [0xAA, 0x55, message.frame.header] ++
      (message.frame.extended ++ (message.frame.body ++ stream left)) := by
  simp only [stream, List.flatMap_cons, Message.sent_frame, Frame.bytes, List.cons_append,
    List.nil_append, List.append_assoc]

theorem stream_few {stored : List UInt8} (bytes : stored = stream messages)
    (few : stored.length < 3) : messages = [] := by
  cases messages with
  | nil => rfl
  | cons message left =>
      rw [bytes, stream_cons, List.length_append] at few
      exact absurd few (Nat.not_lt.2 (Nat.le_add_right 3 _))

/-- A call of the parser takes at most one message; it takes one if there is one and all of
the stream is in. -/
theorem streaming_parse (answer : CmdAnswer) (streaming : Streaming messages state pending)
    (fits : pending ≠ [] → Fits state (.parseU2artData answer)) :
    ∃ next rest, parseU2artData processor answer state = some next ∧
      Delivered messages rest state.log next.log ∧ Streaming rest next pending ∧
      (pending = [] → rest = messages.tail) := by
  cases streaming with
  | waiting waiting bytes =>
      by_cases few : state.rxBuffer.length < 3
      · obtain ⟨count, early, parsed⟩ :=
          parse_few processor answer waiting.data waiting.quiet few
        refine ⟨_, messages, parsed, delivered_none _ _,
          .waiting ⟨waiting.data, waiting.quiet, waiting.unread, early⟩ bytes, ?_⟩
        intro complete
        rw [complete, List.append_nil] at bytes
        rw [stream_few bytes few]
        rfl
      · obtain ⟨message, left, rfl⟩ : ∃ message left, messages = message :: left := by
          apply List.exists_cons_of_ne_nil
          rintro rfl
          have lengths := congrArg List.length bytes
          rw [List.length_append, stream, List.flatMap_nil, List.length_nil] at lengths
          omega
        rw [stream_cons] at bytes
        obtain ⟨more, stored, rest⟩ := split_front bytes (Nat.le_of_not_lt few)
        let opened : U2art (List UInt8) := { countCall state with
          rxBuffer := more, timeroutCouter := 0, data := message.frame.opened }
        have taken : takePreamble (countCall state) = opened :=
          take_preamble_zero waiting.data stored
        have ahead : Ahead message.frame (stream left) opened pending :=
          .opened rfl waiting.unread rest
        rw [parseU2artData, taken]
        exact streaming_frame answer ahead waiting.quiet fun _ => Nat.zero_lt_succ 49
  | reading split ahead quiet =>
      subst split
      rw [parseU2artData, takePreamble, if_pos (ahead_started (ahead_counted ahead))]
      apply streaming_frame answer (ahead_counted ahead) quiet
      intro incomplete
      have within := fits incomplete (ahead_started ahead)
      unfold timeroutTime at within ⊢
      simp only [countCall]
      omega

/-- One step of the parser over the ring. -/
theorem streaming_step {event : U2artEvent} {ring : U2art RxBuffer}
    (streaming : Streaming messages (mapState Ring.contents ring) (received [event] ++ pending))
    (fits : Fits ring event) :
    ∃ next rest, u2artStep processor ring event = some next ∧
      Delivered messages rest ring.log next.log ∧
      Streaming rest (mapState Ring.contents next) pending := by
  have mapped := u2art_step_map contents_view processor ring event
  cases event with
  | uart0RxWrite byte =>
      have room : Fits (mapState Ring.contents ring) (.uart0RxWrite byte) := by
        rw [Fits, show uart0RxAvailable (mapState Ring.contents ring).rxBuffer =
          uart0RxAvailable ring.rxBuffer from contents_view.available ring.rxBuffer]
        exact fits
      refine ⟨_, messages, rfl, delivered_none _ _, ?_⟩
      have kept := streaming_write streaming room
      rw [u2artStep, u2artStep, Option.map_some, Option.some.injEq] at mapped
      rw [← mapped]
      exact kept
  | parseU2artData answer =>
      obtain ⟨next, rest, parsed, delivered, kept, -⟩ :=
        streaming_parse answer streaming fun _ => fits
      rw [u2artStep, parsed, eq_comm, Option.map_eq_some_iff] at mapped
      obtain ⟨final, taken, rfl⟩ := mapped
      exact ⟨final, rest, taken, delivered, kept⟩

/-- The stream is in: every further call takes a message. -/
theorem streaming_call (answer : CmdAnswer) {ring : U2art RxBuffer}
    (streaming : Streaming messages (mapState Ring.contents ring) []) :
    ∃ next, u2artStep processor ring (.parseU2artData answer) = some next ∧
      Delivered messages messages.tail ring.log next.log ∧
      Streaming messages.tail (mapState Ring.contents next) [] := by
  have mapped := u2art_step_map contents_view processor ring (.parseU2artData answer)
  obtain ⟨next, rest, parsed, delivered, kept, all⟩ :=
    streaming_parse answer streaming fun incomplete => absurd rfl incomplete
  rw [u2artStep, parsed, eq_comm, Option.map_eq_some_iff] at mapped
  obtain ⟨final, taken, rfl⟩ := mapped
  rw [all rfl] at delivered kept
  exact ⟨final, taken, delivered, kept⟩

theorem streaming_run (events : List U2artEvent) {ring : U2art RxBuffer}
    (streaming : Streaming messages (mapState Ring.contents ring) (received events ++ pending))
    (met : Meets (fun state event next => u2artStep processor state event = some next) Fits ring
      events) :
    ∃ final rest, execRun (u2artStep processor) ring events = some final ∧
      Delivered messages rest ring.log final.log ∧
      Streaming rest (mapState Ring.contents final) pending := by
  induction events generalizing messages ring with
  | nil => exact ⟨ring, messages, rfl, delivered_none _ _, streaming⟩
  | cons event events ih =>
      have split : received (event :: events) ++ pending =
          received [event] ++ (received events ++ pending) := by
        cases event <;> rfl
      rw [split] at streaming
      obtain ⟨next, rest, taken, delivered, kept⟩ := streaming_step streaming met.1
      obtain ⟨final, left, reached, later, ends⟩ := ih kept (met.2 next taken)
      refine ⟨final, left, ?_, delivered_trans delivered later, ends⟩
      rw [execRun, taken, Option.bind_some, reached]

theorem streaming_calls (answers : List CmdAnswer) {ring : U2art RxBuffer}
    (streaming : Streaming messages (mapState Ring.contents ring) [])
    (enough : messages.length ≤ answers.length) :
    ∃ final, execRun (u2artStep processor) ring (answers.map .parseU2artData) = some final ∧
      Delivered messages [] ring.log final.log ∧
      Streaming ([] : List (Message processor)) (mapState Ring.contents final) [] := by
  induction answers generalizing messages ring with
  | nil =>
      obtain rfl := List.length_eq_zero_iff.1 (Nat.le_zero.1 enough)
      exact ⟨ring, rfl, delivered_none _ _, streaming⟩
  | cons answer answers ih =>
      obtain ⟨next, taken, delivered, kept⟩ := streaming_call answer streaming
      obtain ⟨final, reached, later, ends⟩ := ih kept (by
        rw [List.length_tail]
        exact Nat.sub_le_of_le_add enough)
      refine ⟨final, ?_, delivered_trans delivered later, ends⟩
      rw [List.map_cons, execRun, taken, Option.bind_some, reached]

theorem streaming_done (streaming : Streaming ([] : List (Message processor)) state []) :
    Waiting state ∧ state.rxBuffer = [] := by
  cases streaming with
  | waiting waiting bytes => exact ⟨waiting, (List.append_nil _).symm.trans bytes⟩
  | reading split => cases split

/-- The messages that `cmdSendDataToMcu` writes one after the other come in in any pieces, with
calls of the parser anywhere between: no matter where the calls fall, every message is parsed
and run once, in order, and a call for each of them at the end leaves the parser as it was. -/
theorem stream_decoded (messages : List (Message processor)) (state : U2art RxBuffer)
    (waiting : Waiting state) (empty : state.rxBuffer.contents = []) (events : List U2artEvent)
    (bytes : received events = stream messages)
    (met : Meets (fun state event next => u2artStep processor state event = some next) Fits state
      events) (answers : List CmdAnswer) (enough : messages.length ≤ answers.length) :
    ∃ final effects,
      execRun (u2artStep processor) state (events ++ answers.map .parseU2artData) = some final ∧
        Waiting final ∧ final.rxBuffer.contents = [] ∧
        List.Forall₂ Message.Taken messages effects ∧
        final.log = state.log ++ effects.flatten := by
  have start : Streaming messages (mapState Ring.contents state) (received events ++ []) := by
    refine .waiting ⟨waiting.data, waiting.quiet, waiting.unread, waiting.counter⟩ ?_
    rw [List.append_nil, bytes, show (mapState Ring.contents state).rxBuffer = [] from empty,
      List.nil_append]
  obtain ⟨middle, rest, reached, delivered, streaming⟩ := streaming_run events start met
  obtain ⟨extra, -, split, -⟩ := id delivered
  obtain ⟨final, calls, later, ends⟩ := streaming_calls answers streaming (by
    rw [split, List.length_append] at enough
    omega)
  obtain ⟨taken, effects, all, each, logged⟩ := delivered_trans delivered later
  obtain ⟨⟨data, quiet, unread, counter⟩, nothing⟩ := streaming_done ends
  rw [List.append_nil] at all
  refine ⟨final, effects, ?_, ⟨data, quiet, unread, counter⟩, nothing, all ▸ each, logged⟩
  rw [exec_run_append, reached, Option.bind_some, calls]

end Messages

section Pings

instance {Queue : Type} [ByteQueue Queue] (state : U2art Queue) (event : U2artEvent) :
    Decidable (Fits state event) :=
  match event with
  | .uart0RxWrite _ => inferInstanceAs (Decidable (_ < _))
  | .parseU2artData _ => inferInstanceAs (Decidable (_ → _))

theorem ping_payload_nonempty : pingPayload ≠ [] := by
  decide

theorem ping_payload_bound : pingPayload.length ≤ 255 := by
  decide

theorem ping_payload_nul_free : (0 : UInt8) ∉ pingPayload := by
  decide

theorem ping_payload_parses :
    pingProcessor.cJSONParse pingPayload = some ⟨true, [some (asciiBytes "ping")]⟩ :=
  rfl

theorem ping_json_array : (CJson.mk true [some (asciiBytes "ping")]).isArray = true :=
  rfl

theorem ping_json_first :
    (CJson.mk true [some (asciiBytes "ping")]).items[0]? = some (some (asciiBytes "ping")) :=
  rfl

def ping (crcEnable : Bool) : Message pingProcessor where
  crcEnable := crcEnable
  payload := pingPayload
  json := ⟨true, [some (asciiBytes "ping")]⟩
  name := asciiBytes "ping"
  nonempty := ping_payload_nonempty
  bound := ping_payload_bound
  nulFree := ping_payload_nul_free
  parses := ping_payload_parses
  array := ping_json_array
  first := ping_json_first

/-- The first call comes in the middle of the second message. -/
def twoPings : List U2artEvent :=
  let bytes := stream [ping true, ping false]
  (bytes.take 20).map .uart0RxWrite ++ .parseU2artData accepted ::
    (bytes.drop 20).map .uart0RxWrite

theorem stream_decoded_pings :
    ∃ final effects,
      execRun (u2artStep pingProcessor) (U2art.initial emptyRing)
          (twoPings ++ [accepted, accepted].map .parseU2artData) = some final ∧
        Waiting final ∧ final.rxBuffer.contents = [] ∧
        List.Forall₂ Message.Taken [ping true, ping false] effects ∧
        final.log = (U2art.initial emptyRing).log ++ effects.flatten := by
  have met : Meets (fun state event next => u2artStep pingProcessor state event = some next) Fits
      (U2art.initial emptyRing) twoPings := by
    refine meets_of_exec (fun _ _ _ _ first second => Option.some.inj (first.symm.trans second))
      (fun _ _ _ taken => taken) ?_
    decide +kernel
  exact stream_decoded [ping true, ping false] (U2art.initial emptyRing)
    ⟨rfl, rfl, rfl, by decide⟩ rfl twoPings (by decide) met [accepted, accepted] (by decide)

end Pings

end IotgoFirmware.Uart.FrameStreams
