import IotgoFirmware.Uart.FrameDecode

/-!
# The frame after a failed one

A failure clears `u2art_data`, but not the static variable that says that the length
has been read. Where the data was refused, or did not come in time, the next frame is
taken as one whose length is known: nothing is lost for a frame that has its length in
the header, and the others are read as empty.
-/

namespace IotgoFirmware.Uart.FrameRecovery

open IotgoFirmware.Library.CStrings
open IotgoFirmware.Library.LoopRules
open IotgoFirmware.Library.RingQueues
open IotgoFirmware.Library.StepRuns
open IotgoFirmware.Uart.U2artSchedule
open IotgoFirmware.Uart.U2artSchedule.ByteQueue
open IotgoFirmware.Uart.U2artQueue
open IotgoFirmware.Uart.FrameDecode

set_option autoImplicit false

section Steady

variable {Queue : Type} [ByteQueue Queue]

/-- No result is left over, and nothing is known of a frame before its preamble. -/
structure Steady (state : U2art Queue) : Prop where
  quiet : state.result = .null
  data : state.data.start = false → state.data = .zero

variable {processor : CmdProcessor} {answer : CmdAnswer} {state next : U2art Queue}

omit [ByteQueue Queue] in
theorem steady_process_error : Steady (processErrorCmd state) :=
  ⟨rfl, fun _ => rfl⟩

omit [ByteQueue Queue] in
theorem steady_process_result (started : state.result = .null → state.data.start = true) :
    Steady (processResult state) := by
  unfold processResult
  split
  · rename_i quiet
    refine ⟨quiet, fun missing => ?_⟩
    rw [started quiet] at missing
    cases missing
  · exact steady_process_error

omit [ByteQueue Queue] in
theorem steady_check_timerout (steady : Steady state) : Steady (checkTimerout state) := by
  unfold checkTimerout
  split
  · exact steady_process_error
  · exact steady

theorem find_preamble_cases (state : U2art Queue) :
    (findPreamble state).result = state.result ∧
      ((findPreamble state).data = state.data ∨ (findPreamble state).data.start = true) := by
  let found (next : U2art Queue) : Prop :=
    next.result = state.result ∧ (next.data = state.data ∨ next.data.start = true)
  have again (head next : U2art Queue) (kept : head.result = state.result ∧ head.data = state.data)
      (pass : findPreambleBody head = .again next) :
      next.result = state.result ∧ next.data = state.data := by
    simp only [findPreambleBody] at pass
    split_ifs at pass <;> cases pass <;> exact kept
  have leave (head final : U2art Queue) (kept : head.result = state.result ∧ head.data = state.data)
      (pass : findPreambleBody head = .exit final) : found final := by
    simp only [findPreambleBody] at pass
    split_ifs at pass <;> cases pass
    · exact ⟨kept.1, .inr rfl⟩
    · exact ⟨kept.1, .inl kept.2⟩
  unfold findPreamble
  split
  · rename_i last running
    have kept := visits_keeps _ again ⟨rfl, rfl⟩ (visits_of_iterate running)
    exact ⟨kept.1, .inl kept.2⟩
  · rename_i last ends
    exact exits_keeps _ again leave ⟨rfl, rfl⟩ (exits_of_iterate ends)

theorem steady_take_preamble (steady : Steady state) : Steady (takePreamble state) := by
  unfold takePreamble
  split
  · exact steady
  · rcases find_preamble_cases state with ⟨result, same | started⟩
    · refine ⟨result.trans steady.quiet, fun missing => ?_⟩
      rw [same] at missing ⊢
      exact steady.data missing
    · refine ⟨result.trans steady.quiet, fun missing => ?_⟩
      rw [started] at missing
      cases missing

theorem get_extend_length_start (state : U2art Queue) :
    (getExtendLength state).2.data.start = state.data.start := by
  unfold getExtendLength
  split_ifs <;> rfl

theorem steady_take_length (started : state.data.start = true) (quiet : state.result = .null) :
    (takeLength state).result = .null ∧
      ((takeLength state).getLength = true → (takeLength state).data.start = true) ∧
      Steady (takeLength state) := by
  unfold takeLength
  split
  · exact ⟨quiet, fun _ => started, quiet, fun missing => absurd started (by rw [missing]; decide)⟩
  · have kept := get_extend_length_start state
    unfold readLength
    dsimp only
    split
    · rename_i silent
      refine ⟨silent, fun _ => kept.trans started, silent, fun missing => ?_⟩
      rw [kept, started] at missing
      cases missing
    · exact ⟨rfl, fun held => absurd held Bool.false_ne_true, steady_process_error⟩

omit [ByteQueue Queue] in
theorem check_data_cases (processor : CmdProcessor) (length : Nat) (read : DataLoop Queue) :
    (checkData processor length read).1 = true ∨
      (checkData processor length read).2.result ≠ .null := by
  unfold checkData
  dsimp only
  split
  · split
    · exact .inl rfl
    · exact .inr U2artError.noConfusion
  · exact .inr U2artError.noConfusion

/-- The data is taken, it is refused, or nothing happens. -/
theorem get_data_cases {got : Bool} (data : getData processor state = some (got, next)) :
    got = true ∨ next.result ≠ .null ∨ next = state := by
  simp only [getData] at data
  split at data
  · cases data
    exact .inr (.inl U2artError.noConfusion)
  · split at data
    · split at data
      · cases data
      · rename_i read _
        have cases := check_data_cases processor (dataLength state.data) read
        rw [Option.some.inj data] at cases
        exact cases.imp_right .inl
    · cases data
      exact .inr (.inr rfl)

omit [ByteQueue Queue] in
theorem process_cmd_ne_null (done : processCmd processor answer state = some next) :
    next.result ≠ .null := by
  simp only [processCmd] at done
  split at done
  · cases done
    exact U2artError.noConfusion
  · split_ifs at done
    cases done
    exact U2artError.noConfusion
  · split at done
    · split_ifs at done
      · cases done
        exact answer.2
      · cases done
        exact U2artError.noConfusion
    · cases done
      exact U2artError.noConfusion

theorem steady_read_data (started : state.data.start = true)
    (read : readData processor answer state = some next) : Steady next := by
  obtain ⟨⟨got, taken⟩, data, command⟩ := Option.bind_eq_some_iff.1 read
  obtain ⟨done, handled, rfl⟩ := Option.map_eq_some_iff.1 command
  apply steady_process_result
  intro quiet
  cases got with
  | true =>
      obtain ⟨answered, processed, rfl⟩ := Option.map_eq_some_iff.1 handled
      have failed := process_cmd_ne_null processed
      exact absurd quiet failed
  | false =>
      cases handled
      rcases get_data_cases data with wrong | failed | same
      · cases wrong
      · exact absurd quiet failed
      · rw [same]
        exact started

theorem steady_take_frame (steady : Steady state)
    (taken : takeFrame processor answer state = some next) : Steady next := by
  unfold takeFrame at taken
  split at taken
  · rename_i started
    obtain ⟨-, held, kept⟩ := steady_take_length started steady.quiet
    unfold takeData at taken
    split at taken
    · rename_i measured
      exact steady_read_data (held measured) taken
    · cases taken
      exact kept
  · cases taken
    exact steady

theorem steady_step {event : U2artEvent} (steady : Steady state)
    (taken : u2artStep processor state event = some next) : Steady next := by
  cases event with
  | uart0RxWrite byte =>
      cases taken
      exact ⟨steady.quiet, steady.data⟩
  | parseU2artData answer =>
      obtain ⟨done, frame, rfl⟩ := Option.map_eq_some_iff.1 taken
      have counted : Steady (countCall state) := ⟨steady.quiet, steady.data⟩
      exact steady_check_timerout (steady_take_frame (steady_take_preamble counted) frame)

theorem steady_run {events : List U2artEvent} (steady : Steady state)
    (run : execRun (u2artStep processor) state events = some next) : Steady next := by
  induction events generalizing state with
  | nil => exact Option.some.inj run ▸ steady
  | cons event events ih =>
      obtain ⟨middle, first, later⟩ := Option.bind_eq_some_iff.1 run
      exact ih (steady_step steady first) later

end Steady

section Fresh

/-- What is seen of the parser: what it did, what it knows of the frame and what is left
in the queue. -/
structure Seen where
  log : List U2artEffect
  data : U2artData
  result : U2artError
  stored : List UInt8

def seen (state : U2art (List UInt8)) : Seen where
  log := state.log
  data := state.data
  result := state.result
  stored := state.rxBuffer

/-- Before the preamble; the static variables may differ where the frame does not
depend on them. -/
structure Alike (frame : Frame) (left right : U2art (List UInt8)) (pending : List UInt8) :
    Prop where
  same : seen left = seen right
  zero : left.data = .zero
  quiet : left.result = .null
  held : left.getLength = right.getLength ∨ frame.form = .short
  bytes : left.rxBuffer ++ pending = frame.bytes

variable {frame : Frame} {processor : CmdProcessor} {left right : U2art (List UInt8)}
variable {pending : List UInt8}

/-- A length that stands in the header is read at once. -/
theorem take_length_short {state : U2art (List UInt8)} (short : frame.form = .short)
    (quiet : state.result = .null) (opened : state.data = frame.opened) :
    takeLength state = { state with getLength := true } := by
  cases held : state.getLength with
  | true => rw [takeLength, if_pos held, ← held]
  | false =>
      have stored : state.rxBuffer = frame.extended ++ state.rxBuffer := by
        rw [Frame.extended, short]
        rfl
      have measured : frame.measured = state.data := by
        rw [opened, Frame.measured, if_pos short]
        rfl
      rw [take_length_frame frame state held quiet opened stored, measured]

theorem alike_frame {answer : CmdAnswer} (opened : left.data = frame.opened)
    (quiet : left.result = .null) (held : left.getLength = right.getLength ∨ frame.form = .short)
    (same : left = { right with getLength := left.getLength }) :
    takeFrame processor answer left = takeFrame processor answer right := by
  rcases held with equal | short
  · rw [equal] at same
    rw [same]
  · have opened' : right.data = frame.opened := by
      rw [← opened, same]
    have quiet' : right.result = .null := by
      rw [← quiet, same]
    have started : left.data.start = true := by
      rw [opened]
      rfl
    have started' : right.data.start = true := by
      rw [opened']
      rfl
    rw [takeFrame, takeFrame, if_pos started, if_pos started', take_length_short short quiet opened,
      take_length_short short quiet' opened', same]

theorem alike_parse (alike : Alike frame left right pending) (answer : CmdAnswer) :
    parseU2artData processor answer left = parseU2artData processor answer right ∨
      ∃ left' right', parseU2artData processor answer left = some left' ∧
        parseU2artData processor answer right = some right' ∧
        Alike frame left' right' pending := by
  have stored : right.rxBuffer = left.rxBuffer := congrArg Seen.stored alike.same.symm
  have zero : right.data = .zero := (congrArg Seen.data alike.same.symm).trans alike.zero
  have quiet : right.result = .null := (congrArg Seen.result alike.same.symm).trans alike.quiet
  by_cases few : left.rxBuffer.length < 3
  · obtain ⟨count, -, parsed⟩ := parse_few processor answer alike.zero alike.quiet few
    obtain ⟨count', -, parsed'⟩ := parse_few processor answer zero quiet (stored ▸ few)
    exact .inr ⟨_, _, parsed, parsed', alike.same, alike.zero, alike.quiet, alike.held, alike.bytes⟩
  · obtain ⟨more, bytes, -⟩ := header_split alike.bytes few
    have log : right.log = left.log := congrArg Seen.log alike.same.symm
    let opened : U2art (List UInt8) := { countCall left with
      rxBuffer := more, timeroutCouter := 0, data := frame.opened }
    let opened' : U2art (List UInt8) := { countCall right with
      rxBuffer := more, timeroutCouter := 0, data := frame.opened }
    have found : takePreamble (countCall left) = opened := take_preamble_zero alike.zero bytes
    have found' : takePreamble (countCall right) = opened' :=
      take_preamble_zero zero (stored.trans bytes)
    have same : opened = { opened' with getLength := opened.getLength } := by
      simp [opened, opened', countCall, log, quiet, alike.quiet]
    have taken : takeFrame processor answer opened = takeFrame processor answer opened' :=
      alike_frame rfl alike.quiet alike.held same
    exact .inl (by rw [parseU2artData, parseU2artData, found, found', taken])

theorem alike_write {byte : UInt8} (alike : Alike frame left right (byte :: pending)) :
    Alike frame { left with rxBuffer := uart0RxWrite left.rxBuffer byte }
      { right with rxBuffer := uart0RxWrite right.rxBuffer byte } pending := by
  have total := frame.bytes_length_le
  have lengths := congrArg List.length alike.bytes
  rw [List.length_append, List.length_cons] at lengths
  have stored : right.rxBuffer = left.rxBuffer := congrArg Seen.stored alike.same.symm
  have log : left.log = right.log := congrArg Seen.log alike.same
  have data : left.data = right.data := congrArg Seen.data alike.same
  have result : left.result = right.result := congrArg Seen.result alike.same
  refine ⟨?_, alike.zero, alike.quiet, alike.held, ?_⟩
  · simp only [seen, stored, log, data, result]
  · rw [write_room left.rxBuffer (by omega) byte, List.append_assoc]
    exact alike.bytes

/-- Both parsers see the same of every piece of the frame. -/
theorem alike_run (processor : CmdProcessor) (events : List U2artEvent)
    (alike : Alike frame left right pending) (piece : received events <+: pending) :
    (execRun (u2artStep processor) left events).map seen =
      (execRun (u2artStep processor) right events).map seen := by
  induction events generalizing left right pending with
  | nil => exact congrArg some alike.same
  | cons event events ih =>
      cases event with
      | uart0RxWrite byte =>
          obtain ⟨rest, rfl⟩ : ∃ rest, pending = byte :: rest := by
            cases pending with
            | nil => exact absurd (List.prefix_nil.1 piece) (List.cons_ne_nil _ _)
            | cons first rest => exact ⟨rest, by rw [(List.cons_prefix_cons.1 piece).1]⟩
          exact ih (alike_write alike) (List.cons_prefix_cons.1 piece).2
      | parseU2artData answer =>
          rw [execRun, execRun, u2artStep, u2artStep]
          rcases alike_parse alike answer with same | ⟨left', right', parsed, parsed', later⟩
          · rw [same]
          · rw [parsed, parsed']
            exact ih later piece

end Fresh

section Stale

variable {frame : Frame} {processor : CmdProcessor} {answer : CmdAnswer}
variable {state next : U2art (List UInt8)}

theorem run_writes (bytes : List UInt8) (room : state.rxBuffer.length + bytes.length ≤ 1023) :
    execRun (u2artStep processor) state (bytes.map .uart0RxWrite) =
      some { state with rxBuffer := state.rxBuffer ++ bytes } := by
  induction bytes generalizing state with
  | nil => rw [List.append_nil]; rfl
  | cons byte bytes ih =>
      rw [List.length_cons] at room
      have written := write_room state.rxBuffer (by omega) byte
      rw [List.map_cons, execRun, u2artStep, Option.bind_some, written, ih (by
        rw [List.length_append, List.length_singleton]; omega)]
      simp only [List.append_assoc, List.singleton_append]

theorem process_cmd_log (done : processCmd processor answer state = some next) :
    state.log <+: next.log := by
  simp only [processCmd, emit] at done
  split at done
  · cases done
    exact List.prefix_append _ _
  · split_ifs at done
    cases done
    exact List.prefix_append _ _
  · split at done
    · split_ifs at done
      · cases done
        exact (List.prefix_append _ _).trans (List.prefix_append _ _)
      · cases done
        exact List.prefix_append _ _
    · cases done
      exact List.prefix_append _ _

theorem process_result_log (state : U2art (List UInt8)) :
    state.log <+: (processResult state).log := by
  unfold processResult
  split
  · exact List.prefix_rfl
  · exact List.prefix_append _ _

theorem check_timerout_log (state : U2art (List UInt8)) :
    state.log <+: (checkTimerout state).log := by
  unfold checkTimerout
  split
  · exact List.prefix_append _ _
  · exact List.prefix_rfl

/-- With its length known, the frame is handed to the JSON parser. -/
theorem take_data_parses (read : state.getLength = true) (measured : state.data = frame.measured)
    (stored : state.rxBuffer = frame.body)
    (taken : takeData processor answer state = some next) :
    state.log ++ [.cJSONParse frame.payload] <+: next.log := by
  obtain ⟨data, got, -⟩ := get_data_frame frame processor state measured
    (stored.trans (List.append_nil frame.body).symm)
  rw [takeData, if_pos read, readData] at taken
  by_cases array : (processor.cJSONParse frame.payload).any (·.isArray) = true
  · rw [if_pos array] at got
    rw [got, Option.bind_some, if_pos rfl] at taken
    obtain ⟨done, handled, rfl⟩ := Option.map_eq_some_iff.1 taken
    obtain ⟨answered, processed, rfl⟩ := Option.map_eq_some_iff.1 handled
    have logged := process_cmd_log processed
    exact logged.trans (process_result_log { answered with getLength := false })
  · rw [if_neg array] at got
    rw [got, Option.bind_some, if_neg Bool.false_ne_true, Option.map_some] at taken
    cases taken
    exact List.prefix_append _ _

/-- With the flag of an earlier frame, a frame with a length of its own is taken as empty. -/
theorem data_length_stale (long : frame.form ≠ .short) (opened : state.data = frame.opened) :
    dataLength state.data = 0 := by
  have code : 126 ≤ frame.lengthCode := by
    unfold Frame.lengthCode
    cases form : frame.form with
    | short => exact absurd form long
    | two => exact Nat.le_refl 126
    | four => exact Nat.le_succ 126
  rw [opened, dataLength]
  exact if_pos code

theorem get_data_stale (processor : CmdProcessor) (long : frame.form ≠ .short)
    (opened : state.data = frame.opened) :
    getData processor state =
      if dataLen state.data ≤ uart0RxAvailable state.rxBuffer then
        some (if (processor.cJSONParse []).any (·.isArray) then
          (true, { state with
            data := { state.data with root := processor.cJSONParse [] }
            log := state.log ++ [.cJSONParse []] })
        else
          (false, { state with
            data := { state.data with root := processor.cJSONParse [] }
            result := .formatError
            log := state.log ++ [.cJSONParse []] }))
      else some (false, state) := by
  have length := data_length_stale long opened
  have loop : iterate (getDataBody 0) 256 (dataLoopStart state) = .exit (dataLoopStart state) := by
    simp [iterate, getDataBody]
  have text : cString (List.replicate readUart0Buffer 0) = [] := rfl
  have crc : crcResult state.data.cf [] = state.data.crc32 := by
    rw [opened, crcResult, get_crc32_nil, ite_self]
    rfl
  rw [getData, length, if_neg (Nat.not_lt_zero _), loop]
  simp only [checkData, dataLoopStart, List.take_zero, crc, if_true, text, emit]

theorem take_data_stale (read : state.getLength = true)
    (parseEmpty : processor.cJSONParse [] = none) (long : frame.form ≠ .short)
    (opened : state.data = frame.opened) (stored : state.rxBuffer = frame.extended ++ frame.body) :
    takeData processor answer state = some (processErrorCmd { state with
      result := .formatError, log := state.log ++ [.cJSONParse []] }) := by
  have len : dataLen state.data ≤ uart0RxAvailable state.rxBuffer := by
    have payload := frame.payload_length_pos
    rw [dataLen, data_length_stale long opened, stored]
    simp only [uart0RxAvailable, opened, Frame.opened, List.length_append, Frame.body,
      Frame.checksum]
    split_ifs
    · simp only [lengthBytes4, List.length_cons, List.length_nil]
      omega
    · exact Nat.zero_le _
  have got : getData processor state = some (false, { state with
      result := .formatError, log := state.log ++ [.cJSONParse []] }) := by
    have root : state.data.root = none := by
      rw [opened]
      rfl
    rw [get_data_stale processor long opened, if_pos len, parseEmpty, Option.any_none,
      if_neg Bool.false_ne_true, ← root]
  rw [takeData, if_pos read, readData, got]
  rfl

end Stale

section Recovery

/-- The parser on the ring, as it is seen. -/
def observed (state : U2art RxBuffer) : Seen :=
  seen (mapState Ring.contents state)

/-- Every piece of the frame, with any calls between its bytes, has the effects that it
has on a parser that has just started. -/
def DecodesAsFresh (processor : CmdProcessor) (fresh : RxBuffer) (state : U2art RxBuffer)
    (frame : Frame) : Prop :=
  ∀ events, received events <+: frame.bytes →
    (execRun (u2artStep processor) { state with log := [] } events).map observed =
      (execRun (u2artStep processor) (U2art.initial fresh) events).map observed

variable {frame : Frame} {processor : CmdProcessor} {state : U2art (List UInt8)}

/-- All of the frame and one call, from before its preamble. -/
theorem run_whole (answer : CmdAnswer) (zero : state.data = .zero) (empty : state.rxBuffer = []) :
    execRun (u2artStep processor) state
        (frame.bytes.map .uart0RxWrite ++ [.parseU2artData answer]) =
      (takeData processor answer (takeLength { countCall state with
        rxBuffer := frame.extended ++ frame.body
        timeroutCouter := 0
        data := frame.opened })).map checkTimerout := by
  have total := frame.bytes_length_le
  let filled : U2art (List UInt8) := { state with rxBuffer := frame.bytes }
  have writes : execRun (u2artStep processor) state (frame.bytes.map .uart0RxWrite) =
      some filled := by
    rw [run_writes frame.bytes (by rw [empty, List.length_nil]; omega), empty, List.nil_append]
  have found : takePreamble (countCall filled) = { countCall filled with
      rxBuffer := frame.extended ++ frame.body, timeroutCouter := 0, data := frame.opened } :=
    take_preamble_zero zero rfl
  rw [exec_run_append, writes, Option.bind_some, execRun, u2artStep, parseU2artData, found]
  exact Option.bind_fun_some _

/-- Where the length needs no reading, or the parser knows that it has to read it. -/
theorem decodes_as_fresh {fresh : RxBuffer} {machine : U2art RxBuffer}
    (empty : fresh.contents = []) (steady : Steady machine) (waiting : machine.data.start = false)
    (drained : machine.rxBuffer.contents = [])
    (condition : machine.getLength = false ∨ frame.form = .short) :
    DecodesAsFresh processor fresh machine frame := by
  intro events piece
  have alike : Alike frame (mapState Ring.contents { machine with log := [] })
      (mapState Ring.contents (U2art.initial fresh)) frame.bytes := by
    refine ⟨?_, steady.data waiting, steady.quiet, condition, ?_⟩
    · simp only [seen, mapState, U2art.initial, drained, empty, steady.data waiting, steady.quiet]
    · simp only [mapState, drained, List.nil_append]
  have same := alike_run processor events alike piece
  rw [u2art_run_map contents_view, u2art_run_map contents_view, Option.map_map,
    Option.map_map] at same
  exact same

theorem received_whole (bytes : List UInt8) (answer : CmdAnswer) :
    received (bytes.map .uart0RxWrite ++ [.parseU2artData answer]) = bytes := by
  induction bytes with
  | nil => rfl
  | cons byte bytes ih => exact congrArg (byte :: ·) ih

/-- What a parser that has just started does first with the frame. -/
theorem run_whole_fresh {answer : CmdAnswer} {final : U2art (List UInt8)}
    (zero : state.data = .zero) (quiet : state.result = .null)
    (unread : state.getLength = false) (empty : state.rxBuffer = [])
    (run : execRun (u2artStep processor) state
      (frame.bytes.map .uart0RxWrite ++ [.parseU2artData answer]) = some final) :
    state.log ++ [.cJSONParse frame.payload] <+: final.log := by
  let opened : U2art (List UInt8) := { countCall state with
    rxBuffer := frame.extended ++ frame.body, timeroutCouter := 0, data := frame.opened }
  have measured := take_length_frame frame opened unread quiet rfl rfl
  rw [run_whole answer zero empty, measured] at run
  obtain ⟨done, taken, rfl⟩ := Option.map_eq_some_iff.1 run
  have logged := take_data_parses rfl rfl rfl taken
  exact logged.trans (check_timerout_log done)

theorem run_whole_stale {answer : CmdAnswer} (parseEmpty : processor.cJSONParse [] = none)
    (long : frame.form ≠ .short) (zero : state.data = .zero) (stale : state.getLength = true)
    (empty : state.rxBuffer = []) :
    ∃ final, execRun (u2artStep processor) state
        (frame.bytes.map .uart0RxWrite ++ [.parseU2artData answer]) = some final ∧
      state.log ++ [.cJSONParse []] <+: final.log := by
  let opened : U2art (List UInt8) := { countCall state with
    rxBuffer := frame.extended ++ frame.body, timeroutCouter := 0, data := frame.opened }
  have held : takeLength opened = opened := if_pos stale
  have taken : takeData processor answer opened = some (processErrorCmd { opened with
      result := .formatError, log := opened.log ++ [.cJSONParse []] }) :=
    take_data_stale stale parseEmpty long rfl rfl
  rw [run_whole answer zero empty, held, taken]
  refine ⟨_, rfl, List.IsPrefix.trans ?_ (check_timerout_log _)⟩
  exact List.prefix_append _ _

theorem decodes_otherwise {fresh : RxBuffer} {machine : U2art RxBuffer}
    (parseEmpty : processor.cJSONParse [] = none)
    (empty : fresh.contents = []) (steady : Steady machine) (waiting : machine.data.start = false)
    (drained : machine.rxBuffer.contents = []) (stale : machine.getLength = true)
    (long : frame.form ≠ .short) : ¬ DecodesAsFresh processor fresh machine frame := by
  intro decodes
  have same := decodes (frame.bytes.map .uart0RxWrite ++ [.parseU2artData accepted])
    (by rw [received_whole])
  let viewed : U2art (List UInt8) := mapState Ring.contents { machine with log := [] }
  let started : U2art (List UInt8) := mapState Ring.contents (U2art.initial fresh)
  have zero : viewed.data = .zero := steady.data waiting
  have staleRun : ∃ final, execRun (u2artStep processor) viewed
        (frame.bytes.map .uart0RxWrite ++ [U2artEvent.parseU2artData accepted]) = some final ∧
      viewed.log ++ [.cJSONParse []] <+: final.log :=
    run_whole_stale parseEmpty long zero stale drained
  obtain ⟨final, run, logged⟩ := staleRun
  have seenBoth : (execRun (u2artStep processor) viewed
        (frame.bytes.map .uart0RxWrite ++ [U2artEvent.parseU2artData accepted])).map seen =
      (execRun (u2artStep processor) started
        (frame.bytes.map .uart0RxWrite ++ [U2artEvent.parseU2artData accepted])).map seen := by
    rw [u2art_run_map contents_view, u2art_run_map contents_view, Option.map_map, Option.map_map]
    exact same
  rw [run, Option.map_some] at seenBoth
  obtain ⟨final', run', equal⟩ := Option.map_eq_some_iff.1 seenBoth.symm
  have logged' : started.log ++ [.cJSONParse frame.payload] <+: final'.log :=
    run_whole_fresh rfl rfl rfl empty run'
  have log : final'.log = final.log := congrArg Seen.log equal
  rw [log] at logged'
  -- both logs begin with what was handed to the JSON parser
  have first : [U2artEffect.cJSONParse []] = [.cJSONParse frame.payload] :=
    (List.prefix_of_prefix_length_le logged logged' (Nat.le_refl 1)).eq_of_length rfl
  injection first with effect
  injection effect with nothing
  exact frame.nonempty nothing.symm

/-- After any history, the next well-formed frame is decoded as by a parser that has just
started exactly where no length is taken for read, or the frame has it in its header. -/
theorem recovery_iff (processor : CmdProcessor) (parseEmpty : processor.cJSONParse [] = none)
    (initial fresh : RxBuffer) (empty : fresh.contents = []) (history : List U2artEvent)
    (state : U2art RxBuffer)
    (reached : execRun (u2artStep processor) (U2art.initial initial) history = some state)
    (waiting : state.data.start = false) (drained : state.rxBuffer.contents = [])
    (frame : Frame) :
    DecodesAsFresh processor fresh state frame ↔
      state.getLength = false ∨ frame.form = .short := by
  have start : Steady (U2art.initial initial) := ⟨rfl, fun _ => rfl⟩
  have steady := steady_run start reached
  constructor
  · intro decodes
    by_contra neither
    rw [not_or, Bool.not_eq_false] at neither
    exact decodes_otherwise parseEmpty empty steady waiting drained neither.1 neither.2 decodes
  · exact decodes_as_fresh empty steady waiting drained

/-- A frame of one blank with a checksum that is wrong. -/
def refusedFrame : List U2artEvent :=
  [0xAA, 0x55, 0x81, 0, 0, 0, 0, 0x20].map .uart0RxWrite ++ [.parseU2artData accepted]

def pingFrame (form : LengthForm) : Frame where
  form := form
  cf := false
  payload := pingPayload
  nonempty := by decide
  bound := by decide
  nulFree := by decide
  fits := fun _ => by decide

theorem refused_frame_reached :
    ((execRun (u2artStep pingProcessor) (U2art.initial emptyRing) refusedFrame).isSome) = true :=
  rfl

/-- After a wrong checksum a frame with its length behind the header is read as empty. -/
theorem recovery_fails :
    ∃ state, execRun (u2artStep pingProcessor) (U2art.initial emptyRing) refusedFrame =
        some state ∧ state.data.start = false ∧ state.rxBuffer.contents = [] ∧
      ¬ DecodesAsFresh pingProcessor emptyRing state (pingFrame .two) := by
  refine ⟨Option.get _ refused_frame_reached, (Option.some_get _).symm, rfl, rfl, ?_⟩
  intro decodes
  have same := decodes ((pingFrame .two).bytes.map .uart0RxWrite ++ [.parseU2artData accepted])
    (by rw [received_whole])
  have logs := congrArg (Option.map Seen.log) same
  exact absurd logs (by decide +kernel)

theorem recovery_short_frame :
    ∃ state, execRun (u2artStep pingProcessor) (U2art.initial emptyRing) refusedFrame =
        some state ∧
      (DecodesAsFresh pingProcessor emptyRing state (pingFrame .short) ↔
        state.getLength = false ∨ (pingFrame .short).form = .short) :=
  ⟨Option.get _ refused_frame_reached, (Option.some_get _).symm,
    recovery_iff pingProcessor rfl emptyRing emptyRing rfl refusedFrame _
      (Option.some_get refused_frame_reached).symm rfl rfl (pingFrame .short)⟩

end Recovery

end IotgoFirmware.Uart.FrameRecovery
