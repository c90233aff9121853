import IotgoFirmware.Uart.FrameRecovery
import Mathlib.Algebra.Group.Nat.Even
import Mathlib.Data.List.DropRight

/-!
# The search for a preamble behind garbage

A byte that is no `AA` is skipped alone; an `AA` takes the byte behind it along. So a
run of `AA` in front of a frame is taken in pairs, from its first byte on and wherever
the bytes are cut, and the `AA` of the preamble is the second of a pair exactly where
the run is odd.
-/

namespace IotgoFirmware.Uart.PreambleSearch

open IotgoFirmware.Library.CStrings
open IotgoFirmware.Library.LoopRules
open IotgoFirmware.Library.RingQueues
open IotgoFirmware.Library.StepRuns
open IotgoFirmware.Uart.U2artSchedule
open IotgoFirmware.Uart.U2artSchedule.ByteQueue
open IotgoFirmware.Uart.U2artQueue
open IotgoFirmware.Uart.FrameDecode
open IotgoFirmware.Uart.FrameRecovery

set_option autoImplicit false

section Scan

/-- How the search moves on: it stops in front of a preamble, or where fewer than three bytes
are left. -/
def scan : List UInt8 → List UInt8
  | a :: b :: c :: rest =>
      if a ≠ 0xAA then scan (b :: c :: rest)
      else if b = 0x55 then a :: b :: c :: rest
      else scan (c :: rest)
  | few => few

/-- Behind these bytes the search is half way through a pair. -/
def halfway : List UInt8 → Bool
  | [] => false
  | [a] => a = 0xAA
  | a :: b :: rest => if a = 0xAA then halfway rest else halfway (b :: rest)

/-- The run of `AA` that the bytes end in. -/
def trailingRun (bytes : List UInt8) : List UInt8 :=
  bytes.rtakeWhile (· == 0xAA)

theorem halfway_append (bytes : List UInt8) (byte : UInt8) :
    halfway (bytes ++ [byte]) = (decide (byte = 0xAA) && !halfway bytes) := by
  induction bytes using halfway.induct with
  | case1 => simp [halfway]
  | case2 a => by_cases same : a = 0xAA <;> simp [halfway, same]
  | case3 b rest ih => simpa [halfway] using ih
  | case4 a b rest other ih => simpa [halfway, other] using ih

theorem halfway_iff (bytes : List UInt8) :
    halfway bytes = false ↔ Even (trailingRun bytes).length := by
  induction bytes using List.reverseRecOn with
  | nil => simp [halfway, trailingRun]
  | append_singleton bytes byte ih =>
      unfold trailingRun at ih ⊢
      rw [halfway_append]
      by_cases same : byte = 0xAA
      · rw [List.rtakeWhile_concat_pos _ _ _ (by simpa using same), List.length_append,
          List.length_singleton, Nat.even_add_one, ← ih]
        simp [same]
      · rw [List.rtakeWhile_concat_neg _ _ _ (by simpa using same)]
        simp [same]

theorem halfway_skip {byte : UInt8} (other : byte ≠ 0xAA) (bytes : List UInt8) :
    halfway (byte :: bytes) = halfway bytes := by
  cases bytes with
  | nil => simp [halfway, other]
  | cons next rest => rw [halfway, if_neg other]

theorem scan_few {bytes : List UInt8} (few : bytes.length < 3) : scan bytes = bytes := by
  rcases bytes with _ | ⟨a, _ | ⟨b, _ | ⟨c, rest⟩⟩⟩
  · rfl
  · rfl
  · rfl
  · simp only [List.length_cons] at few
    omega

theorem few_of_not_three {bytes : List UInt8}
    (short : ∀ a b c rest, bytes = a :: b :: c :: rest → False) : bytes.length < 3 := by
  rcases bytes with _ | ⟨a, _ | ⟨b, _ | ⟨c, rest⟩⟩⟩
  · decide
  · simp
  · simp
  · exact (short a b c rest rfl).elim

theorem scan_length_le (bytes : List UInt8) : (scan bytes).length ≤ bytes.length := by
  induction bytes using scan.induct with
  | case1 a b c rest other ih =>
      rw [scan, if_pos other]
      exact ih.trans (Nat.le_succ _)
  | case2 a c rest same => rw [scan, if_neg same, if_pos rfl]
  | case3 a b c rest same other ih =>
      rw [scan, if_neg same, if_neg other]
      simp only [List.length_cons] at ih ⊢
      omega
  | case4 few short => rw [scan_few (few_of_not_three short)]

/-- Where the search stops with three bytes left, they begin with a preamble. -/
theorem scan_stops (bytes : List UInt8) :
    (scan bytes).length < 3 ∨ ∃ header more, scan bytes = 0xAA :: 0x55 :: header :: more := by
  induction bytes using scan.induct with
  | case1 a b c rest other ih =>
      rw [scan, if_pos other]
      exact ih
  | case2 a c rest same =>
      rw [scan, if_neg same, if_pos rfl]
      rw [not_not] at same
      exact .inr ⟨c, rest, by rw [same]⟩
  | case3 a b c rest same other ih =>
      rw [scan, if_neg same, if_neg other]
      exact ih
  | case4 few short =>
      have long := few_of_not_three short
      rw [scan_few long]
      exact .inl long

/-- No preamble stands in these bytes. -/
def Clean (bytes : List UInt8) : Prop :=
  ¬ [0xAA, 0x55] <:+: bytes

theorem Clean.tail {byte : UInt8} {bytes : List UInt8} (clean : Clean (byte :: bytes)) :
    Clean bytes :=
  fun inside => clean (inside.trans (List.suffix_cons byte bytes).isInfix)

/-- Where the search comes to, with garbage and a frame in front of it. -/
inductive Search (frame : Frame) (garbage stored pending : List UInt8) : Prop where
  | short (rest : List UInt8) (clean : Clean rest) (same : halfway rest = halfway garbage)
      (bytes : scan stored ++ pending = rest ++ frame.bytes) (few : (scan stored).length < 3)
  | found (more : List UInt8) (even : halfway garbage = false)
      (stops : scan stored = 0xAA :: 0x55 :: frame.header :: more)
      (bytes : more ++ pending = frame.extended ++ frame.body)
  | missed (odd : halfway garbage = true)
      (less : (scan stored).length + pending.length < frame.bytes.length)

theorem search_frame (frame : Frame) {garbage stored pending : List UInt8}
    (clean : Clean garbage) (bytes : stored ++ pending = garbage ++ frame.bytes) :
    Search frame garbage stored pending := by
  induction stored using scan.induct generalizing garbage with
  | case1 a b c rest other ih =>
      cases garbage with
      | nil =>
          injection bytes with first
          exact absurd first other
      | cons x garbage =>
          injection bytes with first later
          subst first
          have skipped := halfway_skip other garbage
          have scanned : scan (a :: b :: c :: rest) = scan (b :: c :: rest) := by
            rw [scan, if_pos other]
          cases ih clean.tail later with
          | short left kept same equal few =>
              exact .short left kept (same.trans skipped.symm) (scanned ▸ equal) (scanned ▸ few)
          | found more even stops equal =>
              exact .found more (skipped.trans even) (scanned.trans stops) equal
          | missed odd less => exact .missed (skipped.trans odd) (scanned ▸ less)
  | case2 a c rest same =>
      rw [not_not] at same
      subst same
      rcases garbage with _ | ⟨x, _ | ⟨y, garbage⟩⟩
      · injection bytes with _ bytes
        injection bytes with _ bytes
        injection bytes with header later
        subst header
        exact .found rest rfl rfl later
      · injection bytes with _ bytes
        injection bytes with second
        exact absurd second (by decide)
      · injection bytes with first bytes
        injection bytes with second
        subst first second
        exact absurd (List.prefix_append [0xAA, 0x55] garbage).isInfix clean
  | case3 a b c rest same other ih =>
      rw [not_not] at same
      subst same
      have scanned : scan (0xAA :: b :: c :: rest) = scan (c :: rest) := by
        rw [scan, if_neg (not_not.2 rfl), if_neg other]
      rcases garbage with _ | ⟨x, _ | ⟨y, garbage⟩⟩
      · injection bytes with _ bytes
        injection bytes with second
        exact absurd second other
      · injection bytes with first bytes
        subst first
        have lengths : (b :: (c :: rest ++ pending)).length = frame.bytes.length :=
          congrArg List.length bytes
        have shrunk := scan_length_le (c :: rest)
        refine .missed rfl ?_
        rw [scanned]
        rw [List.length_cons, List.length_append] at lengths
        omega
      · injection bytes with first bytes
        injection bytes with _ later
        subst first
        have paired : halfway (0xAA :: y :: garbage) = halfway garbage := if_pos rfl
        cases ih clean.tail.tail later with
        | short left kept equal last few =>
            exact .short left kept (equal.trans paired.symm) (scanned ▸ last) (scanned ▸ few)
        | found more even stops last =>
            exact .found more (paired.trans even) (scanned.trans stops) last
        | missed odd less => exact .missed (paired.trans odd) (scanned ▸ less)
  | case4 few short =>
      have long := few_of_not_three short
      have scanned := scan_few long
      exact .short garbage clean rfl (scanned.symm ▸ bytes) (scanned.symm ▸ long)

end Scan

section Decodes

variable {Queue : Type} [ByteQueue Queue] (processor : CmdProcessor) (frame : Frame)

/-- An event for which there is no step leaves the parser as it is. -/
def advance (state : U2art Queue) (event : U2artEvent) : U2art Queue :=
  (u2artStep processor state event).getD state

/-- A byte that comes while the ring is full is dropped. -/
def entering (state : U2art Queue) : U2artEvent → List UInt8
  | .uart0RxWrite byte =>
      if uart0RxAvailable state.rxBuffer + 1 = uart0RxBufferSize then [] else [byte]
  | .parseU2artData _ => []

def given : U2art Queue → List U2artEvent → List UInt8
  | _, [] => []
  | state, event :: rest => entering state event ++ given (advance processor state event) rest

/-- A call while the header of the frame is in and its end is not. -/
def openCall (pending : Nat) : U2artEvent → Nat
  | .uart0RxWrite _ => 0
  | .parseU2artData _ => if 0 < pending ∧ pending + 3 ≤ frame.bytes.length then 1 else 0

def openCalls : U2art Queue → List U2artEvent → Nat
  | _, [] => 0
  | state, event :: rest =>
      let next := advance processor state event
      openCall frame (given processor next rest).length event + openCalls next rest

/-- The call finds a preamble, and what is left behind its header is the rest of the frame. -/
def FindsFrame (state : U2art Queue) (pending : Nat) : Prop :=
  state.data.start = false ∧ (takePreamble (countCall state)).data.start = true ∧
    uart0RxAvailable (takePreamble (countCall state)).rxBuffer + pending + 3 = frame.bytes.length

/-- The call hands the payload to the JSON parser. -/
def HandsOver (state : U2art Queue) : Prop :=
  (takeLength (takePreamble (countCall state))).getLength = true ∧
    ∃ read, getData processor (takeLength (takePreamble (countCall state))) = some read ∧
      read.2.log = state.log ++ [.cJSONParse frame.payload]

/-- The parser stays with what it has found until it hands the payload over. -/
def Follows : U2art Queue → List U2artEvent → Prop
  | _, [] => False
  | state, event :: rest =>
      ((∃ answer, event = .parseU2artData answer) ∧ HandsOver processor frame state) ∨
        ∃ next, u2artStep processor state event = some next ∧ next.data.start = true ∧
          Follows next rest

/-- A call finds the preamble of the frame, and the frame is then decoded. -/
def Decodes : U2art Queue → List U2artEvent → Prop
  | _, [] => False
  | state, event :: rest =>
      ((∃ answer, event = .parseU2artData answer) ∧
          FindsFrame frame state (given processor (advance processor state event) rest).length ∧
          Follows processor frame state (event :: rest)) ∨
        ∃ next, u2artStep processor state event = some next ∧ Decodes next rest

end Decodes

section Shrinking

variable {processor : CmdProcessor} {answer : CmdAnswer} {state next : U2art (List UInt8)}

theorem read_shrinks (stored : List UInt8) :
    (uart0RxRead stored).2.length ≤ stored.length := by
  cases stored with
  | nil => exact Nat.le_refl 0
  | cons byte rest => exact Nat.le_succ rest.length

theorem read_word16_shrinks (stored : List UInt8) :
    (readWord16 stored).2.length ≤ stored.length :=
  (read_shrinks _).trans (read_shrinks stored)

theorem read_word32_shrinks (stored : List UInt8) :
    (readWord32 stored).2.length ≤ stored.length :=
  (read_shrinks _).trans ((read_shrinks _).trans ((read_shrinks _).trans (read_shrinks stored)))

/-- What `findPreamble` makes of the place that the search has come to. -/
def settled (state : U2art (List UInt8)) : List UInt8 → U2art (List UInt8)
  | _ :: _ :: c :: more => { state with
      rxBuffer := more
      timeroutCouter := 0
      data := { state.data with
        start := true
        cf := c >>> 7 = 1
        length := (c &&& 0x7f).toNat } }
  | few => { state with rxBuffer := few }

theorem find_preamble_passes (stored : List UInt8) (fuel : Nat) (enough : stored.length < fuel) :
    iterate findPreambleBody fuel { state with rxBuffer := stored } =
      .exit (settled state (scan stored)) := by
  induction stored using scan.induct generalizing fuel with
  | case1 a b c rest other ih =>
      cases fuel with
      | zero => cases enough
      | succ fuel =>
          have later := ih fuel (Nat.lt_of_succ_lt_succ enough)
          have body : findPreambleBody { state with rxBuffer := a :: b :: c :: rest } =
              .again { state with rxBuffer := b :: c :: rest } := by
            simp [findPreambleBody, uart0RxAvailable, uart0RxRead, other]
          rw [iterate, body, scan, if_pos other]
          exact later
  | case2 a c rest same =>
      cases fuel with
      | zero => cases enough
      | succ fuel =>
          rw [not_not] at same
          simp [iterate, findPreambleBody, uart0RxAvailable, uart0RxRead, same, scan, settled]
  | case3 a b c rest same other ih =>
      cases fuel with
      | zero => cases enough
      | succ fuel =>
          simp only [List.length_cons] at enough ih
          have later := ih fuel (by omega)
          rw [not_not] at same
          have body : findPreambleBody { state with rxBuffer := a :: b :: c :: rest } =
              .again { state with rxBuffer := c :: rest } := by
            simp [findPreambleBody, uart0RxAvailable, uart0RxRead, same, other]
          rw [iterate, body, scan, if_neg (not_not.2 same), if_neg other]
          exact later
  | case4 few short =>
      cases fuel with
      | zero => cases enough
      | succ fuel =>
          have long := few_of_not_three short
          have body : findPreambleBody { state with rxBuffer := few } =
              .exit { state with rxBuffer := few } := by
            rw [findPreambleBody, if_neg]
            exact Nat.not_le_of_lt long
          have stays : settled state few = { state with rxBuffer := few } := by
            rcases few with _ | ⟨a, _ | ⟨b, _ | ⟨c, rest⟩⟩⟩
            · rfl
            · rfl
            · rfl
            · exact (short a b c rest rfl).elim
          rw [iterate, body, scan_few long, stays]

theorem find_preamble_scan (state : U2art (List UInt8)) :
    findPreamble state = settled state (scan state.rxBuffer) := by
  have passes := @find_preamble_passes state state.rxBuffer
    (uart0RxAvailable state.rxBuffer + 1) (Nat.lt_succ_self _)
  rw [findPreamble, passes]

theorem take_preamble_waits (waits : state.data.start = false) :
    takePreamble (countCall state) = settled (countCall state) (scan state.rxBuffer) := by
  have search : ¬ (countCall state).data.start = true := by
    rw [show (countCall state).data.start = false from waits]
    exact Bool.false_ne_true
  rw [takePreamble, if_neg search, find_preamble_scan]
  rfl

/-- A preamble that is found takes three bytes. -/
theorem settled_cases (state : U2art (List UInt8)) (stored : List UInt8) :
    (settled state (scan stored) = { state with rxBuffer := scan stored } ∧
        (scan stored).length < 3) ∨
      (settled state (scan stored)).data.start = true ∧
        (settled state (scan stored)).rxBuffer.length + 3 = (scan stored).length := by
  rcases scan_stops stored with few | ⟨header, more, stops⟩
  · refine .inl ⟨?_, few⟩
    generalize scan stored = stops at few
    rcases stops with _ | ⟨a, _ | ⟨b, _ | ⟨c, rest⟩⟩⟩
    · rfl
    · rfl
    · rfl
    · simp only [List.length_cons] at few
      omega
  · rw [stops]
    exact .inr ⟨rfl, rfl⟩

theorem take_preamble_shrinks (state : U2art (List UInt8)) :
    (takePreamble state).rxBuffer.length ≤ state.rxBuffer.length := by
  unfold takePreamble
  split
  · exact Nat.le_refl _
  · have shrunk := scan_length_le state.rxBuffer
    rw [find_preamble_scan]
    rcases settled_cases state state.rxBuffer with ⟨stops, -⟩ | ⟨-, less⟩
    · rw [stops]
      exact shrunk
    · omega

theorem get_extend_length_shrinks (state : U2art (List UInt8)) :
    (getExtendLength state).2.rxBuffer.length ≤ state.rxBuffer.length := by
  unfold getExtendLength
  split_ifs
  · exact Nat.le_refl _
  · exact read_word16_shrinks _
  · exact Nat.le_refl _
  · exact read_word32_shrinks _
  · exact Nat.le_refl _
  · exact Nat.le_refl _

theorem take_length_shrinks (state : U2art (List UInt8)) :
    (takeLength state).rxBuffer.length ≤ state.rxBuffer.length := by
  have read := get_extend_length_shrinks state
  unfold takeLength
  split
  · exact Nat.le_refl _
  · unfold readLength
    dsimp only
    split
    · exact read
    · exact read

theorem get_data_body_shrinks {length : Nat} {head later : DataLoop (List UInt8)}
    (pass : getDataBody length head = .again later) :
    later.state.rxBuffer.length ≤ head.state.rxBuffer.length := by
  unfold getDataBody at pass
  dsimp only at pass
  split_ifs at pass
  · cases pass
    exact (read_shrinks _).trans (read_word32_shrinks _)
  · cases pass
    exact read_shrinks _

theorem check_data_shrinks (processor : CmdProcessor) (length : Nat)
    (read : DataLoop (List UInt8)) :
    (checkData processor length read).2.rxBuffer = read.state.rxBuffer := by
  unfold checkData
  dsimp only
  split
  · split
    · rfl
    · rfl
  · rfl

theorem get_data_shrinks {got : Bool} (data : getData processor state = some (got, next)) :
    next.rxBuffer.length ≤ state.rxBuffer.length := by
  simp only [getData] at data
  split at data
  · cases data
    exact Nat.le_refl _
  · split at data
    · split at data
      · cases data
      · rename_i read ends
        let less (head : DataLoop (List UInt8)) : Prop :=
          head.state.rxBuffer.length ≤ state.rxBuffer.length
        have shrunk : less read := by
          refine exits_keeps less ?_ ?_ (Nat.le_refl _) (exits_of_iterate ends)
          · intro head later less pass
            exact (get_data_body_shrinks pass).trans less
          · intro head final less pass
            unfold getDataBody at pass
            dsimp only at pass
            split_ifs at pass
            cases pass
            exact less
        have kept := check_data_shrinks processor (dataLength state.data) read
        rw [Option.some.inj data] at kept
        rw [kept]
        exact shrunk
    · cases data
      exact Nat.le_refl _

theorem process_cmd_buffer (done : processCmd processor answer state = some next) :
    next.rxBuffer = state.rxBuffer := by
  simp only [processCmd] at done
  split at done
  · cases done
    rfl
  · split_ifs at done
    cases done
    rfl
  · split at done
    · split_ifs at done
      · cases done
        rfl
      · cases done
        rfl
    · cases done
      rfl

theorem process_result_buffer (state : U2art (List UInt8)) :
    (processResult state).rxBuffer = state.rxBuffer := by
  unfold processResult
  split
  · rfl
  · rfl

theorem read_data_shrinks (read : readData processor answer state = some next) :
    next.rxBuffer.length ≤ state.rxBuffer.length := by
  obtain ⟨⟨got, taken⟩, data, command⟩ := Option.bind_eq_some_iff.1 read
  obtain ⟨done, handled, rfl⟩ := Option.map_eq_some_iff.1 command
  have shrunk := get_data_shrinks data
  rw [process_result_buffer]
  cases got with
  | false =>
      cases handled
      exact shrunk
  | true =>
      obtain ⟨answered, processed, rfl⟩ := Option.map_eq_some_iff.1 handled
      have same := process_cmd_buffer processed
      dsimp only at same ⊢
      rw [same]
      exact shrunk

theorem take_frame_shrinks (taken : takeFrame processor answer state = some next) :
    next.rxBuffer.length ≤ state.rxBuffer.length := by
  have measured := take_length_shrinks state
  unfold takeFrame at taken
  split at taken
  · unfold takeData at taken
    split at taken
    · exact (read_data_shrinks taken).trans measured
    · cases taken
      exact measured
  · cases taken
    exact Nat.le_refl _

/-- A call only takes bytes. -/
theorem parse_shrinks (parsed : parseU2artData processor answer state = some next) :
    next.rxBuffer.length ≤ (takePreamble (countCall state)).rxBuffer.length := by
  obtain ⟨done, taken, rfl⟩ := Option.map_eq_some_iff.1 parsed
  have timed : (checkTimerout done).rxBuffer = done.rxBuffer := by
    unfold checkTimerout
    split
    · rfl
    · rfl
  rw [timed]
  exact take_frame_shrinks taken

theorem advance_some {event : U2artEvent} (taken : u2artStep processor state event = some next) :
    advance processor state event = next := by
  rw [advance, taken, Option.getD_some]

/-- Less than the frame is left, of what is there and what is to be given. -/
theorem advance_left (processor : CmdProcessor) (state : U2art (List UInt8)) (event : U2artEvent) :
    (advance processor state event).rxBuffer.length ≤
      state.rxBuffer.length + (entering state event).length := by
  cases event with
  | uart0RxWrite byte =>
      unfold advance entering u2artStep uart0RxWrite uart0RxAvailable
      dsimp only [instByteQueueListUInt8, Option.getD_some]
      split
      · exact Nat.le_refl _
      · rw [List.length_append]
  | parseU2artData answer =>
      cases parsed : parseU2artData processor answer state with
      | none =>
          rw [advance, u2artStep, parsed]
          exact Nat.le_refl _
      | some next =>
          rw [advance, u2artStep, parsed]
          exact (parse_shrinks parsed).trans (take_preamble_shrinks (countCall state))

/-- A preamble that comes so late is not that of the frame. -/
theorem missed_never {frame : Frame} (events : List U2artEvent)
    (less : state.rxBuffer.length + (given processor state events).length < frame.bytes.length) :
    ¬ Decodes processor frame state events := by
  induction events generalizing state with
  | nil => exact id
  | cons event rest ih =>
      have left := advance_left processor state event
      rw [given, List.length_append] at less
      rintro (⟨-, ⟨waits, found, position⟩, -⟩ | ⟨next, taken, later⟩)
      · have searched := take_preamble_waits waits
        rw [searched] at found position
        simp only [uart0RxAvailable] at position
        have shrunk := scan_length_le state.rxBuffer
        rcases settled_cases (countCall state) state.rxBuffer with ⟨stops, -⟩ | ⟨-, taken⟩
        · rw [stops] at found
          exact Bool.noConfusion (waits.symm.trans found)
        · omega
      · rw [advance_some taken] at left less
        exact ih (by omega) later

end Shrinking

section Following

variable {processor : CmdProcessor} {frame : Frame} {answer : CmdAnswer}
variable {state : U2art (List UInt8)} {rest : List U2artEvent}

/-- The call works on the frame: its header is in, and `pending` is still to come. -/
structure AtFrame (frame : Frame) (state : U2art (List UInt8)) (pending : List UInt8) :
    Prop where
  reading : Reading frame (takePreamble (countCall state)) pending
  quiet : (takePreamble (countCall state)).result = .null
  log : (takePreamble (countCall state)).log = state.log

theorem hands_over_iff {pending : List UInt8} (at_frame : AtFrame frame state pending) :
    HandsOver processor frame state ↔ pending = [] := by
  obtain ⟨reading, quiet, log⟩ := at_frame
  unfold HandsOver
  rcases take_length_reading reading quiet with ⟨more, taken, bytes⟩ | ⟨waits, unread, missing⟩
  · rw [taken, ← log]
    dsimp only
    rw [and_iff_right rfl]
    by_cases complete : pending = []
    · obtain ⟨data, got, -⟩ := get_data_frame frame processor
        { takePreamble (countCall state) with
          rxBuffer := more, getLength := true, data := frame.measured } rfl
        (show more = frame.body ++ [] by
          rw [← bytes, complete, List.append_nil, List.append_nil])
      refine iff_of_true ?_ complete
      rw [got]
      split
      · exact ⟨_, rfl, rfl⟩
      · exact ⟨_, rfl, rfl⟩
    · have few : more.length < frame.body.length := by
        have lengths := congrArg List.length bytes
        have positive := List.length_pos_iff.2 complete
        rw [List.length_append] at lengths
        omega
      rw [get_data_waits frame processor _ rfl few]
      refine iff_of_false ?_ complete
      rintro ⟨read, same, logged⟩
      cases same
      simp at logged
  · rw [waits, unread]
    exact iff_of_false (fun held => Bool.noConfusion held.1) missing

/-- A call on a frame that is not all there goes on with it, unless it ends the wait. -/
theorem parse_at_frame (processor : CmdProcessor) (answer : CmdAnswer) {pending : List UInt8}
    (at_frame : AtFrame frame state pending) (missing : pending ≠ []) :
    ∃ next, parseU2artData processor answer state = some (checkTimerout next) ∧
      Reading frame next pending ∧ next.result = .null ∧
      next.timeroutCouter = (takePreamble (countCall state)).timeroutCouter := by
  obtain ⟨next, taken, reading, quiet, counter, -⟩ :=
    take_frame_reading processor answer at_frame.reading at_frame.quiet missing
  refine ⟨next, ?_, reading, quiet, counter⟩
  rw [parseU2artData, taken, Option.map_some]

theorem open_calls_given (events : List U2artEvent) (nothing : given processor state events = []) :
    openCalls processor frame state events = 0 := by
  induction events generalizing state with
  | nil => rfl
  | cons event rest ih =>
      rw [given, List.append_eq_nil_iff] at nothing
      rw [openCalls, nothing.2, ih nothing.2]
      cases event with
      | uart0RxWrite byte => rfl
      | parseU2artData answer => simp [openCall]

theorem open_call_missing {pending : List UInt8} (missing : pending ≠ [])
    (bound : pending.length + 3 ≤ frame.bytes.length) :
    openCall frame pending.length (.parseU2artData answer) = 1 :=
  if_pos ⟨List.length_pos_iff.2 missing, bound⟩

theorem reading_bound {pending : List UInt8} (reading : Reading frame state pending) :
    state.rxBuffer.length + pending.length + 3 ≤ frame.bytes.length := by
  have lengths := reading_length reading
  have parts := frame.bytes_length
  omega

theorem at_frame_of_reading {pending : List UInt8} (reading : Reading frame state pending)
    (quiet : state.result = .null) :
    AtFrame frame state pending ∧ takePreamble (countCall state) = countCall state := by
  have counted : Reading frame (countCall state) pending := by
    cases reading with
    | opened data unread bytes => exact .opened data unread bytes
    | measured data read bytes => exact .measured data read bytes
  have same : takePreamble (countCall state) = countCall state :=
    if_pos (reading_started counted)
  refine ⟨⟨?_, ?_, ?_⟩, same⟩
  · rw [same]
    exact counted
  · rw [same]
    exact quiet
  · rw [same]
    rfl

theorem reading_write {pending : List UInt8} {byte : UInt8}
    (reading : Reading frame state (byte :: pending)) :
    Reading frame { state with rxBuffer := state.rxBuffer ++ [byte] } pending := by
  cases reading with
  | opened data unread bytes => exact .opened data unread ((List.append_assoc ..).trans bytes)
  | measured data read bytes => exact .measured data read ((List.append_assoc ..).trans bytes)

theorem write_given (processor : CmdProcessor) (byte : UInt8)
    (room : state.rxBuffer.length < 1023) :
    advance processor state (.uart0RxWrite byte) =
        { state with rxBuffer := state.rxBuffer ++ [byte] } ∧
      entering state (.uart0RxWrite byte) = [byte] := by
  have free : ¬ uart0RxAvailable state.rxBuffer + 1 = uart0RxBufferSize := by
    simp only [uart0RxAvailable, uart0RxBufferSize]
    omega
  refine ⟨?_, if_neg free⟩
  rw [advance, u2artStep, Option.getD_some, write_room state.rxBuffer room byte]

theorem not_call {byte : UInt8} {left : Prop} :
    ¬ ((∃ answer, U2artEvent.uart0RxWrite byte = .parseU2artData answer) ∧ left) := by
  rintro ⟨⟨answer, same⟩, -⟩
  cases same

theorem follows_write {byte : UInt8} (started : state.data.start = true) :
    Follows processor frame state (.uart0RxWrite byte :: rest) ↔
      Follows processor frame (advance processor state (.uart0RxWrite byte)) rest := by
  rw [Follows, or_iff_right not_call]
  constructor
  · rintro ⟨next, taken, -, later⟩
    rw [advance_some taken]
    exact later
  · intro later
    exact ⟨_, rfl, started, later⟩

/-- Once its header is in, the frame is decoded exactly if the calls that find it incomplete
are too few for the time-out. -/
theorem follows_call_iff {pending : List UInt8} (at_frame : AtFrame frame state pending)
    (bytes : given processor (advance processor state (.parseU2artData answer)) rest = pending)
    (later : pending ≠ [] → ∀ next,
      u2artStep processor state (.parseU2artData answer) = some next →
      Reading frame next pending → next.result = .null → next.timeroutCouter < timeroutTime →
      (Follows processor frame next rest ↔
        next.timeroutCouter + openCalls processor frame next rest < timeroutTime)) :
    Follows processor frame state (.parseU2artData answer :: rest) ↔
      (takePreamble (countCall state)).timeroutCouter +
        openCalls processor frame state (.parseU2artData answer :: rest) ≤ timeroutTime ∨
          pending = [] := by
  rw [Follows, and_iff_right ⟨answer, rfl⟩, hands_over_iff at_frame]
  by_cases complete : pending = []
  · exact iff_of_true (.inl complete) (.inr complete)
  · rw [or_iff_right complete, or_iff_left complete]
    obtain ⟨next, parsed, reading, quiet, counter⟩ :=
      parse_at_frame processor answer at_frame complete
    have bound := reading_bound at_frame.reading
    have one : openCall frame pending.length (.parseU2artData answer) = 1 :=
      open_call_missing complete (by omega)
    rw [openCalls, bytes, one, ← counter]
    have taken : u2artStep processor state (.parseU2artData answer) = some (checkTimerout next) :=
      parsed
    rw [advance_some taken]
    by_cases early : next.timeroutCouter < timeroutTime
    · rw [check_timerout_early early] at taken ⊢
      have goes := later complete next taken reading quiet early
      constructor
      · rintro ⟨other, same, -, follows⟩
        rw [taken] at same
        cases same
        have few := goes.1 follows
        omega
      · intro few
        exact ⟨next, taken, reading_started reading, goes.2 (by omega)⟩
    · refine iff_of_false ?_ (by omega)
      rintro ⟨other, same, started, -⟩
      rw [taken] at same
      cases same
      rw [checkTimerout, if_pos (Nat.le_of_not_lt early)] at started
      cases started

theorem follows_iff (events : List U2artEvent) {pending : List UInt8}
    (reading : Reading frame state pending) (quiet : state.result = .null)
    (counter : state.timeroutCouter < timeroutTime)
    (bytes : given processor state (events ++ [.parseU2artData answer]) = pending) :
    Follows processor frame state (events ++ [.parseU2artData answer]) ↔
      state.timeroutCouter +
        openCalls processor frame state (events ++ [.parseU2artData answer]) < timeroutTime := by
  induction events generalizing state pending with
  | nil =>
      obtain ⟨at_frame, -⟩ := at_frame_of_reading reading quiet
      have none : openCalls processor frame state [.parseU2artData answer] = 0 :=
        open_calls_given [.parseU2artData answer] rfl
      rw [List.nil_append, none]
      refine iff_of_true (.inl ?_) counter
      exact ⟨⟨answer, rfl⟩, (hands_over_iff at_frame).2 bytes.symm⟩
  | cons event rest ih =>
      cases event with
      | uart0RxWrite byte =>
          have bound := reading_bound reading
          have total := frame.bytes_length_le
          obtain ⟨written, entered⟩ := write_given processor byte
            (show state.rxBuffer.length < 1023 by omega)
          rw [List.cons_append, given, entered, written] at bytes
          subst bytes
          rw [List.cons_append, follows_write (reading_started reading), openCalls, written,
            openCall, Nat.zero_add]
          exact ih (reading_write reading) quiet counter rfl
      | parseU2artData call =>
          rw [List.cons_append] at bytes
          obtain ⟨at_frame, same⟩ := at_frame_of_reading reading quiet
          have rest_given : given processor (advance processor state (.parseU2artData call))
              (rest ++ [.parseU2artData answer]) = pending := bytes
          have call_iff := follows_call_iff at_frame rest_given ?_
          · rw [List.cons_append, call_iff, same]
            have counted : (countCall state).timeroutCouter = state.timeroutCouter + 1 := by
              have small := counter
              unfold timeroutTime at small
              simp only [countCall]
              omega
            by_cases complete : pending = []
            · rw [open_calls_given _ (bytes.trans complete)]
              exact iff_of_true (.inr complete) counter
            · rw [or_iff_left complete, counted]
              omega
          · intro _ next taken later quiet' early
            rw [advance_some taken] at rest_given
            exact ih later quiet' early rest_given

/-- The header of a frame with a length of its own is in, and that length is taken for read. -/
structure Stale (frame : Frame) (state : U2art (List UInt8)) : Prop where
  long : frame.form ≠ .short
  opened : state.data = frame.opened
  read : state.getLength = true
  quiet : state.result = .null

theorem stale_hands_over (stale : Stale frame (takePreamble (countCall state)))
    (log : (takePreamble (countCall state)).log = state.log) :
    ¬ HandsOver processor frame state := by
  have held : takeLength (takePreamble (countCall state)) = takePreamble (countCall state) :=
    if_pos stale.read
  rintro ⟨-, read, data, logged⟩
  rw [held, get_data_stale processor stale.long stale.opened] at data
  rw [← log] at logged
  have other : [U2artEffect.cJSONParse []] ≠ [.cJSONParse frame.payload] := by
    intro same
    injection same with effect
    injection effect with nothing
    exact frame.nonempty nothing.symm
  split_ifs at data
  · cases data
    exact other (List.append_cancel_left logged)
  · cases data
    exact other (List.append_cancel_left logged)
  · cases data
    simp at logged

theorem stale_take_frame {next : U2art (List UInt8)} (stale : Stale frame state)
    (taken : takeFrame processor answer state = some next) :
    next.data.start = false ∨ next = state := by
  have started : state.data.start = true := by
    rw [stale.opened]
    rfl
  have held : takeLength state = state := if_pos stale.read
  rw [takeFrame, if_pos started, held, takeData, if_pos stale.read, readData,
    get_data_stale processor stale.long stale.opened] at taken
  split_ifs at taken
  · obtain ⟨done, handled, rfl⟩ := Option.map_eq_some_iff.1 taken
    obtain ⟨answered, processed, rfl⟩ := Option.map_eq_some_iff.1 handled
    have failed := process_cmd_ne_null processed
    rw [processResult, if_neg failed]
    exact .inl rfl
  · cases taken
    exact .inl rfl
  · cases taken
    rw [processResult, if_pos stale.quiet]
    exact .inr rfl

/-- A call goes on waiting, or gives the frame up. -/
theorem stale_call {next : U2art (List UInt8)}
    (stale : Stale frame (takePreamble (countCall state)))
    (parsed : parseU2artData processor answer state = some next)
    (on : next.data.start = true) : Stale frame next := by
  obtain ⟨done, taken, rfl⟩ := Option.map_eq_some_iff.1 parsed
  by_cases expired : timeroutTime ≤ done.timeroutCouter
  · rw [checkTimerout, if_pos expired] at on
    cases on
  · rw [checkTimerout, if_neg expired] at on ⊢
    rcases stale_take_frame stale taken with ended | rfl
    · exact absurd (ended.symm.trans on) Bool.false_ne_true
    · exact stale

theorem stale_counted (stale : Stale frame state) :
    Stale frame (takePreamble (countCall state)) ∧
      takePreamble (countCall state) = countCall state := by
  have same : takePreamble (countCall state) = countCall state := by
    rw [takePreamble, if_pos]
    rw [show (countCall state).data = frame.opened from stale.opened]
    rfl
  rw [same]
  exact ⟨⟨stale.long, stale.opened, stale.read, stale.quiet⟩, rfl⟩

theorem stale_never (events : List U2artEvent) (stale : Stale frame state) :
    ¬ Follows processor frame state events := by
  induction events generalizing state with
  | nil => exact id
  | cons event rest ih =>
      obtain ⟨counted, same⟩ := stale_counted stale
      rintro (⟨-, hands⟩ | ⟨next, taken, on, later⟩)
      · exact stale_hands_over counted (by rw [same]; rfl) hands
      · cases event with
        | uart0RxWrite byte =>
            cases taken
            have kept : Stale frame { state with rxBuffer := uart0RxWrite state.rxBuffer byte } :=
              ⟨stale.long, stale.opened, stale.read, stale.quiet⟩
            exact ih kept later
        | parseU2artData answer => exact ih (stale_call counted taken on) later

end Following

section Searching

variable {processor : CmdProcessor} {frame : Frame} {answer : CmdAnswer}
variable {state : U2art (List UInt8)} {rest : List U2artEvent} {garbage : List UInt8}

structure Idle {Queue : Type} (state : U2art Queue) : Prop where
  data : state.data = .zero
  quiet : state.result = .null

/-- The preamble of the frame has been found in this state. -/
def headerIn (frame : Frame) (state : U2art (List UInt8)) (more : List UInt8) :
    U2art (List UInt8) :=
  { countCall state with rxBuffer := more, timeroutCouter := 0, data := frame.opened }

theorem settled_frame (idle : Idle state) (more : List UInt8) :
    settled (countCall state) (0xAA :: 0x55 :: frame.header :: more) =
      headerIn frame state more := by
  have flag : decide (frame.header >>> 7 = 1) = frame.cf := by
    simp only [frame.header_flag, Bool.decide_eq_true]
  have zero : (countCall state).data = .zero := idle.data
  rw [settled, zero, frame.header_length, flag]
  rfl

theorem idle_waits (idle : Idle state) : state.data.start = false := by
  rw [idle.data]
  rfl

/-- A call that finds no preamble. -/
theorem call_short (processor : CmdProcessor) (answer : CmdAnswer) (idle : Idle state)
    (few : (scan state.rxBuffer).length < 3) :
    ∃ next, u2artStep processor state (.parseU2artData answer) = some next ∧ Idle next ∧
      next.getLength = state.getLength ∧ next.rxBuffer = scan state.rxBuffer := by
  have found := take_preamble_waits (idle_waits idle)
  rcases settled_cases (countCall state) state.rxBuffer with ⟨stops, -⟩ | ⟨-, three⟩
  · rw [stops] at found
    let searched : U2art (List UInt8) :=
      { countCall state with rxBuffer := scan state.rxBuffer }
    have kept : Idle searched := ⟨idle.data, idle.quiet⟩
    have off : ¬ searched.data.start = true := by
      rw [idle_waits kept]
      exact Bool.false_ne_true
    obtain ⟨counter, -, timed⟩ := check_timerout_idle searched idle.data idle.quiet
    refine ⟨{ searched with timeroutCouter := counter }, ?_, ⟨idle.data, idle.quiet⟩, rfl, rfl⟩
    rw [u2artStep, parseU2artData, found, takeFrame, if_neg off, Option.map_some, timed]
  · omega

/-- The frame is missed where less than all of it is left when the search stops. -/
theorem decodes_missed (idle : Idle state)
    (less : (scan state.rxBuffer).length +
      (given processor (advance processor state (.parseU2artData answer)) rest).length <
        frame.bytes.length) :
    ¬ Decodes processor frame state (.parseU2artData answer :: rest) := by
  have searched := take_preamble_waits (idle_waits idle)
  have comes := settled_cases (countCall state) state.rxBuffer
  rw [← searched] at comes
  rintro (⟨-, ⟨-, started, position⟩, -⟩ | ⟨next, taken, later⟩)
  · simp only [uart0RxAvailable] at position
    rcases comes with ⟨stops, -⟩ | ⟨-, three⟩
    · rw [stops] at started
      exact Bool.noConfusion ((idle_waits idle).symm.trans started)
    · omega
  · have shrunk := parse_shrinks taken
    rw [advance_some taken] at less
    refine missed_never rest ?_ later
    rcases comes with ⟨stops, -⟩ | ⟨-, three⟩
    · rw [stops] at shrunk
      exact (Nat.add_le_add_right shrunk _).trans_lt less
    · omega

/-- Where the preamble is found, the rest of the frame decides. -/
theorem decodes_found {more : List UInt8} (idle : Idle state)
    (closed : rest = [] ∨ ∃ events answer, rest = events ++ [.parseU2artData answer])
    (stops : scan state.rxBuffer = 0xAA :: 0x55 :: frame.header :: more)
    (bytes : more ++ given processor (advance processor state (.parseU2artData answer)) rest =
      frame.extended ++ frame.body) :
    Decodes processor frame state (.parseU2artData answer :: rest) ↔
      (state.getLength = false ∨ frame.form = .short) ∧
        openCalls processor frame state (.parseU2artData answer :: rest) ≤ timeroutTime := by
  have parts := frame.bytes_length
  have lengths := congrArg List.length bytes
  rw [List.length_append, List.length_append] at lengths
  have searched : takePreamble (countCall state) = headerIn frame state more := by
    rw [take_preamble_waits (idle_waits idle), stops, settled_frame idle]
  have follows : Decodes processor frame state (.parseU2artData answer :: rest) ↔
      Follows processor frame state (.parseU2artData answer :: rest) := by
    rw [Decodes, and_iff_right ⟨answer, rfl⟩]
    constructor
    · rintro (⟨-, follows⟩ | ⟨next, taken, later⟩)
      · exact follows
      · have shrunk := parse_shrinks taken
        rw [searched] at shrunk
        rw [advance_some taken] at lengths
        have left : next.rxBuffer.length ≤ more.length := shrunk
        exact absurd later (missed_never rest (by omega))
    · refine fun follows => .inl ⟨⟨idle_waits idle, ?_, ?_⟩, follows⟩
      · rw [searched]
        rfl
      · rw [searched]
        simp only [uart0RxAvailable, headerIn]
        omega
  rw [follows]
  have read {pending : List UInt8} (at_frame : AtFrame frame state pending)
      (same : given processor (advance processor state (.parseU2artData answer)) rest = pending) :
      Follows processor frame state (.parseU2artData answer :: rest) ↔
        openCalls processor frame state (.parseU2artData answer :: rest) ≤ timeroutTime := by
    have call_iff := follows_call_iff at_frame same ?_
    · rw [searched] at call_iff
      by_cases complete : pending = []
      · have none : openCalls processor frame state (.parseU2artData answer :: rest) = 0 :=
          open_calls_given _ (same.trans complete)
        rw [call_iff, none]
        exact iff_of_true (.inr complete) (Nat.zero_le _)
      · rw [call_iff, or_iff_left complete]
        exact Iff.of_eq (congrArg (· ≤ timeroutTime) (Nat.zero_add _))
    · intro complete next taken reading quiet early
      rw [advance_some taken] at same
      rcases closed with rfl | ⟨events, last, rfl⟩
      · exact absurd same.symm complete
      · exact follows_iff events reading quiet early same
  have log : (takePreamble (countCall state)).log = state.log := by
    rw [searched]
    rfl
  have quiet : (takePreamble (countCall state)).result = .null := by
    rw [searched]
    exact idle.quiet
  cases held : state.getLength with
  | false =>
      have reading : Reading frame (takePreamble (countCall state))
          (given processor (advance processor state (.parseU2artData answer)) rest) := by
        rw [searched]
        exact .opened rfl held bytes
      rw [read ⟨reading, quiet, log⟩ rfl, and_iff_right (.inl rfl)]
  | true =>
      by_cases short : frame.form = .short
      · have reading : Reading frame (takePreamble (countCall state))
            (given processor (advance processor state (.parseU2artData answer)) rest) := by
          have measured : frame.opened = frame.measured := by
            rw [Frame.measured, if_pos short]
            rfl
          rw [Frame.extended, short] at bytes
          rw [searched]
          exact .measured measured held bytes
        rw [read ⟨reading, quiet, log⟩ rfl, and_iff_right (.inr short)]
      · refine iff_of_false ?_ ?_
        · have stale : Stale frame (takePreamble (countCall state)) := by
            rw [searched]
            exact ⟨short, rfl, held, idle.quiet⟩
          rintro (⟨-, hands⟩ | ⟨next, taken, on, later⟩)
          · exact stale_hands_over stale log hands
          · exact stale_never rest (stale_call stale taken on) later
        · rintro ⟨unread | fits, -⟩
          · cases unread
          · exact short fits

theorem decodes_write {byte : UInt8} :
    Decodes processor frame state (.uart0RxWrite byte :: rest) ↔
      Decodes processor frame (advance processor state (.uart0RxWrite byte)) rest := by
  rw [Decodes, or_iff_right not_call]
  constructor
  · rintro ⟨next, taken, later⟩
    rw [advance_some taken]
    exact later
  · intro later
    exact ⟨_, rfl, later⟩

/-- One call, with what comes behind it. -/
theorem decodes_call (idle : Idle state) (clean : Clean garbage)
    (closed : rest = [] ∨ ∃ events answer, rest = events ++ [.parseU2artData answer])
    (bytes : state.rxBuffer ++
      given processor (advance processor state (.parseU2artData answer)) rest =
        garbage ++ frame.bytes)
    (later : ∀ next garbage', Idle next → next.getLength = state.getLength →
      next.rxBuffer.length < 3 → Clean garbage' →
      next.rxBuffer ++ given processor next rest = garbage' ++ frame.bytes →
      (Decodes processor frame next rest ↔ halfway garbage' = false ∧
        (next.getLength = false ∨ frame.form = .short) ∧
          openCalls processor frame next rest ≤ timeroutTime)) :
    Decodes processor frame state (.parseU2artData answer :: rest) ↔
      halfway garbage = false ∧ (state.getLength = false ∨ frame.form = .short) ∧
        openCalls processor frame state (.parseU2artData answer :: rest) ≤ timeroutTime := by
  cases search_frame frame clean bytes with
  | short left kept same equal few =>
      obtain ⟨next, taken, idle', unread, stored⟩ := call_short processor answer idle few
      have advanced := advance_some taken
      rw [advanced, ← stored] at equal
      have short : next.rxBuffer.length < 3 := by
        rw [stored]
        exact few
      have lengths := congrArg List.length equal
      rw [List.length_append, List.length_append] at lengths
      have goes := later next left idle' unread short kept equal
      have none : openCall frame (given processor next rest).length (.parseU2artData answer) = 0 :=
        if_neg (by omega)
      rw [openCalls, advanced, none, Nat.zero_add, ← same, ← unread, ← goes]
      constructor
      · rintro (⟨-, ⟨-, started, -⟩, -⟩ | ⟨next', taken', decodes⟩)
        · rw [take_preamble_waits (idle_waits idle)] at started
          rcases settled_cases (countCall state) state.rxBuffer with ⟨stops, -⟩ | ⟨-, three⟩
          · rw [stops] at started
            exact Bool.noConfusion ((idle_waits idle).symm.trans started)
          · omega
        · rw [taken] at taken'
          cases taken'
          exact decodes
      · intro decodes
        exact .inr ⟨next, taken, decodes⟩
  | found more even stops equal =>
      rw [decodes_found idle closed stops equal, and_iff_right even]
  | missed odd less =>
      refine iff_of_false (decodes_missed idle less) ?_
      rintro ⟨even, -⟩
      exact Bool.noConfusion (odd.symm.trans even)

theorem decodes_iff_list (events : List U2artEvent) (idle : Idle state) (clean : Clean garbage)
    (bytes : state.rxBuffer ++ given processor state (events ++ [.parseU2artData answer]) =
      garbage ++ frame.bytes) :
    Decodes processor frame state (events ++ [.parseU2artData answer]) ↔
      halfway garbage = false ∧ (state.getLength = false ∨ frame.form = .short) ∧
        openCalls processor frame state (events ++ [.parseU2artData answer]) ≤ timeroutTime := by
  induction events generalizing state garbage with
  | nil =>
      refine decodes_call idle clean (.inl rfl) bytes ?_
      intro next garbage' _ _ few _ later
      -- the frame cannot be whole in fewer than three bytes
      have parts := frame.bytes_length
      have lengths := congrArg List.length later
      rw [given, List.append_nil, List.length_append] at lengths
      omega
  | cons event rest ih =>
      cases event with
      | uart0RxWrite byte =>
          rw [List.cons_append] at bytes ⊢
          rw [given, ← List.append_assoc] at bytes
          rw [decodes_write, openCalls, openCall, Nat.zero_add]
          by_cases full : state.rxBuffer.length + 1 = uart0RxBufferSize
          · have same : advance processor state (.uart0RxWrite byte) = state := by
              simp only [advance, u2artStep, uart0RxWrite, if_pos full, Option.getD_some]
            have dropped : entering state (.uart0RxWrite byte) = [] := if_pos full
            rw [dropped, List.append_nil, same] at bytes
            rw [same]
            exact ih idle clean bytes
          · have stored : advance processor state (.uart0RxWrite byte) =
                { state with rxBuffer := state.rxBuffer ++ [byte] } := by
              simp only [advance, u2artStep, uart0RxWrite, if_neg full, Option.getD_some]
            have entered : entering state (.uart0RxWrite byte) = [byte] := if_neg full
            rw [entered, stored] at bytes
            rw [stored]
            have kept : Idle { state with rxBuffer := state.rxBuffer ++ [byte] } :=
              ⟨idle.data, idle.quiet⟩
            exact ih kept clean bytes
      | parseU2artData call =>
          refine decodes_call idle clean (.inr ⟨rest, answer, rfl⟩) bytes ?_
          intro next garbage' idle' same _ clean' later
          exact ih idle' clean' later

end Searching

section View

variable {Queue Twin : Type} [ByteQueue Queue] [ByteQueue Twin] {view : Queue → Twin}
variable (viewed : QueueView view) (processor : CmdProcessor) (frame : Frame)
include viewed

theorem advance_map (state : U2art Queue) (event : U2artEvent) :
    advance processor (mapState view state) event =
      mapState view (advance processor state event) := by
  rw [advance, advance, u2art_step_map viewed]
  cases u2artStep processor state event with
  | none => rfl
  | some next => rfl

theorem entering_map (state : U2art Queue) (event : U2artEvent) :
    entering (mapState view state) event = entering state event := by
  cases event with
  | uart0RxWrite byte => simp only [entering, mapState, viewed.available]
  | parseU2artData answer => rfl

theorem given_map (state : U2art Queue) (events : List U2artEvent) :
    given processor (mapState view state) events = given processor state events := by
  induction events generalizing state with
  | nil => rfl
  | cons event rest ih =>
      rw [given, given, entering_map viewed, advance_map viewed, ih]

theorem open_calls_map (state : U2art Queue) (events : List U2artEvent) :
    openCalls processor frame (mapState view state) events =
      openCalls processor frame state events := by
  induction events generalizing state with
  | nil => rfl
  | cons event rest ih =>
      rw [openCalls, openCalls, advance_map viewed, given_map viewed, ih]

theorem finds_frame_map (state : U2art Queue) (pending : Nat) :
    FindsFrame frame (mapState view state) pending ↔ FindsFrame frame state pending := by
  have counted : countCall (mapState view state) = mapState view (countCall state) := rfl
  unfold FindsFrame
  rw [counted, take_preamble_map viewed]
  simp only [mapState, viewed.available]

theorem hands_over_map (state : U2art Queue) :
    HandsOver processor frame (mapState view state) ↔ HandsOver processor frame state := by
  have counted : countCall (mapState view state) = mapState view (countCall state) := rfl
  unfold HandsOver
  rw [counted, take_preamble_map viewed, take_length_map viewed, get_data_map viewed]
  refine and_congr_right fun _ => ?_
  cases getData processor (takeLength (takePreamble (countCall state))) with
  | none => simp
  | some read => simp [mapState]

theorem step_map_iff (state : U2art Queue) (event : U2artEvent) (holds : U2art Twin → Prop) :
    (∃ next, u2artStep processor (mapState view state) event = some next ∧ holds next) ↔
      ∃ next, u2artStep processor state event = some next ∧ holds (mapState view next) := by
  rw [u2art_step_map viewed]
  cases u2artStep processor state event with
  | none => simp
  | some next => simp

theorem follows_map (state : U2art Queue) (events : List U2artEvent) :
    Follows processor frame (mapState view state) events ↔
      Follows processor frame state events := by
  induction events generalizing state with
  | nil => exact Iff.rfl
  | cons event rest ih =>
      rw [Follows, Follows, hands_over_map viewed, step_map_iff viewed]
      simp only [ih]
      rfl

theorem decodes_map (state : U2art Queue) (events : List U2artEvent) :
    Decodes processor frame (mapState view state) events ↔
      Decodes processor frame state events := by
  induction events generalizing state with
  | nil => exact Iff.rfl
  | cons event rest ih =>
      rw [Decodes, Decodes, advance_map viewed, given_map viewed, finds_frame_map viewed,
        follows_map viewed, step_map_iff viewed]
      simp only [ih]

end View

section Ring

theorem decodes_iff_halfway (processor : CmdProcessor) (frame : Frame) {garbage : List UInt8}
    (clean : Clean garbage) {state : U2art RxBuffer} (idle : Idle state)
    (empty : state.rxBuffer.contents = []) {events : List U2artEvent} {answer : CmdAnswer}
    (bytes : given processor state (events ++ [.parseU2artData answer]) =
      garbage ++ frame.bytes) :
    Decodes processor frame state (events ++ [.parseU2artData answer]) ↔
      halfway garbage = false ∧ (state.getLength = false ∨ frame.form = .short) ∧
        openCalls processor frame state (events ++ [.parseU2artData answer]) ≤ timeroutTime := by
  let viewed : U2art (List UInt8) := mapState Ring.contents state
  have waiting : Idle viewed := ⟨idle.data, idle.quiet⟩
  have stored : viewed.rxBuffer = [] := empty
  have given_viewed : viewed.rxBuffer ++
      given processor viewed (events ++ [.parseU2artData answer]) = garbage ++ frame.bytes := by
    rw [stored, List.nil_append, given_map contents_view, bytes]
  have found := decodes_iff_list events waiting clean given_viewed
  rw [decodes_map contents_view, open_calls_map contents_view] at found
  exact found

/-- Behind garbage without a preamble, a frame is found and decoded exactly if the garbage ends
in an even run of `AA`; and if, as everywhere, its length is read, and it comes in time. -/
theorem preamble_found_iff (processor : CmdProcessor) (frame : Frame) (garbage : List UInt8)
    (clean : ¬ [0xAA, 0x55] <:+: garbage) (state : U2art RxBuffer) (idle : Idle state)
    (empty : state.rxBuffer.contents = []) (events : List U2artEvent) (answer : CmdAnswer)
    (bytes : given processor state (events ++ [.parseU2artData answer]) =
      garbage ++ frame.bytes) :
    Decodes processor frame state (events ++ [.parseU2artData answer]) ↔
      Even (trailingRun garbage).length ∧ (state.getLength = false ∨ frame.form = .short) ∧
        openCalls processor frame state (events ++ [.parseU2artData answer]) ≤ timeroutTime := by
  rw [← halfway_iff]
  exact decodes_iff_halfway processor frame clean idle empty bytes

/-- A byte of noise and a pair of `AA`, then the frame of a ping, with a call in each part. -/
def noisyPing : List U2artEvent :=
  [.uart0RxWrite 0x13, .uart0RxWrite 0xAA, .parseU2artData accepted, .uart0RxWrite 0xAA] ++
    ((pingFrame .short).bytes.take 6).map .uart0RxWrite ++ [.parseU2artData accepted] ++
      ((pingFrame .short).bytes.drop 6).map .uart0RxWrite

theorem preamble_found_ping :
    Decodes pingProcessor (pingFrame .short) (U2art.initial emptyRing)
        (noisyPing ++ [.parseU2artData accepted]) ↔
      Even (trailingRun [0x13, 0xAA, 0xAA]).length ∧
        ((U2art.initial emptyRing).getLength = false ∨ (pingFrame .short).form = .short) ∧
          openCalls pingProcessor (pingFrame .short) (U2art.initial emptyRing)
            (noisyPing ++ [.parseU2artData accepted]) ≤ timeroutTime :=
  preamble_found_iff pingProcessor (pingFrame .short) [0x13, 0xAA, 0xAA] (by decide)
    (U2art.initial emptyRing) ⟨rfl, rfl⟩ rfl noisyPing accepted (by decide +kernel)

/-- A lone `AA`, then the frame of a ping. -/
def loneByte : List U2artEvent :=
  (0xAA :: (pingFrame .short).bytes).map .uart0RxWrite

/-- The preamble of the frame is taken for the second half of a pair. -/
theorem preamble_missed :
    ¬ [0xAA, 0x55] <:+: ([0xAA] : List UInt8) ∧
      given pingProcessor (U2art.initial emptyRing) (loneByte ++ [.parseU2artData accepted]) =
        [0xAA] ++ (pingFrame .short).bytes ∧
      ¬ Decodes pingProcessor (pingFrame .short) (U2art.initial emptyRing)
        (loneByte ++ [.parseU2artData accepted]) := by
  have clean : ¬ [0xAA, 0x55] <:+: ([0xAA] : List UInt8) := by decide
  have idle : Idle (U2art.initial emptyRing) := ⟨rfl, rfl⟩
  have bytes : given pingProcessor (U2art.initial emptyRing)
      (loneByte ++ [.parseU2artData accepted]) = [0xAA] ++ (pingFrame .short).bytes := by
    decide +kernel
  refine ⟨clean, bytes, fun decodes => ?_⟩
  have even := ((decodes_iff_halfway _ _ clean idle rfl bytes).1 decodes).1
  exact absurd even (by decide)

end Ring

end IotgoFirmware.Uart.PreambleSearch
