import IotgoFirmware.Library.CheckedRuns
import IotgoFirmware.Library.LineBuffers

/-!
# The line reader of the test mode

`readUartBuffer50msTimer` takes all that the UART has received and looks for a line end
in all it has collected. It does not compare its index with the size of its buffer, and
it starts afresh at a line end only.
-/

namespace IotgoFirmware.Factory.TestLines

open IotgoFirmware.Library.CFaults
open IotgoFirmware.Library.CStrings
open IotgoFirmware.Library.CheckedRuns
open IotgoFirmware.Library.LineBuffers
open IotgoFirmware.Library.StepRuns

set_option autoImplicit false

section TestReader

/-- The lines that `readUartBuffer50msTimer` knows. -/
inductive TestCommand where
  | atStart
  | atGpioLow
  | atGpioHigh
  | atFreq
  | ok
  | atWifi
  | atEnd
deriving DecidableEq

def testCommands : List (TestCommand × List UInt8) :=
  [(.atStart, asciiBytes "AT+START\r\n"), (.atGpioLow, asciiBytes "AT+GPIO_LOW\r\n"),
    (.atGpioHigh, asciiBytes "AT+GPIO_HIGH\r\n"), (.atFreq, asciiBytes "AT+FREQ\r\n"),
    (.ok, asciiBytes "OK\r\n"), (.atWifi, asciiBytes "AT+WIFI\r\n"),
    (.atEnd, asciiBytes "AT+END\r\n")]

def testCommandOf (buffer : List UInt8) : Option TestCommand :=
  (testCommands.find? fun entry => cString buffer = entry.2).map Prod.fst

/-- The buffer, `iotgo_rx_uart0_buffer_index`, `read_uart_timer` and `test_mode_flag`;
then the commands that were recognised, and whether contents without a NUL were ever
searched. -/
structure TestReader where
  buffer : List UInt8
  index : Nat
  armed : Bool
  testMode : Bool
  seen : List TestCommand
  strayed : Bool

/-- The loop that reads all there is. The index has eight bits, but a write behind the
buffer comes before it overflows. -/
def readAll : List UInt8 → Nat → List UInt8 → Checked (List UInt8 × Nat)
  | buffer, index, [] => .ok (buffer, index)
  | buffer, index, c :: rest => do
      let buffer ← storeAt buffer index [c]
      readAll buffer (index + 1) rest

def uart0RxBufferFlush (reader : TestReader) : TestReader :=
  { reader with buffer := List.replicate 50 0, index := 0 }

/-- What a line that was found does to the reader. -/
def obeyLine (reader : TestReader) : TestReader :=
  match testCommandOf reader.buffer with
  | none => uart0RxBufferFlush reader
  | some command =>
      { uart0RxBufferFlush reader with
        armed := reader.armed && decide (command ≠ .atEnd)
        testMode := reader.testMode || decide (command = .atStart)
        seen := reader.seen ++ [command] }

def readUartBuffer50msTimer (reader : TestReader) (available : List UInt8) :
    Checked TestReader := do
  let (buffer, index) ← readAll reader.buffer reader.index available
  let found ← findLine buffer
  let reader := { reader with
    buffer := buffer, index := index, strayed := reader.strayed || decide (0 ∉ buffer) }
  return if found.isSome then obeyLine reader else reader

/-- `respond` is the answer of `cbHLW8012Timer1ms`, `startFlash` the timer that leaves
the test mode. -/
inductive TestEvent where
  | poll (available : List UInt8)
  | respond
  | startFlash

def testStep (reader : TestReader) : TestEvent → Checked TestReader
  | .poll available =>
      if reader.armed = true then readUartBuffer50msTimer reader available else .ok reader
  | .respond => .ok (uart0RxBufferFlush reader)
  | .startFlash =>
      .ok (if reader.testMode = true then reader
        else { uart0RxBufferFlush reader with armed := false })

def testStart : TestReader where
  buffer := List.replicate 50 0
  index := 0
  armed := true
  testMode := false
  seen := []
  strayed := false

def testPoll (reader : TestReader) (available : List UInt8) : Checked TestReader :=
  testStep reader (.poll available)

/-- All contents that were searched had a NUL, and while the reader is polled the stream
can go on so that a command is seen. -/
def TestHealthy (reader : TestReader) : Prop :=
  reader.strayed = false ∧ (reader.armed = true → Recovers testPoll TestReader.seen reader)

/-- The bytes since the last line fit the buffer, leave a NUL in it, and have a line end
in sight or none of the bytes that keep it from being seen. -/
def TestManageable (reader : TestReader) : TestEvent → Prop
  | .poll available => reader.armed = true →
      reader.index + available.length ≤ 50 ∧
        (reader.index + available.length < 50 ∨ 0 ∈ reader.buffer.take reader.index ++ available) ∧
        ((strstr (stored reader.buffer reader.index available) crlf).isSome = true ∨
          LineFits 50 (reader.buffer.take reader.index ++ available))
  | _ => True

end TestReader

section TestProofs

variable {size : Nat}

theorem read_all_eq (available : List UInt8) :
    ∀ {buffer : List UInt8} {index : Nat}, Collects size buffer index →
      readAll buffer index available =
        if index + available.length ≤ size then
          .ok (stored buffer index available, index + available.length)
        else .error .outside := by
  induction available with
  | nil =>
      intro buffer index collects
      have same : stored buffer index [] = buffer := by
        rw [stored, List.append_nil]
        exact List.take_append_drop index buffer
      rw [List.length_nil, Nat.add_zero, if_pos collects.inside, same]
      rfl
  | cons c rest ih =>
      intro buffer index collects
      rw [readAll]
      by_cases room : index + [c].length ≤ size
      · have next : Collects size (stored buffer index [c]) (index + 1) :=
          collects_stored collects room
        have place : index + 1 + rest.length = index + (c :: rest).length := by
          simp only [List.length_cons]
          omega
        rw [store_at_stored collects room, bind_ok, ih next, place]
        split
        · rename_i fits
          rw [stored_cons collects c fits]
        · rfl
      · have long : ¬ index + (c :: rest).length ≤ size := by
          simp only [List.length_cons, List.length_nil] at room ⊢
          omega
        have fault : storeAt buffer index [c] = .error .outside := by
          rw [storeAt, if_neg]
          rw [collects.sized]
          exact room
        rw [fault, if_neg long]
        rfl

/-- The reader with the portion behind what it has. -/
def testFilled (reader : TestReader) (available : List UInt8) : TestReader :=
  { reader with
    buffer := stored reader.buffer reader.index available
    index := reader.index + available.length
    strayed := reader.strayed || decide (0 ∉ stored reader.buffer reader.index available) }

variable {reader next : TestReader} {available : List UInt8}

theorem test_poll_fault (collects : Collects 50 reader.buffer reader.index)
    (armed : reader.armed = true) (long : ¬ reader.index + available.length ≤ 50) :
    testPoll reader available = .error .outside := by
  rw [testPoll, testStep, if_pos armed, readUartBuffer50msTimer, read_all_eq available collects,
    if_neg long]
  rfl

theorem test_poll_found (collects : Collects 50 reader.buffer reader.index)
    (armed : reader.armed = true) (fits : reader.index + available.length ≤ 50)
    (found : (strstr (stored reader.buffer reader.index available) crlf).isSome = true) :
    testPoll reader available = .ok (obeyLine (testFilled reader available)) := by
  rw [testPoll, testStep, if_pos armed, readUartBuffer50msTimer, read_all_eq available collects,
    if_pos fits, bind_ok]
  obtain ⟨index, line⟩ := Option.isSome_iff_exists.1 found
  dsimp only
  rw [find_line_found line]
  rfl

theorem test_poll_absent (collects : Collects 50 reader.buffer reader.index)
    (armed : reader.armed = true) (fits : reader.index + available.length ≤ 50)
    (absent : strstr (stored reader.buffer reader.index available) crlf = none) :
    testPoll reader available =
      if 0 ∈ stored reader.buffer reader.index available then .ok (testFilled reader available)
      else .error .outside := by
  rw [testPoll, testStep, if_pos armed, readUartBuffer50msTimer, read_all_eq available collects,
    if_pos fits, bind_ok]
  dsimp only
  rw [find_line_absent absent]
  split
  · rfl
  · rfl

theorem obey_line_fresh (reader : TestReader) :
    (obeyLine reader).buffer = List.replicate 50 0 ∧ (obeyLine reader).index = 0 ∧
      (obeyLine reader).strayed = reader.strayed ∧
      (reader.seen.length < (obeyLine reader).seen.length ∨
        (obeyLine reader).seen = reader.seen ∧ (obeyLine reader).armed = reader.armed) := by
  unfold obeyLine
  cases testCommandOf reader.buffer with
  | none => exact ⟨rfl, rfl, rfl, .inr ⟨rfl, rfl⟩⟩
  | some command =>
      refine ⟨rfl, rfl, rfl, .inl ?_⟩
      show reader.seen.length < (reader.seen ++ [command]).length
      rw [List.length_append, List.length_singleton]
      exact Nat.lt_succ_self _

theorem test_recovers_fresh (buffer : reader.buffer = List.replicate 50 0)
    (index : reader.index = 0) (armed : reader.armed = true) :
    Recovers testPoll TestReader.seen reader := by
  have collects : Collects 50 reader.buffer reader.index := by
    rw [buffer, index]
    exact collects_zeros 50
  have line : stored reader.buffer reader.index (asciiBytes "AT+START\r\n") =
      asciiBytes "AT+START\r\n" ++ List.replicate 40 0 := by
    rw [buffer, index]
    rfl
  have fits : reader.index + (asciiBytes "AT+START\r\n").length ≤ 50 := by
    rw [index]
    decide
  have found : (strstr (stored reader.buffer reader.index (asciiBytes "AT+START\r\n"))
      crlf).isSome = true := by
    rw [line]
    decide
  refine recovers_of_step (test_poll_found collects armed fits found) ?_
  have command : testCommandOf (testFilled reader (asciiBytes "AT+START\r\n")).buffer =
      some .atStart := by
    show testCommandOf (stored reader.buffer reader.index _) = _
    rw [line]
    rfl
  rw [obeyLine, command]
  show reader.seen.length < (reader.seen ++ [TestCommand.atStart]).length
  rw [List.length_append, List.length_singleton]
  exact Nat.lt_succ_self _

theorem test_recovers_found (collects : Collects 50 reader.buffer reader.index)
    (armed : reader.armed = true) (fits : reader.index + available.length ≤ 50)
    (found : (strstr (stored reader.buffer reader.index available) crlf).isSome = true) :
    Recovers testPoll TestReader.seen reader := by
  have polled := test_poll_found collects armed fits found
  obtain ⟨buffer, index, -, seen⟩ := obey_line_fresh (testFilled reader available)
  rcases seen with grown | ⟨same, stays⟩
  · exact recovers_of_step polled grown
  · exact recovers_after polled same (test_recovers_fresh buffer index (stays.trans armed))

theorem test_not_recovers (collects : Collects 50 reader.buffer reader.index)
    (armed : reader.armed = true) (stuck : Stuck 50 reader.buffer reader.index) :
    ¬ Recovers testPoll TestReader.seen reader := by
  refine not_recovers (fun reader => Collects 50 reader.buffer reader.index ∧
    reader.armed = true ∧ Stuck 50 reader.buffer reader.index) ?_ ⟨collects, armed, stuck⟩
  rintro reader available next ⟨collects, armed, stuck⟩ polled
  by_cases fits : reader.index + available.length ≤ 50
  · obtain ⟨absent, later⟩ := stuck_stored collects stuck fits
    rw [test_poll_absent collects armed fits absent] at polled
    split at polled
    · rename_i terminated
      cases polled
      exact ⟨⟨collects_stored collects fits, armed, later terminated⟩, rfl⟩
    · cases polled
  · rw [test_poll_fault collects armed fits] at polled
    cases polled

theorem test_recovers_iff (collects : Collects 50 reader.buffer reader.index)
    (armed : reader.armed = true) (shown : 0 ∈ reader.buffer)
    (absent : strstr reader.buffer crlf = none) :
    Recovers testPoll TestReader.seen reader ↔ LineFits 50 (reader.buffer.take reader.index) := by
  constructor
  · intro recovers
    by_contra long
    exact test_not_recovers collects armed (stuck_of_not_fits collects shown absent long) recovers
  · intro room
    obtain ⟨bytes, inside, comes⟩ := line_end_comes collects room
    exact test_recovers_found collects armed inside comes

theorem test_poll_healthy_iff (collects : Collects 50 reader.buffer reader.index)
    (armed : reader.armed = true) (strayed : reader.strayed = false) :
    (∃ next, testPoll reader available = .ok next ∧ TestHealthy next) ↔
      TestManageable reader (.poll available) := by
  by_cases fits : reader.index + available.length ≤ 50
  · have next := collects_stored collects fits
    have terminated := nul_mem_iff next
    rw [take_stored collects] at terminated
    have straying : (testFilled reader available).strayed = false ↔
        0 ∈ stored reader.buffer reader.index available := by
      simp [testFilled, strayed]
    cases line : strstr (stored reader.buffer reader.index available) crlf with
    | some found =>
        have isSome : (strstr (stored reader.buffer reader.index available) crlf).isSome = true := by
          rw [line]
          rfl
        obtain ⟨buffer, index, same, -⟩ := obey_line_fresh (testFilled reader available)
        rw [test_poll_found collects armed fits isSome]
        simp only [Except.ok.injEq, exists_eq_left', TestManageable, armed, forall_const, isSome,
          fits, true_or, and_true, true_and, TestHealthy, same, straying, terminated]
        exact and_iff_left fun stays => test_recovers_fresh buffer index stays
    | none =>
        rw [test_poll_absent collects armed fits line]
        by_cases nul : 0 ∈ stored reader.buffer reader.index available
        · rw [if_pos nul]
          have shown := terminated.1 nul
          simp only [Except.ok.injEq, exists_eq_left', TestManageable, armed, forall_const, line,
            fits, true_and, TestHealthy, straying, nul, shown, Option.isSome_none,
            Bool.false_eq_true, false_or]
          have kept : (testFilled reader available).buffer.take
              (testFilled reader available).index =
                reader.buffer.take reader.index ++ available := take_stored collects available
          have recovers := @test_recovers_iff (testFilled reader available) next armed nul line
          rw [kept] at recovers
          exact ⟨fun heals => recovers.1 (heals armed), fun room _ => recovers.2 room⟩
        · rw [if_neg nul]
          refine iff_of_false ?_ fun manageable => ?_
          · rintro ⟨next, fault, -⟩
            cases fault
          · exact nul (terminated.2 (manageable armed).2.1)
  · rw [test_poll_fault collects armed fits]
    refine iff_of_false ?_ fun manageable => fits (manageable armed).1
    rintro ⟨next, fault, -⟩
    cases fault

theorem test_step_collects (collects : Collects 50 reader.buffer reader.index)
    {event : TestEvent} (taken : testStep reader event = .ok next) :
    Collects 50 next.buffer next.index := by
  cases event with
  | poll available =>
      by_cases armed : reader.armed = true
      · by_cases fits : reader.index + available.length ≤ 50
        · cases line : strstr (stored reader.buffer reader.index available) crlf with
          | some found =>
              have isSome := Option.isSome_iff_exists.2 ⟨found, line⟩
              have polled := test_poll_found collects armed fits isSome
              cases taken.symm.trans polled
              obtain ⟨buffer, index, -, -⟩ := obey_line_fresh (testFilled reader available)
              rw [buffer, index]
              exact collects_zeros 50
          | none =>
              have polled := test_poll_absent collects armed fits line
              split at polled
              · cases taken.symm.trans polled
                exact collects_stored collects fits
              · cases taken.symm.trans polled
        · cases taken.symm.trans (test_poll_fault collects armed fits)
      · rw [testStep, if_neg armed] at taken
        cases taken
        exact collects
  | respond =>
      cases taken
      exact collects_zeros 50
  | startFlash =>
      cases taken
      split
      · exact collects
      · exact collects_zeros 50

theorem test_step_healthy_iff (collects : Collects 50 reader.buffer reader.index)
    (healthy : TestHealthy reader) (event : TestEvent) :
    (∃ next, testStep reader event = .ok next ∧ TestHealthy next) ↔
      TestManageable reader event := by
  cases event with
  | poll available =>
      by_cases armed : reader.armed = true
      · exact test_poll_healthy_iff collects armed healthy.1
      · refine iff_of_true ⟨reader, ?_, healthy⟩ fun isArmed => absurd isArmed armed
        rw [testStep, if_neg armed]
  | respond =>
      refine iff_of_true ⟨_, rfl, healthy.1, fun armed => ?_⟩ trivial
      exact test_recovers_fresh rfl rfl armed
  | startFlash =>
      refine iff_of_true ⟨_, rfl, ?_⟩ trivial
      split
      · exact healthy
      · exact ⟨healthy.1, fun armed => Bool.noConfusion armed⟩

theorem test_keeps_iff (events : List TestEvent) :
    Keeps (CheckedStep testStep) (fun state => ∃ reader, state = .ok reader ∧ TestHealthy reader)
        (.ok testStart) events ↔
      Meets (CheckedStep testStep) (fun state event => ∀ reader, state = .ok reader →
        TestManageable reader event) (.ok testStart) events := by
  apply checked_keeps_iff (fun reader : TestReader => Collects 50 reader.buffer reader.index)
  · exact fun reader event next collects taken => test_step_collects collects taken
  · exact fun reader event collects healthy => test_step_healthy_iff collects healthy event
  · exact collects_zeros 50
  · exact ⟨rfl, test_recovers_fresh rfl rfl⟩

end TestProofs

end IotgoFirmware.Factory.TestLines
