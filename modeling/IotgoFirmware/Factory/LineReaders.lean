import IotgoFirmware.Factory.TestLines
import IotgoFirmware.Library.CIntegers

/-!
# The line readers of the test mode and of the factory

`procUART0` is polled as the reader of the test mode is, but stops reading when its
buffer is full. Both start afresh at a line end only, so that a NUL, which hides it, or
too many bytes in front of it leave them without any further line.
-/

namespace IotgoFirmware.Factory.LineReaders

open IotgoFirmware.Library.CFaults
open IotgoFirmware.Library.CIntegers
open IotgoFirmware.Library.CStrings
open IotgoFirmware.Library.CheckedRuns
open IotgoFirmware.Library.LineBuffers
open IotgoFirmware.Library.StepRuns
open IotgoFirmware.Factory.TestLines

set_option autoImplicit false

section FactoryReader

/-- Whether `proc_uart0_timer` or `recv_data_timer` is armed. -/
inductive FactoryPhase where
  | line
  | data (len : Nat)
deriving DecidableEq

structure FactoryReader where
  buffer : List UInt8
  bufferCounter : Nat
  phase : FactoryPhase
  seen : List Nat
  strayed : Bool

/-- The loop that reads while the buffer has room. -/
def readBounded : List UInt8 → Nat → List UInt8 → Checked (List UInt8 × Nat)
  | buffer, counter, [] => .ok (buffer, counter)
  | buffer, counter, c :: rest =>
      if counter < 1024 then do
        let buffer ← storeAt buffer counter [c]
        readBounded buffer (counter + 1) rest
      else .ok (buffer, counter)

/-- The length that an `AT+SEND=` in the line asks for. -/
def sendLength (line : List UInt8) : Option Nat :=
  (strstr line (asciiBytes "AT+SEND=")).bind fun temp1 =>
    let len := uint32 (atoi (line.drop (temp1 + 8)))
    if 0 < len ∧ len ≤ 512 then some len else none

/-- What a line that ends at an index does to the reader. -/
def obeySend (reader : FactoryReader) (temp : Nat) : FactoryReader :=
  let cleared := { reader with buffer := List.replicate 1024 0, bufferCounter := 0 }
  match sendLength (reader.buffer.set temp 0) with
  | none => cleared
  | some len => { cleared with phase := .data len, seen := reader.seen ++ [len] }

/-- What the buffer has no room for stays in the UART. -/
def procUART0 (reader : FactoryReader) (available : List UInt8) : Checked FactoryReader := do
  let (buffer, counter) ← readBounded reader.buffer reader.bufferCounter available
  let found ← findLine buffer
  let reader := { reader with
    buffer := buffer, bufferCounter := counter
    strayed := reader.strayed || decide (0 ∉ buffer) }
  return found.elim reader (obeySend reader)

/-- The data goes to the flash; the buffer keeps it. -/
def recvData (reader : FactoryReader) (len : Nat) (available : List UInt8) :
    Checked FactoryReader :=
  if available.length < len then .ok reader
  else do
    let buffer ← storeAt (List.replicate 1024 0) 0 (available.take len)
    return { reader with buffer := buffer, phase := .line }

/-- A timer that is not armed does nothing. -/
inductive FactoryEvent where
  | poll (available : List UInt8)
  | recv (available : List UInt8)
  | timeout

def factoryStep (reader : FactoryReader) (event : FactoryEvent) : Checked FactoryReader :=
  match event, reader.phase with
  | .poll available, .line => procUART0 reader available
  | .recv available, .data len => recvData reader len available
  | .timeout, .data _ => .ok { reader with phase := .line }
  | _, _ => .ok reader

def factoryStart : FactoryReader where
  buffer := List.replicate 1024 0
  bufferCounter := 0
  phase := .line
  seen := []
  strayed := false

def FactoryHealthy (reader : FactoryReader) : Prop :=
  reader.strayed = false ∧ Recovers factoryStep FactoryReader.seen reader

/-- What a poll takes from the UART. -/
def polled (reader : FactoryReader) (available : List UInt8) : List UInt8 :=
  available.take (1024 - reader.bufferCounter)

def FactoryManageable (reader : FactoryReader) : FactoryEvent → Prop
  | .poll available => reader.phase = .line →
      (reader.bufferCounter + (polled reader available).length < 1024 ∨
          0 ∈ reader.buffer.take reader.bufferCounter ++ polled reader available) ∧
        ((strstr (stored reader.buffer reader.bufferCounter (polled reader available))
            crlf).isSome = true ∨
          LineFits 1024 (reader.buffer.take reader.bufferCounter ++ polled reader available))
  | _ => True

end FactoryReader

section FactoryProofs

variable {reader next : FactoryReader} {available : List UInt8}

/-- What the reader holds: the bytes of a line, or an empty buffer while data comes. -/
def FactoryHolds (reader : FactoryReader) : Prop :=
  match reader.phase with
  | .line => Collects 1024 reader.buffer reader.bufferCounter
  | .data len => len ≤ 512 ∧ reader.bufferCounter = 0 ∧ reader.buffer = List.replicate 1024 0

theorem read_bounded_eq (available : List UInt8) :
    ∀ {buffer : List UInt8} {counter : Nat}, Collects 1024 buffer counter →
      readBounded buffer counter available =
        .ok (stored buffer counter (available.take (1024 - counter)),
          counter + (available.take (1024 - counter)).length) := by
  have stays : ∀ {buffer : List UInt8} {counter : Nat}, stored buffer counter [] = buffer := by
    intro buffer counter
    rw [stored, List.append_nil]
    exact List.take_append_drop counter buffer
  induction available with
  | nil =>
      intro buffer counter collects
      rw [List.take_nil, stays]
      rfl
  | cons c rest ih =>
      intro buffer counter collects
      rw [readBounded]
      by_cases room : counter < 1024
      · have next : Collects 1024 (stored buffer counter [c]) (counter + 1) :=
          collects_stored collects room
        have part : (c :: rest).take (1024 - counter) = c :: rest.take (1024 - (counter + 1)) := by
          have left : 1024 - counter = 1024 - (counter + 1) + 1 := by omega
          rw [left, List.take_succ_cons]
        have fits : counter + (c :: rest.take (1024 - (counter + 1))).length ≤ 1024 := by
          simp only [List.length_cons, List.length_take]
          omega
        have place : counter + 1 + (rest.take (1024 - (counter + 1))).length =
            counter + (c :: rest.take (1024 - (counter + 1))).length := by
          simp only [List.length_cons]
          omega
        rw [if_pos room, @store_at_stored 1024 counter buffer [c] collects room, bind_ok, ih next, part,
          stored_cons collects c fits, place]
      · have none : 1024 - counter = 0 := by omega
        rw [if_neg room, none, List.take_zero, stays]
        rfl

theorem polled_fits (collects : Collects 1024 reader.buffer reader.bufferCounter) :
    reader.bufferCounter + (polled reader available).length ≤ 1024 := by
  have inside := collects.inside
  rw [polled, List.length_take]
  omega

def factoryFilled (reader : FactoryReader) (available : List UInt8) : FactoryReader :=
  { reader with
    buffer := stored reader.buffer reader.bufferCounter (polled reader available)
    bufferCounter := reader.bufferCounter + (polled reader available).length
    strayed := reader.strayed ||
      decide (0 ∉ stored reader.buffer reader.bufferCounter (polled reader available)) }

theorem factory_poll_eq (collects : Collects 1024 reader.buffer reader.bufferCounter)
    (line : reader.phase = .line) :
    factoryStep reader (.poll available) =
      (do
        let found ← findLine (stored reader.buffer reader.bufferCounter (polled reader available))
        return found.elim (factoryFilled reader available)
          (obeySend (factoryFilled reader available))) := by
  have step : factoryStep reader (.poll available) = procUART0 reader available := by
    simp only [factoryStep, line]
  rw [step, procUART0, read_bounded_eq available collects, bind_ok]
  rfl

theorem factory_poll_found (collects : Collects 1024 reader.buffer reader.bufferCounter)
    (line : reader.phase = .line) {temp : Nat}
    (found : strstr (stored reader.buffer reader.bufferCounter (polled reader available)) crlf =
      some temp) :
    factoryStep reader (.poll available) = .ok (obeySend (factoryFilled reader available) temp) := by
  rw [factory_poll_eq collects line, find_line_found found]
  rfl

theorem factory_poll_absent (collects : Collects 1024 reader.buffer reader.bufferCounter)
    (line : reader.phase = .line)
    (absent : strstr (stored reader.buffer reader.bufferCounter (polled reader available)) crlf =
      none) :
    factoryStep reader (.poll available) =
      if 0 ∈ stored reader.buffer reader.bufferCounter (polled reader available) then
        .ok (factoryFilled reader available)
      else .error .outside := by
  rw [factory_poll_eq collects line, find_line_absent absent]
  split
  · rfl
  · rfl

theorem send_length_le {line : List UInt8} {len : Nat} (asked : sendLength line = some len) :
    len ≤ 512 := by
  obtain ⟨temp1, -, small⟩ := Option.bind_eq_some_iff.1 asked
  dsimp only at small
  split at small
  · rename_i bounds
    cases small
    exact bounds.2
  · cases small

theorem obey_send_fresh (reader : FactoryReader) (temp : Nat) (line : reader.phase = .line) :
    (obeySend reader temp).buffer = List.replicate 1024 0 ∧
      (obeySend reader temp).bufferCounter = 0 ∧
      (obeySend reader temp).strayed = reader.strayed ∧ FactoryHolds (obeySend reader temp) ∧
      (reader.seen.length < (obeySend reader temp).seen.length ∨
        (obeySend reader temp).seen = reader.seen ∧ (obeySend reader temp).phase = .line) := by
  unfold obeySend
  cases asked : sendLength (reader.buffer.set temp 0) with
  | none =>
      refine ⟨rfl, rfl, rfl, ?_, .inr ⟨rfl, line⟩⟩
      unfold FactoryHolds
      dsimp only
      rw [line]
      exact collects_zeros 1024
  | some len =>
      refine ⟨rfl, rfl, rfl, ⟨send_length_le asked, rfl, rfl⟩, .inl ?_⟩
      show reader.seen.length < (reader.seen ++ [len]).length
      rw [List.length_append, List.length_singleton]
      exact Nat.lt_succ_self _

/-- The line that asks for one byte of data. -/
def sendOne : List UInt8 :=
  asciiBytes "AT+SEND=1\r\n"

theorem send_length_one (more : List UInt8) :
    sendLength ((sendOne ++ more).set 9 0) = some 1 := by
  have line : (sendOne ++ more).set 9 0 = asciiBytes "AT+SEND=1" ++ 0 :: 10 :: more := rfl
  have text : cString ((sendOne ++ more).set 9 0) = asciiBytes "AT+SEND=1" := by
    rw [line]
    exact c_string_terminated _ (by decide)
  have found : strstr ((sendOne ++ more).set 9 0) (asciiBytes "AT+SEND=") = some 0 := by
    rw [strstr, text]
    decide
  have one : atoi (((sendOne ++ more).set 9 0).drop (0 + 8)) = 1 := by
    have digit : cString (([49] : List UInt8) ++ 0 :: 10 :: more) = [49] :=
      c_string_terminated _ (by decide)
    rw [line]
    show atoi ([49] ++ 0 :: 10 :: more) = 1
    rw [atoi, digit]
    decide
  simp only [sendLength, found, Option.bind_some, one]
  decide

/-- A reader that has nothing of a line yet sees the next command, whatever its buffer
holds. -/
theorem factory_recovers_fresh (collects : Collects 1024 reader.buffer reader.bufferCounter)
    (counter : reader.bufferCounter = 0) (line : reader.phase = .line) :
    Recovers factoryStep FactoryReader.seen reader := by
  have all : polled reader sendOne = sendOne := by
    rw [polled, counter]
    rfl
  have contents : stored reader.buffer reader.bufferCounter (polled reader sendOne) =
      sendOne ++ reader.buffer.drop 11 := by
    rw [all, counter]
    rfl
  have found : strstr (stored reader.buffer reader.bufferCounter (polled reader sendOne)) crlf =
      some 9 := by
    have split : sendOne ++ reader.buffer.drop 11 =
        asciiBytes "AT+SEND=1" ++ (crlf ++ reader.buffer.drop 11) := rfl
    have text : cString (sendOne ++ reader.buffer.drop 11) =
        asciiBytes "AT+SEND=1" ++ (crlf ++ cString (reader.buffer.drop 11)) := by
      rw [split, c_string_append _ (by decide), c_string_append _ (by decide)]
    rw [contents, strstr, text]
    exact find_text_first [10] _ (by decide)
  refine recovers_of_step (factory_poll_found collects line found) ?_
  have asked : sendLength ((factoryFilled reader sendOne).buffer.set 9 0) = some 1 := by
    show sendLength ((stored reader.buffer reader.bufferCounter _).set 9 0) = _
    rw [contents]
    exact send_length_one _
  rw [obeySend, asked]
  show reader.seen.length < (reader.seen ++ [1]).length
  rw [List.length_append, List.length_singleton]
  exact Nat.lt_succ_self _

theorem factory_recovers_data {len : Nat} (holds : FactoryHolds reader)
    (data : reader.phase = .data len) : Recovers factoryStep FactoryReader.seen reader := by
  unfold FactoryHolds at holds
  rw [data] at holds
  have ended : factoryStep reader .timeout = .ok { reader with phase := .line } := by
    simp only [factoryStep, data]
  refine recovers_after ended rfl ?_
  refine factory_recovers_fresh ?_ holds.2.1 rfl
  dsimp only
  rw [holds.2.1, holds.2.2]
  exact collects_zeros 1024

theorem factory_recovers_obeyed (temp : Nat) (line : reader.phase = .line) :
    Recovers factoryStep FactoryReader.seen (obeySend reader temp) := by
  obtain ⟨buffer, counter, -, holds, -⟩ := obey_send_fresh reader temp line
  cases phase : (obeySend reader temp).phase with
  | line =>
      refine factory_recovers_fresh ?_ counter phase
      rw [buffer, counter]
      exact collects_zeros 1024
  | data len => exact factory_recovers_data holds phase

theorem factory_recovers_found (collects : Collects 1024 reader.buffer reader.bufferCounter)
    (line : reader.phase = .line)
    (found : (strstr (stored reader.buffer reader.bufferCounter (polled reader available))
      crlf).isSome = true) : Recovers factoryStep FactoryReader.seen reader := by
  obtain ⟨temp, here⟩ := Option.isSome_iff_exists.1 found
  have polled := factory_poll_found collects line here
  obtain ⟨-, -, -, -, seen⟩ := obey_send_fresh (factoryFilled reader available) temp line
  rcases seen with grown | ⟨same, -⟩
  · exact recovers_of_step polled grown
  · exact recovers_after polled same (factory_recovers_obeyed temp line)

theorem factory_not_recovers (collects : Collects 1024 reader.buffer reader.bufferCounter)
    (line : reader.phase = .line) (stuck : Stuck 1024 reader.buffer reader.bufferCounter) :
    ¬ Recovers factoryStep FactoryReader.seen reader := by
  refine not_recovers (fun reader => Collects 1024 reader.buffer reader.bufferCounter ∧
    reader.phase = .line ∧ Stuck 1024 reader.buffer reader.bufferCounter) ?_
      ⟨collects, line, stuck⟩
  rintro reader event next ⟨collects, line, stuck⟩ taken
  cases event with
  | poll available =>
      obtain ⟨absent, later⟩ := stuck_stored collects stuck (polled_fits collects)
      rw [factory_poll_absent collects line absent] at taken
      split at taken
      · rename_i terminated
        cases taken
        exact ⟨⟨collects_stored collects (polled_fits collects), line, later terminated⟩, rfl⟩
      · cases taken
  | recv available =>
      simp only [factoryStep, line, Except.ok.injEq] at taken
      cases taken
      exact ⟨⟨collects, line, stuck⟩, rfl⟩
  | timeout =>
      simp only [factoryStep, line, Except.ok.injEq] at taken
      cases taken
      exact ⟨⟨collects, line, stuck⟩, rfl⟩

theorem factory_recovers_iff (collects : Collects 1024 reader.buffer reader.bufferCounter)
    (line : reader.phase = .line) (shown : 0 ∈ reader.buffer)
    (absent : strstr reader.buffer crlf = none) :
    Recovers factoryStep FactoryReader.seen reader ↔
      LineFits 1024 (reader.buffer.take reader.bufferCounter) := by
  constructor
  · intro recovers
    by_contra long
    exact factory_not_recovers collects line (stuck_of_not_fits collects shown absent long)
      recovers
  · intro room
    obtain ⟨bytes, inside, comes⟩ := line_end_comes collects room
    have whole : polled reader bytes = bytes := List.take_of_length_le (by omega)
    refine @factory_recovers_found reader bytes collects line ?_
    rw [whole]
    exact comes

theorem factory_poll_healthy_iff (collects : Collects 1024 reader.buffer reader.bufferCounter)
    (line : reader.phase = .line) (strayed : reader.strayed = false) :
    (∃ next, factoryStep reader (.poll available) = .ok next ∧ FactoryHealthy next) ↔
      FactoryManageable reader (.poll available) := by
  have fits := @polled_fits reader available collects
  have next := collects_stored collects fits
  have terminated := nul_mem_iff next
  rw [take_stored collects] at terminated
  have straying : (factoryFilled reader available).strayed = false ↔
      0 ∈ stored reader.buffer reader.bufferCounter (polled reader available) := by
    simp [factoryFilled, strayed]
  cases search : strstr (stored reader.buffer reader.bufferCounter (polled reader available))
      crlf with
  | some temp =>
      obtain ⟨-, -, same, -, -⟩ := obey_send_fresh (factoryFilled reader available) temp line
      have recovers := @factory_recovers_obeyed (factoryFilled reader available) temp line
      rw [factory_poll_found collects line search]
      simp only [Except.ok.injEq, exists_eq_left', FactoryManageable, line, forall_const, search,
        Option.isSome_some, true_or, and_true, FactoryHealthy, same, straying, terminated, recovers]
  | none =>
      rw [factory_poll_absent collects line search]
      by_cases nul : 0 ∈ stored reader.buffer reader.bufferCounter (polled reader available)
      · rw [if_pos nul]
        have shown := terminated.1 nul
        simp only [Except.ok.injEq, exists_eq_left', FactoryManageable, line, forall_const, search,
          true_and, FactoryHealthy, straying, nul, shown, Option.isSome_none, Bool.false_eq_true,
          false_or]
        have kept : (factoryFilled reader available).buffer.take
            (factoryFilled reader available).bufferCounter =
              reader.buffer.take reader.bufferCounter ++ polled reader available :=
          take_stored collects (polled reader available)
        rw [← kept]
        exact @factory_recovers_iff (factoryFilled reader available) next line nul search
      · rw [if_neg nul]
        refine iff_of_false ?_ fun manageable => ?_
        · rintro ⟨next, fault, -⟩
          cases fault
        · exact nul (terminated.2 (manageable line).1)

theorem recv_data_eq {len : Nat} (holds : FactoryHolds reader) (data : reader.phase = .data len)
    (enough : ¬ available.length < len) :
    factoryStep reader (.recv available) =
        .ok { reader with
          buffer := stored (List.replicate 1024 0) 0 (available.take len), phase := .line } ∧
      Collects 1024 (stored (List.replicate 1024 0) 0 (available.take len)) reader.bufferCounter ∧
      reader.bufferCounter = 0 := by
  unfold FactoryHolds at holds
  rw [data] at holds
  obtain ⟨small, counter, -⟩ := holds
  have length : (available.take len).length = len := by
    rw [List.length_take]
    omega
  have fits : 0 + (available.take len).length ≤ 1024 := by omega
  have whole := collects_stored (collects_zeros 1024) fits
  refine ⟨?_, ?_, counter⟩
  · have step : factoryStep reader (.recv available) = recvData reader len available := by
      simp only [factoryStep, data]
    rw [step, recvData, if_neg enough, store_at_stored (collects_zeros 1024) fits]
    rfl
  · rw [counter]
    exact ⟨whole.sized, Nat.zero_le _, fun _ => whole.ends (by omega)⟩

theorem factory_step_healthy_iff (holds : FactoryHolds reader) (healthy : FactoryHealthy reader)
    (event : FactoryEvent) :
    (∃ next, factoryStep reader event = .ok next ∧ FactoryHealthy next) ↔
      FactoryManageable reader event := by
  cases phase : reader.phase with
  | line =>
      cases event with
      | poll available =>
          unfold FactoryHolds at holds
          rw [phase] at holds
          exact factory_poll_healthy_iff holds phase healthy.1
      | recv available =>
          exact iff_of_true ⟨reader, by simp only [factoryStep, phase], healthy⟩ trivial
      | timeout => exact iff_of_true ⟨reader, by simp only [factoryStep, phase], healthy⟩ trivial
  | data len =>
      cases event with
      | poll available =>
          refine iff_of_true ⟨reader, by simp only [factoryStep, phase], healthy⟩ fun line => ?_
          rw [phase] at line
          cases line
      | recv available =>
          refine iff_of_true ?_ trivial
          by_cases few : available.length < len
          · refine ⟨reader, ?_, healthy⟩
            simp only [factoryStep, phase, recvData, if_pos few]
          · obtain ⟨step, collects, counter⟩ := recv_data_eq holds phase few
            exact ⟨_, step, healthy.1, factory_recovers_fresh collects counter rfl⟩
      | timeout =>
          unfold FactoryHolds at holds
          rw [phase] at holds
          have ended : factoryStep reader .timeout = .ok { reader with phase := .line } := by
            simp only [factoryStep, phase]
          refine iff_of_true ⟨_, ended, healthy.1, ?_⟩ trivial
          refine factory_recovers_fresh ?_ holds.2.1 rfl
          dsimp only
          rw [holds.2.1, holds.2.2]
          exact collects_zeros 1024

theorem factory_step_holds (holds : FactoryHolds reader) {event : FactoryEvent}
    (taken : factoryStep reader event = .ok next) : FactoryHolds next := by
  cases phase : reader.phase with
  | line =>
      have collects := holds
      unfold FactoryHolds at collects
      rw [phase] at collects
      cases event with
      | poll available =>
          cases search : strstr (stored reader.buffer reader.bufferCounter
              (polled reader available)) crlf with
          | some temp =>
              cases taken.symm.trans (factory_poll_found collects phase search)
              exact (obey_send_fresh (factoryFilled reader available) temp phase).2.2.2.1
          | none =>
              have polled := factory_poll_absent collects phase search
              split at polled
              · cases taken.symm.trans polled
                unfold FactoryHolds factoryFilled
                rw [phase]
                exact collects_stored collects (polled_fits collects)
              · cases taken.symm.trans polled
      | recv available =>
          simp only [factoryStep, phase, Except.ok.injEq] at taken
          exact taken ▸ holds
      | timeout =>
          simp only [factoryStep, phase, Except.ok.injEq] at taken
          exact taken ▸ holds
  | data len =>
      cases event with
      | poll available =>
          simp only [factoryStep, phase, Except.ok.injEq] at taken
          exact taken ▸ holds
      | recv available =>
          by_cases few : available.length < len
          · simp only [factoryStep, phase, recvData, if_pos few, Except.ok.injEq] at taken
            exact taken ▸ holds
          · obtain ⟨step, collects, -⟩ := recv_data_eq holds phase few
            cases taken.symm.trans step
            exact collects
      | timeout =>
          unfold FactoryHolds at holds
          rw [phase] at holds
          simp only [factoryStep, phase, Except.ok.injEq] at taken
          subst taken
          show Collects 1024 reader.buffer reader.bufferCounter
          rw [holds.2.1, holds.2.2]
          exact collects_zeros 1024

theorem factory_keeps_iff (events : List FactoryEvent) :
    Keeps (CheckedStep factoryStep)
        (fun state => ∃ reader, state = .ok reader ∧ FactoryHealthy reader)
        (.ok factoryStart) events ↔
      Meets (CheckedStep factoryStep) (fun state event => ∀ reader, state = .ok reader →
        FactoryManageable reader event) (.ok factoryStart) events := by
  apply checked_keeps_iff FactoryHolds
  · exact fun reader event next holds taken => factory_step_holds holds taken
  · exact fun reader event holds healthy => factory_step_healthy_iff holds healthy event
  · exact collects_zeros 1024
  · exact ⟨rfl, factory_recovers_fresh (collects_zeros 1024) rfl rfl⟩

end FactoryProofs

/-- Exactly the runs whose polls are manageable are served: no write leaves the buffer,
what is searched has a NUL, and some continuation has a command seen. -/
theorem line_readers_healthy_iff (testEvents : List TestEvent)
    (factoryEvents : List FactoryEvent) :
    (Keeps (CheckedStep testStep) (fun state => ∃ reader, state = .ok reader ∧ TestHealthy reader)
        (.ok testStart) testEvents ↔
      Meets (CheckedStep testStep) (fun state event => ∀ reader, state = .ok reader →
        TestManageable reader event) (.ok testStart) testEvents) ∧
    (Keeps (CheckedStep factoryStep)
        (fun state => ∃ reader, state = .ok reader ∧ FactoryHealthy reader)
        (.ok factoryStart) factoryEvents ↔
      Meets (CheckedStep factoryStep) (fun state event => ∀ reader, state = .ok reader →
        FactoryManageable reader event) (.ok factoryStart) factoryEvents) :=
  ⟨test_keeps_iff testEvents, factory_keeps_iff factoryEvents⟩

/-- 51 bytes without a line end go beyond the buffer of the test mode, and a NUL blinds
the reader of the factory. -/
theorem garbage_stops_line_readers :
    testPoll testStart (List.replicate 51 120) = .error .outside ∧
      (∃ blind, factoryStep factoryStart (.poll [0]) = .ok blind ∧
        ¬ Recovers factoryStep FactoryReader.seen blind) ∧
      (¬ ∀ events, Keeps (CheckedStep testStep)
        (fun state => ∃ reader, state = .ok reader ∧ TestHealthy reader) (.ok testStart) events) ∧
      ¬ ∀ events, Keeps (CheckedStep factoryStep)
        (fun state => ∃ reader, state = .ok reader ∧ FactoryHealthy reader)
        (.ok factoryStart) events := by
  have fault : testPoll testStart (List.replicate 51 120) = .error .outside :=
    test_poll_fault (collects_zeros 50) rfl (by decide)
  have start : Collects 1024 factoryStart.buffer factoryStart.bufferCounter := collects_zeros 1024
  have one : polled factoryStart [0] = [0] := rfl
  have contents : stored factoryStart.buffer factoryStart.bufferCounter (polled factoryStart [0]) =
      0 :: factoryStart.buffer.drop 1 := by
    rw [one]
    rfl
  have absent : strstr (stored factoryStart.buffer factoryStart.bufferCounter
      (polled factoryStart [0])) crlf = none := by
    rw [contents, strstr, cString, List.takeWhile_cons_of_neg (by decide)]
    decide
  have polledNul : factoryStep factoryStart (.poll [0]) = .ok (factoryFilled factoryStart [0]) := by
    have terminated : 0 ∈ stored factoryStart.buffer factoryStart.bufferCounter
        (polled factoryStart [0]) := contents ▸ List.mem_cons_self
    rw [factory_poll_absent start rfl absent, if_pos terminated]
  have blind : ¬ Recovers factoryStep FactoryReader.seen (factoryFilled factoryStart [0]) := by
    have kept := take_stored start (polled factoryStart [0])
    have nul : 0 ∈ (factoryFilled factoryStart [0]).buffer.take
        (factoryFilled factoryStart [0]).bufferCounter := by
      refine kept ▸ List.mem_append_right _ ?_
      exact one ▸ List.mem_singleton_self 0
    exact factory_not_recovers (collects_stored start (polled_fits start)) rfl (.hidden nul absent)
  refine ⟨fault, ⟨_, polledNul, blind⟩, fun all => ?_, fun all => ?_⟩
  · obtain ⟨reader, ended, -⟩ := keeps_single (all [.poll (List.replicate 51 120)])
    rw [testPoll] at fault
    rw [fault] at ended
    cases ended
  · obtain ⟨reader, ended, healthy⟩ := keeps_single (all [.poll [0]])
    rw [polledNul] at ended
    cases ended
    exact blind healthy.2

end IotgoFirmware.Factory.LineReaders
