import IotgoFirmware.Core.Registration
import Mathlib.Algebra.Order.Group.Nat
import Mathlib.Data.Finset.Card
import Mathlib.Order.Interval.Finset.Nat

/-!
# Pings without pongs

The two counters of the heartbeat are set to zero by every start and every stop, also
between a ping and its pong. A pong then counts for a period in which its ping was not
sent, the difference of the counters goes below zero, and in 32 bits it is as large as
two missing pongs. Beside the state run the numbers of the pings and of those that have
been answered.
-/

namespace IotgoFirmware.Core.Heartbeat

open IotgoFirmware.Library.CIntegers
open IotgoFirmware.Library.CStrings
open IotgoFirmware.Library.JsonDocuments
open IotgoFirmware.Library.StepRuns
open IotgoFirmware.Core.PkgScan
open IotgoFirmware.Core.CoreTask
open IotgoFirmware.Core.PkgNesting
open IotgoFirmware.Core.CoreSteps
open IotgoFirmware.Core.Registration
open IotgoFirmware.Receive

set_option autoImplicit false

section Counters

inductive Beat where
  | start
  | stop
  | ping
  | pong
deriving DecidableEq

def disconnectBeats (state : CoreState) : List Beat :=
  if state.clientTcpInitialized then [.stop] else []

def messageBeats (state : CoreState) : CoreMessage → List Beat
  | .connectServerErr => [.stop]
  | .reconnectServer => [.stop]
  | .serverDisconnected => [.stop]
  | .wsConnected => [.start]
  | .redirect => disconnectBeats state
  | .enterSettingMode => disconnectBeats state
  | .enterSettingSelfapMode => disconnectBeats state
  | .wsPing => (if pongsMissing state then disconnectBeats state else []) ++ [.ping]
  | .wsPingOk => [.pong]
  | _ => []

def effectBeat : PkgEffect → Option Beat
  | .notifyConfig hb _ => some (if hb = 1 then .start else .stop)
  | _ => none

def packageBeats (board : CoreBoard) (state : CoreState) (event : CoreEvent) : List Beat :=
  match parsedData event with
  | some data =>
      (parseTypeOfIoTgoPkg board.jsonparse (state.device board) data).2.filterMap effectBeat
  | none => []

def beatsOf (board : CoreBoard) (state : CoreState) (event : CoreEvent) : List Beat :=
  match event with
  | .handle _ => (state.inbox.head?.map (messageBeats state)).getD []
  | _ => packageBeats board state event

structure Counters where
  ping : Nat
  pong : Nat

def CoreState.counters (state : CoreState) : Counters where
  ping := state.pingCounter
  pong := state.pongCounter

def Counters.after (counters : Counters) : Beat → Counters
  | .start => ⟨0, 0⟩
  | .stop => ⟨0, 0⟩
  | .ping => ⟨(counters.ping + 1) % 4294967296, counters.pong⟩
  | .pong => ⟨counters.ping, (counters.pong + 1) % 4294967296⟩

variable {board : CoreBoard} {state next : CoreState} {event : CoreEvent}

theorem disconnect_counters (state : CoreState) :
    CoreState.counters (iotgoPconnDisconnect state) =
      (disconnectBeats state).foldl Counters.after (CoreState.counters state) := by
  unfold iotgoPconnDisconnect disconnectBeats
  split
  · rfl
  · rfl

theorem post_counters (state : CoreState) (message : CoreMessage) :
    CoreState.counters (systemOsPost state message) = CoreState.counters state :=
  rfl

theorem leave_counters (state : CoreState) :
    CoreState.counters (iotgoWifiLeave (cancelRetryStrategies state)) =
      CoreState.counters state :=
  rfl

theorem message_counters (state : CoreState) (memory : Bool) (message : CoreMessage) :
    CoreState.counters (taskIoTgoNetworkCenter state memory message) =
      (messageBeats state message).foldl Counters.after (CoreState.counters state) := by
  cases message with
  | redirect =>
      rw [taskIoTgoNetworkCenter, post_counters, disconnect_counters]
      rfl
  | enterSettingMode =>
      rw [taskIoTgoNetworkCenter, post_counters, leave_counters, disconnect_counters]
      rfl
  | enterSettingSelfapMode =>
      rw [taskIoTgoNetworkCenter, leave_counters, disconnect_counters]
      rfl
  | wsPing =>
      have gone := disconnect_counters state
      rw [taskIoTgoNetworkCenter, messageBeats, List.foldl_append]
      cases pongsMissing state with
      | true =>
          rw [if_pos rfl, if_pos rfl, ← gone]
          rfl
      | false => rfl
  | distributor =>
      dsimp only [taskIoTgoNetworkCenter]
      split <;> rfl
  | distributorFinished ok => cases ok <;> rfl
  | connectServer =>
      dsimp only [taskIoTgoNetworkCenter]
      split <;> rfl
  | connectServerAgain =>
      dsimp only [taskIoTgoNetworkCenter]
      split <;> rfl
  | register =>
      dsimp only [taskIoTgoNetworkCenter]
      split
      · rfl
      · cases memory <;> rfl
  | registered =>
      dsimp only [taskIoTgoNetworkCenter]
      split <;> rfl
  | _ => rfl

theorem effects_counters (effects : List PkgEffect) (state : CoreState) :
    CoreState.counters (effects.foldl applyEffect state) =
      (effects.filterMap effectBeat).foldl Counters.after (CoreState.counters state) := by
  induction effects generalizing state with
  | nil => rfl
  | cons effect effects ih =>
      rw [List.foldl_cons, ih]
      cases effect with
      | notifyConfig hb hbi =>
          have notified : CoreState.counters (applyEffect state (.notifyConfig hb hbi)) =
              Counters.after (CoreState.counters state) (if hb = 1 then .start else .stop) := by
            unfold applyEffect doNotifyConfig
            dsimp only
            split <;> rfl
          rw [List.filterMap_cons, effectBeat, notified]
          rfl
      | _ => rfl

theorem dispatch_counters (board : CoreBoard) (state : CoreState) (apikey : List UInt8)
    (type : IoTgoPkgType) :
    CoreState.counters (dispatchPkg board state apikey type) = CoreState.counters state := by
  cases type with
  | reqOfUpdate =>
      dsimp only [dispatchPkg]
      split <;> rfl
  | reqOfQuery =>
      dsimp only [dispatchPkg]
      split <;> rfl
  | reqOfNotifyConfig =>
      dsimp only [dispatchPkg]
      split <;> rfl
  | _ => rfl

theorem package_counters (pdata : List UInt8) (len : Nat) :
    CoreState.counters (clientTCPSproOnePkgCb board state pdata len) =
      (packageBeats board state (.package pdata len)).foldl Counters.after
        (CoreState.counters state) := by
  unfold clientTCPSproOnePkgCb packageBeats parsedData
  dsimp only
  cases FrameDispatch.clientTCPSproOnePkgCb pdata len with
  | parsed data =>
      unfold handlePkg
      dsimp only
      rw [dispatch_counters, effects_counters]
  | _ => rfl

/-- A step does to the counters what its beats do. -/
theorem step_counters (step : coreStep board state event next) :
    CoreState.counters next =
      (beatsOf board state event).foldl Counters.after (CoreState.counters state) := by
  cases event with
  | handle memory =>
      obtain ⟨message, rest, waits, rfl⟩ := message_taken board step
      unfold beatsOf
      dsimp only
      rw [waits]
      have handled := message_counters
        { state with inbox := rest, log := state.log ++ [.handled message] } memory message
      have same : messageBeats
          { state with inbox := rest, log := state.log ++ [.handled message] } message =
          messageBeats state message := by
        cases message <;> rfl
      rw [same] at handled
      exact handled
  | package pdata len =>
      cases step
      exact package_counters pdata len
  | modeMonitor =>
      cases step
      unfold cbModeMonitorTimer
      split
      · split <;> rfl
      · rfl
  | wifiDisconnected lost =>
      cases step
      unfold iotgoWiFiEventHander
      split
      · split <;> rfl
      · rfl
  | distributor answer =>
      cases step
      cases answer <;> rfl
  | joinApTimer ok =>
      unfold coreStep coreExec at step
      dsimp only at step
      cases stage : state.joinApTimer with
      | none =>
          rw [stage] at step
          cases step
      | some stage' =>
          rw [stage] at step
          cases stage' with
          | wait =>
              cases step
              unfold joinAPStage2
              dsimp only
              split
              · rfl
              · split <;> rfl
          | connect =>
              cases step
              unfold joinAPTimerCallback
              split <;> rfl
  | connTcp =>
      cases step
      rfl
  | post message =>
      unfold coreStep coreExec at step
      dsimp only at step
      split_ifs at step
      cases step
      rfl
  | heartbeatTimer due =>
      obtain ⟨-, rfl⟩ := armed_step step
      cases due <;> rfl
  | tryDistorTimer =>
      obtain ⟨-, rfl⟩ := armed_step step
      unfold tryDistorTmrCb
      split <;> rfl
  | gmtTimer =>
      obtain ⟨-, rfl⟩ := armed_step step
      unfold gmtTimerCallback
      split <;> rfl
  | settingExitTimer gotIp =>
      obtain ⟨-, rfl⟩ := armed_step step
      cases gotIp <;> rfl
  | _ =>
      obtain ⟨-, rfl⟩ := armed_step step
      rfl

end Counters

section History

/-- The pings are numbered as they are sent. `started` and `reset` are how many had been sent
at the last start and at the last start or stop; `late` counts the pongs since then that are
not the first one of a ping sent since then. -/
structure History where
  sent : Nat
  started : Nat
  reset : Nat
  answered : Finset Nat
  late : Nat

def History.initial : History where
  sent := 0
  started := 0
  reset := 0
  answered := ∅
  late := 0

/-- `answers` is the ping that a pong belongs to, if there is one. -/
def History.pong (history : History) (answers : Option Nat) : History :=
  match answers with
  | some ping =>
      if ping < history.sent ∧ ping ∉ history.answered then
        { history with
          answered := insert ping history.answered
          late := if history.reset ≤ ping then history.late else history.late + 1 }
      else { history with late := history.late + 1 }
  | none => { history with late := history.late + 1 }

def History.after (answers : Option Nat) (history : History) : Beat → History
  | .start => { history with started := history.sent, reset := history.sent, late := 0 }
  | .stop => { history with reset := history.sent, late := 0 }
  | .ping => { history with sent := history.sent + 1 }
  | .pong => history.pong answers

/-- The pings from a number on that have no pong. -/
def History.unanswered (history : History) (from_ : Nat) : Nat :=
  (Finset.Ico from_ history.sent \ history.answered).card

/-- The counters are those of the pings and pongs since the last reset. -/
structure Counted (history : History) (counters : Counters) : Prop where
  reset : history.reset ≤ history.sent
  started : history.started ≤ history.reset
  answered : ∀ ping ∈ history.answered, ping < history.sent
  ping : counters.ping = (history.sent - history.reset) % 4294967296
  pong : counters.pong =
    (history.late + (Finset.Ico history.reset history.sent ∩ history.answered).card) % 4294967296

variable {history : History} {counters : Counters}

theorem counted_reset (counted : Counted history counters) (started : Nat)
    (before : started ≤ history.sent) :
    Counted { history with started := started, reset := history.sent, late := 0 } ⟨0, 0⟩ where
  reset := Nat.le_refl _
  started := before
  answered := counted.answered
  ping := by rw [Nat.sub_self]
  pong := by rw [Finset.Ico_self, Finset.empty_inter]; rfl

theorem counted_ping (counted : Counted history counters) :
    Counted { history with sent := history.sent + 1 }
      ⟨(counters.ping + 1) % 4294967296, counters.pong⟩ where
  reset := Nat.le_succ_of_le counted.reset
  started := counted.started
  answered := fun ping member => Nat.lt_succ_of_lt (counted.answered ping member)
  ping := by
    have before := counted.reset
    rw [counted.ping]
    dsimp only
    omega
  pong := by
    have fresh : history.sent ∉ history.answered :=
      fun member => Nat.lt_irrefl _ (counted.answered _ member)
    have same : Finset.Ico history.reset (history.sent + 1) ∩ history.answered =
        Finset.Ico history.reset history.sent ∩ history.answered := by
      have longer : Finset.Ico history.reset (history.sent + 1) =
          insert history.sent (Finset.Ico history.reset history.sent) :=
        Nat.Ico_succ_right_eq_insert_Ico counted.reset
      rw [longer, Finset.insert_inter_of_notMem fresh]
    rw [same]
    exact counted.pong

theorem counted_late (counted : Counted history counters) :
    Counted { history with late := history.late + 1 }
      ⟨counters.ping, (counters.pong + 1) % 4294967296⟩ where
  reset := counted.reset
  started := counted.started
  answered := counted.answered
  ping := counted.ping
  pong := by
    rw [counted.pong]
    dsimp only
    omega

theorem counted_pong (counted : Counted history counters) (answers : Option Nat) :
    Counted (history.pong answers) ⟨counters.ping, (counters.pong + 1) % 4294967296⟩ := by
  cases answers with
  | none => exact counted_late counted
  | some ping =>
      unfold History.pong
      dsimp only
      split
      · rename_i fresh
        refine ⟨counted.reset, counted.started, ?_, counted.ping, ?_⟩
        · intro other member
          obtain rfl | member := Finset.mem_insert.1 member
          · exact fresh.1
          · exact counted.answered other member
        · dsimp only
          split
          · rename_i since
            have inside : ping ∈ Finset.Ico history.reset history.sent :=
              Finset.mem_Ico.2 ⟨since, fresh.1⟩
            have outside : ping ∉ Finset.Ico history.reset history.sent ∩ history.answered :=
              fun member => fresh.2 (Finset.mem_inter.1 member).2
            rw [Finset.inter_insert_of_mem inside, Finset.card_insert_of_notMem outside,
              counted.pong]
            omega
          · rename_i before
            have outside : ping ∉ Finset.Ico history.reset history.sent :=
              fun member => before (Finset.mem_Ico.1 member).1
            rw [Finset.inter_insert_of_notMem outside, counted.pong]
            omega
      · exact counted_late counted

theorem counted_after (counted : Counted history counters) (answers : Option Nat) (beat : Beat) :
    Counted (history.after answers beat) (counters.after beat) := by
  cases beat with
  | start => exact counted_reset counted history.sent (Nat.le_refl _)
  | stop =>
      exact counted_reset counted history.started (counted.started.trans counted.reset)
  | ping => exact counted_ping counted
  | pong => exact counted_pong counted answers

theorem counted_fold (beats : List Beat) (answers : Option Nat)
    (counted : Counted history counters) :
    Counted (beats.foldl (History.after answers) history) (beats.foldl Counters.after counters) := by
  induction beats generalizing history counters with
  | nil => exact counted
  | cons beat beats ih => exact ih (counted_after counted answers beat)

/-- The difference of the counters is what is unanswered since the reset, less what came late. -/
theorem difference_eq (counted : Counted history counters) :
    uint32 ((counters.ping : Int) - counters.pong) =
      uint32 ((history.unanswered history.reset : Int) - history.late) := by
  have split := Finset.card_sdiff_add_card_inter (Finset.Ico history.reset history.sent)
    history.answered
  rw [Nat.card_Ico] at split
  have before := counted.reset
  have missing : history.unanswered history.reset =
      (Finset.Ico history.reset history.sent \ history.answered).card := rfl
  rw [counted.ping, counted.pong, uint32, uint32, missing]
  omega

end History

section Runs

/-- An event of the core task; where it handles a pong, `answers` is the ping that the pong
belongs to. -/
structure HeartbeatEvent where
  event : CoreEvent
  answers : Option Nat

/-- `disconnects` has an entry for every disconnection for the counters: how many of the pings
since the last start had no pong. -/
structure Tracked where
  state : CoreState
  history : History
  disconnects : List Nat

def Tracked.initial : Tracked where
  state := .initial
  history := .initial
  disconnects := []

/-- The handler of `MSG_CORE_WS_PING` runs. -/
def pingHandled (state : CoreState) : CoreEvent → Bool
  | .handle _ => decide (state.inbox.head? = some .wsPing)
  | _ => false

def disconnectsAt (tracked : Tracked) (event : CoreEvent) : List Nat :=
  if pingHandled tracked.state event && pongsMissing tracked.state then
    [tracked.history.unanswered tracked.history.started]
  else []

def trackedAfter (board : CoreBoard) (tracked : Tracked) (input : HeartbeatEvent)
    (next : CoreState) : Tracked where
  state := next
  history :=
    (beatsOf board tracked.state input.event).foldl (History.after input.answers) tracked.history
  disconnects := tracked.disconnects ++ disconnectsAt tracked input.event

def trackedStep (board : CoreBoard) (tracked : Tracked) (input : HeartbeatEvent)
    (next : Tracked) : Prop :=
  coreStep board tracked.state input.event next.state ∧
    next = trackedAfter board tracked input next.state

/-- The task has disconnected for the counters only where two pings had no pong. -/
def Justified (tracked : Tracked) : Prop :=
  ∀ unanswered ∈ tracked.disconnects, 2 ≤ unanswered

/-- Where fewer than two pings since the last start are unanswered, the late pongs are at most as
many as the pings unanswered since the last reset; all of it in 32 bits. -/
def InTime (tracked : Tracked) (input : HeartbeatEvent) : Prop :=
  pingHandled tracked.state input.event = true →
    2 ≤ tracked.history.unanswered tracked.history.started ∨
      uint32 ((tracked.history.unanswered tracked.history.reset : Int) - tracked.history.late) < 2

variable {board : CoreBoard} {tracked next : Tracked} {input : HeartbeatEvent}

theorem counted_step (counted : Counted tracked.history (CoreState.counters tracked.state))
    (step : trackedStep board tracked input next) :
    Counted next.history (CoreState.counters next.state) := by
  obtain ⟨taken, followed⟩ := step
  have same : next.history = (trackedAfter board tracked input next.state).history :=
    congrArg Tracked.history followed
  rw [same, step_counters taken]
  exact counted_fold _ input.answers counted

theorem in_time_iff (counted : Counted tracked.history (CoreState.counters tracked.state)) :
    InTime tracked input ↔ ∀ unanswered ∈ disconnectsAt tracked input.event, 2 ≤ unanswered := by
  have difference := difference_eq counted
  have missing : pongsMissing tracked.state = true ↔ ¬
      uint32 ((tracked.history.unanswered tracked.history.reset : Int) -
        tracked.history.late) < 2 := by
    rw [← difference, pongsMissing, decide_eq_true_iff, not_lt]
    rfl
  unfold InTime disconnectsAt
  cases handled : pingHandled tracked.state input.event with
  | false =>
      exact iff_of_true Bool.noConfusion fun unanswered member => absurd member List.not_mem_nil
  | true =>
      rw [imp_iff_right rfl, Bool.true_and]
      by_cases few : uint32 ((tracked.history.unanswered tracked.history.reset : Int) -
          tracked.history.late) < 2
      · rw [if_neg (fun gone => missing.1 gone few)]
        exact iff_of_true (.inr few) fun unanswered member => absurd member List.not_mem_nil
      · rw [if_pos (missing.2 few), or_iff_left few]
        simp

theorem justified_step (step : trackedStep board tracked input next) :
    Justified next ↔ Justified tracked ∧
      ∀ unanswered ∈ disconnectsAt tracked input.event, 2 ≤ unanswered := by
  have same : next.disconnects = tracked.disconnects ++ disconnectsAt tracked input.event :=
    congrArg Tracked.disconnects step.2
  unfold Justified
  rw [same]
  exact List.forall_mem_append

/-- The handler of a ping can always run. -/
theorem ping_step (board : CoreBoard) (handled : pingHandled tracked.state input.event = true) :
    ∃ next, trackedStep board tracked input next := by
  obtain ⟨event, answers⟩ := input
  cases event with
  | handle memory =>
      have head : tracked.state.inbox.head? = some .wsPing := of_decide_eq_true handled
      cases waits : tracked.state.inbox with
      | nil =>
          rw [waits] at head
          cases head
      | cons message rest =>
          refine ⟨trackedAfter board tracked ⟨.handle memory, answers⟩
            (takeMessage tracked.state memory message rest), ?_, rfl⟩
          unfold coreStep coreExec trackedAfter
          dsimp only
          rw [waits]
  | _ => cases handled

/-- The task disconnects for the counters only where two pings since the last start have no pong,
exactly in the runs in which no more pongs come late than pings are unanswered. -/
theorem disconnects_iff (board : CoreBoard) (inputs : List HeartbeatEvent) :
    Keeps (trackedStep board) Justified .initial inputs ↔
      Meets (trackedStep board) InTime .initial inputs := by
  refine keeps_iff_meets
    (fun tracked => Counted tracked.history (CoreState.counters tracked.state)) ?_ ?_ ?_ ?_
  · intro tracked input next counted step
    exact counted_step counted step
  · intro tracked input counted justified
    rw [in_time_iff counted]
    constructor
    · intro kept
      cases handled : pingHandled tracked.state input.event with
      | true =>
          obtain ⟨next, step⟩ := ping_step board handled
          exact ((justified_step step).1 (kept next step)).2
      | false =>
          rw [disconnectsAt, handled]
          exact fun unanswered member => absurd member List.not_mem_nil
    · intro few next step
      exact (justified_step step).2 ⟨justified, few⟩
  · exact ⟨Nat.le_refl 0, Nat.le_refl 0, fun ping member => absurd member (Finset.notMem_empty ping),
      rfl, rfl⟩
  · exact fun unanswered member => absurd member List.not_mem_nil

end Runs

section Examples

def configText : List UInt8 :=
  responseText "owner-1" ",\"config\":\x7b\"hb\":1,\"hbInterval\":30\x7d"

/-- The response to a registration sets the heartbeat. -/
def configBoard : CoreBoard where
  deviceid := asciiBytes "1000000001"
  factoryApikey := asciiBytes "factory"
  reqOfUpdateCallback := true
  reqOfQueryCallback := true
  reqofNotityCallback := false
  jsonparse := parserOf [(configText, response "owner-1"
    [(asciiBytes "config",
      .object [(asciiBytes "hb", .number 1), (asciiBytes "hbInterval", .number 30)])])]

def pongPackage : CoreEvent :=
  .package [0x8A, 0] 2

/-- A ping, the response to the registration, the pong, and the next ping. -/
def latePong : List CoreEvent :=
  toRegister.take 9 ++ [.connTcp] ++ toRegister.drop 9 ++
    [.heartbeatTimer true, .handle true, textPackage configText, pongPackage, .handle true,
      .handle true, .heartbeatTimer true, .handle true, .handle true]

def latePongInputs : List HeartbeatEvent :=
  latePong.map fun event => ⟨event, some 0⟩

def trackedExec (board : CoreBoard) (tracked : Tracked) (input : HeartbeatEvent) :
    Option Tracked :=
  (coreExec tracked.state board input.event).map (trackedAfter board tracked input)

theorem tracked_exec_sound (board : CoreBoard) (tracked : Tracked) (input : HeartbeatEvent)
    (next : Tracked) (computed : trackedExec board tracked input = some next) :
    trackedStep board tracked input next := by
  obtain ⟨state, taken, rfl⟩ := Option.map_eq_some_iff.1 computed
  exact ⟨taken, rfl⟩

/-- No ping has been sent since the last start, and the task disconnects. -/
theorem late_pong_disconnects :
    ¬ Keeps (trackedStep configBoard) Justified .initial latePongInputs := by
  have reached : ((execRun (trackedExec configBoard) .initial latePongInputs).any
      fun final => decide (final.disconnects = [0])) = true := by decide +kernel
  intro kept
  obtain ⟨final, run, found⟩ := exists_run_of_exec (tracked_exec_sound configBoard) reached
  have justified := keeps_final kept run
  rw [Justified, of_decide_eq_true found] at justified
  exact absurd (justified 0 List.mem_cons_self) (by decide)

end Examples

end IotgoFirmware.Core.Heartbeat
