import IotgoFirmware.Send.SendProtocol

/-!
# What drains the send queue

A message that is added to a queue with others is not sent for: the queue relies
on the event or the timer that already stands for the others. The chain breaks
where `iotgoPconnSendNextJson` does not send for the next message, and where the
event queue of the core task is full.
-/

namespace IotgoFirmware.Send.SendWakeup

open IotgoFirmware.Library.StepRuns
open IotgoFirmware.Send.SendQueue
open IotgoFirmware.Send.SendJson
open IotgoFirmware.Send.SendProtocol

set_option autoImplicit false

/-- An event about sending is posted, or the timer runs. -/
def Pending (state : SendState) : Prop :=
  (∃ event ∈ state.inbox, isSend event = true) ∨ state.sendQueueTimer ≠ none

instance (state : SendState) : Decidable (Pending state) :=
  inferInstanceAs (Decidable ((∃ event ∈ state.inbox, isSend event = true) ∨ _))

def Awake (state : SendState) : Prop :=
  state.queue.nodes ≠ [] → Pending state

instance (state : SendState) : Decidable (Awake state) :=
  inferInstanceAs (Decidable (_ → _))

def HasRoom (state : SendState) : Prop :=
  state.inbox.length < coreQueueLength

instance (state : SendState) : Decidable (HasRoom state) :=
  inferInstanceAs (Decidable (_ < _))

/-- The first message of a queue is added, and the timer runs out for a queue that
is not empty, only with room for an event, unless something is pending already; and
`IOTGO_WILD_POINT`, `IOTGO_NETWORK_ABNORMAL` and `IOTGO_UPGRADE_LOCK` end the last
message of the queue, unless something else is pending. -/
def Relayed (state : SendState) : SendEvent → Prop
  | .add data _ _ => state.queue.nodes = [] → data ≠ none → HasRoom state ∨ Pending state
  | .handle _ =>
      match state.inbox with
      | .sendJsonFinished errorCode _ :: rest =>
          continues errorCode = false → 2 ≤ state.queue.length →
            Pending { state with inbox := rest }
      | _ => True
  | .timer =>
      state.sendQueueTimer ≠ none → state.queue.nodes ≠ [] →
        HasRoom state ∨ ∃ event ∈ state.inbox, isSend event = true
  | .post _ => True
  | .setMode _ => True

section Steps

variable {state : SendState}

/-- The event queue holds what it can hold. -/
def Bounded (state : SendState) : Prop :=
  state.inbox.length ≤ coreQueueLength

theorem post_keeps (event : CoreEvent) :
    ∀ posted ∈ state.inbox, posted ∈ (systemOsPost state event).inbox := by
  intro posted member
  rcases post_cases state event with grown | full
  · rw [grown]
    exact List.mem_append_left _ member
  · rw [full]
    exact member

theorem post_pending_iff {event : CoreEvent} (send : isSend event = true) :
    Pending (systemOsPost state event) ↔ HasRoom state ∨ Pending state := by
  by_cases room : HasRoom state
  · refine iff_of_true (.inl ⟨event, ?_, send⟩) (.inl room)
    rw [post_inbox state event room]
    exact List.mem_append_right _ (List.mem_singleton_self event)
  · have full : systemOsPost state event = state := if_neg room
    rw [full]
    exact (or_iff_right room).symm

theorem add_awake_iff (awake : Awake state) (data : Option (List UInt8)) (type : UInt8)
    (delTypeFlag : Bool) :
    Awake (iotgoQueueAdd state data type delTypeFlag).2 ↔
      Relayed state (.add data type delTypeFlag) := by
  rcases queue_add_cases state data type delTypeFlag with
    ⟨result, refused⟩ | ⟨copy, room, present, ⟨others, result⟩ | ⟨empty, result⟩⟩
  · have nothing : state.queue.nodes = [] → (queueBefore state type delTypeFlag).nodes = [] := by
      intro empty
      cases delTypeFlag with
      | false => exact empty
      | true =>
          rw [queueBefore, if_pos rfl, iotgoDeleteType, keep_nodes, empty]
          rfl
    rw [result]
    refine iff_of_true (fun more => awake fun empty => more (nothing empty)) ?_
    intro empty present
    rcases refused with absent | full
    · exact absurd absent present
    · rw [LinkQueue.length, nothing empty] at full
      cases full
  · rw [result]
    exact iff_of_true (fun _ => awake others) fun empty => absurd empty others
  · rw [result]
    have linked : ((queueBefore state type delTypeFlag).link copy type room).nodes ≠ [] := by
      simp
    have waits : Awake (systemOsPost
        { state with queue := (queueBefore state type delTypeFlag).link copy type room }
        .sendJson) ↔ HasRoom state ∨ Pending state := by
      rw [Awake, post_queue, imp_iff_right linked]
      exact post_pending_iff rfl
    rw [waits]
    exact ⟨fun pending _ _ => pending, fun relayed => relayed empty present⟩

theorem timer_awake_iff (delay : Nat)
    (armed : state.sendQueueTimer = some delay) :
    Awake (cbSendQueueTimer { state with sendQueueTimer := none }) ↔ Relayed state .timer := by
  have ran : state.sendQueueTimer ≠ none := by
    rw [armed]
    exact Option.some_ne_none delay
  unfold cbSendQueueTimer
  split
  · rename_i positive
    have nonempty : state.queue.nodes ≠ [] := List.length_pos_iff.1 positive
    rw [Awake, post_queue, imp_iff_right nonempty, post_pending_iff rfl]
    rw [Relayed, imp_iff_right ran, imp_iff_right nonempty]
    simp [Pending, HasRoom]
  · rename_i zero
    have empty : state.queue.nodes = [] := List.eq_nil_of_length_eq_zero (Nat.eq_zero_of_not_pos zero)
    exact iff_of_true (fun more => absurd empty more) fun _ more => absurd empty more

theorem reply_pending {event : CoreEvent} (send : isSend event = true) (room : HasRoom state) :
    Pending (systemOsPost state event) :=
  (post_pending_iff send).2 (.inl room)

theorem send_json_awake {espconnRet : Int8} {next : SendState} (room : HasRoom state)
    (handled : iotgoPconnSendJson espconnRet state = some next) : Awake next := by
  cases front : state.queue.nodes with
  | nil => simp [iotgoPconnSendJson, front] at handled
  | cons node nodes =>
      rcases send_json_outcome espconnRet front with ⟨entries, event, outcome, result⟩
      rw [result] at handled
      cases handled
      intro _
      refine reply_pending ?_ ?_
      · cases outcome <;> rfl
      · exact room

theorem send_json_again_awake {next : SendState} (room : HasRoom state)
    (handled : iotgoPconnSendJsonAgain state = some next) : Awake next := by
  by_cases last : 3 ≤ state.sendCounter
  · by_cases empty : state.queue.nodes = []
    · simp [iotgoPconnSendJsonAgain, iotgoQueueHeadType, last, empty] at handled
    · rcases send_json_again_ends state last empty with result | result
      · rw [result] at handled
        cases handled
        intro more
        simp at more
      · rw [result] at handled
        cases handled
        intro _
        exact reply_pending rfl room
  · rcases send_json_again_waits state (Nat.lt_of_not_le last) with ⟨delay, result⟩
    rw [result] at handled
    cases handled
    intro _
    exact .inr (Option.some_ne_none delay)

theorem send_next_json_awake_iff {errorCode : IoTgoSendQueueStatu} {earned : Option Nat}
    (room : HasRoom state) :
    (∀ next, iotgoPconnSendNextJson errorCode earned state = some next → Awake next) ↔
      (continues errorCode = false → 2 ≤ state.queue.length → Pending state) := by
  cases front : state.queue.nodes with
  | nil =>
      refine iff_of_true ?_ ?_
      · intro next handled
        simp [iotgoPconnSendNextJson, front] at handled
      · intro _ more
        rw [LinkQueue.length, front] at more
        cases more
  | cons node nodes =>
      have length : state.queue.length = nodes.length + 1 := by
        rw [LinkQueue.length, front]
        rfl
      rcases send_next_json_cases front errorCode earned with
        ⟨next, reply, result, -, ⟨stops, rfl⟩ | ⟨goes, more, rfl⟩⟩
      · have left : ∀ next, iotgoPconnSendNextJson errorCode earned state = some next →
            (Awake next ↔ (nodes ≠ [] → Pending state)) := by
          intro next handled
          rw [result] at handled
          cases handled
          rw [Awake, delete_head_nodes, front]
          exact Iff.rfl
        constructor
        · intro awake _ two
          apply (left _ result).1 (awake _ result)
          intro none
          rw [length, none] at two
          exact absurd two (by decide)
        · intro relayed next handled
          apply (left next handled).2
          intro more
          rcases stops with stops | none
          · apply relayed stops
            have positive := List.length_pos_iff.2 more
            omega
          · exact absurd none more
      · refine iff_of_true ?_ ?_
        · intro next handled
          rw [result] at handled
          cases handled
          intro _
          have logged : ∀ after : SendState, Pending after →
              Pending { after with log := after.log ++ reply } := fun _ pending => pending
          exact logged _ (reply_pending rfl room)
        · intro stops
          rw [goes] at stops
          cases stops

theorem other_awake {espconnRet : Int8} {signal : CoreSignal} {next : SendState}
    (awake : Awake state)
    (handled : taskIoTgoNetworkCenter espconnRet state (.other signal) = some next) :
    Awake next := by
  cases signal with
  | serverConnected =>
      cases handled
      intro more
      simp at more
  | upgradeEnter =>
      cases handled
      intro more
      simp at more
  | wsConnect =>
      cases handled
      exact awake
  | registerErr =>
      cases handled
      exact awake
  | unrelated signal =>
      cases handled
      exact awake

theorem handle_awake_iff (bounded : Bounded state) (awake : Awake state) (espconnRet : Int8) :
    (∀ next, SendStep state (.handle espconnRet) next → Awake next) ↔
      Relayed state (.handle espconnRet) := by
  cases first : state.inbox with
  | nil =>
      refine iff_of_true ?_ ?_
      · intro next taken
        rw [(handle_idle_iff first espconnRet).1 taken]
        exact awake
      · rw [Relayed, first]
        trivial
  | cons posted rest =>
      have room : HasRoom { state with inbox := rest } := popped_room bounded first
      simp only [handle_iff first espconnRet]
      cases posted with
      | sendJson =>
          refine iff_of_true (fun next handled => send_json_awake room handled) ?_
          rw [Relayed, first]
          trivial
      | sendJsonAgain =>
          refine iff_of_true (fun next handled => send_json_again_awake room handled) ?_
          rw [Relayed, first]
          trivial
      | sendJsonFinished errorCode earned =>
          rw [Relayed, first]
          exact send_next_json_awake_iff room
      | other signal =>
          have popped : Awake { state with inbox := rest } := by
            intro more
            rcases awake more with ⟨event, member, send⟩ | armed
            · rw [first] at member
              rcases List.mem_cons.1 member with rfl | later
              · cases send
              · exact .inl ⟨event, later, send⟩
            · exact .inr armed
          refine iff_of_true (fun next handled => other_awake popped handled) ?_
          rw [Relayed, first]
          trivial

theorem task_bounded {espconnRet : Int8} {posted : CoreEvent} {next : SendState}
    (bounded : Bounded state) (handled : taskIoTgoNetworkCenter espconnRet state posted = some next) :
    Bounded next := by
  cases posted with
  | sendJson =>
      cases front : state.queue.nodes with
      | nil => simp [taskIoTgoNetworkCenter, iotgoPconnSendJson, front] at handled
      | cons node nodes =>
          rcases send_json_outcome espconnRet front with ⟨entries, event, -, result⟩
          rw [taskIoTgoNetworkCenter, result] at handled
          cases handled
          exact post_bounded _ _ bounded
  | sendJsonAgain =>
      rw [taskIoTgoNetworkCenter] at handled
      by_cases last : 3 ≤ state.sendCounter
      · by_cases empty : state.queue.nodes = []
        · simp [iotgoPconnSendJsonAgain, iotgoQueueHeadType, last, empty] at handled
        · rcases send_json_again_ends state last empty with result | result
          · rw [result] at handled
            cases handled
            exact post_bounded _ _ bounded
          · rw [result] at handled
            cases handled
            exact post_bounded _ _ bounded
      · rcases send_json_again_waits state (Nat.lt_of_not_le last) with ⟨delay, result⟩
        rw [result] at handled
        cases handled
        exact bounded
  | sendJsonFinished errorCode earned =>
      rw [taskIoTgoNetworkCenter] at handled
      cases front : state.queue.nodes with
      | nil => simp [iotgoPconnSendNextJson, front] at handled
      | cons node nodes =>
          rcases send_next_json_cases front errorCode earned with
            ⟨after, reply, result, -, ⟨-, rfl⟩ | ⟨-, -, rfl⟩⟩
          · rw [result] at handled
            cases handled
            exact bounded
          · rw [result] at handled
            cases handled
            exact post_bounded _ CoreEvent.sendJson bounded
  | other signal =>
      cases signal with
      | serverConnected =>
          cases handled
          exact post_bounded _ _ bounded
      | upgradeEnter =>
          cases handled
          exact bounded
      | wsConnect =>
          cases handled
          exact bounded
      | registerErr =>
          cases handled
          exact bounded
      | unrelated signal =>
          cases handled
          exact bounded

theorem step_awake_iff (bounded : Bounded state) (awake : Awake state) (event : SendEvent) :
    (∀ next, SendStep state event next → Awake next) ↔ Relayed state event := by
  have only : ∀ {next}, SendStep state event next →
      ((∀ other, SendStep state event other → Awake other) ↔ Awake next) := by
    intro next step
    constructor
    · intro all
      exact all next step
    · intro awake other step'
      rw [send_step_deterministic state event other next step' step]
      exact awake
  cases event with
  | add data type delTypeFlag =>
      rw [only rfl]
      exact add_awake_iff awake data type delTypeFlag
  | handle espconnRet => exact handle_awake_iff bounded awake espconnRet
  | timer =>
      cases armed : state.sendQueueTimer with
      | none =>
          rw [only ((timer_idle_iff armed).2 rfl)]
          exact iff_of_true awake fun ran => absurd armed ran
      | some delay =>
          rw [only ((timer_fires_iff armed).2 rfl)]
          exact timer_awake_iff delay armed
  | post signal =>
      rw [only rfl]
      refine iff_of_true (fun more => ?_) trivial
      rw [post_queue] at more
      rcases awake more with ⟨event, member, send⟩ | running
      · exact .inl ⟨event, post_keeps _ event member, send⟩
      · rw [← post_timer state (.other signal)] at running
        exact .inr running
  | setMode mode =>
      rw [only rfl]
      exact iff_of_true awake trivial

theorem step_bounded {event : SendEvent} {next : SendState} (bounded : Bounded state)
    (step : SendStep state event next) : Bounded next := by
  cases event with
  | add data type delTypeFlag =>
      cases step
      rcases queue_add_cases state data type delTypeFlag with
        ⟨result, -⟩ | ⟨copy, room, -, ⟨-, result⟩ | ⟨-, result⟩⟩
      · rw [result]
        exact bounded
      · rw [result]
        exact bounded
      · rw [result]
        exact post_bounded _ _ bounded
  | handle espconnRet =>
      cases first : state.inbox with
      | nil =>
          rw [(handle_idle_iff first espconnRet).1 step]
          exact bounded
      | cons posted rest =>
          have popped : Bounded { state with inbox := rest } :=
            Nat.le_of_lt (popped_room bounded first)
          exact task_bounded popped ((handle_iff first espconnRet).1 step)
  | timer =>
      cases armed : state.sendQueueTimer with
      | none =>
          rw [(timer_idle_iff armed).1 step]
          exact bounded
      | some delay =>
          rw [(timer_fires_iff armed).1 step]
          unfold cbSendQueueTimer
          split
          · exact post_bounded _ _ bounded
          · exact bounded
  | post signal =>
      cases step
      exact post_bounded _ _ bounded
  | setMode mode =>
      cases step
      exact bounded

end Steps

/-- The queue is never left without anything that drains it exactly in the runs
whose every step is relayed. -/
theorem queue_never_stuck (mode : IoTgoDeviceMode) (events : List SendEvent) :
    Keeps SendStep Awake (.initial mode) events ↔ Meets SendStep Relayed (.initial mode) events := by
  apply keeps_iff_meets Bounded
  · intro state event next bounded step
    exact step_bounded bounded step
  · intro state event bounded awake
    exact step_awake_iff bounded awake event
  · exact Nat.zero_le _
  · intro more
    exact absurd rfl more

/-- Without a network the first of two messages is given up, and nothing is left for
the second. -/
theorem queue_stuck :
    ∃ final, Run SendStep (.initial .workApOk)
        [.add (some [65, 0]) 97 false, .add (some [66, 0]) 97 false, .handle 0, .handle 0] final ∧
      ¬ Awake final := by
  have stuck : ∃ final, Run SendStep (.initial .workApOk)
      [.add (some [65, 0]) 97 false, .add (some [66, 0]) 97 false, .handle 0, .handle 0] final ∧
      (!decide (Awake final)) = true :=
    exists_run_of_exec (fun _ _ _ taken => taken) (by decide +kernel)
  rcases stuck with ⟨final, run, asleep⟩
  refine ⟨final, run, fun awake => ?_⟩
  simp [awake] at asleep

end IotgoFirmware.Send.SendWakeup
