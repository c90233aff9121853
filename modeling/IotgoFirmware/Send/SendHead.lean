import IotgoFirmware.Send.SendProtocol

/-!
# The head of the send queue is not read when there is none

A posted event about the head is handled later, and the handler reads `q->head`
without a test. The queue still has a head then if nothing empties it, and no
second event is posted, in between.
-/

namespace IotgoFirmware.Send.SendHead

open IotgoFirmware.Library.StepRuns
open IotgoFirmware.Library.StopAndWait
open IotgoFirmware.Send.SendQueue
open IotgoFirmware.Send.SendJson
open IotgoFirmware.Send.SendProtocol

set_option autoImplicit false

/-- The step does not read through a `NULL` head. -/
def HeadPresent (state : SendState) (event : SendEvent) : Prop :=
  sendStep state event ≠ none

/-- The queue is emptied, and the timer runs out for a queue that is not empty,
only while no event about the head is posted. -/
def Undisturbed (state : SendState) : SendEvent → Prop
  | .add data type delTypeFlag =>
      delTypeFlag = true → data = none →
        (iotgoDeleteType state.queue type).nodes = [] → Quiet state
  | .handle _ => state.inbox.head?.any clearsQueue = true → Quiet state
  | .timer => state.sendQueueTimer ≠ none → state.queue.nodes ≠ [] → Quiet state
  | .post _ => True
  | .setMode _ => True

instance (state : SendState) : (event : SendEvent) → Decidable (Undisturbed state event)
  | .add _ _ _ => inferInstanceAs (Decidable (_ = true → _ → _ → _))
  | .handle _ => inferInstanceAs (Decidable (_ = true → Quiet state))
  | .timer => inferInstanceAs (Decidable (_ → _ → Quiet state))
  | .post _ => isTrue trivial
  | .setMode _ => isTrue trivial

theorem task_faults_iff (espconnRet : Int8) (state : SendState) (posted : CoreEvent) :
    taskIoTgoNetworkCenter espconnRet state posted = none ↔
      holdsHead state.sendCounter posted = true ∧ state.queue.nodes = [] := by
  cases posted with
  | sendJson => simp [taskIoTgoNetworkCenter, iotgoPconnSendJson, holdsHead]
  | sendJsonAgain =>
      by_cases last : 3 ≤ state.sendCounter
      · simp [taskIoTgoNetworkCenter, iotgoPconnSendJsonAgain, iotgoQueueHeadType, holdsHead, last]
      · simp [taskIoTgoNetworkCenter, iotgoPconnSendJsonAgain, holdsHead, last]
  | sendJsonFinished errorCode earned =>
      simp [taskIoTgoNetworkCenter, iotgoPconnSendNextJson, holdsHead]
  | other signal => cases signal <;> simp [taskIoTgoNetworkCenter, holdsHead]

/-- The handlers that read the head are the ones of the events about it. -/
theorem head_absent_iff (state : SendState) (event : SendEvent) :
    ¬ HeadPresent state event ↔
      ∃ espconnRet posted rest, event = .handle espconnRet ∧ state.inbox = posted :: rest ∧
        holdsHead state.sendCounter posted = true ∧ state.queue.nodes = [] := by
  rw [HeadPresent, not_not]
  cases event with
  | handle espconnRet =>
      cases first : state.inbox with
      | nil => simp [sendStep, first]
      | cons posted rest =>
          simp only [sendStep, first, task_faults_iff]
          constructor
          · rintro ⟨held, empty⟩
            exact ⟨espconnRet, posted, rest, rfl, rfl, held, empty⟩
          · rintro ⟨_, _, _, -, same, held, empty⟩
            cases same
            exact ⟨held, empty⟩
  | timer =>
      cases armed : state.sendQueueTimer <;> simp [sendStep, armed]
  | add | post | setMode => simp [sendStep]

section Served

/-- At most one event about the head is posted, and then there is a head. -/
structure Served (state : SendState) (phase : Phase Nat) : Prop where
  inFlight : InFlight state.sendCounter phase (sends state)
  present : state.queue.nodes = [] → phase = .idle
  bounded : state.inbox.length ≤ coreQueueLength

variable {state : SendState} {phase : Phase Nat}

theorem served_idle (served : Served state phase) (quiet : Quiet state) : phase = .idle :=
  quiet_phase served.inFlight fun event member => quiet event (List.mem_of_mem_filter member)

theorem served_present (served : Served state phase) (busy : phase ≠ .idle) :
    ∃ node nodes, state.queue.nodes = node :: nodes :=
  List.exists_cons_of_ne_nil fun empty => busy (served.present empty)

/-- The queue may change while nothing about its head is posted, or where a head
stays. -/
theorem queue_served (served : Served state phase) (queue : LinkQueue)
    (present : queue.nodes = [] → phase = .idle) :
    Served { state with queue := queue } phase where
  inFlight := served.inFlight
  present := present
  bounded := served.bounded

theorem post_other_served (served : Served state phase) (signal : CoreSignal) :
    Served (systemOsPost state (.other signal)) phase where
  inFlight := by
    rw [sends_post_other, post_counter]
    exact served.inFlight
  present := by
    rw [post_queue]
    exact served.present
  bounded := post_bounded state _ served.bounded

theorem posted_served {event : CoreEvent} (send : isSend event = true)
    (room : state.inbox.length < coreQueueLength)
    (inFlight : InFlight state.sendCounter phase (sends state ++ [event]))
    (nonempty : state.queue.nodes ≠ []) : Served (systemOsPost state event) phase where
  inFlight := by
    rw [sends_post send room, post_counter]
    exact inFlight
  present := by
    rw [post_queue]
    exact fun empty => absurd empty nonempty
  bounded := post_bounded state event (Nat.le_of_lt room)

theorem wake_served (served : Served state .idle) (nonempty : state.queue.nodes ≠ []) :
    ∃ next, Served (systemOsPost state .sendJson) next := by
  by_cases room : state.inbox.length < coreQueueLength
  · exact ⟨.due, posted_served rfl room (in_flight_wakes served.inFlight) nonempty⟩
  · rw [systemOsPost, if_neg room]
    exact ⟨.idle, served⟩

theorem pop_other_served {signal : CoreSignal} {rest : List CoreEvent}
    (served : Served state phase) (first : state.inbox = .other signal :: rest) :
    Served { state with inbox := rest } phase where
  inFlight := by
    have popped := pop_other_in_flight served.inFlight first
    exact popped
  present := served.present
  bounded := Nat.le_of_lt (popped_room served.bounded first)

theorem add_served (served : Served state phase) {data : Option (List UInt8)} {type : UInt8}
    {delTypeFlag : Bool} (undisturbed : Undisturbed state (.add data type delTypeFlag)) :
    ∃ next, Served (iotgoQueueAdd state data type delTypeFlag).2 next := by
  rcases queue_add_cases state data type delTypeFlag with
    ⟨result, refused⟩ | ⟨copy, room, -, result⟩
  · rw [result]
    refine ⟨phase, queue_served served _ fun empty => ?_⟩
    cases delTypeFlag with
    | false => exact served.present empty
    | true =>
        rcases refused with absent | full
        · exact served_idle served (undisturbed rfl absent empty)
        · rw [LinkQueue.length, empty] at full
          cases full
  · have linked : ((queueBefore state type delTypeFlag).link copy type room).nodes ≠ [] := by
      simp
    have after := queue_served served _ fun empty => absurd empty linked
    rcases result with ⟨-, result⟩ | ⟨empty, result⟩
    · rw [result]
      exact ⟨phase, after⟩
    · rw [result]
      rw [served.present empty] at after
      exact wake_served after linked

theorem outcome_in_flight {sendCounter serial : Nat} {entries : List SendLog} {event : CoreEvent}
    (outcome : SendOutcome serial entries event) :
    isSend event = true ∧ ∃ phase, InFlight sendCounter phase [event] := by
  cases outcome with
  | accepted => exact ⟨rfl, _, .live .sent⟩
  | failed =>
      refine ⟨rfl, ?_⟩
      by_cases early : sendCounter < 3
      · exact ⟨_, .backoff early .idle⟩
      · exact ⟨_, .live (.spent (Nat.le_of_not_lt early))⟩
  | rejected _ error => exact ⟨rfl, _, .live (.failed error)⟩
  | unsent error => exact ⟨rfl, _, .live (.failed error)⟩

theorem send_json_served {rest : List CoreEvent} (served : Served state phase)
    (first : state.inbox = .sendJson :: rest) (espconnRet : Int8) :
    ∃ next after, iotgoPconnSendJson espconnRet { state with inbox := rest } = some next ∧
      Served next after := by
  have room := popped_room served.bounded first
  rcases in_flight_send (pop_in_flight served.inFlight first rfl) with ⟨rfl, nothing⟩
  rcases served_present served nofun with ⟨node, nodes, front⟩
  have popped : ({ state with inbox := rest } : SendState).queue.nodes = node :: nodes := front
  rcases send_json_outcome espconnRet popped with ⟨entries, event, outcome, result⟩
  rcases outcome_in_flight outcome with ⟨send, after, inFlight⟩
  refine ⟨_, after, result, posted_served send room ?_ ?_⟩
  · rw [sends, nothing]
    exact inFlight
  · rw [popped]
    exact List.cons_ne_nil node nodes

theorem send_json_again_served {rest : List CoreEvent} (served : Served state phase)
    (first : state.inbox = .sendJsonAgain :: rest) :
    ∃ next after, iotgoPconnSendJsonAgain { state with inbox := rest } = some next ∧
      Served next after := by
  have room := popped_room served.bounded first
  rcases in_flight_again (pop_in_flight served.inFlight first rfl) with
    ⟨early, live⟩ | ⟨last, rfl, nothing⟩
  · rcases send_json_again_waits { state with inbox := rest } early with ⟨delay, result⟩
    exact ⟨_, phase, result, .live (live_later early live), served.present, Nat.le_of_lt room⟩
  · rcases served_present served nofun with ⟨node, nodes, front⟩
    have nonempty : state.queue.nodes ≠ [] := by
      rw [front]
      exact List.cons_ne_nil node nodes
    have idle : InFlight 0 .idle (rest.filter isSend) := by
      rw [nothing]
      exact .live .idle
    rcases send_json_again_ends { state with inbox := rest } last nonempty with result | result
    · refine ⟨_, .idle, result, post_other_served ?_ _⟩
      exact ⟨idle, fun _ => rfl, Nat.le_of_lt room⟩
    · refine ⟨_, .answered none, result, posted_served rfl room ?_ nonempty⟩
      rw [sends, nothing]
      exact .live (.failed (by decide))

theorem send_next_json_served {errorCode : IoTgoSendQueueStatu} {earned : Option Nat}
    {rest : List CoreEvent} (served : Served state phase)
    (first : state.inbox = .sendJsonFinished errorCode earned :: rest) :
    ∃ next after, iotgoPconnSendNextJson errorCode earned { state with inbox := rest } = some next ∧
      Served next after := by
  have room := popped_room served.bounded first
  have idle : InFlight 0 .idle (rest.filter isSend) ∧ phase ≠ .idle := by
    rcases in_flight_finished (pop_in_flight served.inFlight first rfl) with ⟨nothing, cause⟩
    rw [nothing]
    refine ⟨.live .idle, ?_⟩
    rcases cause with ⟨-, rfl⟩ | ⟨serial, -, -, rfl⟩ <;> nofun
  rcases served_present served idle.2 with ⟨node, nodes, front⟩
  have popped : ({ state with inbox := rest } : SendState).queue.nodes = node :: nodes := front
  rcases send_next_json_cases popped errorCode earned with ⟨next, reply, result, -, goes⟩
  have deleted : Served
      { state with
        inbox := rest
        queue := iotgoQueueDeleteHead state.queue
        sendCounter := 0
        log := state.log ++ [.finished node.serial errorCode earned] } .idle :=
    ⟨idle.1, fun _ => rfl, Nat.le_of_lt room⟩
  have after : ∃ final, Served next final := by
    rcases goes with ⟨-, rfl⟩ | ⟨-, more, rfl⟩
    · exact ⟨.idle, deleted⟩
    · apply wake_served deleted
      rw [delete_head_nodes, front]
      exact more
  rcases after with ⟨final, kept⟩
  exact ⟨_, final, result, kept.inFlight, kept.present, kept.bounded⟩

theorem step_served {event : SendEvent} (served : Served state phase)
    (undisturbed : Undisturbed state event) :
    ∃ next after, SendStep state event next ∧ Served next after := by
  cases event with
  | add data type delTypeFlag =>
      rcases add_served served undisturbed with ⟨after, kept⟩
      exact ⟨_, after, rfl, kept⟩
  | post signal => exact ⟨_, phase, rfl, post_other_served served signal⟩
  | setMode mode => exact ⟨_, phase, rfl, served.inFlight, served.present, served.bounded⟩
  | timer =>
      cases armed : state.sendQueueTimer with
      | none =>
          exact ⟨state, phase, (timer_idle_iff armed).2 rfl, served⟩
      | some delay =>
          have fired : SendStep state .timer
              (cbSendQueueTimer { state with sendQueueTimer := none }) :=
            (timer_fires_iff armed).2 rfl
          have still : Served { state with sendQueueTimer := none } phase :=
            ⟨served.inFlight, served.present, served.bounded⟩
          unfold cbSendQueueTimer at fired
          split at fired
          · rename_i positive
            have nonempty : state.queue.nodes ≠ [] := List.length_pos_iff.1 positive
            have ran : state.sendQueueTimer ≠ none := by
              rw [armed]
              exact Option.some_ne_none delay
            rw [served_idle served (undisturbed ran nonempty)] at still
            rcases wake_served still nonempty with ⟨after, kept⟩
            exact ⟨_, after, fired, kept⟩
          · exact ⟨_, phase, fired, still⟩
  | handle espconnRet =>
      cases first : state.inbox with
      | nil =>
          exact ⟨state, phase, (handle_idle_iff first espconnRet).2 rfl, served⟩
      | cons posted rest =>
          have taken : ∀ next, taskIoTgoNetworkCenter espconnRet { state with inbox := rest } posted =
              some next → SendStep state (.handle espconnRet) next :=
            fun _ => (handle_iff first espconnRet).2
          cases posted with
          | sendJson =>
              rcases send_json_served served first espconnRet with ⟨next, after, handled, kept⟩
              exact ⟨next, after, taken next handled, kept⟩
          | sendJsonAgain =>
              rcases send_json_again_served served first with ⟨next, after, handled, kept⟩
              exact ⟨next, after, taken next handled, kept⟩
          | sendJsonFinished errorCode earned =>
              rcases send_next_json_served served first with ⟨next, after, handled, kept⟩
              exact ⟨next, after, taken next handled, kept⟩
          | other signal =>
              have popped := pop_other_served served first
              have cleared : clearsQueue (.other signal) = true →
                  Served { state with inbox := rest, queue := iotgoQueueDeleteAll state.queue }
                    phase := by
                intro clears
                apply queue_served popped
                intro empty
                apply served_idle served
                apply undisturbed
                rw [first]
                exact clears
              cases signal with
              | serverConnected =>
                  exact ⟨_, phase, taken _ rfl, post_other_served (cleared rfl) .wsConnect⟩
              | upgradeEnter => exact ⟨_, phase, taken _ rfl, cleared rfl⟩
              | wsConnect => exact ⟨_, phase, taken _ rfl, popped⟩
              | registerErr => exact ⟨_, phase, taken _ rfl, popped⟩
              | unrelated signal => exact ⟨_, phase, taken _ rfl, popped⟩

theorem initial_served (mode : IoTgoDeviceMode) : Served (.initial mode) .idle :=
  ⟨.live .idle, fun _ => rfl, Nat.zero_le _⟩

end Served

/-- In an undisturbed run the head is read only where there is one, and the run
goes to its end. -/
theorem head_never_empty (mode : IoTgoDeviceMode) (events : List SendEvent)
    (undisturbed : Meets SendStep Undisturbed (.initial mode) events) :
    Meets SendStep HeadPresent (.initial mode) events ∧
      ∃ final, Run SendStep (.initial mode) events final := by
  have progress : ∀ state event, (∃ phase, Served state phase) → Undisturbed state event →
      ∃ next, SendStep state event next ∧ ∃ after, Served next after := by
    rintro state event ⟨phase, served⟩ undisturbed
    rcases step_served served undisturbed with ⟨next, after, taken, kept⟩
    exact ⟨next, taken, after, kept⟩
  constructor
  · apply meets_imp (fun state => ∃ phase, Served state phase) _ _ ⟨.idle, initial_served mode⟩
      undisturbed
    · intro state event served undisturbed faults
      rcases progress state event served undisturbed with ⟨next, taken, -⟩
      rw [SendStep, faults] at taken
      cases taken
    · intro state event other served undisturbed step
      rcases progress state event served undisturbed with ⟨next, taken, kept⟩
      rw [send_step_deterministic state event other next step taken]
      exact kept
  · exact run_of_meets _ progress ⟨.idle, initial_served mode⟩ undisturbed

theorem head_never_empty_retried :
    Meets SendStep HeadPresent (.initial .workInit) retriedEvents ∧
      ∃ final, Run SendStep (.initial .workInit) retriedEvents final :=
  head_never_empty .workInit retriedEvents
    (meets_of_exec send_step_deterministic (fun _ _ _ taken => taken) (by decide +kernel))

/-- `MSG_CORE_UPGRADE_ENTER` clears the queue before the `MSG_CORE_SEND_JSON` behind
it is handled. -/
theorem empty_head_read :
    ∃ reached, Run SendStep (.initial .workNormal)
        [.post .upgradeEnter, .add (some [65, 0]) 97 false, .handle 0] reached ∧
      ¬ HeadPresent reached (.handle 0) := by
  have faulted : ∃ reached, Run SendStep (.initial .workNormal)
      [.post .upgradeEnter, .add (some [65, 0]) 97 false, .handle 0] reached ∧
      (sendStep reached (.handle 0)).isNone = true :=
    exists_run_of_exec (fun _ _ _ taken => taken) (by decide +kernel)
  rcases faulted with ⟨reached, run, faults⟩
  exact ⟨reached, run, not_not_intro (Option.isNone_iff_eq_none.1 faults)⟩

end IotgoFirmware.Send.SendHead
