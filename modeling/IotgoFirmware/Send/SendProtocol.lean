import IotgoFirmware.Library.StopAndWait
import IotgoFirmware.Send.SendJson

/-!
# What is deleted is what was sent

The core task, its event queue and the send queue refine a stop-and-wait sender
as long as nothing interferes with an event that is about the head of the queue.
Clearing the queue, deleting the head by its type and the retry timer can
interfere: none of them withdraws the events that are already posted.
-/

namespace IotgoFirmware.Send.SendProtocol

open IotgoFirmware.Library.StepRuns
open IotgoFirmware.Library.StopAndWait
open IotgoFirmware.Send.SendQueue
open IotgoFirmware.Send.SendJson

set_option autoImplicit false

/-- The nodes whose bytes `espconn_send` has accepted. -/
def acceptedSerials (log : List SendLog) : List Nat :=
  log.filterMap fun entry =>
    match entry with
    | .attempt serial _ ret => if ret = 0 then some serial else none
    | _ => none

/-- The nodes deleted for `IOTGO_SEND_OK`, each with the node that earned it. -/
def okDeletions (log : List SendLog) : List (Nat × Option Nat) :=
  log.filterMap fun entry =>
    match entry with
    | .finished serial .sendOk earned => some (serial, earned)
    | _ => none

structure SentIsDeleted (state : SendState) : Prop where
  matched : ∀ deletion ∈ okDeletions state.log, deletion.2 = some deletion.1
  earned : ∀ deletion ∈ okDeletions state.log, deletion.1 ∈ acceptedSerials state.log
  acceptedOnce : (acceptedSerials state.log).Nodup
  deletedOnce : ((okDeletions state.log).map Prod.fst).Nodup

/-- Whether the task will send or delete the head when it handles the event. -/
def holdsHead (sendCounter : Nat) : CoreEvent → Bool
  | .sendJson => true
  | .sendJsonAgain => 3 ≤ sendCounter
  | .sendJsonFinished _ _ => true
  | .other _ => false

def clearsQueue : CoreEvent → Bool
  | .other .serverConnected => true
  | .other .upgradeEnter => true
  | _ => false

def reportsOk : CoreEvent → Bool
  | .sendJsonFinished .sendOk _ => true
  | _ => false

/-- No posted event is about the head of the queue. -/
def Quiet (state : SendState) : Prop :=
  ∀ event ∈ state.inbox, holdsHead state.sendCounter event = false

instance (state : SendState) : Decidable (Quiet state) :=
  inferInstanceAs (Decidable (∀ event ∈ state.inbox, holdsHead state.sendCounter event = false))

/-- The queue is cleared, and the timer runs out for a queue that is not empty,
only while no event about the head is posted; the head is not deleted by its type
while its `IOTGO_SEND_OK` is; and the only node is not deleted for `NULL` data
while an event about it is. -/
def Orderly (state : SendState) : SendEvent → Prop
  | .add data type delTypeFlag =>
      delTypeFlag = true →
        (iotgoQueueHeadType state.queue = some type →
          ∀ event ∈ state.inbox, reportsOk event = false) ∧
        (data = none → (iotgoDeleteType state.queue type).nodes = [] → Quiet state)
  | .handle _ => state.inbox.head?.any clearsQueue = true → Quiet state
  | .timer => state.sendQueueTimer ≠ none → state.queue.nodes ≠ [] → Quiet state
  | .post _ => True
  | .setMode _ => True

instance (state : SendState) : (event : SendEvent) → Decidable (Orderly state event)
  | .add _ _ _ => inferInstanceAs (Decidable (_ = true → (_ → _) ∧ (_ → _ → _)))
  | .handle _ => inferInstanceAs (Decidable (_ = true → Quiet state))
  | .timer => inferInstanceAs (Decidable (_ → _ → Quiet state))
  | .post _ => isTrue trivial
  | .setMode _ => isTrue trivial

section InFlight

def isSend : CoreEvent → Bool
  | .other _ => false
  | _ => true

def sends (state : SendState) : List CoreEvent :=
  state.inbox.filter isSend

/-- The events about the head in each phase. -/
inductive Live (sendCounter : Nat) : Phase Nat → List CoreEvent → Prop where
  | idle : Live sendCounter .idle []
  | due : Live sendCounter .due [.sendJson]
  | spent (last : 3 ≤ sendCounter) : Live sendCounter (.answered none) [.sendJsonAgain]
  | failed {errorCode : IoTgoSendQueueStatu} (failure : errorCode ≠ .sendOk) :
      Live sendCounter (.answered none) [.sendJsonFinished errorCode none]
  | sent {serial : Nat} :
      Live sendCounter (.answered (some serial)) [.sendJsonFinished .sendOk (some serial)]

/-- A retry that only starts the timer may stand before them. -/
inductive InFlight (sendCounter : Nat) (phase : Phase Nat) : List CoreEvent → Prop where
  | live {events : List CoreEvent} (live : Live sendCounter phase events) :
      InFlight sendCounter phase events
  | backoff {events : List CoreEvent} (early : sendCounter < 3)
      (live : Live sendCounter phase events) :
      InFlight sendCounter phase (.sendJsonAgain :: events)

theorem live_idle {sendCounter : Nat} {events : List CoreEvent}
    (live : Live sendCounter .idle events) : events = [] := by
  cases live
  rfl

theorem live_quiet {sendCounter : Nat} {phase : Phase Nat} {events : List CoreEvent}
    (live : Live sendCounter phase events)
    (silent : ∀ event ∈ events, holdsHead sendCounter event = false) : phase = .idle := by
  cases live with
  | idle => rfl
  | due => exact absurd (silent _ List.mem_cons_self) Bool.noConfusion
  | spent last =>
      have held := silent _ List.mem_cons_self
      simp only [holdsHead, decide_eq_false_iff_not] at held
      exact absurd last held
  | failed => exact absurd (silent _ List.mem_cons_self) Bool.noConfusion
  | sent => exact absurd (silent _ List.mem_cons_self) Bool.noConfusion

/-- Nothing about the head is posted in the idle phase only. -/
theorem quiet_phase {sendCounter : Nat} {phase : Phase Nat} {events : List CoreEvent}
    (inFlight : InFlight sendCounter phase events)
    (silent : ∀ event ∈ events, holdsHead sendCounter event = false) : phase = .idle := by
  cases inFlight with
  | live live => exact live_quiet live silent
  | backoff _ live =>
      exact live_quiet live fun event member => silent event (List.mem_cons_of_mem _ member)

/-- In the idle phase the head may be sent for. -/
theorem in_flight_wakes {sendCounter : Nat} {events : List CoreEvent}
    (inFlight : InFlight sendCounter .idle events) :
    InFlight sendCounter .due (events ++ [.sendJson]) := by
  cases inFlight with
  | live quiet =>
      rw [live_idle quiet]
      exact .live .due
  | backoff early quiet =>
      rw [live_idle quiet]
      exact .backoff early .due

theorem live_later {sendCounter : Nat} {phase : Phase Nat} {events : List CoreEvent}
    (early : sendCounter < 3) (live : Live sendCounter phase events) :
    Live (sendCounter + 1) phase events := by
  cases live with
  | idle => exact .idle
  | due => exact .due
  | spent last => omega
  | failed failure => exact .failed failure
  | sent => exact .sent

theorem in_flight_send {sendCounter : Nat} {phase : Phase Nat} {rest : List CoreEvent}
    (inFlight : InFlight sendCounter phase (.sendJson :: rest)) : phase = .due ∧ rest = [] := by
  cases inFlight with
  | live live =>
      cases live
      exact ⟨rfl, rfl⟩

theorem in_flight_again {sendCounter : Nat} {phase : Phase Nat} {rest : List CoreEvent}
    (inFlight : InFlight sendCounter phase (.sendJsonAgain :: rest)) :
    sendCounter < 3 ∧ Live sendCounter phase rest ∨
      3 ≤ sendCounter ∧ phase = .answered none ∧ rest = [] := by
  cases inFlight with
  | live live =>
      cases live with
      | spent last => exact .inr ⟨last, rfl, rfl⟩
  | backoff early live => exact .inl ⟨early, live⟩

theorem in_flight_finished {sendCounter : Nat} {phase : Phase Nat} {rest : List CoreEvent}
    {errorCode : IoTgoSendQueueStatu} {earned : Option Nat}
    (inFlight : InFlight sendCounter phase (.sendJsonFinished errorCode earned :: rest)) :
    rest = [] ∧
      (errorCode ≠ .sendOk ∧ phase = .answered none ∨
        ∃ serial, errorCode = .sendOk ∧ earned = some serial ∧
          phase = .answered (some serial)) := by
  cases inFlight with
  | live live =>
      cases live with
      | failed failure => exact ⟨rfl, .inl ⟨failure, rfl⟩⟩
      | @sent serial => exact ⟨rfl, .inr ⟨serial, rfl, rfl, rfl⟩⟩

/-- The task and the sender it refines. -/
structure Matches (state : SendState) (sender : Sender Nat) : Prop where
  waiting : sender.waiting = state.queue.serials
  inFlight : InFlight state.sendCounter sender.phase (sends state)
  accepted : sender.accepted = acceptedSerials state.log
  settled : sender.settled.map (fun pair => (pair.1, some pair.2)) = okDeletions state.log
  bounded : state.inbox.length ≤ coreQueueLength
  numbered : ∀ serial ∈ acceptedSerials state.log, serial < state.queue.allocated

def Tracked (state : SendState) : Prop :=
  ∃ sender, Sound sender ∧ Matches state sender

end InFlight

section Logs

@[simp] theorem accepted_append (log entries : List SendLog) :
    acceptedSerials (log ++ entries) = acceptedSerials log ++ acceptedSerials entries :=
  List.filterMap_append

@[simp] theorem deletions_append (log entries : List SendLog) :
    okDeletions (log ++ entries) = okDeletions log ++ okDeletions entries :=
  List.filterMap_append

theorem accepted_attempt (serial : Nat) (packet : List UInt8) (ret : Int8) :
    acceptedSerials [.attempt serial packet ret] = if ret = 0 then [serial] else [] := by
  simp only [acceptedSerials, List.filterMap_cons, List.filterMap_nil]
  split_ifs <;> rfl

theorem deletions_failed {errorCode : IoTgoSendQueueStatu} (failure : errorCode ≠ .sendOk)
    (serial : Nat) (earned : Option Nat) : okDeletions [.finished serial errorCode earned] = [] := by
  cases errorCode with
  | sendOk => exact absurd rfl failure
  | _ => rfl

end Logs

section Matching

variable {state : SendState} {sender : Sender Nat}

/-- The mode, the timer and the replies are no part of the refinement. -/
theorem matches_transfer {next : SendState} (matched : Matches state sender)
    (queue : next.queue = state.queue) (counter : next.sendCounter = state.sendCounter)
    (inbox : next.inbox = state.inbox)
    (accepted : acceptedSerials next.log = acceptedSerials state.log)
    (deletions : okDeletions next.log = okDeletions state.log) : Matches next sender where
  waiting := queue ▸ matched.waiting
  inFlight := by
    rw [sends, inbox, counter]
    exact matched.inFlight
  accepted := accepted ▸ matched.accepted
  settled := deletions ▸ matched.settled
  bounded := inbox ▸ matched.bounded
  numbered := by
    rw [accepted, queue]
    exact matched.numbered

theorem queue_matches (matched : Matches state sender) {queue : LinkQueue}
    (allocated : state.queue.allocated ≤ queue.allocated) :
    Matches { state with queue := queue } { sender with waiting := queue.serials } where
  waiting := rfl
  inFlight := matched.inFlight
  accepted := matched.accepted
  settled := matched.settled
  bounded := matched.bounded
  numbered serial member := (matched.numbered serial member).trans_le allocated

theorem sends_post_other (state : SendState) (signal : CoreSignal) :
    sends (systemOsPost state (.other signal)) = sends state := by
  unfold sends
  rcases post_cases state (.other signal) with posted | full
  · rw [posted, List.filter_append]
    exact List.append_nil _
  · rw [full]

theorem post_other_matches (matched : Matches state sender) (signal : CoreSignal) :
    Matches (systemOsPost state (.other signal)) sender where
  waiting := by
    rw [post_queue]
    exact matched.waiting
  inFlight := by
    rw [sends_post_other, post_counter]
    exact matched.inFlight
  accepted := by
    rw [post_log]
    exact matched.accepted
  settled := by
    rw [post_log]
    exact matched.settled
  bounded := post_bounded state _ matched.bounded
  numbered := by
    rw [post_log, post_queue]
    exact matched.numbered

theorem sends_post {event : CoreEvent} (send : isSend event = true)
    (room : state.inbox.length < coreQueueLength) :
    sends (systemOsPost state event) = sends state ++ [event] := by
  rw [sends, post_inbox state event room, List.filter_append, List.filter_singleton, send]
  rfl

theorem quiet_idle (matched : Matches state sender) (quiet : Quiet state) :
    sender.phase = .idle :=
  quiet_phase matched.inFlight fun event member => quiet event (List.mem_of_mem_filter member)

theorem posted_matches {event : CoreEvent} (send : isSend event = true)
    (room : state.inbox.length < coreQueueLength)
    (waiting : sender.waiting = state.queue.serials)
    (inFlight : InFlight state.sendCounter sender.phase (sends state ++ [event]))
    (accepted : sender.accepted = acceptedSerials state.log)
    (settled : sender.settled.map (fun pair => (pair.1, some pair.2)) = okDeletions state.log)
    (numbered : ∀ serial ∈ acceptedSerials state.log, serial < state.queue.allocated) :
    Matches (systemOsPost state event) sender where
  waiting := by
    rw [post_queue]
    exact waiting
  inFlight := by
    rw [sends_post send room, post_counter]
    exact inFlight
  accepted := by
    rw [post_log]
    exact accepted
  settled := by
    rw [post_log]
    exact settled
  bounded := post_bounded state event (Nat.le_of_lt room)
  numbered := by
    rw [post_log, post_queue]
    exact numbered

/-- The head is sent for once more, if the event queue takes the event. -/
theorem wake_tracked (sound : Sound sender) (matched : Matches state sender)
    (nonempty : sender.waiting ≠ []) (idle : sender.phase = .idle) :
    Tracked (systemOsPost state .sendJson) := by
  by_cases room : state.inbox.length < coreQueueLength
  · refine ⟨{ sender with phase := .due }, step_sound sound (.wake nonempty idle), ?_⟩
    refine posted_matches rfl room matched.waiting ?_ matched.accepted matched.settled
      matched.numbered
    have inFlight := matched.inFlight
    rw [idle] at inFlight
    exact in_flight_wakes inFlight
  · rw [systemOsPost, if_neg room]
    exact ⟨sender, sound, matched⟩

end Matching

section Add

variable {state : SendState} {sender : Sender Nat}

theorem answered_reported (matched : Matches state sender) {serial : Nat}
    (answered : sender.phase = .answered (some serial)) :
    ∃ event ∈ state.inbox, reportsOk event = true := by
  have posted : .sendJsonFinished .sendOk (some serial) ∈ sends state := by
    have inFlight := matched.inFlight
    rw [answered] at inFlight
    generalize sends state = events at inFlight ⊢
    cases inFlight with
    | live live =>
        cases live
        exact List.mem_cons_self
    | backoff _ live =>
        cases live
        exact List.mem_cons_of_mem _ List.mem_cons_self
  exact ⟨_, List.mem_of_mem_filter posted, rfl⟩

/-- The first node of the type is withdrawn, wherever the queue goes on. -/
theorem delete_type_steps (sound : Sound sender) {queue : LinkQueue} {type : UInt8}
    {more : List Nat} (waiting : sender.waiting = queue.serials ++ more)
    (head : iotgoQueueHeadType queue = some type →
      ∀ serial, sender.phase ≠ .answered (some serial))
    (left : (iotgoDeleteType queue type).serials ++ more = [] → sender.phase = .idle) :
    Steps sender { sender with waiting := (iotgoDeleteType queue type).serials ++ more } := by
  rcases delete_type_cases queue type with ⟨-, same⟩ | ⟨front, node, back, split, typed, -, cut⟩
  · have still : (iotgoDeleteType queue type).serials ++ more = sender.waiting := by
      rw [waiting, LinkQueue.serials, same]
      rfl
    rw [still]
  · have whole : sender.waiting =
        front.map QNode.serial ++ node.serial :: (back.map QNode.serial ++ more) := by
      rw [waiting, LinkQueue.serials, split]
      simp
    have rest : (iotgoDeleteType queue type).serials ++ more =
        front.map QNode.serial ++ (back.map QNode.serial ++ more) := by
      rw [LinkQueue.serials, cut]
      simp
    rw [rest] at left ⊢
    refine .single (.withdraw whole ?_ left)
    intro answered
    have first := sound.earned _ answered
    have distinct := sound.distinct
    rw [whole] at first distinct
    cases front with
    | nil =>
        apply head _ _ answered
        rw [iotgoQueueHeadType, split]
        exact congrArg some typed
    | cons earlier front =>
        have same : earlier.serial = node.serial := Option.some.inj first
        rw [List.map_cons, List.cons_append, List.nodup_cons] at distinct
        apply distinct.1
        rw [same]
        exact List.mem_append_right _ List.mem_cons_self

theorem queue_before_steps (matched : Matches state sender) {data : Option (List UInt8)}
    {type : UInt8} {delTypeFlag : Bool} (orderly : Orderly state (.add data type delTypeFlag))
    {longer : Sender Nat} (sound : Sound longer) (phase : longer.phase = sender.phase)
    (more : List Nat) (waiting : longer.waiting = state.queue.serials ++ more)
    (left : delTypeFlag = true →
      (iotgoDeleteType state.queue type).serials ++ more = [] → longer.phase = .idle) :
    Steps longer
      { longer with waiting := (queueBefore state type delTypeFlag).serials ++ more } := by
  cases delTypeFlag with
  | false =>
      have still : (queueBefore state type false).serials ++ more = longer.waiting := waiting.symm
      rw [still]
  | true =>
      refine delete_type_steps sound waiting ?_ (left rfl)
      intro head serial answered
      rw [phase] at answered
      rcases answered_reported matched answered with ⟨event, posted, reports⟩
      rw [(orderly rfl).1 head event posted] at reports
      cases reports

theorem add_tracked (sound : Sound sender) (matched : Matches state sender)
    {data : Option (List UInt8)} {type : UInt8} {delTypeFlag : Bool}
    (orderly : Orderly state (.add data type delTypeFlag)) :
    Tracked (iotgoQueueAdd state data type delTypeFlag).2 := by
  have kept := queue_before_allocated state type delTypeFlag
  rcases queue_add_cases state data type delTypeFlag with
    ⟨result, refused⟩ | ⟨copy, room, -, result⟩
  · rw [result]
    have cleared : delTypeFlag = true →
        (iotgoDeleteType state.queue type).serials ++ [] = [] → sender.phase = .idle := by
      rintro rfl nothing
      rw [List.append_nil, serials_eq_nil_iff] at nothing
      rcases refused with absent | full
      · exact quiet_idle matched ((orderly rfl).2 absent nothing)
      · rw [queueBefore, if_pos rfl, LinkQueue.length, nothing] at full
        cases full
    have whole : sender.waiting = state.queue.serials ++ [] := by
      rw [List.append_nil]
      exact matched.waiting
    have steps := queue_before_steps matched orderly sound rfl [] whole cleared
    rw [List.append_nil] at steps
    exact ⟨_, steps_sound sound steps, queue_matches matched kept.ge⟩
  · have fresh : sender.Fresh (queueBefore state type delTypeFlag).allocated := by
      rw [kept]
      constructor
      · rw [matched.waiting]
        exact state.queue.fresh_serial
      · intro accepted
        rw [matched.accepted] at accepted
        exact Nat.lt_irrefl _ (matched.numbered _ accepted)
    have enqueued := step_sound sound (.enqueue fresh)
    have steps := queue_before_steps matched orderly enqueued rfl
      [(queueBefore state type delTypeFlag).allocated] (by rw [matched.waiting]) (by simp)
    rw [← link_serials _ copy type room] at steps
    have linked := steps_sound enqueued steps
    have matches' : Matches
        { state with queue := (queueBefore state type delTypeFlag).link copy type room }
        { sender with
          waiting := ((queueBefore state type delTypeFlag).link copy type room).serials } := by
      apply queue_matches matched
      rw [link_allocated, kept]
      exact Nat.le_succ _
    rcases result with ⟨-, result⟩ | ⟨empty, result⟩
    · rw [result]
      exact ⟨_, linked, matches'⟩
    · rw [result]
      apply wake_tracked linked matches'
      · simp
      · apply sound.busy
        rw [matched.waiting, serials_eq_nil_iff]
        exact empty

end Add

section Handle

variable {state : SendState} {sender : Sender Nat}

/-- The send event in front and what it says about the phase. -/
theorem pop_in_flight {phase : Phase Nat} {event : CoreEvent} {rest : List CoreEvent}
    (inFlight : InFlight state.sendCounter phase (sends state))
    (first : state.inbox = event :: rest) (send : isSend event = true) :
    InFlight state.sendCounter phase (event :: rest.filter isSend) := by
  rw [sends, first, List.filter_cons_of_pos send] at inFlight
  exact inFlight

/-- An event that is no send event is in front of the same send events. -/
theorem pop_other_in_flight {phase : Phase Nat} {signal : CoreSignal} {rest : List CoreEvent}
    (inFlight : InFlight state.sendCounter phase (sends state))
    (first : state.inbox = .other signal :: rest) :
    InFlight state.sendCounter phase (sends { state with inbox := rest }) := by
  rw [sends, first] at inFlight
  exact inFlight

/-- An event other than a send one leaves the queue without a trace. -/
theorem pop_other_matches {signal : CoreSignal} {rest : List CoreEvent}
    (matched : Matches state sender) (first : state.inbox = .other signal :: rest) :
    Matches { state with inbox := rest } sender where
  waiting := matched.waiting
  inFlight := by
    have popped := pop_other_in_flight matched.inFlight first
    exact popped
  accepted := matched.accepted
  settled := matched.settled
  bounded := Nat.le_of_lt (popped_room matched.bounded first)
  numbered := matched.numbered

theorem clear_tracked (sound : Sound sender) (matched : Matches state sender)
    (idle : sender.phase = .idle) :
    Tracked { state with queue := iotgoQueueDeleteAll state.queue } := by
  refine ⟨{ sender with waiting := [] }, step_sound sound (.clear idle), ?_⟩
  rw [← delete_all_serials state.queue]
  exact queue_matches matched (delete_all_allocated state.queue).ge

theorem busy_front (sound : Sound sender) (matched : Matches state sender)
    (busy : sender.phase ≠ .idle) : ∃ node rest, state.queue.nodes = node :: rest := by
  apply List.exists_cons_of_ne_nil
  intro empty
  apply busy
  apply sound.busy
  rw [matched.waiting, serials_eq_nil_iff]
  exact empty

/-- The head was not accepted; it is tried again or given up. -/
theorem refused_tracked {event : CoreEvent} {rest : List CoreEvent} {entries : List SendLog}
    (sound : Sound sender) (matched : Matches state sender) (due : sender.phase = .due)
    (room : rest.length < coreQueueLength) (nothing : rest.filter isSend = [])
    (unaccepted : acceptedSerials entries = []) (undeleted : okDeletions entries = [])
    (send : isSend event = true)
    (inFlight : InFlight state.sendCounter (.answered none) [event] ∨
      InFlight state.sendCounter .idle [event]) :
    Tracked (systemOsPost { state with inbox := rest, log := state.log ++ entries } event) := by
  have accepted : acceptedSerials (state.log ++ entries) = acceptedSerials state.log := by
    rw [accepted_append, unaccepted, List.append_nil]
  have deletions : okDeletions (state.log ++ entries) = okDeletions state.log := by
    rw [deletions_append, undeleted, List.append_nil]
  have refused := step_sound sound (.refuse due)
  have posted : ∀ phase, InFlight state.sendCounter phase [event] →
      Matches (systemOsPost { state with inbox := rest, log := state.log ++ entries } event)
        { sender with phase := phase } := by
    intro phase inFlight
    refine posted_matches send room matched.waiting ?_ ?_ ?_ ?_
    · rw [sends, nothing]
      exact inFlight
    · rw [accepted]
      exact matched.accepted
    · rw [deletions]
      exact matched.settled
    · rw [accepted]
      exact matched.numbered
  rcases inFlight with again | idle
  · exact ⟨_, refused, posted _ again⟩
  · exact ⟨_, step_sound refused (.rest rfl), posted _ idle⟩

theorem accepted_tracked {node : QNode} {nodes : List QNode} {rest : List CoreEvent}
    {packet : List UInt8} (sound : Sound sender) (matched : Matches state sender)
    (due : sender.phase = .due) (front : state.queue.nodes = node :: nodes)
    (room : rest.length < coreQueueLength) (nothing : rest.filter isSend = []) :
    Tracked
      (systemOsPost
        { state with inbox := rest, log := state.log ++ [.attempt node.serial packet 0] }
        (.sendJsonFinished .sendOk (some node.serial))) := by
  have first : sender.waiting = node.serial :: nodes.map QNode.serial := by
    rw [matched.waiting, LinkQueue.serials, front]
    rfl
  refine ⟨_, step_sound sound (.accept first due), ?_⟩
  have accepted : acceptedSerials (state.log ++ [.attempt node.serial packet 0]) =
      acceptedSerials state.log ++ [node.serial] := by
    rw [accepted_append, accepted_attempt, if_pos rfl]
  refine posted_matches rfl room matched.waiting ?_ ?_ ?_ ?_
  · rw [sends, nothing]
    exact .live .sent
  · rw [accepted, matched.accepted]
  · rw [deletions_append]
    exact matched.settled.trans (List.append_nil _).symm
  · intro serial member
    rw [accepted] at member
    rcases List.mem_append.1 member with old | new
    · exact matched.numbered serial old
    · rw [List.mem_singleton.1 new]
      apply state.queue.numbered
      rw [front]
      exact List.mem_cons_self

theorem send_json_tracked {rest : List CoreEvent} (sound : Sound sender)
    (matched : Matches state sender) (first : state.inbox = .sendJson :: rest)
    (espconnRet : Int8) :
    ∃ next, iotgoPconnSendJson espconnRet { state with inbox := rest } = some next ∧
      Tracked next := by
  have room := popped_room matched.bounded first
  rcases in_flight_send (pop_in_flight matched.inFlight first rfl) with ⟨due, nothing⟩
  have busy : sender.phase ≠ .idle := by
    rw [due]
    intro clash
    cases clash
  rcases busy_front sound matched busy with ⟨node, nodes, front⟩
  have popped : ({ state with inbox := rest } : SendState).queue.nodes = node :: nodes := front
  rcases send_json_outcome espconnRet popped with ⟨entries, event, outcome, result⟩
  refine ⟨_, result, ?_⟩
  change Tracked (systemOsPost { state with inbox := rest, log := state.log ++ entries } event)
  cases outcome with
  | accepted => exact accepted_tracked sound matched due front room nothing
  | @failed packet ret failure =>
      refine refused_tracked sound matched due room nothing ?_ rfl rfl ?_
      · rw [accepted_attempt, if_neg failure]
      · by_cases early : state.sendCounter < 3
        · exact .inr (.backoff early .idle)
        · exact .inl (.live (.spent (Nat.le_of_not_lt early)))
  | rejected failure error =>
      refine refused_tracked sound matched due room nothing ?_ rfl rfl (.inl (.live (.failed error)))
      rw [accepted_attempt, if_neg failure]
  | unsent error =>
      exact refused_tracked sound matched due room nothing rfl rfl rfl (.inl (.live (.failed error)))

theorem send_json_again_tracked {rest : List CoreEvent} (sound : Sound sender)
    (matched : Matches state sender) (first : state.inbox = .sendJsonAgain :: rest) :
    ∃ next, iotgoPconnSendJsonAgain { state with inbox := rest } = some next ∧ Tracked next := by
  have room := popped_room matched.bounded first
  rcases in_flight_again (pop_in_flight matched.inFlight first rfl) with
    ⟨early, live⟩ | ⟨last, answered, nothing⟩
  · rcases send_json_again_waits { state with inbox := rest } early with ⟨delay, result⟩
    refine ⟨_, result, sender, sound, ?_⟩
    exact
      { waiting := matched.waiting
        inFlight := .live (live_later early live)
        accepted := matched.accepted
        settled := matched.settled
        bounded := Nat.le_of_lt room
        numbered := matched.numbered }
  · have busy : sender.phase ≠ .idle := by
      rw [answered]
      intro clash
      cases clash
    rcases busy_front sound matched busy with ⟨node, nodes, front⟩
    have nonempty : state.queue.nodes ≠ [] := by
      rw [front]
      exact List.cons_ne_nil node nodes
    rcases send_json_again_ends { state with inbox := rest } last nonempty with result | result
    · refine ⟨_, result, { sender with phase := .idle, waiting := [] }, ?_, ?_⟩
      · exact step_sound (step_sound sound (.rest answered)) (.clear rfl)
      · apply post_other_matches
        exact
          { waiting := (delete_all_serials state.queue).symm
            inFlight := by
              rw [sends, nothing]
              exact .live .idle
            accepted := matched.accepted
            settled := matched.settled
            bounded := Nat.le_of_lt room
            numbered := by
              rw [delete_all_allocated]
              exact matched.numbered }
    · refine ⟨_, result, sender, sound, ?_⟩
      refine posted_matches rfl room matched.waiting ?_ matched.accepted matched.settled
        matched.numbered
      rw [sends, nothing, answered]
      exact .live (.failed (by decide))

/-- The head is gone, and nothing is outstanding. -/
theorem deleted_head {errorCode : IoTgoSendQueueStatu} {earned : Option Nat}
    {rest : List CoreEvent} {node : QNode} {nodes : List QNode} (sound : Sound sender)
    (matched : Matches state sender)
    (first : state.inbox = .sendJsonFinished errorCode earned :: rest)
    (front : state.queue.nodes = node :: nodes) :
    ∃ twin, Sound twin ∧ twin.phase = .idle ∧ twin.waiting = nodes.map QNode.serial ∧
      Matches
        { state with
          inbox := rest
          queue := iotgoQueueDeleteHead state.queue
          sendCounter := 0
          log := state.log ++ [.finished node.serial errorCode earned] }
        twin := by
  have room := popped_room matched.bounded first
  have ahead : sender.waiting = node.serial :: nodes.map QNode.serial := by
    rw [matched.waiting, LinkQueue.serials, front]
    rfl
  have shorter : (iotgoQueueDeleteHead state.queue).serials = nodes.map QNode.serial := by
    rw [LinkQueue.serials, delete_head_nodes, front]
    rfl
  have unaccepted : acceptedSerials (state.log ++ [.finished node.serial errorCode earned]) =
      acceptedSerials state.log := by
    rw [accepted_append]
    exact List.append_nil _
  rcases in_flight_finished (pop_in_flight matched.inFlight first rfl) with
    ⟨nothing, ⟨failure, answered⟩ | ⟨serial, rfl, rfl, answered⟩⟩
  · have resting := step_sound sound (.rest answered)
    have split : ({ sender with phase := .idle } : Sender Nat).waiting =
        [] ++ node.serial :: nodes.map QNode.serial := ahead
    refine ⟨{ sender with phase := .idle, waiting := nodes.map QNode.serial }, ?_, rfl, rfl, ?_⟩
    · exact step_sound resting (.withdraw split (idle_quiet rfl _) fun _ => rfl)
    · exact
        { waiting := shorter.symm
          inFlight := by
            rw [sends, nothing]
            exact .live .idle
          accepted := unaccepted ▸ matched.accepted
          settled := by
            rw [deletions_append, deletions_failed failure, List.append_nil]
            exact matched.settled
          bounded := Nat.le_of_lt room
          numbered := unaccepted ▸ matched.numbered }
  · refine ⟨_, step_sound sound (.settle ahead answered), rfl, rfl, ?_⟩
    exact
      { waiting := shorter.symm
        inFlight := by
          rw [sends, nothing]
          exact .live .idle
        accepted := unaccepted ▸ matched.accepted
        settled := by
          rw [List.map_append, matched.settled, deletions_append]
          rfl
        bounded := Nat.le_of_lt room
        numbered := unaccepted ▸ matched.numbered }

theorem send_next_json_tracked {errorCode : IoTgoSendQueueStatu} {earned : Option Nat}
    {rest : List CoreEvent} (sound : Sound sender) (matched : Matches state sender)
    (first : state.inbox = .sendJsonFinished errorCode earned :: rest) :
    ∃ next, iotgoPconnSendNextJson errorCode earned { state with inbox := rest } = some next ∧
      Tracked next := by
  have busy : sender.phase ≠ .idle := by
    intro idle
    have inFlight := pop_in_flight matched.inFlight first rfl
    rw [idle] at inFlight
    cases inFlight with
    | live live => cases live
  rcases busy_front sound matched busy with ⟨node, nodes, front⟩
  rcases deleted_head sound matched first front with ⟨twin, soundTwin, idle, waiting, matchedTwin⟩
  have popped : ({ state with inbox := rest } : SendState).queue.nodes = node :: nodes := front
  rcases send_next_json_cases popped errorCode earned with ⟨next, reply, result, replied, goes⟩
  have tracked : Tracked next := by
    rcases goes with ⟨-, rfl⟩ | ⟨-, more, rfl⟩
    · exact ⟨twin, soundTwin, matchedTwin⟩
    · apply wake_tracked soundTwin matchedTwin _ idle
      rw [waiting]
      simpa using more
  refine ⟨_, result, ?_⟩
  rcases tracked with ⟨final, soundFinal, matchedFinal⟩
  have unaccepted : acceptedSerials reply = [] := by
    rcases replied with rfl | ⟨ok, rfl⟩ <;> rfl
  have undeleted : okDeletions reply = [] := by
    rcases replied with rfl | ⟨ok, rfl⟩ <;> rfl
  refine ⟨final, soundFinal, matches_transfer matchedFinal rfl rfl rfl ?_ ?_⟩
  · rw [accepted_append, unaccepted, List.append_nil]
  · rw [deletions_append, undeleted, List.append_nil]

end Handle

theorem initial_tracked (mode : IoTgoDeviceMode) : Tracked (.initial mode) := by
  refine ⟨.empty, empty_sound, ?_⟩
  exact
    { waiting := rfl
      inFlight := .live .idle
      accepted := rfl
      settled := rfl
      bounded := Nat.zero_le _
      numbered := fun serial member => by cases member }

/-- An orderly step does not fault and is a step of the sender. -/
theorem step_tracked {state : SendState} {event : SendEvent} (tracked : Tracked state)
    (orderly : Orderly state event) : ∃ next, SendStep state event next ∧ Tracked next := by
  rcases tracked with ⟨sender, sound, matched⟩
  cases event with
  | add data type delTypeFlag => exact ⟨_, rfl, add_tracked sound matched orderly⟩
  | post signal => exact ⟨_, rfl, sender, sound, post_other_matches matched signal⟩
  | setMode mode => exact ⟨_, rfl, sender, sound, matches_transfer matched rfl rfl rfl rfl rfl⟩
  | timer =>
      cases armed : state.sendQueueTimer with
      | none =>
          exact ⟨state, (timer_idle_iff armed).2 rfl, sender, sound, matched⟩
      | some delay =>
          refine ⟨_, (timer_fires_iff armed).2 rfl, ?_⟩
          have still : Matches { state with sendQueueTimer := none } sender :=
            matches_transfer matched rfl rfl rfl rfl rfl
          unfold cbSendQueueTimer
          split
          · rename_i positive
            have nonempty : state.queue.nodes ≠ [] := List.length_pos_iff.1 positive
            have armed' : state.sendQueueTimer ≠ none := by
              rw [armed]
              exact Option.some_ne_none delay
            have idle := quiet_idle matched (orderly armed' nonempty)
            apply wake_tracked sound still _ idle
            rw [matched.waiting, ne_eq, serials_eq_nil_iff]
            exact nonempty
          · exact ⟨sender, sound, still⟩
  | handle espconnRet =>
      cases first : state.inbox with
      | nil =>
          exact ⟨state, (handle_idle_iff first espconnRet).2 rfl, sender, sound, matched⟩
      | cons event rest =>
          have taken : ∀ next, taskIoTgoNetworkCenter espconnRet { state with inbox := rest } event =
              some next → SendStep state (.handle espconnRet) next :=
            fun _ => (handle_iff first espconnRet).2
          cases event with
          | sendJson =>
              rcases send_json_tracked sound matched first espconnRet with ⟨next, handled, tracked⟩
              exact ⟨next, taken next handled, tracked⟩
          | sendJsonAgain =>
              rcases send_json_again_tracked sound matched first with ⟨next, handled, tracked⟩
              exact ⟨next, taken next handled, tracked⟩
          | sendJsonFinished errorCode earned =>
              rcases send_next_json_tracked sound matched first with ⟨next, handled, tracked⟩
              exact ⟨next, taken next handled, tracked⟩
          | other signal =>
              have popped := pop_other_matches matched first
              have cleared : clearsQueue (.other signal) = true →
                  Tracked { state with inbox := rest, queue := iotgoQueueDeleteAll state.queue } := by
                intro clears
                have quiet : Quiet state := by
                  apply orderly
                  rw [first]
                  exact clears
                exact clear_tracked sound popped (quiet_idle matched quiet)
              cases signal with
              | serverConnected =>
                  rcases cleared rfl with ⟨twin, soundTwin, matchedTwin⟩
                  exact ⟨_, taken _ rfl, twin, soundTwin, post_other_matches matchedTwin .wsConnect⟩
              | upgradeEnter => exact ⟨_, taken _ rfl, cleared rfl⟩
              | wsConnect => exact ⟨_, taken _ rfl, sender, sound, popped⟩
              | registerErr => exact ⟨_, taken _ rfl, sender, sound, popped⟩
              | unrelated signal => exact ⟨_, taken _ rfl, sender, sound, popped⟩

theorem tracked_sent {state : SendState} (tracked : Tracked state) : SentIsDeleted state := by
  rcases tracked with ⟨sender, sound, matched⟩
  have paired : ∀ deletion ∈ okDeletions state.log,
      ∃ pair ∈ sender.settled, (pair.1, some pair.2) = deletion := by
    intro deletion member
    rw [← matched.settled] at member
    exact List.mem_map.1 member
  constructor
  · intro deletion member
    rcases paired deletion member with ⟨pair, settled, rfl⟩
    rw [sound.matched pair settled]
  · intro deletion member
    rcases paired deletion member with ⟨pair, settled, rfl⟩
    rw [← matched.accepted]
    exact (sound.accounted pair settled).1
  · rw [← matched.accepted]
    exact sound.once
  · rw [← matched.settled, List.map_map]
    exact sound.single

/-- An orderly run goes to its end, and what is deleted in it is what was sent. -/
theorem sent_is_deleted (mode : IoTgoDeviceMode) (events : List SendEvent)
    (orderly : Meets SendStep Orderly (.initial mode) events) :
    (∃ final, Run SendStep (.initial mode) events final) ∧
      Keeps SendStep SentIsDeleted (.initial mode) events := by
  constructor
  · apply run_of_meets Tracked _ (initial_tracked mode) orderly
    intro state event tracked orderly
    exact step_tracked tracked orderly
  · have kept : Keeps SendStep Tracked (.initial mode) events := by
      apply keeps_of_meets Tracked _ (initial_tracked mode) orderly
      intro state event next tracked orderly step
      rcases step_tracked tracked orderly with ⟨other, taken, trackedNext⟩
      rw [send_step_deterministic state event next other step taken]
      exact trackedNext
    exact keeps_mono (fun state => tracked_sent) kept

/-- A message is refused, retried and accepted while a second one waits; a third
one finds no network; and the queue is cleared for a new connection. -/
def retriedEvents : List SendEvent :=
  [.add (some [65, 0]) iotgoRegister false, .handle (-1), .handle 0, .add (some [66, 0]) 97 true,
    .timer, .handle 0, .handle 0, .handle 0, .handle 0, .setMode .workApOk,
    .add (some [67, 0]) 97 true, .handle 0, .handle 0, .post .serverConnected, .handle 0]

theorem sent_is_deleted_retried :
    (∃ final, Run SendStep (.initial .workInit) retriedEvents final) ∧
      Keeps SendStep SentIsDeleted (.initial .workInit) retriedEvents :=
  sent_is_deleted .workInit retriedEvents
    (meets_of_exec send_step_deterministic (fun _ _ _ taken => taken) (by decide +kernel))

/-- The first message is accepted before `MSG_CORE_UPGRADE_ENTER` clears the queue;
its `IOTGO_SEND_OK` deletes the second one, which was never sent. -/
theorem cleared_queue_misdeletes :
    ∃ final, Run SendStep (.initial .workNormal)
        [.add (some [65, 0]) 97 false, .post .upgradeEnter, .handle 0, .handle 0,
          .add (some [66, 0]) 97 false, .handle 0] final ∧
      okDeletions final.log = [(1, some 0)] ∧ ¬ SentIsDeleted final := by
  have misdeleted : ∃ final, Run SendStep (.initial .workNormal)
      [.add (some [65, 0]) 97 false, .post .upgradeEnter, .handle 0, .handle 0,
        .add (some [66, 0]) 97 false, .handle 0] final ∧
      decide (okDeletions final.log = [(1, some 0)]) = true :=
    exists_run_of_exec (fun _ _ _ taken => taken) (by decide +kernel)
  rcases misdeleted with ⟨final, run, checked⟩
  have deletions := of_decide_eq_true checked
  refine ⟨final, run, deletions, fun sent => ?_⟩
  have wrong := sent.matched (1, some 0) (by rw [deletions]; exact List.mem_cons_self)
  cases wrong

end IotgoFirmware.Send.SendProtocol
