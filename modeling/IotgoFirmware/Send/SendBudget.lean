import IotgoFirmware.Send.SendWakeup

/-!
# The retry budget

A message has four attempts before it is dropped for send errors. The counter of
the failures and the timer between the attempts belong to the sender, not to the
message: a message that leaves the queue in another way leaves them behind.
-/

namespace IotgoFirmware.Send.SendBudget

open IotgoFirmware.Library.StepRuns
open IotgoFirmware.Send.SendQueue
open IotgoFirmware.Send.SendJson
open IotgoFirmware.Send.SendProtocol
open IotgoFirmware.Send.SendWakeup

set_option autoImplicit false

section Failures

/-- The calls of `espconn_send`, each with whether it failed. -/
def attempts (log : List SendLog) : List (Nat × Bool) :=
  log.filterMap fun entry =>
    match entry with
    | .attempt serial _ ret => some (serial, decide (ret ≠ 0))
    | _ => none

/-- The failed attempts of the message with no other attempt since. -/
def failures (serial : Nat) (log : List SendLog) : Nat :=
  ((attempts log).reverse.takeWhile (· == (serial, true))).length

@[simp] theorem attempts_append (log entries : List SendLog) :
    attempts (log ++ entries) = attempts log ++ attempts entries :=
  List.filterMap_append

theorem failures_attempt {ret : Int8} (failure : ret ≠ 0) (serial : Nat) (packet : List UInt8)
    (log : List SendLog) :
    failures serial (log ++ [.attempt serial packet ret]) = failures serial log + 1 := by
  have failed : attempts [.attempt serial packet ret] = [(serial, true)] := by
    simp [attempts, failure]
  rw [failures, attempts_append, failed, List.reverse_append, List.reverse_singleton,
    List.singleton_append, List.takeWhile_cons, if_pos (beq_self_eq_true _)]
  rfl

theorem failures_unattempted {entries : List SendLog} (unattempted : attempts entries = [])
    (serial : Nat) (log : List SendLog) : failures serial (log ++ entries) = failures serial log := by
  rw [failures, attempts_append, unattempted, List.append_nil]
  rfl

end Failures

/-- The sender, and what the source does not write down. `causes` has for each
posted event about sending the message whose failure it goes back to, if any, and
`armedFor` the message whose failure armed the timer. `drops` are the messages
dropped for send errors, each with its failures by then; `expiries` pair a message
whose failure armed the timer with one that is attempted because it ran out. -/
structure Budget where
  state : SendState
  causes : List (Option Nat)
  armedFor : Option Nat
  drops : List (Nat × Nat)
  expiries : List (Nat × Nat)

def Budget.initial (mode : IoTgoDeviceMode) : Budget where
  state := .initial mode
  causes := []
  armedFor := none
  drops := []
  expiries := []

def handled (state : SendState) : SendEvent → Option CoreEvent
  | .handle _ => state.inbox.head?
  | _ => none

/-- The register branch drops the whole queue. -/
def droppedFor (state : SendState) : Option CoreEvent → List Nat
  | some (.sendJsonFinished .sendError _) => state.queue.serials.take 1
  | some .sendJsonAgain =>
      if 3 ≤ state.sendCounter ∧ iotgoQueueHeadType state.queue = some iotgoRegister then
        state.queue.serials
      else []
  | _ => []

section Ghosts

variable (budget : Budget) (event : SendEvent)

/-- The message that an event posted in this step goes back to. -/
def causeOf : Option Nat :=
  match event with
  | .timer => budget.armedFor
  | event =>
      if handled budget.state event = some .sendJson then budget.state.queue.serials.head?
      else none

def keptCauses : List (Option Nat) :=
  if (handled budget.state event).any isSend then budget.causes.tail else budget.causes

/-- The attempts that this step adds to the log, if the timer asked for them. -/
def expiriesTo (log : List SendLog) : List (Nat × Nat) :=
  if handled budget.state event = some .sendJson then
    budget.causes.head?.join.toList.flatMap fun serial =>
      (attempts (log.drop budget.state.log.length)).map fun attempt => (serial, attempt.1)
  else []

def advance (next : SendState) : Budget where
  state := next
  causes := keptCauses budget event ++
    List.replicate ((sends next).length - (keptCauses budget event).length) (causeOf budget event)
  armedFor :=
    if handled budget.state event = some .sendJsonAgain then budget.causes.head?.join
    else budget.armedFor
  drops := budget.drops ++ (droppedFor budget.state (handled budget.state event)).map
    fun serial => (serial, failures serial budget.state.log)
  expiries := budget.expiries ++ expiriesTo budget event next.log

def budgetStep : Option Budget :=
  (sendStep budget.state event).map (advance budget event)

end Ghosts

def BudgetStep (budget : Budget) (event : SendEvent) (next : Budget) : Prop :=
  budgetStep budget event = some next

theorem budget_step_deterministic (budget : Budget) (event : SendEvent) (left right : Budget)
    (first : BudgetStep budget event left) (second : BudgetStep budget event right) :
    left = right :=
  Option.some.inj (first.symm.trans second)

theorem budget_step_of {budget : Budget} {event : SendEvent} {next : SendState}
    (step : SendStep budget.state event next) :
    BudgetStep budget event (advance budget event next) := by
  rw [BudgetStep, budgetStep, step]
  rfl

structure WithinBudget (budget : Budget) : Prop where
  spent : ∀ drop ∈ budget.drops, 4 ≤ drop.2
  own : ∀ expiry ∈ budget.expiries, expiry.2 = expiry.1

/-- No failure of the head is counted, and at most its first attempt is posted. -/
def Unspent (state : SendState) : Prop :=
  state.sendCounter = 0 ∧ state.sendQueueTimer = none ∧ ∀ event ∈ sends state, event = .sendJson

instance (state : SendState) : Decidable (Unspent state) :=
  inferInstanceAs (Decidable (_ ∧ _ ∧ ∀ event ∈ sends state, event = .sendJson))

/-- The head is deleted by its type before its first attempt only, with a message
left for an attempt that is posted; the queue is cleared with nothing pending; and a
registration that is given up has nothing behind it. -/
def Charged (state : SendState) : SendEvent → Prop
  | .add data type delTypeFlag =>
      delTypeFlag = true → iotgoQueueHeadType state.queue = some type →
        Unspent state ∧
          ((iotgoQueueAdd state data type delTypeFlag).2.queue.nodes = [] → sends state = [])
  | .handle _ =>
      state.queue.nodes ≠ [] →
        (state.inbox.head?.any clearsQueue = true → Unspent state ∧ sends state = []) ∧
        (state.inbox.head? = some .sendJsonAgain → 3 ≤ state.sendCounter →
          iotgoQueueHeadType state.queue = some iotgoRegister → state.queue.length = 1)
  | .timer => True
  | .post _ => True
  | .setMode _ => True

instance (state : SendState) : (event : SendEvent) → Decidable (Charged state event)
  | .add _ _ _ => inferInstanceAs (Decidable (_ = true → _ = some _ → _ ∧ (_ → _)))
  | .handle _ => inferInstanceAs (Decidable (_ ≠ [] → (_ = true → _ ∧ _) ∧ (_ → _ → _ → _)))
  | .timer => isTrue trivial
  | .post _ => isTrue trivial
  | .setMode _ => isTrue trivial

/-- What is pending for the head, and how many of its failures are counted. -/
inductive Activity (head : Option Nat) (failed sendCounter : Nat) (armedFor : Option Nat) :
    Option Nat → List CoreEvent → List (Option Nat) → Prop where
  | rest (counted : sendCounter ≤ failed) :
      Activity head failed sendCounter armedFor none [] []
  | due {serial : Nat} {cause : Option Nat} (first : head = some serial)
      (counted : sendCounter ≤ failed)
      (own : ∀ other, cause = some other → other = serial ∧ 0 < sendCounter) :
      Activity head failed sendCounter armedFor none [.sendJson] [cause]
  | again {serial : Nat} (first : head = some serial) (counted : sendCounter < failed) :
      Activity head failed sendCounter armedFor none [.sendJsonAgain] [some serial]
  | finished {serial : Nat} {errorCode : IoTgoSendQueueStatu} {earned cause : Option Nat}
      (first : head = some serial) (spent : errorCode = .sendError → 4 ≤ failed) :
      Activity head failed sendCounter armedFor none [.sendJsonFinished errorCode earned] [cause]
  | backoff {serial delay : Nat} (first : head = some serial) (counted : sendCounter ≤ failed)
      (begun : 0 < sendCounter) (own : armedFor = some serial) :
      Activity head failed sendCounter armedFor (some delay) [] []

def headFailures (state : SendState) : Nat :=
  state.queue.serials.head?.elim 0 fun serial => failures serial state.log

def Active (state : SendState) (armedFor : Option Nat) (causes : List (Option Nat)) : Prop :=
  Activity state.queue.serials.head? (headFailures state) state.sendCounter armedFor
    state.sendQueueTimer (sends state) causes

structure Accounted (budget : Budget) : Prop where
  active : Active budget.state budget.armedFor budget.causes
  bounded : Bounded budget.state
  within : WithinBudget budget

section Activities

variable {head : Option Nat} {failed sendCounter : Nat} {armedFor timer : Option Nat}
  {events rest : List CoreEvent} {causes : List (Option Nat)}

theorem activity_length
    (activity : Activity head failed sendCounter armedFor timer events causes) :
    causes.length = events.length := by
  cases activity <;> rfl

/-- Without a head nothing is pending. -/
theorem activity_empty
    (activity : Activity none failed sendCounter armedFor timer events causes) :
    timer = none ∧ events = [] ∧ causes = [] ∧ sendCounter ≤ failed := by
  cases activity with
  | rest counted => exact ⟨rfl, rfl, rfl, counted⟩
  | due first => cases first
  | again first => cases first
  | finished first => cases first
  | backoff first => cases first

theorem activity_send
    (activity : Activity head failed sendCounter armedFor timer (.sendJson :: rest) causes) :
    ∃ serial cause, head = some serial ∧ rest = [] ∧ timer = none ∧ causes = [cause] ∧
      sendCounter ≤ failed ∧ ∀ other, cause = some other → other = serial ∧ 0 < sendCounter := by
  cases activity with
  | @due serial cause first counted own =>
      exact ⟨serial, cause, first, rfl, rfl, rfl, counted, own⟩

theorem activity_again
    (activity : Activity head failed sendCounter armedFor timer (.sendJsonAgain :: rest) causes) :
    ∃ serial, head = some serial ∧ rest = [] ∧ timer = none ∧ causes = [some serial] ∧
      sendCounter < failed := by
  cases activity with
  | @again serial first counted => exact ⟨serial, first, rfl, rfl, rfl, counted⟩

theorem activity_finished {errorCode : IoTgoSendQueueStatu} {earned : Option Nat}
    (activity : Activity head failed sendCounter armedFor timer
      (.sendJsonFinished errorCode earned :: rest) causes) :
    ∃ serial cause, head = some serial ∧ rest = [] ∧ timer = none ∧ causes = [cause] ∧
      (errorCode = .sendError → 4 ≤ failed) := by
  cases activity with
  | @finished serial errorCode earned cause first spent =>
      exact ⟨serial, cause, first, rfl, rfl, rfl, spent⟩

/-- Before the first attempt of the head, another message may take its place. -/
theorem activity_moves {other : Option Nat} {failed' : Nat}
    (activity : Activity head failed 0 armedFor none events causes)
    (unspent : ∀ event ∈ events, event = .sendJson) (left : other = none → events = []) :
    Activity other failed' 0 armedFor none events causes := by
  cases activity with
  | rest => exact .rest (Nat.zero_le failed')
  | @due serial cause first counted own =>
      cases other with
      | none => cases left rfl
      | some other =>
          refine .due rfl (Nat.zero_le failed') fun earlier caused => ?_
          exact absurd (own earlier caused).2 (Nat.lt_irrefl 0)
  | again => cases unspent _ List.mem_cons_self
  | finished => cases unspent _ List.mem_cons_self

end Activities

section Advance

variable {budget : Budget} {event : SendEvent} {next : SendState}

/-- A step that handles no event about sending. -/
theorem accounted_unhandled (accounted : Accounted budget)
    (unhandled : (handled budget.state event).any isSend = false) (bounded : Bounded next)
    (active : Active next budget.armedFor (budget.causes ++
      List.replicate ((sends next).length - budget.causes.length) (causeOf budget event))) :
    Accounted (advance budget event next) := by
  have kept : keptCauses budget event = budget.causes := by
    rw [keptCauses, unhandled]
    rfl
  have other : ∀ posted, isSend posted = true → handled budget.state event ≠ some posted := by
    intro posted send same
    rw [same, Option.any_some, send] at unhandled
    cases unhandled
  have undropped : droppedFor budget.state (handled budget.state event) = [] := by
    cases taken : handled budget.state event with
    | none => rfl
    | some posted =>
        cases posted with
        | other signal => rfl
        | sendJson => exact absurd taken (other _ rfl)
        | sendJsonAgain => exact absurd taken (other _ rfl)
        | sendJsonFinished errorCode earned => exact absurd taken (other _ rfl)
  constructor
  · rw [← kept] at active
    simpa only [advance, if_neg (other .sendJsonAgain rfl)] using active
  · exact bounded
  · constructor
    · simpa only [advance, undropped, List.map_nil, List.append_nil] using accounted.within.spent
    · simpa only [advance, expiriesTo, if_neg (other .sendJson rfl), List.append_nil]
        using accounted.within.own

/-- No event about sending is posted or handled. -/
theorem accounted_still (accounted : Accounted budget)
    (unhandled : (handled budget.state event).any isSend = false) (bounded : Bounded next)
    (same : sends next = sends budget.state)
    (active : Active next budget.armedFor budget.causes) :
    Accounted (advance budget event next) := by
  apply accounted_unhandled accounted unhandled bounded
  rw [same, activity_length accounted.active, Nat.sub_self, List.replicate_zero, List.append_nil]
  exact active

/-- The only event about sending is handled; what it posts goes back to the head. -/
theorem accounted_handled {posted : CoreEvent} {rest : List CoreEvent} {cause : Option Nat}
    {espconnRet : Int8} (accounted : Accounted budget)
    (first : budget.state.inbox = posted :: rest) (send : isSend posted = true)
    (single : budget.causes = [cause]) (bounded : Bounded next)
    (active : Active next (if posted = .sendJsonAgain then cause else budget.armedFor)
      (List.replicate (sends next).length
        (if posted = .sendJson then budget.state.queue.serials.head? else none)))
    (spent : ∀ serial ∈ droppedFor budget.state (some posted),
      4 ≤ failures serial budget.state.log)
    (own : posted = .sendJson → ∀ other, cause = some other →
      ∀ attempt ∈ attempts (next.log.drop budget.state.log.length), attempt.1 = other) :
    Accounted (advance budget (.handle espconnRet) next) := by
  have taken : handled budget.state (.handle espconnRet) = some posted := by
    rw [handled, first]
    rfl
  have kept : keptCauses budget (.handle espconnRet) = [] := by
    rw [keptCauses, taken, Option.any_some, send, single]
    rfl
  constructor
  · simpa only [advance, kept, causeOf, taken, single, List.nil_append, List.length_nil,
      Nat.sub_zero, Option.some.injEq, List.head?_cons, Option.join_some] using active
  · exact bounded
  · constructor
    · intro drop member
      rcases List.mem_append.1 member with old | new
      · exact accounted.within.spent drop old
      · rw [taken] at new
        rcases List.mem_map.1 new with ⟨serial, dropped, rfl⟩
        exact spent serial dropped
    · intro expiry member
      rcases List.mem_append.1 member with old | new
      · exact accounted.within.own expiry old
      · rw [expiriesTo, taken, single] at new
        split at new
        · rename_i same
          rcases List.mem_flatMap.1 new with ⟨other, caused, pair⟩
          rcases List.mem_map.1 pair with ⟨attempt, made, rfl⟩
          have mine : cause = some other := by simpa using caused
          exact own (Option.some.inj same) other mine attempt made
        · cases new

end Advance

section Active

variable {state : SendState} {armedFor : Option Nat} {causes : List (Option Nat)}

@[simp] theorem head_failures_post (event : CoreEvent) :
    headFailures (systemOsPost state event) = headFailures state := by
  rw [headFailures, post_queue, post_log]
  rfl

theorem active_post_other (active : Active state armedFor causes) (signal : CoreSignal) :
    Active (systemOsPost state (.other signal)) armedFor causes := by
  rw [Active, head_failures_post, post_queue, post_counter, post_timer, sends_post_other]
  exact active

theorem active_head {queue : LinkQueue} (active : Active state armedFor causes)
    (head : queue.serials.head? = state.queue.serials.head?) :
    Active { state with queue := queue } armedFor causes := by
  unfold Active headFailures
  dsimp only
  rw [head]
  exact active

theorem active_moves {queue : LinkQueue} (active : Active state armedFor causes)
    (unspent : Unspent state) (left : queue.serials.head? = none → sends state = []) :
    Active { state with queue := queue } armedFor causes := by
  rcases unspent with ⟨uncounted, idle, first⟩
  unfold Active at active ⊢
  dsimp only
  rw [uncounted, idle] at active ⊢
  exact activity_moves active first left

theorem active_logged {entries : List SendLog} (active : Active state armedFor causes)
    (unattempted : attempts entries = []) :
    Active { state with log := state.log ++ entries } armedFor causes := by
  have failed : headFailures { state with log := state.log ++ entries } = headFailures state := by
    unfold headFailures
    dsimp only
    simp only [failures_unattempted unattempted]
  rw [Active, failed]
  exact active

theorem active_resting {cause : Option Nat} (idle : state.sendQueueTimer = none)
    (nothing : sends state = []) (counted : state.sendCounter ≤ headFailures state) :
    Active state armedFor (List.replicate (sends state).length cause) := by
  rw [Active, nothing, idle]
  exact .rest counted

theorem sends_posted {event : CoreEvent} (send : isSend event = true)
    (room : state.inbox.length < coreQueueLength) (nothing : sends state = []) :
    sends (systemOsPost state event) = [event] := by
  rw [sends_post send room, nothing]
  rfl

/-- The head is sent for, if the event queue takes the event. -/
theorem active_wake {serial : Nat} {cause : Option Nat}
    (first : state.queue.serials.head? = some serial) (idle : state.sendQueueTimer = none)
    (nothing : sends state = []) (counted : state.sendCounter ≤ headFailures state)
    (own : ∀ other, cause = some other → other = serial ∧ 0 < state.sendCounter) :
    Active (systemOsPost state .sendJson) armedFor
      (List.replicate (sends (systemOsPost state .sendJson)).length cause) := by
  by_cases room : state.inbox.length < coreQueueLength
  · have posted : sends (systemOsPost state .sendJson) = [.sendJson] :=
      sends_posted rfl room nothing
    rw [Active, head_failures_post, post_queue, post_counter, post_timer, posted, idle]
    exact .due first counted own
  · have full : systemOsPost state .sendJson = state := if_neg room
    rw [full]
    exact active_resting idle nothing counted

theorem head_front {queue : LinkQueue} {serial : Nat} (first : queue.serials.head? = some serial) :
    ∃ node nodes, queue.nodes = node :: nodes ∧ node.serial = serial := by
  cases front : queue.nodes with
  | nil =>
      rw [LinkQueue.serials, front] at first
      cases first
  | cons node nodes =>
      rw [LinkQueue.serials, front] at first
      exact ⟨node, nodes, rfl, Option.some.inj first⟩

theorem head_empty {queue : LinkQueue} (none : queue.serials.head? = none) : queue.nodes = [] := by
  rw [List.head?_eq_none_iff] at none
  exact (serials_eq_nil_iff queue).1 none

end Active

section Add

variable {state : SendState} {armedFor : Option Nat} {causes : List (Option Nat)}
  {data : Option (List UInt8)} {type : UInt8} {delTypeFlag : Bool}

/-- The head stays, unless it is the first message of the type. -/
theorem queue_before_head (state : SendState) (type : UInt8) (delTypeFlag : Bool) :
    (queueBefore state type delTypeFlag).serials.head? = state.queue.serials.head? ∨
      delTypeFlag = true ∧ iotgoQueueHeadType state.queue = some type := by
  cases delTypeFlag with
  | false => exact .inl rfl
  | true =>
      rcases delete_type_cases state.queue type with
        ⟨-, same⟩ | ⟨front, node, back, split, typed, -, cut⟩
      · left
        rw [queueBefore, if_pos rfl, LinkQueue.serials, same]
        rfl
      · cases front with
        | nil =>
            right
            refine ⟨rfl, ?_⟩
            rw [iotgoQueueHeadType, split]
            exact congrArg some typed
        | cons earlier front =>
            left
            rw [queueBefore, if_pos rfl, LinkQueue.serials, LinkQueue.serials, cut, split]
            rfl

theorem active_add {queue : LinkQueue} (active : Active state armedFor causes)
    (charged : Charged state (.add data type delTypeFlag))
    (result : (iotgoQueueAdd state data type delTypeFlag).2 = { state with queue := queue })
    (head : queue.serials.head? = state.queue.serials.head? ∨
      delTypeFlag = true ∧ iotgoQueueHeadType state.queue = some type) :
    Active (iotgoQueueAdd state data type delTypeFlag).2 armedFor causes := by
  rcases head with same | ⟨deleted, typed⟩
  · rw [result]
    exact active_head active same
  · rcases charged deleted typed with ⟨unspent, left⟩
    rw [result] at left ⊢
    exact active_moves active unspent fun none => left (head_empty none)

theorem add_accounted {budget : Budget} (accounted : Accounted budget)
    (charged : Charged budget.state (.add data type delTypeFlag)) :
    Accounted (advance budget (.add data type delTypeFlag)
      (iotgoQueueAdd budget.state data type delTypeFlag).2) := by
  have bounded : Bounded (iotgoQueueAdd budget.state data type delTypeFlag).2 :=
    @step_bounded budget.state (.add data type delTypeFlag) _ accounted.bounded rfl
  have before := queue_before_head budget.state type delTypeFlag
  have still : ∀ queue : LinkQueue,
      (iotgoQueueAdd budget.state data type delTypeFlag).2 = { budget.state with queue := queue } →
      (queue.serials.head? = budget.state.queue.serials.head? ∨
        delTypeFlag = true ∧ iotgoQueueHeadType budget.state.queue = some type) →
      Accounted (advance budget (.add data type delTypeFlag)
        (iotgoQueueAdd budget.state data type delTypeFlag).2) := by
    intro queue result head
    apply accounted_still accounted rfl bounded
    · rw [result]
      rfl
    · exact active_add accounted.active charged result head
  rcases queue_add_cases budget.state data type delTypeFlag with
    ⟨result, -⟩ | ⟨copy, room, -, ⟨others, result⟩ | ⟨empty, result⟩⟩
  · exact still _ result before
  · apply still _ result
    rcases before with same | withdrawn
    · left
      cases first : budget.state.queue.serials.head? with
      | none => exact absurd (head_empty first) others
      | some serial =>
          rw [link_serials, List.head?_append, same, first]
          rfl
    · exact .inr withdrawn
  · have none : budget.state.queue.serials.head? = none := by
      rw [(serials_eq_nil_iff budget.state.queue).2 empty]
      rfl
    have activity := accounted.active
    rw [Active, headFailures, none] at activity
    rcases activity_empty activity with ⟨idle, nothing, uncaused, uncounted⟩
    have first : (queueBefore budget.state type delTypeFlag).serials.head? = Option.none := by
      rcases before with same | ⟨-, typed⟩
      · rw [same, none]
      · rw [iotgoQueueHeadType, empty] at typed
        cases typed
    apply accounted_unhandled accounted rfl bounded
    rw [result, uncaused, List.nil_append, List.length_nil, Nat.sub_zero]
    refine @active_wake _ _ (queueBefore budget.state type delTypeFlag).allocated _
      ?_ idle nothing ?_ ?_
    · rw [link_serials, List.head?_append, first]
      rfl
    · exact Nat.le_trans uncounted (Nat.zero_le _)
    · intro other caused
      cases caused

end Add

section Outcomes

variable {state : SendState} {serial : Nat} {entries : List SendLog} {event : CoreEvent}

/-- A failed attempt asks for another one; it does not give the message up. -/
theorem send_json_asks (espconnRet : Int8) {node : QNode} {nodes : List QNode}
    (front : state.queue.nodes = node :: nodes) :
    ∃ sent posted, iotgoPconnSendJson espconnRet state = some (systemOsPost sent posted) ∧
      sent.inbox = state.inbox ∧ ∀ earned, posted ≠ .sendJsonFinished .sendError earned := by
  have network := network_send_cases espconnRet state node.serial
  rw [iotgoPconnSendJson, front]
  simp only [List.head?_cons, Option.map_some]
  cases node.data with
  | none => exact ⟨state, .sendJsonFinished .wildPoint none, rfl, rfl, by simp⟩
  | some data =>
      have inbox : (iotgoNetworkSendString espconnRet state node.serial data).2.inbox =
          state.inbox := by
        rcases network data with long | ⟨packet, sent⟩
        · rw [long]
        · rw [sent]
      dsimp only
      split_ifs
      · exact ⟨state, .sendJsonFinished .networkAbnormal none, rfl, rfl, by simp⟩
      · exact ⟨_, .sendJsonFinished .sendOk (some node.serial), rfl, inbox, by simp⟩
      · exact ⟨_, .sendJsonFinished .upgradeLock none, rfl, inbox, by simp⟩
      · exact ⟨_, .sendJsonFinished .dataLengthOver none, rfl, inbox, by simp⟩
      · exact ⟨_, .sendJsonAgain, rfl, inbox, by simp⟩

theorem send_json_posted_no_error {espconnRet : Int8} {node : QNode} {nodes : List QNode}
    {log : List SendLog} (front : state.queue.nodes = node :: nodes)
    (room : state.inbox.length < coreQueueLength)
    (result : iotgoPconnSendJson espconnRet state =
      some (systemOsPost { state with log := log } event)) (earned : Option Nat) :
    event ≠ .sendJsonFinished .sendError earned := by
  rcases send_json_asks espconnRet front with ⟨sent, posted, asked, inbox, noError⟩
  rw [asked] at result
  have same := congrArg SendState.inbox (Option.some.inj result)
  have roomSent : sent.inbox.length < coreQueueLength := by
    rw [inbox]
    exact room
  have roomLogged : ({ state with log := log } : SendState).inbox.length < coreQueueLength := room
  rw [post_inbox sent posted roomSent, post_inbox _ event roomLogged, inbox] at same
  have equal : posted = event := by simpa using same
  rw [← equal]
  exact noError earned

theorem outcome_attempts (outcome : SendOutcome serial entries event) :
    ∀ attempt ∈ attempts entries, attempt.1 = serial := by
  intro attempt member
  cases outcome with
  | accepted =>
      rw [List.mem_singleton.1 member]
  | failed =>
      rw [List.mem_singleton.1 member]
  | rejected =>
      rw [List.mem_singleton.1 member]
  | unsent => cases member

theorem active_sent {armedFor : Option Nat} (outcome : SendOutcome serial entries event)
    (first : state.queue.serials.head? = some serial) (idle : state.sendQueueTimer = none)
    (nothing : sends state = []) (counted : state.sendCounter ≤ headFailures state)
    (room : state.inbox.length < coreQueueLength)
    (noError : ∀ earned, event ≠ .sendJsonFinished .sendError earned) :
    Active (systemOsPost { state with log := state.log ++ entries } event) armedFor
      (List.replicate
        (sends (systemOsPost { state with log := state.log ++ entries } event)).length
        (some serial)) := by
  have send : isSend event = true := by
    cases outcome <;> rfl
  have posted : sends (systemOsPost { state with log := state.log ++ entries } event) = [event] :=
    sends_posted send room nothing
  have failed : headFailures { state with log := state.log ++ entries } =
      failures serial (state.log ++ entries) := by
    rw [headFailures, first]
    rfl
  have before : headFailures state = failures serial state.log := by
    rw [headFailures, first]
    rfl
  rw [Active, head_failures_post, post_queue, post_counter, post_timer, posted, failed]
  dsimp only
  rw [idle]
  rw [before] at counted
  cases outcome with
  | accepted => exact .finished first (by simp)
  | failed failure =>
      rw [failures_attempt failure]
      exact .again first (Nat.lt_succ_of_le counted)
  | @rejected packet ret errorCode failure error =>
      refine .finished first fun gaveUp => ?_
      exact absurd (by rw [gaveUp]) (noError none)
  | @unsent errorCode error =>
      refine .finished first fun gaveUp => ?_
      exact absurd (by rw [gaveUp]) (noError none)

end Outcomes

section Handle

variable {budget : Budget} {rest : List CoreEvent} {espconnRet : Int8}

theorem popped_sends {state : SendState} {posted : CoreEvent}
    (first : state.inbox = posted :: rest) (send : isSend posted = true) :
    sends state = posted :: sends { state with inbox := rest } := by
  rw [sends, first, List.filter_cons_of_pos send]
  rfl

theorem send_json_accounted (accounted : Accounted budget)
    (first : budget.state.inbox = .sendJson :: rest) :
    ∃ next, iotgoPconnSendJson espconnRet { budget.state with inbox := rest } = some next ∧
      Accounted (advance budget (.handle espconnRet) next) := by
  have room := popped_room accounted.bounded first
  have activity := accounted.active
  rw [Active, popped_sends first rfl] at activity
  rcases activity_send activity with ⟨serial, cause, head, nothing, idle, single, counted, own⟩
  rcases head_front head with ⟨node, nodes, front, rfl⟩
  have popped : ({ budget.state with inbox := rest } : SendState).queue.nodes = node :: nodes := front
  rcases send_json_outcome espconnRet popped with ⟨entries, event, outcome, result⟩
  have noError := send_json_posted_no_error popped room result
  refine ⟨_, result, ?_⟩
  apply accounted_handled accounted first rfl single
  · exact step_bounded accounted.bounded ((handle_iff first espconnRet).2 result)
  · rw [if_pos rfl, head]
    exact active_sent outcome head idle nothing counted room noError
  · intro serial dropped
    cases dropped
  · intro _ other caused attempt made
    rw [post_log, List.drop_left] at made
    rw [outcome_attempts outcome attempt made, (own other caused).1]

theorem send_json_again_accounted (accounted : Accounted budget)
    (charged : Charged budget.state (.handle espconnRet))
    (first : budget.state.inbox = .sendJsonAgain :: rest) :
    ∃ next, iotgoPconnSendJsonAgain { budget.state with inbox := rest } = some next ∧
      Accounted (advance budget (.handle espconnRet) next) := by
  have room := popped_room accounted.bounded first
  have activity := accounted.active
  rw [Active, popped_sends first rfl] at activity
  rcases activity_again activity with ⟨serial, head, nothing, idle, single, counted⟩
  rcases head_front head with ⟨node, nodes, front, same⟩
  have nonempty : budget.state.queue.nodes ≠ [] := by
    rw [front]
    exact List.cons_ne_nil node nodes
  have failed : headFailures budget.state = failures serial budget.state.log := by
    rw [headFailures, head]
    rfl
  -- Only the last failure drops a message, and for a registration it is the only one.
  have spent : ∀ dropped ∈ droppedFor budget.state (some .sendJsonAgain),
      4 ≤ failures dropped budget.state.log := by
    intro dropped member
    rw [droppedFor] at member
    split at member
    · rename_i register
      have alone := (charged nonempty).2 (by rw [first]; rfl) register.1 register.2
      rw [LinkQueue.length, front, List.length_cons] at alone
      have none : nodes = [] := List.eq_nil_of_length_eq_zero (Nat.succ.inj alone)
      rw [LinkQueue.serials, front, none, List.map_singleton, List.mem_singleton, same] at member
      rw [member, ← failed]
      exact Nat.lt_of_le_of_lt register.1 counted
    · cases member
  have handledBy : ∀ {next}, iotgoPconnSendJsonAgain { budget.state with inbox := rest } = some next →
      Active next (some serial) (List.replicate (sends next).length none) →
      Accounted (advance budget (.handle espconnRet) next) := by
    intro next result active
    apply accounted_handled accounted first rfl single
    · exact step_bounded accounted.bounded ((handle_iff first espconnRet).2 result)
    · exact active
    · exact spent
    · intro clash
      cases clash
  by_cases early : budget.state.sendCounter < 3
  · rcases send_json_again_waits { budget.state with inbox := rest } early with ⟨delay, result⟩
    refine ⟨_, result, handledBy result ?_⟩
    have silent : sends
        { budget.state with
          inbox := rest
          sendQueueTimer := some delay
          sendCounter := budget.state.sendCounter + 1 } = [] := nothing
    rw [Active, silent]
    exact .backoff head counted (Nat.succ_pos _) rfl
  · have last : 3 ≤ budget.state.sendCounter := Nat.le_of_not_lt early
    rcases send_json_again_ends { budget.state with inbox := rest } last nonempty with
      result | result
    · refine ⟨_, result, handledBy result ?_⟩
      rw [sends_post_other]
      apply active_post_other
      exact active_resting rfl nothing (Nat.zero_le _)
    · refine ⟨_, result, handledBy result ?_⟩
      have posted : sends (systemOsPost
          { budget.state with inbox := rest, sendQueueTimer := none, sendCounter := 0 }
          (.sendJsonFinished .sendError none)) = [.sendJsonFinished .sendError none] :=
        sends_posted rfl room nothing
      rw [Active, head_failures_post, post_queue, post_counter, post_timer, posted]
      apply Activity.finished head
      intro _
      exact Nat.lt_of_le_of_lt last counted

theorem send_next_json_accounted {errorCode : IoTgoSendQueueStatu} {earned : Option Nat}
    (accounted : Accounted budget)
    (first : budget.state.inbox = .sendJsonFinished errorCode earned :: rest) :
    ∃ next, iotgoPconnSendNextJson errorCode earned { budget.state with inbox := rest } = some next ∧
      Accounted (advance budget (.handle espconnRet) next) := by
  have activity := accounted.active
  rw [Active, popped_sends first rfl] at activity
  rcases activity_finished activity with ⟨serial, cause, head, nothing, idle, single, spent⟩
  rcases head_front head with ⟨node, nodes, front, rfl⟩
  have popped : ({ budget.state with inbox := rest } : SendState).queue.nodes = node :: nodes := front
  have failed : headFailures budget.state = failures node.serial budget.state.log := by
    rw [headFailures, head]
    rfl
  rcases send_next_json_cases popped errorCode earned with ⟨next, reply, result, replied, goes⟩
  have unattempted : attempts reply = [] := by
    rcases replied with rfl | ⟨ok, rfl⟩ <;> rfl
  refine ⟨_, result, ?_⟩
  apply accounted_handled accounted first rfl single
  · exact step_bounded accounted.bounded ((handle_iff first espconnRet).2 result)
  · rcases goes with ⟨-, rfl⟩ | ⟨-, more, rfl⟩
    · exact active_resting idle nothing (Nat.zero_le _)
    · rcases List.exists_cons_of_ne_nil more with ⟨later, others, later_front⟩
      apply active_logged _ unattempted
      refine @active_wake _ _ later.serial _ ?_ idle nothing (Nat.zero_le _) ?_
      · rw [LinkQueue.serials, delete_head_nodes, front, List.tail_cons, later_front]
        rfl
      · intro other caused
        cases caused
  · intro dropped member
    cases errorCode with
    | sendError =>
        rw [droppedFor, LinkQueue.serials, front, List.map_cons, List.take_succ_cons,
          List.take_zero, List.mem_singleton] at member
        rw [member, ← failed]
        exact spent rfl
    | _ => cases member
  · intro clash
    cases clash

theorem other_accounted {signal : CoreSignal} (accounted : Accounted budget)
    (charged : Charged budget.state (.handle espconnRet))
    (first : budget.state.inbox = .other signal :: rest) :
    ∃ next, taskIoTgoNetworkCenter espconnRet { budget.state with inbox := rest } (.other signal) =
        some next ∧
      Accounted (advance budget (.handle espconnRet) next) := by
  have same : sends { budget.state with inbox := rest } = sends budget.state := by
    rw [sends, sends, first, List.filter_cons_of_neg (by simp [isSend])]
  have popped : Active { budget.state with inbox := rest } budget.armedFor budget.causes := by
    rw [Active, same]
    exact accounted.active
  have unhandled : (handled budget.state (.handle espconnRet)).any isSend = false := by
    rw [handled, first]
    rfl
  have cleared : clearsQueue (.other signal) = true →
      Active { budget.state with inbox := rest, queue := iotgoQueueDeleteAll budget.state.queue }
        budget.armedFor budget.causes := by
    intro clears
    by_cases empty : budget.state.queue.nodes = []
    · apply active_head popped
      rw [delete_all_serials, LinkQueue.serials, empty]
      rfl
    · have held := (charged empty).1 (by rw [first]; exact clears)
      refine active_moves popped ?_ fun _ => same.trans held.2
      refine ⟨held.1.1, held.1.2.1, ?_⟩
      rw [same]
      exact held.1.2.2
  have finish : ∀ {next},
      taskIoTgoNetworkCenter espconnRet { budget.state with inbox := rest } (.other signal) =
        some next →
      sends next = sends budget.state → Active next budget.armedFor budget.causes →
      ∃ next, taskIoTgoNetworkCenter espconnRet { budget.state with inbox := rest }
          (.other signal) = some next ∧
        Accounted (advance budget (.handle espconnRet) next) := by
    intro next result kept active
    refine ⟨next, result, accounted_still accounted unhandled ?_ kept active⟩
    exact step_bounded accounted.bounded ((handle_iff first espconnRet).2 result)
  cases signal with
  | serverConnected =>
      apply finish rfl
      · rw [sends_post_other]
        exact same
      · exact active_post_other (cleared rfl) .wsConnect
  | upgradeEnter => exact finish rfl same (cleared rfl)
  | wsConnect => exact finish rfl same popped
  | registerErr => exact finish rfl same popped
  | unrelated signal => exact finish rfl same popped

end Handle

theorem initial_accounted (mode : IoTgoDeviceMode) : Accounted (.initial mode) where
  active := .rest (Nat.le_refl 0)
  bounded := Nat.zero_le _
  within :=
    { spent := fun _ member => by cases member
      own := fun _ member => by cases member }

/-- The timer runs out for the message that it was armed for. -/
theorem timer_accounted {budget : Budget} {delay : Nat} (accounted : Accounted budget)
    (armed : budget.state.sendQueueTimer = some delay) :
    Accounted (advance budget .timer
      (cbSendQueueTimer { budget.state with sendQueueTimer := none })) := by
  have bounded : Bounded (cbSendQueueTimer { budget.state with sendQueueTimer := none }) :=
    step_bounded accounted.bounded ((timer_fires_iff armed).2 rfl)
  have activity := accounted.active
  rw [Active, armed] at activity
  generalize pending : sends budget.state = events at activity
  generalize known : budget.causes = causes at activity
  cases activity with
  | @backoff serial delay first counted begun own =>
      have nonempty : 0 < iotgoQueueLength budget.state.queue := by
        rcases head_front first with ⟨node, nodes, front, -⟩
        rw [iotgoQueueLength, LinkQueue.length, front]
        exact Nat.succ_pos nodes.length
      have fired : cbSendQueueTimer { budget.state with sendQueueTimer := none } =
          systemOsPost { budget.state with sendQueueTimer := none } .sendJson :=
        if_pos nonempty
      apply accounted_unhandled accounted rfl bounded
      rw [fired, known, List.nil_append, List.length_nil, Nat.sub_zero]
      refine active_wake first rfl pending counted ?_
      intro other caused
      have same : serial = other := Option.some.inj (own.symm.trans caused)
      exact ⟨same.symm, begun⟩

/-- A step within the condition does not fault and keeps the account. -/
theorem step_accounted {budget : Budget} {event : SendEvent} (accounted : Accounted budget)
    (charged : Charged budget.state event) :
    ∃ next, BudgetStep budget event next ∧ Accounted next := by
  have advances : ∀ {next}, SendStep budget.state event next →
      Accounted (advance budget event next) → ∃ next, BudgetStep budget event next ∧
        Accounted next := fun step kept => ⟨_, budget_step_of step, kept⟩
  cases event with
  | add data type delTypeFlag => exact advances rfl (add_accounted accounted charged)
  | post signal =>
      apply advances rfl
      apply accounted_still accounted rfl
      · exact post_bounded _ _ accounted.bounded
      · exact sends_post_other budget.state signal
      · exact active_post_other accounted.active signal
  | setMode mode =>
      apply advances rfl
      exact accounted_still accounted rfl accounted.bounded rfl accounted.active
  | timer =>
      cases armed : budget.state.sendQueueTimer with
      | none =>
          apply advances ((timer_idle_iff armed).2 rfl)
          exact accounted_still accounted rfl accounted.bounded rfl accounted.active
      | some delay =>
          exact advances ((timer_fires_iff armed).2 rfl) (timer_accounted accounted armed)
  | handle espconnRet =>
      cases first : budget.state.inbox with
      | nil =>
          apply advances ((handle_idle_iff first espconnRet).2 rfl)
          refine accounted_still accounted ?_ accounted.bounded rfl accounted.active
          rw [handled, first]
          rfl
      | cons posted rest =>
          have handles : (∃ next,
              taskIoTgoNetworkCenter espconnRet { budget.state with inbox := rest } posted =
                some next ∧
              Accounted (advance budget (.handle espconnRet) next)) →
              ∃ next, BudgetStep budget (.handle espconnRet) next ∧ Accounted next := by
            rintro ⟨next, result, kept⟩
            exact advances ((handle_iff first espconnRet).2 result) kept
          apply handles
          cases posted with
          | sendJson => exact send_json_accounted accounted first
          | sendJsonAgain => exact send_json_again_accounted accounted charged first
          | sendJsonFinished errorCode earned => exact send_next_json_accounted accounted first
          | other signal => exact other_accounted accounted charged first

/-- A run within the condition goes to its end; in it a message is dropped for send
errors after four failures of its own, and the timer asks for no other message. -/
theorem budget_kept (mode : IoTgoDeviceMode) (events : List SendEvent)
    (charged : Meets BudgetStep (fun budget => Charged budget.state) (.initial mode) events) :
    (∃ final, Run BudgetStep (.initial mode) events final) ∧
      Keeps BudgetStep WithinBudget (.initial mode) events := by
  constructor
  · apply run_of_meets Accounted _ (initial_accounted mode) charged
    intro budget event accounted charged
    exact step_accounted accounted charged
  · have kept : Keeps BudgetStep Accounted (.initial mode) events := by
      apply keeps_of_meets Accounted _ (initial_accounted mode) charged
      intro budget event next accounted charged step
      rcases step_accounted accounted charged with ⟨other, taken, accountedNext⟩
      rw [budget_step_deterministic budget event next other step taken]
      exact accountedNext
    exact keeps_mono (fun _ accounted => accounted.within) kept

def threeFailures : List SendEvent :=
  [.handle (-1), .handle 0, .timer, .handle (-1), .handle 0, .timer, .handle (-1), .handle 0]

/-- A message fails four times and is dropped, the one behind it is replaced before
its first attempt and sent; the queue is cleared for a new connection; and a
registration that is alone fails four times too. -/
def chargedEvents : List SendEvent :=
  [.add (some [65, 0]) 97 false, .add (some [66, 0]) 98 false] ++ threeFailures ++
    [.timer, .handle (-1), .handle 0, .handle 0, .add (some [67, 0]) 98 true, .handle 0, .handle 0,
      .post .serverConnected, .handle 0, .handle 0, .add (some [68, 0]) iotgoRegister false] ++
    threeFailures ++ [.timer, .handle (-1), .handle 0]

theorem budget_kept_charged :
    (∃ final, Run BudgetStep (.initial .workNormal) chargedEvents final) ∧
      Keeps BudgetStep WithinBudget (.initial .workNormal) chargedEvents :=
  budget_kept .workNormal chargedEvents
    (meets_of_exec budget_step_deterministic (fun _ _ _ taken => taken) (by decide +kernel))

/-- The queue is cleared for a new connection after three failures of a message; the
timer of that message has the next one tried again, and it is dropped after two
failures. -/
def clearedEvents : List SendEvent :=
  [.add (some [65, 0]) 97 false] ++ threeFailures ++
    [.post .serverConnected, .handle 0, .handle 0, .add (some [66, 0]) 97 false, .handle (-1),
      .timer, .handle 0, .handle (-1), .handle 0]

theorem cleared_queue_leaves_failures :
    ∃ final, Run BudgetStep (.initial .workNormal) clearedEvents final ∧
      final.drops = [(1, 2)] ∧ (0, 1) ∈ final.expiries ∧ ¬ WithinBudget final := by
  have early : ∃ final, Run BudgetStep (.initial .workNormal) clearedEvents final ∧
      decide (final.drops = [(1, 2)] ∧ (0, 1) ∈ final.expiries) = true :=
    exists_run_of_exec (fun _ _ _ taken => taken) (by decide +kernel)
  rcases early with ⟨final, run, checked⟩
  rcases of_decide_eq_true checked with ⟨drops, expiries⟩
  refine ⟨final, run, drops, expiries, fun within => ?_⟩
  have enough := within.spent (1, 2) (by rw [drops]; exact List.mem_cons_self)
  exact absurd enough (by decide)

end IotgoFirmware.Send.SendBudget
