import Mathlib.Data.List.Infix
import IotgoFirmware.Mcu.TcQueue

/-!
# What leaves the queue to the MCU

An acknowledgement removes the head of the queue, whatever it is, and the count of
the attempts lives on when the head is gone. Both are right as long as an
acknowledgement answers the first transmission of the head.
-/

namespace IotgoFirmware.Mcu.TcDelivery

open IotgoFirmware.Library.CStrings
open IotgoFirmware.Library.StepRuns
open IotgoFirmware.Send.SendQueue
open IotgoFirmware.Mcu.TcQueue

set_option autoImplicit false

def isTransmission (serial : Nat) : TcLog → Bool
  | .transmitted sent _ => sent = serial
  | .removed _ _ => false

def transmissions (serial : Nat) (log : List TcLog) : Nat :=
  log.countP (isTransmission serial)

/-- A message was transmitted before it left, and twice before it was given up. -/
def Delivered (log : List TcLog) : Prop :=
  ∀ before serial cause, before ++ [.removed serial cause] <+: log →
    1 ≤ transmissions serial before ∧ (cause = .timedOut → transmissions serial before = 2)

/-- A text is not empty; no signal from an earlier message stands when the first
message comes in; and an acknowledgement arrives while the timer of a first
transmission runs, or for an empty queue. -/
def Orderly (state : TcState) : TcEvent → Prop
  | .enqueue data =>
      (∀ memory ∈ data, cString memory ≠ []) ∧
        (state.queue.nodes = [] → .updateByRemote ∉ state.inbox)
  | .ret _ =>
      state.queue.nodes ≠ [] → state.sendDataAgainTimer ≠ none ∧ state.sendCounter = 0
  | .respond _ =>
      state.queue.nodes ≠ [] → state.sendDataAgainTimer ≠ none ∧ state.sendCounter = 0
  | .timer => True
  | .deliver => True
  | .post _ => True

instance (state : TcState) (event : TcEvent) : Decidable (Orderly state event) := by
  cases event <;> unfold Orderly <;> infer_instance

section Log

variable (serial : Nat) (log : List TcLog)

@[simp] theorem transmissions_transmitted (sent : Nat) (text : List UInt8) :
    transmissions serial (log ++ [.transmitted sent text]) =
      transmissions serial log + if sent = serial then 1 else 0 := by
  rw [transmissions, List.countP_append, List.countP_singleton, isTransmission]
  simp [transmissions]

@[simp] theorem transmissions_removed (gone : Nat) (cause : Removal) :
    transmissions serial (log ++ [.removed gone cause]) = transmissions serial log := by
  rw [transmissions, List.countP_append, List.countP_singleton, isTransmission]
  simp [transmissions]

theorem delivered_transmitted {log : List TcLog} (delivered : Delivered log) (sent : Nat)
    (text : List UInt8) : Delivered (log ++ [.transmitted sent text]) := by
  intro before serial cause among
  rcases List.prefix_concat_iff.1 among with last | earlier
  · have clash := (List.append_inj' last rfl).2
    cases clash
  · exact delivered before serial cause earlier

theorem delivered_removed {log : List TcLog} (delivered : Delivered log) {gone : Nat}
    {cause : Removal} (sent : 1 ≤ transmissions gone log)
    (twice : cause = .timedOut → transmissions gone log = 2) :
    Delivered (log ++ [.removed gone cause]) := by
  intro before serial cause among
  rcases List.prefix_concat_iff.1 among with last | earlier
  · rcases List.append_inj' last rfl with ⟨rfl, here⟩
    cases here
    exact ⟨sent, twice⟩
  · exact delivered before serial cause earlier

theorem not_delivered {log : List TcLog} (serial : Nat) (cause : Removal)
    (before : List TcLog) (among : before ++ [.removed serial cause] <+: log)
    (few : transmissions serial before = 0 ∨
      cause = .timedOut ∧ transmissions serial before ≠ 2) : ¬ Delivered log := by
  intro delivered
  rcases delivered before serial cause among with ⟨sent, twice⟩
  rcases few with never | ⟨out, other⟩
  · exact absurd never (Nat.one_le_iff_ne_zero.1 sent)
  · exact other (twice out)

end Log

/-- How often the head has been transmitted, by the timer and the counter. -/
def attempts (state : TcState) : Nat :=
  state.sendCounter + if state.sendDataAgainTimer.isSome then 1 else 0

structure InOrder (state : TcState) : Prop where
  counted : state.sendCounter ≤ 1
  fresh : state.queue.nodes = [] → state.sendCounter = 0
  running : state.sendDataAgainTimer ≠ none →
    state.queue.nodes ≠ [] ∧ .updateByRemote ∉ state.inbox
  single : state.inbox.count .updateByRemote ≤ 1
  texts : ∀ node ∈ state.queue.nodes, cString (node.data.getD []) ≠ []
  head : ∀ node ∈ state.queue.nodes.head?, transmissions node.serial state.log = attempts state
  waiting : ∀ node ∈ state.queue.nodes.tail, transmissions node.serial state.log = 0
  unseen : ∀ serial, state.queue.allocated ≤ serial → transmissions serial state.log = 0
  delivered : Delivered state.log

theorem in_order_initial : InOrder .initial where
  counted := Nat.zero_le 1
  fresh _ := rfl
  running ran := absurd rfl ran
  single := Nat.zero_le 1
  texts node member := by cases member
  head node member := by cases member
  waiting node member := by cases member
  unseen _ _ := rfl
  delivered before serial cause among := by simp [TcState.initial] at among

section Steps

variable {state : TcState}

theorem count_post (state : TcState) (signal : DeviceSignal) :
    (postDevice state signal).inbox.count .updateByRemote ≤
      state.inbox.count .updateByRemote + if signal = .updateByRemote then 1 else 0 := by
  rcases post_inbox state signal with ⟨grown, -⟩ | ⟨same, -⟩
  · rw [grown, List.count_append, List.count_singleton]
    simp
  · rw [same]
    exact Nat.le_add_right _ _

/-- The signal is posted where it does not stand yet, and the timer is off. -/
theorem in_order_post_remote (order : InOrder state) (idle : state.sendDataAgainTimer = none)
    (alone : .updateByRemote ∉ state.inbox) : InOrder (postDevice state .updateByRemote) where
  counted := by simpa using order.counted
  fresh := by simpa using order.fresh
  running ran := by
    rw [post_timer] at ran
    exact absurd idle ran
  single := by
    have most := count_post state .updateByRemote
    rw [List.count_eq_zero_of_not_mem alone] at most
    exact most
  texts := by simpa using order.texts
  head := by simpa [attempts] using order.head
  waiting := by simpa using order.waiting
  unseen := by simpa using order.unseen
  delivered := by simpa using order.delivered

theorem in_order_post_other (order : InOrder state) (signal : Nat) :
    InOrder (postDevice state (.other signal)) where
  counted := by simpa using order.counted
  fresh := by simpa using order.fresh
  running ran := by
    rw [post_timer] at ran
    rw [post_queue]
    refine ⟨(order.running ran).1, ?_⟩
    rcases post_inbox state (.other signal) with ⟨grown, -⟩ | ⟨same, -⟩
    · rw [grown]
      simpa using (order.running ran).2
    · rw [same]
      exact (order.running ran).2
  single := (count_post state (.other signal)).trans (by simpa using order.single)
  texts := by simpa using order.texts
  head := by simpa [attempts] using order.head
  waiting := by simpa using order.waiting
  unseen := by simpa using order.unseen
  delivered := by simpa using order.delivered

/-- A new message is behind the others, or it is the first one and no attempt counts
for it. -/
theorem in_order_link (order : InOrder state) {memory : List UInt8}
    (text : cString memory ≠ []) (room : state.queue.length < 10) :
    InOrder { state with queue := state.queue.link (cString memory ++ [0]) tcNull room } where
  counted := order.counted
  fresh empty := by simp at empty
  running ran := ⟨by simp, (order.running ran).2⟩
  single := order.single
  texts node member := by
    rw [link_nodes] at member
    rcases List.mem_append.1 member with old | new
    · exact order.texts node old
    · rw [List.mem_singleton.1 new]
      change cString (cString memory ++ [0]) ≠ []
      rw [c_string_append_nul, c_string_idem]
      exact text
  head node member := by
    have none := order.unseen state.queue.allocated (Nat.le_refl _)
    cases front : state.queue.nodes with
    | nil =>
        have idle : state.sendDataAgainTimer.isSome = false := by
          by_contra ran
          rw [Bool.not_eq_false, Option.isSome_iff_ne_none] at ran
          exact (order.running ran).1 front
        rw [link_nodes, front] at member
        cases member
        change transmissions state.queue.allocated state.log = attempts state
        rw [none, attempts, order.fresh front, idle]
        rfl
    | cons first rest =>
        rw [link_nodes, front] at member
        cases member
        apply order.head
        rw [front]
        rfl
  waiting node member := by
    have none := order.unseen state.queue.allocated (Nat.le_refl _)
    cases front : state.queue.nodes with
    | nil =>
        rw [link_nodes, front] at member
        cases member
    | cons first rest =>
        rw [link_nodes, front, List.cons_append, List.tail_cons] at member
        rcases List.mem_append.1 member with old | new
        · apply order.waiting
          rw [front]
          exact old
        · rw [List.mem_singleton.1 new]
          exact none
  unseen serial above := order.unseen serial (Nat.le_of_succ_le above)
  delivered := order.delivered

/-- The head goes after the attempts that the cause asks for, and none counts for the
next message. -/
theorem in_order_drop (order : InOrder state) (cause : Removal)
    (sent : state.queue.nodes ≠ [] →
      1 ≤ attempts state ∧ (cause = .timedOut → attempts state = 2)) :
    InOrder (dropHead { state with sendDataAgainTimer := none, sendCounter := 0 } cause) := by
  cases front : state.queue.nodes with
  | nil =>
      have same : (dropHead { state with sendDataAgainTimer := none, sendCounter := 0 } cause).log =
          state.log := by
        simp [dropHead, front]
      constructor
      case counted => exact Nat.zero_le 1
      case fresh => exact fun _ => rfl
      case running => exact fun ran => absurd rfl ran
      case single => exact order.single
      case texts => simp [front]
      case head => simp [front]
      case waiting => simp [front]
      case unseen =>
        rw [same]
        exact order.unseen
      case delivered =>
        rw [same]
        exact order.delivered
  | cons node rest =>
      have log : (dropHead { state with sendDataAgainTimer := none, sendCounter := 0 } cause).log =
          state.log ++ [.removed node.serial cause] := by
        simp [dropHead, front]
      have enough := sent (front ▸ List.cons_ne_nil node rest)
      have first : transmissions node.serial state.log = attempts state :=
        order.head node (by rw [front]; rfl)
      have later : ∀ other ∈ rest, transmissions other.serial state.log = 0 := by
        intro other member
        apply order.waiting
        rw [front]
        exact member
      constructor
      case counted => exact Nat.zero_le 1
      case fresh => exact fun _ => rfl
      case running => exact fun ran => absurd rfl ran
      case single => exact order.single
      case texts =>
        intro other member
        exact order.texts other (List.mem_of_mem_tail member)
      case head =>
        intro other member
        rw [drop_head_nodes, front] at member
        rw [log, transmissions_removed]
        exact later other (List.mem_of_mem_head? member)
      case waiting =>
        intro other member
        rw [drop_head_nodes, front] at member
        rw [log, transmissions_removed]
        exact later other (List.mem_of_mem_tail member)
      case unseen =>
        intro serial above
        rw [log, transmissions_removed]
        exact order.unseen serial above
      case delivered =>
        rw [log]
        rw [← first] at enough
        exact delivered_removed order.delivered enough.1 enough.2

theorem in_order_acknowledge (order : InOrder state)
    (answered : state.queue.nodes ≠ [] →
      state.sendDataAgainTimer ≠ none ∧ state.sendCounter = 0) :
    InOrder (acknowledge state) := by
  have counter : state.sendCounter = 0 := by
    by_cases empty : state.queue.nodes = []
    · exact order.fresh empty
    · exact (answered empty).2
  have dropped := in_order_drop order .acknowledged fun more =>
    ⟨by
      rw [attempts, if_pos (Option.isSome_iff_ne_none.2 (answered more).1)]
      exact Nat.le_add_left 1 _, nofun⟩
  rw [← counter] at dropped
  exact dropped

theorem in_order_timer (order : InOrder state) : InOrder (tcStep state .timer) := by
  cases armed : state.sendDataAgainTimer with
  | none =>
      rw [timer_step_idle state armed]
      exact order
  | some delay =>
      have ran : state.sendDataAgainTimer ≠ none := by
        rw [armed]
        exact Option.some_ne_none delay
      rcases order.running ran with ⟨nonempty, alone⟩
      have sent : attempts state = state.sendCounter + 1 := by
        rw [attempts, armed]
        rfl
      rw [timer_step state armed]
      split
      · rename_i second
        have two : attempts state = 2 := by
          rw [sent, Nat.le_antisymm order.counted second]
        have dropped := in_order_drop order .timedOut fun _ =>
          ⟨two ▸ Nat.le_succ 1, fun _ => two⟩
        exact in_order_post_remote dropped rfl alone
      · rename_i first
        have zero : state.sendCounter = 0 := Nat.eq_zero_of_not_pos first
        have counts : InOrder
            { state with sendDataAgainTimer := none, sendCounter := state.sendCounter + 1 } :=
          { order with
            counted := by simp [zero]
            fresh := fun empty => absurd empty nonempty
            running := fun ran => absurd rfl ran
            head := by
              intro node member
              rw [order.head node member, sent]
              rfl }
        exact in_order_post_remote counts rfl alone

theorem in_order_transmit (order : InOrder state) (idle : state.sendDataAgainTimer = none)
    (alone : .updateByRemote ∉ state.inbox) : InOrder (transDataToMcu state) := by
  unfold transDataToMcu
  split
  · exact order
  · rename_i node rest front
    have text : cString (node.data.getD []) ≠ [] := by
      apply order.texts
      rw [front]
      exact List.mem_cons_self
    have others : ∀ serial, serial ≠ node.serial → ∀ text,
        transmissions serial (state.log ++ [.transmitted node.serial text]) =
          transmissions serial state.log := by
      intro serial other text
      rw [transmissions_transmitted, if_neg other.symm, Nat.add_zero]
    rw [cmdSendDataToMcu, if_neg text]
    constructor
    case counted => exact order.counted
    case fresh =>
      intro empty
      exact absurd (front.symm.trans empty) (List.cons_ne_nil node rest)
    case running => exact fun _ => ⟨front ▸ List.cons_ne_nil node rest, alone⟩
    case single => exact order.single
    case texts => exact order.texts
    case head =>
      intro other member
      change other ∈ state.queue.nodes.head? at member
      rw [front] at member
      cases member
      have earlier : transmissions node.serial state.log = attempts state :=
        order.head node (by rw [front]; rfl)
      rw [transmissions_transmitted, if_pos rfl, earlier, attempts, attempts, idle]
      rfl
    case waiting =>
      intro other member
      change other ∈ state.queue.nodes.tail at member
      have still := order.waiting other member
      rw [front] at member
      have distinct := state.queue.distinct
      rw [front, List.map_cons, List.nodup_cons] at distinct
      rw [others, still]
      intro same
      exact distinct.1 (same ▸ List.mem_map_of_mem member)
    case unseen =>
      intro serial above
      have below : node.serial < state.queue.allocated := by
        apply state.queue.numbered
        rw [front]
        exact List.mem_cons_self
      rw [others]
      · exact order.unseen serial above
      · exact (Nat.lt_of_lt_of_le below above).ne'
    case delivered => exact delivered_transmitted order.delivered _ _

theorem in_order_deliver (order : InOrder state) : InOrder (tcStep state .deliver) := by
  cases first : state.inbox with
  | nil =>
      rw [tcStep, first]
      exact order
  | cons signal rest =>
      have single := order.single
      rw [first, List.count_cons] at single
      have popped : InOrder { state with inbox := rest } :=
        { order with
          running := fun ran => by
            rcases order.running ran with ⟨more, alone⟩
            rw [first] at alone
            exact ⟨more, fun later => alone (List.mem_cons_of_mem signal later)⟩
          single := (Nat.le_add_right _ _).trans single }
      cases signal with
      | updateByRemote =>
          rw [tcStep, first]
          refine in_order_transmit popped ?_ ?_
          · by_contra ran
            apply (order.running ran).2
            rw [first]
            exact List.mem_cons_self
          · rw [← List.count_eq_zero]
            simpa using single
      | other signal =>
          rw [tcStep, first]
          exact popped

theorem step_in_order {event : TcEvent} (order : InOrder state) (orderly : Orderly state event) :
    InOrder (tcStep state event) := by
  cases event with
  | enqueue data =>
      rcases orderly with ⟨text, alone⟩
      rcases enqueue_cases state data with
        ⟨result, -⟩ | ⟨memory, room, rfl, ⟨-, result⟩ | ⟨empty, result⟩⟩
      · rw [result]
        exact order
      · rw [result]
        exact in_order_link order (text memory rfl) room
      · rw [result]
        refine in_order_post_remote (in_order_link order (text memory rfl) room) ?_ (alone empty)
        by_contra ran
        exact (order.running ran).1 empty
  | ret isArray =>
      rw [ret_step]
      exact in_order_acknowledge order orderly
  | respond cmd =>
      rw [respond_step]
      exact in_order_acknowledge order orderly
  | timer => exact in_order_timer order
  | deliver => exact in_order_deliver order
  | post signal => exact in_order_post_other order signal

end Steps

/-- In an orderly run every message is transmitted before it leaves, and twice before
it is given up. -/
theorem orderly_delivered {events : List TcEvent}
    (orderly : Meets TcStep Orderly .initial events) :
    Keeps TcStep (fun state => Delivered state.log) .initial events := by
  have kept : Keeps TcStep InOrder .initial events := by
    refine keeps_of_meets InOrder ?_ in_order_initial orderly
    intro state event next order now taken
    rw [← taken]
    exact step_in_order order now
  exact keeps_mono (fun state order => order.delivered) kept

/-- The first message is given up, the second one is acknowledged. -/
theorem orderly_delivered_two :
    Keeps TcStep (fun state => Delivered state.log) .initial
      [.enqueue (some [65, 0]), .enqueue (some [66, 0]), .deliver, .timer, .deliver, .timer,
        .deliver, .ret true] := by
  apply orderly_delivered
  exact meets_of_exec tc_step_deterministic tc_step_computed (by decide +kernel)

/-- An acknowledgement that comes twice removes a message that was never transmitted;
and a message that comes after one that was acknowledged the second time is given up
after one transmission. -/
theorem removed_too_early :
    (∃ final, Run TcStep .initial
        [.enqueue (some [65, 0]), .deliver, .ret true, .enqueue (some [66, 0]), .ret true] final ∧
      ¬ Delivered final.log) ∧
    ∃ final, Run TcStep .initial
        [.enqueue (some [65, 0]), .deliver, .timer, .deliver, .ret true,
          .enqueue (some [66, 0]), .deliver, .timer] final ∧
      ¬ Delivered final.log := by
  constructor
  · refine ⟨_, .cons rfl (.cons rfl (.cons rfl (.cons rfl (.cons rfl .nil)))), ?_⟩
    apply not_delivered 1 .acknowledged [.transmitted 0 [65], .removed 0 .acknowledged]
    · decide +kernel
    · decide +kernel
  · refine ⟨_, .cons rfl (.cons rfl (.cons rfl (.cons rfl (.cons rfl (.cons rfl (.cons rfl
      (.cons rfl .nil))))))), ?_⟩
    apply not_delivered 1 .timedOut [.transmitted 0 [65], .transmitted 0 [65],
      .removed 0 .acknowledged, .transmitted 1 [66]]
    · decide +kernel
    · decide +kernel

end IotgoFirmware.Mcu.TcDelivery
