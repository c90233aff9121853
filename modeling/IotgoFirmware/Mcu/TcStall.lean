import IotgoFirmware.Mcu.TcQueue

/-!
# What drives the queue to the MCU

The queue asks for its head to be sent when the first message comes in, and after
that it relies on the timer and on the signal that the timer posts. An
acknowledgement stops the timer and posts nothing.
-/

namespace IotgoFirmware.Mcu.TcStall

open IotgoFirmware.Library.StepRuns
open IotgoFirmware.Send.SendQueue
open IotgoFirmware.Mcu.TcQueue

set_option autoImplicit false

/-- The timer runs, or the head is asked for. -/
def Driven (state : TcState) : Prop :=
  state.sendDataAgainTimer ≠ none ∨ .updateByRemote ∈ state.inbox

instance (state : TcState) : Decidable (Driven state) :=
  inferInstanceAs (Decidable (_ ∨ _))

def NoStall (state : TcState) : Prop :=
  state.queue.nodes ≠ [] → Driven state

instance (state : TcState) : Decidable (NoStall state) :=
  inferInstanceAs (Decidable (_ → _))

def HasRoom (state : TcState) : Prop :=
  state.inbox.length < deviceQueueLength

instance (state : TcState) : Decidable (HasRoom state) :=
  inferInstanceAs (Decidable (_ < _))

/-- An acknowledgement arrives for the last message of the queue, or while the signal
is posted; and where a message is added to an empty queue, or the timer runs out for
a message that stays, the event queue takes the signal. -/
def Resumed (state : TcState) : TcEvent → Prop
  | .enqueue data => state.queue.nodes = [] → data ≠ none → HasRoom state ∨ Driven state
  | .ret _ => 2 ≤ state.queue.length → .updateByRemote ∈ state.inbox
  | .respond _ => 2 ≤ state.queue.length → .updateByRemote ∈ state.inbox
  | .timer =>
      state.sendDataAgainTimer ≠ none →
        (if 1 ≤ state.sendCounter then 2 else 1) ≤ state.queue.length →
          HasRoom state ∨ .updateByRemote ∈ state.inbox
  | .deliver => True
  | .post _ => True

section Steps

variable (state : TcState)

theorem post_remote_iff :
    .updateByRemote ∈ (postDevice state .updateByRemote).inbox ↔
      HasRoom state ∨ .updateByRemote ∈ state.inbox := by
  rcases post_inbox state .updateByRemote with ⟨grown, room⟩ | ⟨same, full⟩
  · rw [grown]
    exact iff_of_true (List.mem_append_right _ (List.mem_singleton_self _)) (.inl room)
  · rw [same]
    exact (or_iff_right full).symm

theorem post_keeps_signal {signal posted : DeviceSignal} (member : posted ∈ state.inbox) :
    posted ∈ (postDevice state signal).inbox := by
  rcases post_inbox state signal with ⟨grown, -⟩ | ⟨same, -⟩
  · rw [grown]
    exact List.mem_append_left _ member
  · rw [same]
    exact member

theorem tail_ne_nil_iff : state.queue.nodes.tail ≠ [] ↔ 2 ≤ state.queue.length := by
  rw [← List.length_pos_iff, List.length_tail, LinkQueue.length]
  omega

theorem enqueue_no_stall_iff (driven : NoStall state) (data : Option (List UInt8)) :
    NoStall (tcStep state (.enqueue data)) ↔ Resumed state (.enqueue data) := by
  rcases enqueue_cases state data with
    ⟨result, refused⟩ | ⟨memory, room, present, ⟨others, result⟩ | ⟨empty, result⟩⟩
  · rw [result]
    refine iff_of_true driven ?_
    intro empty present
    rcases refused with absent | full
    · exact absurd absent present
    · rw [LinkQueue.length, empty] at full
      cases full
  · rw [result]
    exact iff_of_true (fun _ => driven others) fun empty => absurd empty others
  · rw [result]
    have given : data ≠ none := by
      rw [present]
      exact Option.some_ne_none memory
    have linked : (state.queue.link (Library.CStrings.cString memory ++ [0]) tcNull room).nodes ≠
        [] := by
      simp
    rw [NoStall, post_queue, imp_iff_right linked, Driven, post_timer, post_remote_iff]
    rw [Resumed, imp_iff_right empty, imp_iff_right given]
    exact or_left_comm

theorem acknowledge_no_stall_iff :
    NoStall (acknowledge state) ↔
      (2 ≤ state.queue.length → .updateByRemote ∈ state.inbox) := by
  rw [NoStall, acknowledge_nodes, tail_ne_nil_iff, Driven, acknowledge_timer, acknowledge_inbox]
  simp

theorem timer_no_stall_iff (driven : NoStall state) :
    NoStall (tcStep state .timer) ↔ Resumed state .timer := by
  cases armed : state.sendDataAgainTimer with
  | none =>
      rw [timer_step_idle state armed]
      exact iff_of_true driven fun ran => absurd armed ran
  | some delay =>
      have ran : state.sendDataAgainTimer ≠ none := by
        rw [armed]
        exact Option.some_ne_none delay
      rw [timer_step state armed, Resumed, imp_iff_right ran]
      split
      · rw [NoStall, post_queue, drop_head_nodes, tail_ne_nil_iff, Driven, post_timer,
          post_remote_iff, drop_head_timer]
        simp [HasRoom]
      · have nonempty : state.queue.nodes ≠ [] ↔ 1 ≤ state.queue.length := List.length_pos_iff.symm
        rw [NoStall, post_queue, nonempty, Driven, post_timer, post_remote_iff]
        simp [HasRoom]

theorem deliver_no_stall (driven : NoStall state) : NoStall (tcStep state .deliver) := by
  cases first : state.inbox with
  | nil =>
      rw [tcStep, first]
      exact driven
  | cons signal rest =>
      cases signal with
      | updateByRemote =>
          rw [tcStep, first]
          cases front : state.queue.nodes with
          | nil =>
              intro more
              simp [deviceCenter, transDataToMcu, front] at more
          | cons node nodes =>
              intro _
              refine .inl ?_
              simp [deviceCenter, transDataToMcu, front]
      | other signal =>
          rw [tcStep, first]
          intro more
          rcases driven more with running | posted
          · exact .inl running
          · rw [first] at posted
            rcases List.mem_cons.1 posted with clash | later
            · cases clash
            · exact .inr later

theorem post_no_stall (driven : NoStall state) (signal : Nat) :
    NoStall (tcStep state (.post signal)) := by
  intro more
  rw [tcStep, post_queue] at more
  rw [tcStep, Driven, post_timer]
  rcases driven more with running | posted
  · exact .inl running
  · exact .inr (post_keeps_signal state posted)

theorem step_no_stall_iff (driven : NoStall state) (event : TcEvent) :
    NoStall (tcStep state event) ↔ Resumed state event := by
  cases event with
  | enqueue data => exact enqueue_no_stall_iff state driven data
  | ret isArray =>
      rw [ret_step]
      exact acknowledge_no_stall_iff state
  | respond cmd =>
      rw [respond_step]
      exact acknowledge_no_stall_iff state
  | timer => exact timer_no_stall_iff state driven
  | deliver => exact iff_of_true (deliver_no_stall state driven) trivial
  | post signal => exact iff_of_true (post_no_stall state driven signal) trivial

end Steps

/-- The queue is driven in every state of exactly the runs in which every next message
is resumed. -/
theorem no_stall_iff_resumed (events : List TcEvent) :
    Keeps TcStep NoStall .initial events ↔ Meets TcStep Resumed .initial events := by
  apply keeps_iff_meets fun _ => True
  · intro state event next _ _
    trivial
  · intro state event _ driven
    rw [← step_no_stall_iff state driven event]
    exact forall_eq'
  · trivial
  · intro more
    exact absurd rfl more

/-- The first of two messages is acknowledged, and the second one stays. -/
theorem stalled_by_ret :
    ∃ final, Run TcStep .initial
        [.enqueue (some [65, 0]), .enqueue (some [66, 0]), .deliver, .ret true] final ∧
      final.queue.nodes ≠ [] ∧ final.sendDataAgainTimer = none ∧ final.inbox = [] := by
  refine ⟨_, .cons rfl (.cons rfl (.cons rfl (.cons rfl .nil))), ?_⟩
  decide +kernel

end IotgoFirmware.Mcu.TcStall
