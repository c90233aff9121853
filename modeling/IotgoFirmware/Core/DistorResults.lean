import IotgoFirmware.Core.Distributor
import IotgoFirmware.Library.StepRuns

/-!
# Whose result it is

Each start of a request to the distributor is to be followed by one result at most, and that
is to come from an event of the request itself. The flag lets only one result through for
each start; but it does not ask whose event it is, and a result that still waits for the core
task when the next request starts is taken for one of that request.
-/

namespace IotgoFirmware.Core.DistorResults

open IotgoFirmware.Library.StepRuns
open IotgoFirmware.Core.Distributor
open IotgoFirmware.Receive.SproObject
open IotgoFirmware.Receive.SproEvents
open IotgoFirmware.Send.SendJson (IoTgoDeviceMode)

set_option autoImplicit false

section Law

def finishedOf : DistorMessage → Option DistorResult
  | .finished result => some result
  | _ => none

/-- The results that wait for the core task. -/
def waiting (inbox : List DistorMessage) : List DistorResult :=
  inbox.filterMap finishedOf

/-- A result of the request's own event, and of its own receive object. -/
structure Own (result : DistorResult) : Prop where
  source : result.source = result.request
  object : ∀ object ∈ result.object, object = result.request

/-- Every result is the request's own, it waits or is taken during that request, and no request
has two. -/
structure LawfulOn (request : Nat) (inbox : List DistorMessage) (results : List DistorResult)
    (handled : List (DistorResult × Nat)) : Prop where
  own : ∀ result ∈ results, Own result
  waits : ∀ result ∈ waiting inbox, result.request = request
  taken : ∀ pair ∈ handled, pair.1.request = pair.2
  once : (results.map DistorResult.request).Nodup ∧ (handled.map Prod.snd).Nodup

def Lawful (state : DistorState) : Prop :=
  LawfulOn state.request state.inbox state.results state.handled

/-- The results belong to different requests, in the order of their starts; what was taken and
what waits are some of them, in that order. -/
structure OrderedOn (request : Nat) (flag : Bool) (spro : Option Nat)
    (inbox : List DistorMessage) (results : List DistorResult)
    (handled : List (DistorResult × Nat)) : Prop where
  order : (results.map DistorResult.request).Pairwise (· < ·)
  bound : ∀ result ∈ results, result.request < request ∨ flag = true ∧ result.request = request
  queue : (handled.map Prod.fst ++ waiting inbox).Sublist results
  pointer : ∀ object ∈ spro, object = request

def Ordered (state : DistorState) : Prop :=
  OrderedOn state.request state.postResultFlag state.spro state.inbox state.results state.handled

variable {request : Nat} {flag : Bool} {spro : Option Nat} {inbox : List DistorMessage}
  {results : List DistorResult} {handled : List (DistorResult × Nat)}

theorem lawful_of_ordered (ordered : OrderedOn request flag spro inbox results handled)
    (own : ∀ result ∈ results, Own result)
    (waits : ∀ result ∈ waiting inbox, result.request = request)
    (taken : ∀ pair ∈ handled, pair.1.request = pair.2) :
    LawfulOn request inbox results handled where
  own := own
  waits := waits
  taken := taken
  once := by
    have single := ordered.order.imp fun less => Nat.ne_of_lt less
    have part : ((handled.map Prod.fst).map DistorResult.request).Sublist
        (results.map DistorResult.request) :=
      ((List.sublist_append_left _ _).trans ordered.queue).map _
    have same : handled.map Prod.snd = (handled.map Prod.fst).map DistorResult.request := by
      rw [List.map_map]
      apply List.map_congr_left
      intro pair member
      exact (taken pair member).symm
    refine ⟨single, ?_⟩
    rw [same]
    exact single.sublist part

theorem waiting_append (front back : List DistorMessage) :
    waiting (front ++ back) = waiting front ++ waiting back :=
  List.filterMap_append

theorem waiting_other {message : DistorMessage} (other : finishedOf message = none)
    (inbox : List DistorMessage) : waiting (inbox ++ [message]) = waiting inbox := by
  rw [waiting_append]
  simp [waiting, other]

end Law

section Posts

variable {state : DistorState}

/-- A message that is no result changes nothing of the law. -/
theorem post_other_lawful {message : DistorMessage} (other : finishedOf message = none)
    (lawful : Lawful state) : Lawful (systemOsPost state message) := by
  unfold systemOsPost
  split
  · refine ⟨lawful.own, ?_, lawful.taken, lawful.once⟩
    rw [waiting_other other]
    exact lawful.waits
  · exact lawful

theorem post_other_ordered {message : DistorMessage} (other : finishedOf message = none)
    (ordered : Ordered state) : Ordered (systemOsPost state message) := by
  unfold systemOsPost
  split
  · refine ⟨ordered.order, ordered.bound, ?_, ordered.pointer⟩
    rw [waiting_other other]
    exact ordered.queue
  · exact ordered

theorem count_result_lawful {code : DistorCode} :
    Lawful (countResult state code) ↔ Lawful state := by
  unfold countResult
  split <;> exact Iff.rfl

theorem count_result_ordered {code : DistorCode} :
    Ordered (countResult state code) ↔ Ordered state := by
  unfold countResult
  split <;> exact Iff.rfl

variable {source : Nat} {object : Option Nat} {code : DistorCode}

theorem result_ordered (ordered : Ordered state) :
    Ordered (distorPostResultToNetworkCenter state source object code) := by
  unfold distorPostResultToNetworkCenter
  dsimp only
  split
  · exact ordered
  · rename_i closed
    rw [Bool.not_eq_true] at closed
    rw [count_result_ordered]
    have before : ∀ result ∈ state.results, result.request < state.request := by
      intro result member
      rcases ordered.bound result member with less | ⟨posted, -⟩
      · exact less
      · rw [closed] at posted
        cases posted
    have order : ((state.results ++ [DistorResult.mk state.request source object code]).map
        DistorResult.request).Pairwise (· < ·) := by
      rw [List.map_append, List.pairwise_append]
      refine ⟨ordered.order, List.pairwise_singleton _ _, ?_⟩
      intro earlier member last final
      obtain ⟨result, inside, rfl⟩ := List.mem_map.1 member
      rw [List.map_singleton, List.mem_singleton] at final
      rw [final]
      exact before result inside
    have bound : ∀ result ∈ state.results ++ [DistorResult.mk state.request source object code],
        result.request < state.request ∨ true = true ∧ result.request = state.request := by
      intro result member
      rcases List.mem_append.1 member with earlier | last
      · exact .inl (before result earlier)
      · rw [List.mem_singleton.1 last]
        exact .inr ⟨rfl, rfl⟩
    unfold systemOsPost
    split
    · refine ⟨order, bound, ?_, ordered.pointer⟩
      rw [waiting_append, ← List.append_assoc]
      exact ordered.queue.append (List.Sublist.refl _)
    · exact ⟨order, bound, ordered.queue.trans (List.sublist_append_left _ _), ordered.pointer⟩

/-- A result is lawful where the request still waits for one only if it is its own. -/
theorem result_lawful_iff (ordered : Ordered state) (lawful : Lawful state) :
    Lawful (distorPostResultToNetworkCenter state source object code) ↔
      (state.postResultFlag = false → source = state.request ∧
        ∀ through ∈ object, through = state.request) := by
  have next : Ordered (distorPostResultToNetworkCenter state source object code) :=
    result_ordered ordered
  unfold distorPostResultToNetworkCenter at next ⊢
  dsimp only at next ⊢
  cases closed : state.postResultFlag with
  | true =>
      rw [if_pos rfl]
      exact iff_of_true lawful fun waits => by cases waits
  | false =>
      rw [closed] at next
      rw [if_neg Bool.false_ne_true, count_result_ordered] at next
      rw [if_neg Bool.false_ne_true, count_result_lawful]
      have single : Own (DistorResult.mk state.request source object code) ↔
          (false = false → source = state.request ∧
            ∀ through ∈ object, through = state.request) :=
        ⟨fun own _ => ⟨own.source, own.object⟩, fun both => ⟨(both rfl).1, (both rfl).2⟩⟩
      rw [← single]
      constructor
      · intro kept
        have inside : DistorResult.mk state.request source object code ∈
            state.results ++ [DistorResult.mk state.request source object code] :=
          List.mem_append_right _ List.mem_cons_self
        unfold systemOsPost at kept
        split at kept
        · exact kept.own _ inside
        · exact kept.own _ inside
      · intro own
        have all : ∀ result ∈ state.results ++ [DistorResult.mk state.request source object code],
            Own result := by
          intro result member
          rcases List.mem_append.1 member with earlier | last
          · exact lawful.own result earlier
          · rw [List.mem_singleton.1 last]
            exact own
        unfold systemOsPost at next ⊢
        split
        · rename_i room
          rw [if_pos room] at next
          refine lawful_of_ordered next all ?_ lawful.taken
          rw [waiting_append]
          intro result member
          rcases List.mem_append.1 member with earlier | last
          · exact lawful.waits result earlier
          · rw [List.mem_singleton.1 last]
        · rename_i full
          rw [if_neg full] at next
          exact lawful_of_ordered next all lawful.waits lawful.taken

/-- A result takes nothing away. -/
theorem lawful_of_result
    (lawful : Lawful (distorPostResultToNetworkCenter state source object code)) :
    Lawful state := by
  unfold distorPostResultToNetworkCenter at lawful
  dsimp only at lawful
  split at lawful
  · exact lawful
  · rw [count_result_lawful] at lawful
    have single : (state.results.map DistorResult.request).Nodup := by
      have longer : ((state.results ++ [DistorResult.mk state.request source object code]).map
          DistorResult.request).Nodup := by
        unfold systemOsPost at lawful
        split at lawful <;> exact lawful.once.1
      rw [List.map_append] at longer
      exact longer.of_append_left
    have own : ∀ result ∈ state.results, Own result := by
      intro result member
      unfold systemOsPost at lawful
      split at lawful <;> exact lawful.own result (List.mem_append_left _ member)
    unfold systemOsPost at lawful
    split at lawful
    · refine ⟨own, ?_, lawful.taken, single, lawful.once.2⟩
      intro result member
      apply lawful.waits result
      rw [waiting_append]
      exact List.mem_append_left _ member
    · exact ⟨own, lawful.waits, lawful.taken, single, lawful.once.2⟩

end Posts

section Packages

variable {state : DistorState} (board : DistorBoard) (source object : Nat)

theorem pkg_ordered (pdata : List UInt8) (ordered : Ordered state) :
    Ordered (distorSproOnePkgCb state board source object pdata) := by
  unfold distorSproOnePkgCb
  split
  · rename_i host port _
    have same : Ordered (distorSetServerInfo state host port) := ordered
    exact result_ordered same
  · exact result_ordered ordered

theorem pkg_lawful_iff (pdata : List UInt8) (ordered : Ordered state) (lawful : Lawful state) :
    Lawful (distorSproOnePkgCb state board source object pdata) ↔
      (state.postResultFlag = false → source = state.request ∧ object = state.request) := by
  unfold distorSproOnePkgCb
  split
  · rename_i host port _
    have same : Ordered (distorSetServerInfo state host port) := ordered
    have kept : Lawful (distorSetServerInfo state host port) := lawful
    rw [result_lawful_iff same kept]
    simp [distorSetServerInfo]
  · rw [result_lawful_iff ordered lawful]
    simp

theorem pkg_closes (pdata : List UInt8) :
    (distorSproOnePkgCb state board source object pdata).postResultFlag = true := by
  have closes : ∀ (state : DistorState) (code : DistorCode),
      (distorPostResultToNetworkCenter state source (some object) code).postResultFlag = true := by
    intro state code
    unfold distorPostResultToNetworkCenter countResult systemOsPost
    dsimp only
    split
    · assumption
    · split <;> split <;> rfl
  unfold distorSproOnePkgCb
  split <;> exact closes _ _

/-- After the result there is none. -/
theorem pkg_closed (pdata : List UInt8) (closed : state.postResultFlag = true) :
    Lawful (distorSproOnePkgCb state board source object pdata) ↔ Lawful state := by
  unfold distorSproOnePkgCb distorPostResultToNetworkCenter distorSetServerInfo
  split
  · rw [if_pos closed]
    exact Iff.rfl
  · rw [if_pos closed]

theorem calls_ordered (calls : List PkgCall) (ordered : Ordered state) :
    Ordered (distorPkgCalls state board source object calls) := by
  induction calls generalizing state with
  | nil => exact ordered
  | cons call rest ih => exact ih (pkg_ordered board source object call.memory ordered)

theorem calls_closed (calls : List PkgCall) (closed : state.postResultFlag = true) :
    Lawful (distorPkgCalls state board source object calls) ↔ Lawful state := by
  induction calls generalizing state with
  | nil => exact Iff.rfl
  | cons call rest ih =>
      rw [← pkg_closed board source object call.memory closed]
      exact ih (pkg_closes board source object call.memory)

theorem calls_lawful_iff (calls : List PkgCall) (ordered : Ordered state)
    (lawful : Lawful state) :
    Lawful (distorPkgCalls state board source object calls) ↔
      (calls ≠ [] → state.postResultFlag = false →
        source = state.request ∧ object = state.request) := by
  cases calls with
  | nil => exact iff_of_true lawful fun nonempty => absurd rfl nonempty
  | cons call rest =>
      rw [imp_iff_right (List.cons_ne_nil call rest),
        ← pkg_lawful_iff board source object call.memory ordered lawful]
      exact calls_closed board source object rest (pkg_closes board source object call.memory)

end Packages

section Requests

variable {state : DistorState}

theorem conn_ordered (source : Nat) (connected : Bool) (ordered : Ordered state) :
    Ordered (connToDistributor state source connected) := by
  unfold connToDistributor
  split
  · exact ordered
  · exact result_ordered ordered

theorem conn_lawful_iff (source : Nat) (connected : Bool) (ordered : Ordered state)
    (lawful : Lawful state) :
    Lawful (connToDistributor state source connected) ↔
      (connected = false → state.postResultFlag = false → source = state.request) := by
  unfold connToDistributor
  cases connected with
  | true =>
      rw [if_pos rfl]
      exact iff_of_true lawful fun failed => by cases failed
  | false =>
      rw [if_neg Bool.false_ne_true, result_lawful_iff ordered lawful, imp_iff_right rfl]
      simp

theorem lawful_of_conn {source : Nat} {connected : Bool}
    (lawful : Lawful (connToDistributor state source connected)) : Lawful state := by
  unfold connToDistributor at lawful
  split at lawful
  · exact lawful
  · exact lawful_of_result lawful

variable (board : DistorBoard) (memory connected : Bool)

theorem server_ip_ordered :
    Ordered (distorGetDistorServerIP state board).2 ↔ Ordered state := by
  unfold distorGetDistorServerIP
  split <;> exact Iff.rfl

theorem server_ip_lawful : Lawful (distorGetDistorServerIP state board).2 ↔ Lawful state := by
  unfold distorGetDistorServerIP
  split <;> exact Iff.rfl

theorem launch_ordered (ordered : Ordered state) :
    Ordered (launchTCPConnToDistributor state board connected) := by
  have found : Ordered { (distorGetDistorServerIP state board).2 with registered := false } :=
    (server_ip_ordered board).2 ordered
  unfold launchTCPConnToDistributor
  dsimp only
  split
  · exact found
  · exact conn_ordered _ _ found

theorem launch_lawful_iff (ordered : Ordered state) :
    Lawful (launchTCPConnToDistributor state board connected) ↔ Lawful state := by
  have order : Ordered { (distorGetDistorServerIP state board).2 with registered := false } :=
    (server_ip_ordered board).2 ordered
  have law : Lawful { (distorGetDistorServerIP state board).2 with registered := false } ↔
      Lawful state := server_ip_lawful board
  unfold launchTCPConnToDistributor
  dsimp only
  split
  · exact law
  · rw [← law]
    constructor
    · exact lawful_of_conn
    · intro lawful
      exact (conn_lawful_iff _ _ order lawful).2 fun _ _ => rfl

theorem reset_ordered (ordered : Ordered state) : Ordered (resetRequest state memory) := by
  refine ⟨ordered.order, ?_, ordered.queue, ?_⟩
  · intro result member
    rcases ordered.bound result member with less | ⟨-, same⟩
    · exact .inl (Nat.lt_succ_of_lt less)
    · exact .inl (Nat.lt_succ_of_le same.le)
  · unfold resetRequest
    cases memory with
    | true => exact fun object member => (Option.some.inj member).symm
    | false => exact fun object member => by cases member

/-- A request starts lawfully where no result waits. -/
theorem reset_lawful_iff (ordered : Ordered state) (lawful : Lawful state) :
    Lawful (resetRequest state memory) ↔ waiting state.inbox = [] := by
  constructor
  · intro kept
    rw [List.eq_nil_iff_forall_not_mem]
    intro result member
    have next : result.request = state.request + 1 := kept.waits result member
    have posted : result ∈ state.results :=
      ((List.sublist_append_right _ _).trans ordered.queue).mem member
    rcases ordered.bound result posted with less | ⟨-, same⟩
    · omega
    · omega
  · intro empty
    refine ⟨lawful.own, ?_, lawful.taken, lawful.once⟩
    change ∀ result ∈ waiting state.inbox, _
    rw [empty]
    exact fun result member => absurd member List.not_mem_nil

theorem start_ordered (ordered : Ordered state) :
    Ordered (startDistorRequest state board memory connected) :=
  launch_ordered board connected (reset_ordered memory ordered)

theorem start_lawful_iff (ordered : Ordered state) (lawful : Lawful state) :
    Lawful (startDistorRequest state board memory connected) ↔ waiting state.inbox = [] := by
  rw [← reset_lawful_iff memory ordered lawful]
  exact launch_lawful_iff board connected (reset_ordered memory ordered)

theorem stop_ordered (ordered : Ordered state) : Ordered (stopDistorRequest state) := by
  unfold stopDistorRequest
  split
  · exact ⟨ordered.order, ordered.bound, ordered.queue, fun object member => by cases member⟩
  · exact ordered

theorem stop_lawful_iff : Lawful (stopDistorRequest state) ↔ Lawful state := by
  unfold stopDistorRequest
  split <;> exact Iff.rfl

variable {inbox : List DistorMessage} {message : DistorMessage}

/-- The next message is taken off. -/
theorem taken_ordered (queue : state.inbox = message :: inbox)
    (other : finishedOf message = none) (ordered : Ordered state) :
    Ordered { state with inbox := inbox } := by
  refine ⟨ordered.order, ordered.bound, ?_, ordered.pointer⟩
  have same : waiting state.inbox = waiting inbox := by
    rw [queue, waiting, List.filterMap_cons_none other]
    rfl
  rw [← same]
  exact ordered.queue

theorem taken_lawful (queue : state.inbox = message :: inbox)
    (other : finishedOf message = none) (lawful : Lawful state) :
    Lawful { state with inbox := inbox } := by
  refine ⟨lawful.own, ?_, lawful.taken, lawful.once⟩
  have same : waiting state.inbox = waiting inbox := by
    rw [queue, waiting, List.filterMap_cons_none other]
    rfl
  rw [← same]
  exact lawful.waits

variable {result : DistorResult}

theorem finished_ordered (queue : state.inbox = .finished result :: inbox)
    (ordered : Ordered state) :
    Ordered { state with
      inbox := inbox
      handled := state.handled ++ [(result, state.request)] } := by
  refine ⟨ordered.order, ordered.bound, ?_, ordered.pointer⟩
  have same : waiting state.inbox = result :: waiting inbox := by
    rw [queue]
    rfl
  have order := ordered.queue
  rw [same] at order
  rw [List.map_append, List.append_assoc]
  exact order

/-- A result that waits lawfully is taken lawfully. -/
theorem finished_lawful (queue : state.inbox = .finished result :: inbox)
    (ordered : Ordered state) (lawful : Lawful state) :
    Lawful { state with
      inbox := inbox
      handled := state.handled ++ [(result, state.request)] } := by
  have same : waiting state.inbox = result :: waiting inbox := by
    rw [queue]
    rfl
  have waits := lawful.waits
  rw [same, List.forall_mem_cons] at waits
  refine lawful_of_ordered (finished_ordered queue ordered) lawful.own waits.2 ?_
  intro pair member
  rcases List.mem_append.1 member with earlier | last
  · exact lawful.taken pair earlier
  · rw [List.mem_singleton.1 last]
    exact waits.1

end Requests

section Events

/-- The data makes the object that the pointer is at hand out a package. -/
def HandsOut (state : DistorState) (segment : Segment) : Prop :=
  ∃ object session next, state.spro = some object ∧ state.objects object = some session ∧
    Received segment session next ∧ next.calls.drop session.calls.length ≠ []

/-- The timer of an object is due. -/
def Expires (state : DistorState) (object : Nat) (env : Ambient) : Prop :=
  ∃ session, state.objects object = some session ∧ session.pkgProcCb = true ∧
    (session.timer.any fun due => decide (due ≤ env.now)) = true

/-- While a request waits for its result, no failed lookup, connection or disconnection, no
package and no failed sending for an earlier request comes, and no receive object of one times
out; and no result waits for the core task when a request starts. -/
def Within (state : DistorState) : DistorEvent → Prop
  | .handle _ _ => state.mode ≠ .setting →
      ∀ rest, state.inbox = .distributor :: rest → waiting rest = []
  | .dnsFound source ipaddr connected => state.postResultFlag = false →
      source ∈ state.lookups → ipaddr.getD 0 = 0 ∨ connected = false → source = state.request
  | .received source segment => state.postResultFlag = false → source ∈ state.connections →
      state.registered = true → HandsOut state segment → source = state.request
  | .disconnected source => state.postResultFlag = false → source ∈ state.connections →
      state.registered = true → source = state.request
  | .reconnected source => state.postResultFlag = false → source ∈ state.connections →
      source = state.request
  | .connTimer sent => state.postResultFlag = false → sent = false →
      ∀ source ∈ state.distorConnTimer, source = state.request
  | .sproTimer object env => state.postResultFlag = false → Expires state object env →
      object = state.request
  | .connected _ => True
  | .timeoutTimer => True
  | .tryDistorTimer => True
  | .setMode _ => True
  | .postDistributor => True
  | .postJoinAp => True
  | .postOther => True

variable {board : DistorBoard} {state next : DistorState}

theorem handle_ordered {memory connected : Bool} (ordered : Ordered state)
    (step : DistorStep board state (.handle memory connected) next) : Ordered next := by
  unfold DistorStep distorExec at step
  dsimp only at step
  cases queue : state.inbox with
  | nil =>
      rw [queue] at step
      cases step
  | cons message rest =>
      rw [queue] at step
      obtain rfl := Option.some.inj step
      unfold handleMessage
      cases message with
      | distributor =>
          have taken := taken_ordered queue rfl ordered
          dsimp only
          split
          · exact start_ordered board memory connected taken
          · exact taken
      | finished result =>
          have stopped := stop_ordered (finished_ordered queue ordered)
          dsimp only
          split
          · exact post_other_ordered rfl stopped
          · exact stopped
      | joinAp =>
          have taken := taken_ordered queue rfl ordered
          exact taken
      | other => exact taken_ordered queue rfl ordered

theorem handle_lawful_iff {memory connected : Bool} (ordered : Ordered state)
    (lawful : Lawful state) (step : DistorStep board state (.handle memory connected) next) :
    Lawful next ↔ Within state (.handle memory connected) := by
  unfold DistorStep distorExec at step
  unfold Within
  dsimp only at step ⊢
  cases queue : state.inbox with
  | nil =>
      rw [queue] at step
      cases step
  | cons message rest =>
      rw [queue] at step
      obtain rfl := Option.some.inj step
      unfold handleMessage
      cases message with
      | distributor =>
          have order := taken_ordered queue rfl ordered
          have taken := taken_lawful queue rfl lawful
          dsimp only
          split
          · rename_i mode
            rw [start_lawful_iff board memory connected order taken, imp_iff_right mode]
            simp
          · rename_i mode
            exact iff_of_true taken fun other => absurd other mode
      | finished result =>
          have stopped := stop_lawful_iff.2 (finished_lawful queue ordered lawful)
          refine iff_of_true ?_ fun _ rest' clash => by cases clash
          dsimp only
          split
          · exact post_other_lawful rfl stopped
          · exact stopped
      | joinAp =>
          have taken := taken_lawful queue rfl lawful
          exact iff_of_true taken fun _ rest' clash => by cases clash
      | other =>
          exact iff_of_true (taken_lawful queue rfl lawful) fun _ rest' clash => by cases clash

theorem timer_calls {size : UInt16} (env : Ambient) (session : Session size) :
    (spro10sTimerCallback env session).calls.drop session.calls.length ≠ [] ↔
      session.pkgProcCb = true := by
  unfold spro10sTimerCallback callPkgProcCb
  cases session.pkgProcCb <;> simp

theorem dns_ordered {source : Nat} {ipaddr : Option UInt32} {connected : Bool}
    (ordered : Ordered state) :
    Ordered (distorDnsFoundCallback state source ipaddr connected) := by
  unfold distorDnsFoundCallback
  split
  · exact result_ordered ordered
  · split
    · have same : ∀ addr : UInt32, Ordered { state with distorLastIp := addr } := fun _ => ordered
      exact conn_ordered _ _ (same _)
    · exact result_ordered ordered

theorem dns_lawful_iff {source : Nat} {ipaddr : Option UInt32} {connected : Bool}
    (ordered : Ordered state) (lawful : Lawful state) :
    Lawful (distorDnsFoundCallback state source ipaddr connected) ↔
      (state.postResultFlag = false → ipaddr.getD 0 = 0 ∨ connected = false →
        source = state.request) := by
  unfold distorDnsFoundCallback
  cases ipaddr with
  | none =>
      dsimp only
      rw [result_lawful_iff ordered lawful]
      simp
  | some addr =>
      dsimp only
      by_cases zero : addr = 0
      · rw [if_neg (not_not.2 zero), result_lawful_iff ordered lawful]
        simp [zero]
      · have order : Ordered { state with distorLastIp := addr } := ordered
        have law : Lawful { state with distorLastIp := addr } := lawful
        rw [if_pos zero, conn_lawful_iff source connected order law]
        simp only [Option.getD_some, zero, false_or]
        exact ⟨fun own closed failed => own failed closed,
          fun own failed closed => own closed failed⟩

theorem step_ordered {event : DistorEvent} (ordered : Ordered state)
    (step : DistorStep board state event next) : Ordered next := by
  cases event with
  | handle memory connected => exact handle_ordered ordered step
  | received source segment =>
      obtain ⟨-, -, passes⟩ := step
      cases passes with
      | ignored => exact ordered
      | passed =>
          unfold afterReceived
          exact calls_ordered board _ _ _ ordered
  | dnsFound source ipaddr connected =>
      unfold DistorStep distorExec at step
      dsimp only at step
      split at step
      · obtain rfl := Option.some.inj step
        exact dns_ordered ordered
      · cases step
  | connected source =>
      unfold DistorStep distorExec at step
      dsimp only at step
      split at step
      · obtain rfl := Option.some.inj step
        exact ordered
      · cases step
  | disconnected source =>
      unfold DistorStep distorExec at step
      dsimp only at step
      split at step
      · obtain rfl := Option.some.inj step
        exact result_ordered ordered
      · cases step
  | reconnected source =>
      unfold DistorStep distorExec at step
      dsimp only at step
      split at step
      · obtain rfl := Option.some.inj step
        exact result_ordered ordered
      · cases step
  | connTimer sent =>
      obtain ⟨source, -, rfl⟩ := Option.map_eq_some_iff.1 step
      unfold cbDistorConnTimer
      split
      · exact ordered
      · exact result_ordered ordered
  | timeoutTimer =>
      unfold DistorStep distorExec at step
      dsimp only at step
      split at step
      · obtain rfl := Option.some.inj step
        exact result_ordered ordered
      · cases step
  | sproTimer object env =>
      unfold DistorStep distorExec at step
      dsimp only at step
      split at step
      · cases step
      · split at step
        · obtain rfl := Option.some.inj step
          exact calls_ordered board _ _ _ ordered
        · cases step
  | tryDistorTimer =>
      unfold DistorStep distorExec at step
      dsimp only at step
      split at step
      · obtain rfl := Option.some.inj step
        unfold tryDistorTmrCb
        split
        · exact post_other_ordered rfl ordered
        · exact ordered
      · cases step
  | setMode mode =>
      obtain rfl := Option.some.inj step
      exact ordered
  | postDistributor =>
      obtain rfl := Option.some.inj step
      exact post_other_ordered rfl ordered
  | postJoinAp =>
      obtain rfl := Option.some.inj step
      exact post_other_ordered rfl ordered
  | postOther =>
      obtain rfl := Option.some.inj step
      exact post_other_ordered rfl ordered

/-- An event that leads to one state. -/
theorem all_next {after : DistorState} {event : DistorEvent} {condition : Prop}
    (steps : ∀ next, DistorStep board state event next ↔ next = after)
    (law : Lawful after ↔ condition) :
    (∀ next, DistorStep board state event next → Lawful next) ↔ condition := by
  rw [← law]
  constructor
  · intro kept
    exact kept after ((steps after).2 rfl)
  · intro kept next step
    rw [(steps next).1 step]
    exact kept

/-- An event that leads nowhere. -/
theorem no_next {event : DistorEvent} {condition : Prop}
    (stuck : ∀ next, ¬ DistorStep board state event next) (holds : condition) :
    (∀ next, DistorStep board state event next → Lawful next) ↔ condition :=
  iff_of_true (fun next step => absurd step (stuck next)) holds

theorem some_next {after : DistorState} {event : DistorEvent}
    (step : distorExec board state event = some after)
    (plain : ∀ next, DistorStep board state event next ↔ distorExec board state event = some next)
    (next : DistorState) : DistorStep board state event next ↔ next = after := by
  rw [plain, step]
  exact ⟨fun same => (Option.some.inj same).symm, fun same => congrArg some same.symm⟩

theorem none_next {event : DistorEvent} (step : distorExec board state event = none)
    (plain : ∀ next, DistorStep board state event next ↔ distorExec board state event = some next)
    (next : DistorState) : ¬ DistorStep board state event next := by
  rw [plain, step]
  simp

theorem received_iff (source : Nat) (segment : Segment) (ordered : Ordered state)
    (lawful : Lawful state) :
    (∀ next, DistorStep board state (.received source segment) next → Lawful next) ↔
      Within state (.received source segment) := by
  have law : ∀ object session next, state.spro = some object →
      (Lawful (afterReceived board state source object session next) ↔
        (next.calls.drop session.calls.length ≠ [] → state.postResultFlag = false →
          source = state.request ∧ object = state.request)) := by
    intro object session next _
    unfold afterReceived
    exact calls_lawful_iff board source object _ ordered lawful
  constructor
  · rintro kept waits belongs registered
      ⟨object, session, next, pointer, allocated, received, nonempty⟩
    have after := kept _ ⟨belongs, registered, .passed pointer allocated received⟩
    rw [law object session next pointer] at after
    exact (after nonempty waits).1
  · rintro within next ⟨belongs, registered, passes⟩
    cases passes with
    | ignored => exact lawful
    | @passed object session next pointer allocated received =>
        rw [law object session next pointer]
        intro nonempty waits
        refine ⟨?_, ordered.pointer object pointer⟩
        exact within waits belongs registered
          ⟨object, session, next, pointer, allocated, received, nonempty⟩

theorem handle_iff (memory connected : Bool) (ordered : Ordered state) (lawful : Lawful state) :
    (∀ next, DistorStep board state (.handle memory connected) next → Lawful next) ↔
      Within state (.handle memory connected) := by
  cases queue : state.inbox with
  | nil =>
      have stuck : distorExec board state (.handle memory connected) = none := by
        unfold distorExec
        rw [queue]
      refine no_next (none_next stuck fun _ => Iff.rfl) fun _ rest clash => ?_
      rw [queue] at clash
      cases clash
  | cons message rest =>
      have taken : distorExec board state (.handle memory connected) =
          some (handleMessage { state with inbox := rest } board memory connected message) := by
        unfold distorExec
        rw [queue]
      exact all_next (some_next taken fun _ => Iff.rfl) (handle_lawful_iff ordered lawful taken)

theorem dns_found_iff (source : Nat) (ipaddr : Option UInt32) (connected : Bool)
    (ordered : Ordered state) (lawful : Lawful state) :
    (∀ next, DistorStep board state (.dnsFound source ipaddr connected) next → Lawful next) ↔
      Within state (.dnsFound source ipaddr connected) := by
  by_cases known : source ∈ state.lookups
  · have same : Lawful { state with lookups := state.lookups.erase source } := lawful
    refine all_next (some_next (if_pos known) fun _ => Iff.rfl) ?_
    rw [dns_lawful_iff (by exact ordered) same]
    exact ⟨fun own waits _ => own waits, fun within waits => within waits known⟩
  · exact no_next (none_next (if_neg known) fun _ => Iff.rfl) fun _ there => absurd there known

theorem connected_iff (source : Nat) (lawful : Lawful state) :
    (∀ next, DistorStep board state (.connected source) next → Lawful next) ↔
      Within state (.connected source) := by
  by_cases known : source ∈ state.connections
  · have same : Lawful (distorConnTCPConnectedCallback state source) := lawful
    exact all_next (some_next (if_pos known) fun _ => Iff.rfl) (iff_of_true same trivial)
  · exact no_next (none_next (if_neg known) fun _ => Iff.rfl) trivial

theorem disconnected_iff (source : Nat) (ordered : Ordered state) (lawful : Lawful state) :
    (∀ next, DistorStep board state (.disconnected source) next → Lawful next) ↔
      Within state (.disconnected source) := by
  by_cases known : source ∈ state.connections ∧ state.registered = true
  · refine all_next (some_next (if_pos known) fun _ => Iff.rfl) ?_
    rw [result_lawful_iff ordered lawful]
    unfold Within
    simp [known]
  · refine no_next (none_next (if_neg known) fun _ => Iff.rfl) fun _ there registered => ?_
    exact absurd ⟨there, registered⟩ known

theorem reconnected_iff (source : Nat) (ordered : Ordered state) (lawful : Lawful state) :
    (∀ next, DistorStep board state (.reconnected source) next → Lawful next) ↔
      Within state (.reconnected source) := by
  by_cases known : source ∈ state.connections
  · refine all_next (some_next (if_pos known) fun _ => Iff.rfl) ?_
    rw [result_lawful_iff ordered lawful]
    unfold Within
    simp [known]
  · exact no_next (none_next (if_neg known) fun _ => Iff.rfl) fun _ there => absurd there known

theorem conn_timer_iff (sent : Bool) (ordered : Ordered state) (lawful : Lawful state) :
    (∀ next, DistorStep board state (.connTimer sent) next → Lawful next) ↔
      Within state (.connTimer sent) := by
  cases armed : state.distorConnTimer with
  | none =>
      have stuck : distorExec board state (.connTimer sent) = none := by
        unfold distorExec
        rw [armed]
        rfl
      refine no_next (none_next stuck fun _ => Iff.rfl) fun _ _ source there => ?_
      rw [armed] at there
      cases there
  | some source =>
      have taken : distorExec board state (.connTimer sent) =
          some (cbDistorConnTimer { state with distorConnTimer := none } source sent) := by
        unfold distorExec
        rw [armed]
        rfl
      refine all_next (some_next taken fun _ => Iff.rfl) ?_
      have order : Ordered { state with distorConnTimer := none } := ordered
      have law : Lawful { state with distorConnTimer := none } := lawful
      unfold cbDistorConnTimer Within
      rw [armed]
      cases sent with
      | true =>
          rw [if_pos rfl]
          exact iff_of_true law fun _ failed => by cases failed
      | false =>
          rw [if_neg Bool.false_ne_true, result_lawful_iff order law]
          simp

theorem timeout_timer_iff (ordered : Ordered state) (lawful : Lawful state) :
    (∀ next, DistorStep board state .timeoutTimer next → Lawful next) ↔
      Within state .timeoutTimer := by
  by_cases armed : state.distorTimeoutTimer = true
  · refine all_next (some_next (if_pos armed) fun _ => Iff.rfl) ?_
    have order : Ordered { state with distorTimeoutTimer := false } := ordered
    have law : Lawful { state with distorTimeoutTimer := false } := lawful
    rw [result_lawful_iff order law]
    exact iff_of_true (fun _ => ⟨rfl, fun through member => by cases member⟩) trivial
  · exact no_next (none_next (if_neg armed) fun _ => Iff.rfl) trivial

theorem spro_timer_iff (object : Nat) (env : Ambient) (ordered : Ordered state)
    (lawful : Lawful state) :
    (∀ next, DistorStep board state (.sproTimer object env) next → Lawful next) ↔
      Within state (.sproTimer object env) := by
  cases allocated : state.objects object with
  | none =>
      have stuck : distorExec board state (.sproTimer object env) = none := by
        unfold distorExec
        dsimp only
        rw [allocated]
      refine no_next (none_next stuck fun _ => Iff.rfl) ?_
      rintro _ ⟨session, there, -⟩
      rw [allocated] at there
      cases there
  | some session =>
      by_cases due : (session.timer.any fun due => decide (due ≤ env.now)) = true
      · have taken : distorExec board state (.sproTimer object env) =
            some (distorPkgCalls
              { state with
                objects := Function.update state.objects object
                  (some (spro10sTimerCallback env session)) } board object object
              ((spro10sTimerCallback env session).calls.drop session.calls.length)) := by
          unfold distorExec
          dsimp only
          rw [allocated]
          exact if_pos due
        refine all_next (some_next taken fun _ => Iff.rfl) ?_
        have order : Ordered { state with
            objects := Function.update state.objects object
              (some (spro10sTimerCallback env session)) } := ordered
        have law : Lawful { state with
            objects := Function.update state.objects object
              (some (spro10sTimerCallback env session)) } := lawful
        rw [calls_lawful_iff board object object _ order law, timer_calls]
        constructor
        · rintro own waits ⟨session', there, callback, -⟩
          rw [allocated] at there
          cases there
          exact (own callback waits).1
        · intro within callback waits
          have own := within waits ⟨session, allocated, callback, due⟩
          exact ⟨own, own⟩
      · have stuck : distorExec board state (.sproTimer object env) = none := by
          unfold distorExec
          dsimp only
          rw [allocated]
          exact if_neg due
        refine no_next (none_next stuck fun _ => Iff.rfl) ?_
        rintro _ ⟨session', there, -, later⟩
        rw [allocated] at there
        cases there
        exact absurd later due

theorem try_distor_iff (lawful : Lawful state) :
    (∀ next, DistorStep board state .tryDistorTimer next → Lawful next) ↔
      Within state .tryDistorTimer := by
  by_cases armed : state.tryDistorTimer = true
  · refine all_next (some_next (if_pos armed) fun _ => Iff.rfl) (iff_of_true ?_ trivial)
    have law : Lawful { state with tryDistorTimer := false } := lawful
    unfold tryDistorTmrCb
    split
    · exact post_other_lawful rfl law
    · exact law
  · exact no_next (none_next (if_neg armed) fun _ => Iff.rfl) trivial

theorem step_lawful_iff {event : DistorEvent} (ordered : Ordered state) (lawful : Lawful state) :
    (∀ next, DistorStep board state event next → Lawful next) ↔ Within state event := by
  cases event with
  | handle memory connected => exact handle_iff memory connected ordered lawful
  | received source segment => exact received_iff source segment ordered lawful
  | dnsFound source ipaddr connected => exact dns_found_iff source ipaddr connected ordered lawful
  | connected source => exact connected_iff source lawful
  | disconnected source => exact disconnected_iff source ordered lawful
  | reconnected source => exact reconnected_iff source ordered lawful
  | connTimer sent => exact conn_timer_iff sent ordered lawful
  | timeoutTimer => exact timeout_timer_iff ordered lawful
  | sproTimer object env => exact spro_timer_iff object env ordered lawful
  | tryDistorTimer => exact try_distor_iff lawful
  | setMode mode =>
      have same : Lawful { state with mode := mode } := lawful
      exact all_next (some_next rfl fun _ => Iff.rfl) (iff_of_true same trivial)
  | postDistributor =>
      exact all_next (some_next rfl fun _ => Iff.rfl)
        (iff_of_true (post_other_lawful rfl lawful) trivial)
  | postJoinAp =>
      exact all_next (some_next rfl fun _ => Iff.rfl)
        (iff_of_true (post_other_lawful rfl lawful) trivial)
  | postOther =>
      exact all_next (some_next rfl fun _ => Iff.rfl)
        (iff_of_true (post_other_lawful rfl lawful) trivial)

theorem ordered_initial (mode : IoTgoDeviceMode) (flashLastIp : UInt32) :
    Ordered (.initial mode flashLastIp) where
  order := List.Pairwise.nil
  bound := fun _ member => absurd member List.not_mem_nil
  queue := List.Sublist.slnil
  pointer := fun object member => by cases member

theorem lawful_initial (mode : IoTgoDeviceMode) (flashLastIp : UInt32) :
    Lawful (.initial mode flashLastIp) where
  own := fun _ member => absurd member List.not_mem_nil
  waits := fun _ member => absurd member List.not_mem_nil
  taken := fun _ member => absurd member List.not_mem_nil
  once := ⟨List.nodup_nil, List.nodup_nil⟩

/-- Every start of a request is followed by one result at most before the next, and that is its
own, exactly in the runs in which no event of an earlier request yields a result while one is
waited for, and no result waits when a request starts. -/
theorem results_own_iff (board : DistorBoard) (mode : IoTgoDeviceMode)
    (flashLastIp : UInt32) (events : List DistorEvent) :
    Keeps (DistorStep board) Lawful (.initial mode flashLastIp) events ↔
      Meets (DistorStep board) Within (.initial mode flashLastIp) events := by
  apply keeps_iff_meets Ordered
  · intro state event next ordered step
    exact step_ordered ordered step
  · intro state event ordered lawful
    exact step_lawful_iff ordered lawful
  · exact ordered_initial mode flashLastIp
  · exact lawful_initial mode flashLastIp

end Events

section Examples

def exampleBoard : DistorBoard where
  jsonparse _ := []
  hostIp := 0xFFFFFFFF

/-- Two starts, each with a lookup of its own; the first lookup fails. -/
def staleLookup : List DistorEvent :=
  [.postDistributor, .postDistributor, .handle true true, .handle true true,
    .dnsFound 1 none false]

/-- The second request gets the result of the first one's lookup. -/
theorem stale_lookup_answers :
    ¬ Keeps (DistorStep exampleBoard) Lawful (.initial .workApOk 0) staleLookup := by
  intro kept
  have first := kept.2 _ rfl
  have second := first.2 _ rfl
  have third := second.2 _ rfl
  have fourth := third.2 _ rfl
  have last : Lawful _ := fourth.2 _ rfl
  have own := last.own ⟨2, 1, none, .errDns⟩ List.mem_cons_self
  exact absurd own.source (by decide)

end Examples

end IotgoFirmware.Core.DistorResults
