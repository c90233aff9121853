import IotgoFirmware.Library.LinkedLists
import IotgoFirmware.Mcu.TcQueue

/-!
# The message queues as linked lists

`iotgo_queue.c` and `iotgo_uart0_send_queue.c` hold the same code under two sets of
names: nodes on the heap, a pointer to the first and one to the last, and a byte that
counts them. A node owns the copy of its data and is freed with it. The queue itself
is a static variable, so the tests whether it is `NULL` are left out.
-/

namespace IotgoFirmware.Mcu.HeapQueues

open IotgoFirmware.Library.CStrings
open IotgoFirmware.Library.LinkedLists
open IotgoFirmware.Library.StepRuns
open IotgoFirmware.Send
open IotgoFirmware.Send.SendQueue
open IotgoFirmware.Mcu.TcQueue

set_option autoImplicit false

/-- An address that is not `NULL`. -/
abbrev Address := UInt32

structure Message where
  data : List UInt8
  type : UInt8
deriving DecidableEq

/-- `wakeUps` counts the posts of `MSG_CORE_SEND_JSON`, for the other queue the calls of
its action. -/
structure HeapQueue where
  heap : Heap Address Message
  head : Option Address
  tail : Option Address
  length : UInt8
  wakeUps : Nat

def HeapQueue.empty : HeapQueue where
  heap := fun _ => none
  head := none
  tail := none
  length := 0
  wakeUps := 0

/-- What a node copies: a ping is no string. -/
def copied (ping : UInt8) (memory : List UInt8) (type : UInt8) : List UInt8 :=
  if type ≠ ping then cString memory ++ [0] else memory.take 6

section Code

/-! `none` stands for an access through a pointer to no node, and for a loop that has
not ended after `fuel` passes. -/

/-- `iotgoInsertNode` and `tcInsertNode`. `block` is what `os_malloc` has to offer; it is
written to without a test for `NULL`. -/
def insertNode (ping : UInt8) (queue : HeapQueue) (data : Option (List UInt8)) (type : UInt8)
    (block : Option Address) : Option (Bool × HeapQueue) :=
  match data with
  | none => some (false, queue)
  | some memory =>
      if 10 ≤ queue.length then some (false, queue)
      else do
        let node ← queue.heap.malloc block
        let heap := queue.heap.write node ⟨⟨copied ping memory type, type⟩, none⟩
        match queue.tail with
        | none =>
            some (true, { queue with heap, head := some node, tail := some node, length := 1 })
        | some tail => do
            let last ← heap tail
            let heap := heap.write tail { last with next := some node }
            some (true, { queue with heap, tail := some node, length := queue.length + 1 })

def deleteHead (queue : HeapQueue) : Option (Bool × HeapQueue) :=
  match queue.head with
  | none => some (true, queue)
  | some node =>
      if queue.head = queue.tail then do
        let heap ← queue.heap.free node
        some (true, { queue with heap, head := none, tail := none, length := 0 })
      else do
        let cell ← queue.heap node
        let heap ← queue.heap.free node
        some (true, { queue with heap, head := cell.next, length := queue.length - 1 })

/-- The loop of `deleteType`, at a node that stays. -/
def deleteLater (type : UInt8) (queue : HeapQueue) : Nat → Address → Option HeapQueue
  | 0, _ => none
  | fuel + 1, node => do
      let here ← queue.heap node
      match here.next with
      | none => some queue
      | some next => do
          let later ← queue.heap next
          if later.payload.type = type then do
            let tail := if later.next = none then some node else queue.tail
            let heap ← (queue.heap.write node { here with next := later.next }).free next
            some { queue with heap, tail, length := queue.length - 1 }
          else deleteLater type queue fuel next

/-- `iotgoDeleteType` and `tcDeleteType`. -/
def deleteType (fuel : Nat) (queue : HeapQueue) (type : UInt8) : Option (Bool × HeapQueue) :=
  match queue.head with
  | none => some (true, queue)
  | some node => do
      let first ← queue.heap node
      if first.payload.type = type then deleteHead queue
      else do
        let queue ← deleteLater type queue fuel node
        some (true, queue)

/-- The loop of `printLinkQueue`, which only reads. -/
def printNodes (heap : Heap Address Message) : Nat → Option Address → Option Unit
  | _, none => some ()
  | 0, some _ => none
  | fuel + 1, some node => do
      let cell ← heap node
      printNodes heap fuel cell.next

def printLinkQueue (fuel : Nat) (queue : HeapQueue) : Option Bool := do
  printNodes queue.heap fuel queue.head
  some true

/-- The loop of `queueDeleteAll`. -/
def deleteHeads : Nat → HeapQueue → Option (Bool × HeapQueue)
  | 0, queue => some (true, queue)
  | count + 1, queue => do
      let (deleted, queue) ← deleteHead queue
      if !deleted then some (false, queue) else deleteHeads count queue

def queueDeleteAll (queue : HeapQueue) : Option (Bool × HeapQueue) :=
  deleteHeads queue.length.toNat queue

/-- The start of `queueAdd`. -/
def deleteFlagged (fuel : Nat) (queue : HeapQueue) (type : UInt8) (delTypeFlag : Bool) :
    Option (Bool × HeapQueue) :=
  if delTypeFlag then deleteType fuel queue type else some (true, queue)

/-- The end of `queueAdd`, once the new node is in. -/
def printAndWake (fuel : Nat) (lengthBeforeDelete : UInt8) (queue : HeapQueue) :
    Option (Bool × HeapQueue) := do
  let printed ← printLinkQueue fuel queue
  if !printed then some (false, queue)
  else if queue.length = 1 ∧ lengthBeforeDelete = 0 then
    some (true, { queue with wakeUps := queue.wakeUps + 1 })
  else some (true, queue)

def queueAdd (ping : UInt8) (fuel : Nat) (queue : HeapQueue) (data : Option (List UInt8))
    (type : UInt8) (delTypeFlag : Bool) (block : Option Address) :
    Option (Bool × HeapQueue) := do
  let lengthBeforeDelete := if delTypeFlag then queue.length else 0
  let (deleted, queue) ← deleteFlagged fuel queue type delTypeFlag
  if !deleted then some (false, queue)
  else do
    let (inserted, queue) ← insertNode ping queue data type block
    if !inserted then some (false, queue)
    else printAndWake fuel lengthBeforeDelete queue

end Code

inductive QueueModule where
  | iotgoQueue
  | uart0SendQueue
deriving DecidableEq

/-- `IOTGO_PING` and `TC_PING`. -/
def QueueModule.ping : QueueModule → UInt8
  | .iotgoQueue => iotgoPing
  | .uart0SendQueue => tcPing

def iotgoQueueAdd : Nat → HeapQueue → Option (List UInt8) → UInt8 → Bool → Option Address →
    Option (Bool × HeapQueue) :=
  queueAdd iotgoPing

def iotgoQueueDeleteHead : HeapQueue → Option (Bool × HeapQueue) :=
  deleteHead

def iotgoQueueDeleteAll : HeapQueue → Option (Bool × HeapQueue) :=
  queueDeleteAll

def tcAddDataToQueue : Nat → HeapQueue → Option (List UInt8) → UInt8 → Bool → Option Address →
    Option (Bool × HeapQueue) :=
  queueAdd tcPing

def tcDeleteNode : HeapQueue → Option (Bool × HeapQueue) :=
  deleteHead

def tcClearQueue : HeapQueue → Option (Bool × HeapQueue) :=
  queueDeleteAll

namespace QueueModule

def add : QueueModule → Nat → HeapQueue → Option (List UInt8) → UInt8 → Bool → Option Address →
    Option (Bool × HeapQueue)
  | .iotgoQueue => iotgoQueueAdd
  | .uart0SendQueue => tcAddDataToQueue

def deleteHead : QueueModule → HeapQueue → Option (Bool × HeapQueue)
  | .iotgoQueue => iotgoQueueDeleteHead
  | .uart0SendQueue => tcDeleteNode

def deleteAll : QueueModule → HeapQueue → Option (Bool × HeapQueue)
  | .iotgoQueue => iotgoQueueDeleteAll
  | .uart0SendQueue => tcClearQueue

theorem add_eq (code : QueueModule) : code.add = queueAdd code.ping := by
  cases code <;> rfl

theorem delete_head_eq (code : QueueModule) : code.deleteHead = HeapQueues.deleteHead := by
  cases code <;> rfl

theorem delete_all_eq (code : QueueModule) : code.deleteAll = queueDeleteAll := by
  cases code <;> rfl

end QueueModule

/-- The queue is the list of these nodes, first one first, and no other node is
allocated. -/
structure Holds (queue : HeapQueue) (nodes : List (Address × Message)) : Prop where
  linked : Segment queue.heap queue.head nodes none
  last : queue.tail = nodes.getLast?.map Prod.fst
  counted : queue.length.toNat = nodes.length
  short : nodes.length ≤ 10
  owned : ∀ address, queue.heap address ≠ none → address ∈ addresses nodes

/-- The nodes without the first one of a type. -/
def withoutFirst (type : UInt8) (nodes : List (Address × Message)) : List (Address × Message) :=
  nodes.eraseP fun node => node.2.type = type

theorem holds_empty : Holds .empty [] where
  linked := .nil
  last := rfl
  counted := rfl
  short := Nat.zero_le 10
  owned _ used := absurd rfl used

theorem pred_to_nat {length : UInt8} {count : Nat} (counted : length.toNat = count + 1) :
    (length - 1).toNat = count := by
  have bounded := length.toNat_lt
  rw [UInt8.toNat_sub, counted]
  simp
  omega

theorem succ_to_nat {length : UInt8} {count : Nat} (counted : length.toNat = count)
    (short : count < 10) : (length + 1).toNat = count + 1 := by
  rw [UInt8.toNat_add, counted]
  simp
  omega

section Deletions

variable {queue : HeapQueue} {nodes : List (Address × Message)}

theorem head_null_iff_tail_null (holds : Holds queue nodes) :
    queue.head = none ↔ queue.tail = none := by
  cases nodes with
  | nil =>
      have first := segment_nil_iff.1 holds.linked
      simp [first, holds.last]
  | cons node rest =>
      rcases segment_cons_iff.1 holds.linked with ⟨first, -⟩
      simp [first, holds.last]

theorem owned_update {address : Address} {rest : List (Address × Message)}
    {heap : Heap Address Message}
    (others : ∀ other, other ≠ address → heap other ≠ none → other ∈ addresses rest) :
    ∀ other, Function.update heap address none other ≠ none → other ∈ addresses rest := by
  intro other used
  by_cases same : other = address
  · subst same
    rw [Function.update_self] at used
    exact absurd rfl used
  · rw [Function.update_of_ne same] at used
    exact others other same used

theorem owned_write {address : Address} {cell : Cell Address Message}
    {among : List Address} {heap : Heap Address Message} (listed : address ∈ among)
    (others : ∀ other, heap other ≠ none → other ∈ among) :
    ∀ other, heap.write address cell other ≠ none → other ∈ among := by
  intro other used
  by_cases same : other = address
  · exact same ▸ listed
  · rw [write_other _ same] at used
    exact others other used

theorem delete_head_holds (holds : Holds queue nodes) :
    ∃ next, deleteHead queue = some (true, next) ∧ Holds next nodes.tail := by
  cases nodes with
  | nil =>
      have first := segment_nil_iff.1 holds.linked
      exact ⟨queue, by rw [deleteHead, first], holds⟩
  | cons node rest =>
      obtain ⟨address, message⟩ := node
      obtain ⟨first, next, here, behind⟩ := segment_cons_iff.1 holds.linked
      have distinct := List.nodup_cons.1 (list_nodup holds.linked)
      have others : ∀ other, other ≠ address → queue.heap other ≠ none →
          other ∈ addresses rest := by
        intro other differ used
        exact List.mem_of_ne_of_mem differ (holds.owned other used)
      cases rest with
      | nil =>
          have only : queue.head = queue.tail := by rw [first, holds.last]; rfl
          refine ⟨⟨Function.update queue.heap address none, none, none, 0, queue.wakeUps⟩, ?_,
            .nil, rfl, rfl, Nat.zero_le 10, owned_update others⟩
          rw [first] at only
          simp [deleteHead, first, ← only, free_of_cell here]
      | cons second rest =>
          have last : queue.tail = ((second :: rest).getLast?).map Prod.fst := by
            rw [holds.last, List.getLast?_cons_cons]
          have differ : queue.head ≠ queue.tail := by
            rw [first, last]
            intro same
            obtain ⟨final, ending, equal⟩ := Option.map_eq_some_iff.1 same.symm
            exact distinct.1 (List.mem_map.2 ⟨final, List.mem_of_getLast? ending, equal⟩)
          refine ⟨⟨Function.update queue.heap address none, next, queue.tail, queue.length - 1,
            queue.wakeUps⟩, ?_, segment_update behind distinct.1, last,
            pred_to_nat holds.counted, ?_, owned_update others⟩
          · rw [first] at differ
            simp [deleteHead, first, differ, here, free_of_cell here]
          · have short := holds.short
            simp only [List.length_cons, List.tail_cons] at short ⊢
            omega

theorem delete_heads_holds (count : Nat) (holds : Holds queue nodes) :
    ∃ next, deleteHeads count queue = some (true, next) ∧ Holds next (nodes.drop count) := by
  induction count generalizing queue nodes with
  | zero => exact ⟨queue, rfl, holds⟩
  | succ count ih =>
      obtain ⟨shorter, deleted, kept⟩ := delete_head_holds holds
      obtain ⟨next, rest, ending⟩ := ih kept
      refine ⟨next, ?_, ?_⟩
      · simp [deleteHeads, deleted, rest]
      · rwa [List.drop_tail] at ending

theorem delete_all_holds (holds : Holds queue nodes) :
    ∃ next, queueDeleteAll queue = some (true, next) ∧ Holds next [] := by
  obtain ⟨next, deleted, rest⟩ := delete_heads_holds queue.length.toNat holds
  rw [holds.counted, List.drop_length] at rest
  exact ⟨next, deleted, rest⟩

/-- The node behind one that stays is cut out. -/
theorem unlink_holds {front back : List (Address × Message)} {address gone : Address}
    {message removed : Message} {next : Option Address}
    (holds : Holds queue (front ++ (address, message) :: (gone, removed) :: back))
    (there : queue.heap gone = some ⟨removed, next⟩) :
    Holds { queue with
        heap := Function.update (queue.heap.write address ⟨message, next⟩) gone none
        tail := if next = none then some address else queue.tail
        length := queue.length - 1 }
      (front ++ (address, message) :: back) := by
  have linked := list_unlink holds.linked there
  have behind : Segment queue.heap next back none := by
    obtain ⟨middle, -, chain⟩ := segment_append_iff.1 holds.linked
    obtain ⟨-, second, -, rest⟩ := segment_cons_iff.1 chain
    obtain ⟨rfl, third, found, remaining⟩ := segment_cons_iff.1 rest
    rw [there] at found
    cases found
    exact remaining
  have counted := holds.counted
  have short := holds.short
  simp only [List.length_append, List.length_cons] at counted short
  refine ⟨linked, ?_, ?_, ?_, owned_update ?_⟩
  · cases back with
    | nil =>
        have final := segment_nil_iff.1 behind
        simp [final]
    | cons third back =>
        obtain ⟨final, -⟩ := segment_cons_iff.1 behind
        simp [final, holds.last]
  · refine pred_to_nat ?_
    simp only [List.length_append, List.length_cons]
    omega
  · simp only [List.length_append, List.length_cons]
    omega
  · intro other differ used
    by_cases same : other = address
    · simp [same]
    · rw [write_other _ same] at used
      have member := holds.owned other used
      simp only [addresses_append, addresses_cons, List.mem_append, List.mem_cons] at member ⊢
      tauto

theorem delete_later_holds (type : UInt8) {fuel : Nat} {front back : List (Address × Message)}
    {address : Address} {message : Message}
    (holds : Holds queue (front ++ (address, message) :: back)) (enough : back.length < fuel) :
    ∃ next, deleteLater type queue fuel address = some next ∧
      Holds next (front ++ (address, message) :: withoutFirst type back) ∧
      (withoutFirst type back = back → next = queue) := by
  induction fuel generalizing front back address message with
  | zero => omega
  | succ fuel ih =>
      obtain ⟨middle, -, chain⟩ := segment_append_iff.1 holds.linked
      obtain ⟨-, next, here, behind⟩ := segment_cons_iff.1 chain
      cases back with
      | nil =>
          have final := segment_nil_iff.1 behind
          refine ⟨queue, ?_, holds, fun _ => rfl⟩
          simp [deleteLater, here, final]
      | cons later back =>
          obtain ⟨second, removed⟩ := later
          obtain ⟨rfl, third, there, -⟩ := segment_cons_iff.1 behind
          by_cases typed : removed.type = type
          · have kept := unlink_holds holds there
            have differ : second ≠ address := by
              have distinct := list_nodup chain
              simp only [addresses_cons, List.nodup_cons, List.mem_cons, not_or] at distinct
              exact Ne.symm distinct.1.1
            have live : queue.heap.write address ⟨message, third⟩ second = queue.heap second :=
              write_other _ differ
            rw [withoutFirst, List.eraseP_cons_of_pos (by simpa using typed)]
            refine ⟨_, ?_, kept, ?_⟩
            · simp [deleteLater, here, there, typed, free_of_cell (live.trans there)]
            · intro same
              have longer := congrArg List.length same
              simp at longer
          · have shorter : back.length < fuel := by
              rw [List.length_cons] at enough
              omega
            have split : front ++ (address, message) :: (second, removed) :: back =
                (front ++ [(address, message)]) ++ (second, removed) :: back := by simp
            rw [split] at holds
            obtain ⟨final, deleted, kept, unchanged⟩ := ih holds shorter
            have skipped : withoutFirst type ((second, removed) :: back) =
                (second, removed) :: withoutFirst type back :=
              List.eraseP_cons_of_neg (by simpa using typed)
            rw [skipped]
            refine ⟨final, ?_, by simpa using kept, ?_⟩
            · simp [deleteLater, here, there, typed, deleted]
            · intro same
              exact unchanged (List.tail_eq_of_cons_eq same)

theorem delete_type_holds (type : UInt8) {fuel : Nat} (enough : 10 ≤ fuel)
    (holds : Holds queue nodes) :
    ∃ next, deleteType fuel queue type = some (true, next) ∧
      Holds next (withoutFirst type nodes) ∧ (withoutFirst type nodes = nodes → next = queue) := by
  cases nodes with
  | nil =>
      have first := segment_nil_iff.1 holds.linked
      exact ⟨queue, by rw [deleteType, first], holds, fun _ => rfl⟩
  | cons node rest =>
      obtain ⟨address, message⟩ := node
      obtain ⟨first, second, here, -⟩ := segment_cons_iff.1 holds.linked
      by_cases typed : message.type = type
      · obtain ⟨next, deleted, kept⟩ := delete_head_holds holds
        have cut : withoutFirst type ((address, message) :: rest) = rest :=
          List.eraseP_cons_of_pos (by simpa using typed)
        rw [cut]
        refine ⟨next, ?_, kept, ?_⟩
        · simp [deleteType, first, here, typed, deleted]
        · intro same
          have longer := congrArg List.length same
          simp at longer
      · have short := holds.short
        rw [List.length_cons] at short
        have inside : rest.length < fuel := by omega
        have skipped : withoutFirst type ((address, message) :: rest) =
            (address, message) :: withoutFirst type rest :=
          List.eraseP_cons_of_neg (by simpa using typed)
        rw [← List.nil_append ((address, message) :: rest)] at holds
        obtain ⟨next, deleted, kept, unchanged⟩ := delete_later_holds type holds inside
        rw [skipped]
        refine ⟨next, ?_, kept, ?_⟩
        · simp [deleteType, first, here, typed, deleted]
        · intro same
          exact unchanged (List.tail_eq_of_cons_eq same)

end Deletions

section Additions

variable {ping : UInt8} {queue : HeapQueue} {nodes : List (Address × Message)}
  {memory : List UInt8} {type : UInt8} {block : Option Address}

theorem room_iff (holds : Holds queue nodes) : 10 ≤ queue.length ↔ nodes.length = 10 := by
  have short := holds.short
  rw [UInt8.le_iff_toNat_le, holds.counted]
  change 10 ≤ nodes.length ↔ nodes.length = 10
  omega

theorem unused_of_not_mem {address : Address} (holds : Holds queue nodes)
    (fresh : address ∉ addresses nodes) : queue.heap address = none := by
  by_contra used
  exact fresh (holds.owned address used)

theorem insert_refused (holds : Holds queue nodes) (full : nodes.length = 10) :
    insertNode ping queue (some memory) type block = some (false, queue) := by
  rw [insertNode, if_pos ((room_iff holds).2 full)]

/-- The copy of the data goes to the null pointer. -/
theorem insert_faults (holds : Holds queue nodes) (room : nodes.length < 10)
    (exhausted : ∀ address, block = some address → address ∈ addresses nodes) :
    insertNode ping queue (some memory) type block = none := by
  have notFull : ¬ 10 ≤ queue.length := by
    rw [room_iff holds]
    omega
  have nothing : queue.heap.malloc block = none := by
    refine malloc_of_used ?_
    intro address offered
    exact segment_allocated holds.linked address (exhausted address offered)
  rw [insertNode, if_neg notFull, nothing]
  rfl

theorem insert_holds {address : Address} (holds : Holds queue nodes) (room : nodes.length < 10)
    (fresh : address ∉ addresses nodes) :
    ∃ next, insertNode ping queue (some memory) type (some address) = some (true, next) ∧
      Holds next (nodes ++ [(address, ⟨copied ping memory type, type⟩)]) := by
  have notFull : ¬ 10 ≤ queue.length := by
    rw [room_iff holds]
    omega
  have unused := unused_of_not_mem holds fresh
  have given := malloc_of_fresh unused
  rcases List.eq_nil_or_concat nodes with rfl | ⟨front, ⟨final, message⟩, rfl⟩
  · have empty : queue.tail = none := holds.last
    refine ⟨_, by simp [insertNode, notFull, given, empty]; rfl, ?_, rfl, rfl, by simp, ?_⟩
    · exact .cons (write_same _) .nil
    · refine owned_write List.mem_cons_self ?_
      intro other used
      exact absurd (holds.owned other used) List.not_mem_nil
  · rw [List.concat_eq_append] at *
    have last : queue.tail = some final := by simp [holds.last]
    obtain ⟨middle, -, ending⟩ := segment_append_iff.1 holds.linked
    obtain ⟨-, next, here, behind⟩ := segment_cons_iff.1 ending
    have stop := segment_nil_iff.1 behind
    have differ : final ≠ address := by
      rintro rfl
      simp at fresh
    have there : queue.heap.write address ⟨⟨copied ping memory type, type⟩, none⟩ final =
        some ⟨message, none⟩ := by
      rw [write_other _ differ, here, stop]
    refine ⟨_, by simp [insertNode, notFull, given, last, there]; rfl, ?_, by simp, ?_, ?_, ?_⟩
    · exact list_link holds.linked unused
    · rw [List.length_append]
      exact succ_to_nat holds.counted room
    · rw [List.length_append]
      exact room
    · refine owned_write (by simp) (owned_write (by simp) ?_)
      intro other used
      rw [addresses_append]
      exact List.mem_append_left _ (holds.owned other used)

theorem print_nodes_ends {heap : Heap Address Message} {fuel : Nat} {first : Option Address}
    (chain : Segment heap first nodes none) (enough : nodes.length ≤ fuel) :
    printNodes heap fuel first = some () := by
  induction nodes generalizing fuel first with
  | nil =>
      rw [segment_nil_iff.1 chain, printNodes]
  | cons node rest ih =>
      obtain ⟨rfl, next, here, behind⟩ := segment_cons_iff.1 chain
      cases fuel with
      | zero => simp at enough
      | succ fuel =>
          have printed := ih behind (Nat.le_of_succ_le_succ enough)
          simp [printNodes, here, printed]

theorem print_and_wake_holds {fuel : Nat} (lengthBeforeDelete : UInt8) (enough : 10 ≤ fuel)
    (holds : Holds queue nodes) :
    ∃ next, printAndWake fuel lengthBeforeDelete queue = some (true, next) ∧
      Holds next nodes := by
  have printed := print_nodes_ends holds.linked (holds.short.trans enough)
  by_cases alone : queue.length = 1 ∧ lengthBeforeDelete = 0
  · refine ⟨{ queue with wakeUps := queue.wakeUps + 1 }, ?_, holds.linked, holds.last,
      holds.counted, holds.short, holds.owned⟩
    simp [printAndWake, printLinkQueue, printed, alone]
  · refine ⟨queue, ?_, holds⟩
    simp [printAndWake, printLinkQueue, printed, alone]

/-- The nodes that are there when the new one is added. -/
def keptNodes (delTypeFlag : Bool) (type : UInt8) (nodes : List (Address × Message)) :
    List (Address × Message) :=
  if delTypeFlag then withoutFirst type nodes else nodes

theorem kept_sublist (delTypeFlag : Bool) (type : UInt8) (nodes : List (Address × Message)) :
    (keptNodes delTypeFlag type nodes).Sublist nodes := by
  cases delTypeFlag with
  | false => exact List.Sublist.refl nodes
  | true => exact List.eraseP_sublist

theorem kept_of_full {delTypeFlag : Bool} (short : nodes.length ≤ 10)
    (full : (keptNodes delTypeFlag type nodes).length = 10) :
    keptNodes delTypeFlag type nodes = nodes :=
  (kept_sublist delTypeFlag type nodes).eq_of_length_le (full ▸ short)

theorem delete_flagged_holds {fuel : Nat} (delTypeFlag : Bool) (type : UInt8) (enough : 10 ≤ fuel)
    (holds : Holds queue nodes) :
    ∃ next, deleteFlagged fuel queue type delTypeFlag = some (true, next) ∧
      Holds next (keptNodes delTypeFlag type nodes) ∧
      (keptNodes delTypeFlag type nodes = nodes → next = queue) := by
  cases delTypeFlag with
  | false => exact ⟨queue, rfl, holds, fun _ => rfl⟩
  | true => exact delete_type_holds type enough holds

section Add

variable {fuel : Nat} {delTypeFlag : Bool}

theorem add_refused (enough : 10 ≤ fuel) (holds : Holds queue nodes)
    (full : (keptNodes delTypeFlag type nodes).length = 10) :
    queueAdd ping fuel queue (some memory) type delTypeFlag block = some (false, queue) := by
  obtain ⟨left, deleted, kept, unchanged⟩ := delete_flagged_holds delTypeFlag type enough holds
  have same := kept_of_full holds.short full
  cases unchanged same
  simp [queueAdd, deleted, insert_refused kept full]

theorem add_holds {address : Address} (enough : 10 ≤ fuel) (holds : Holds queue nodes)
    (room : (keptNodes delTypeFlag type nodes).length < 10)
    (fresh : address ∉ addresses (keptNodes delTypeFlag type nodes)) :
    ∃ next, queueAdd ping fuel queue (some memory) type delTypeFlag (some address) =
        some (true, next) ∧
      Holds next (keptNodes delTypeFlag type nodes ++
        [(address, ⟨copied ping memory type, type⟩)]) := by
  obtain ⟨left, deleted, kept, -⟩ := delete_flagged_holds delTypeFlag type enough holds
  obtain ⟨longer, inserted, linked⟩ :=
    @insert_holds ping left _ memory type address kept room fresh
  obtain ⟨next, printed, same⟩ :=
    print_and_wake_holds (if delTypeFlag then queue.length else 0) enough linked
  exact ⟨next, by simp [queueAdd, deleted, inserted, printed], same⟩

theorem add_faults (enough : 10 ≤ fuel) (holds : Holds queue nodes)
    (room : (keptNodes delTypeFlag type nodes).length < 10)
    (exhausted : ∀ address, block = some address →
      address ∈ addresses (keptNodes delTypeFlag type nodes)) :
    queueAdd ping fuel queue (some memory) type delTypeFlag block = none := by
  obtain ⟨left, deleted, kept, -⟩ := delete_flagged_holds delTypeFlag type enough holds
  simp [queueAdd, deleted, insert_faults kept room exhausted]

/-- It is refused for want of room, or linked behind the nodes that were kept, or there
is no memory for it. -/
theorem add_cases (enough : 10 ≤ fuel) (holds : Holds queue nodes) :
    let kept := keptNodes delTypeFlag type nodes
    let added := queueAdd ping fuel queue (some memory) type delTypeFlag block
    (kept.length = 10 ∧ kept = nodes ∧ added = some (false, queue)) ∨
      (kept.length < 10 ∧ ∃ address, block = some address ∧ address ∉ addresses kept ∧
        ∃ next, added = some (true, next) ∧
          Holds next (kept ++ [(address, ⟨copied ping memory type, type⟩)])) ∨
      (kept.length < 10 ∧ (∀ address, block = some address → address ∈ addresses kept) ∧
        added = none) := by
  intro kept added
  have short := (kept_sublist delTypeFlag type nodes).length_le.trans holds.short
  rcases Nat.lt_or_eq_of_le short with room | full
  · by_cases given : ∃ address, block = some address ∧ address ∉ addresses kept
    · obtain ⟨address, rfl, fresh⟩ := given
      exact .inr (.inl ⟨room, address, rfl, fresh, add_holds enough holds room fresh⟩)
    · have exhausted : ∀ address, block = some address → address ∈ addresses kept := by
        intro address offered
        by_contra fresh
        exact given ⟨address, offered, fresh⟩
      exact .inr (.inr ⟨room, exhausted, add_faults enough holds room exhausted⟩)
  · exact .inl ⟨full, kept_of_full holds.short full, add_refused enough holds full⟩

end Add

end Additions

inductive QueueEvent where
  | add (memory : List UInt8) (type : UInt8) (delTypeFlag : Bool) (block : Option Address)
  | deleteHead
  | deleteAll
deriving DecidableEq

def QueueModule.exec (code : QueueModule) (fuel : Nat) (queue : HeapQueue) :
    QueueEvent → Option HeapQueue
  | .add memory type delTypeFlag block =>
      (code.add fuel queue (some memory) type delTypeFlag block).map Prod.snd
  | .deleteHead => (code.deleteHead queue).map Prod.snd
  | .deleteAll => (code.deleteAll queue).map Prod.snd

def Sound (queue : HeapQueue) : Prop :=
  ∃ nodes, Holds queue nodes

theorem exec_sound (code : QueueModule) {fuel : Nat} (enough : 10 ≤ fuel)
    {queue next : HeapQueue} {event : QueueEvent} (sound : Sound queue)
    (taken : code.exec fuel queue event = some next) : Sound next := by
  obtain ⟨nodes, holds⟩ := sound
  cases event with
  | add memory type delTypeFlag block =>
      obtain ⟨⟨answer, after⟩, added, rfl⟩ := Option.map_eq_some_iff.1 taken
      rw [QueueModule.add_eq] at added
      rcases add_cases enough holds with
        ⟨-, -, refused⟩ | ⟨-, address, -, -, longer, linked, kept⟩ | ⟨-, -, faulted⟩
      · rw [refused] at added
        cases added
        exact ⟨nodes, holds⟩
      · rw [linked] at added
        cases added
        exact ⟨_, kept⟩
      · rw [faulted] at added
        cases added
  | deleteHead =>
      obtain ⟨shorter, deleted, kept⟩ := delete_head_holds holds
      rw [QueueModule.exec, QueueModule.delete_head_eq, deleted] at taken
      cases taken
      exact ⟨_, kept⟩
  | deleteAll =>
      obtain ⟨cleared, deleted, kept⟩ := delete_all_holds holds
      rw [QueueModule.exec, QueueModule.delete_all_eq, deleted] at taken
      cases taken
      exact ⟨_, kept⟩

theorem reached_sound (code : QueueModule) {fuel : Nat} (enough : 10 ≤ fuel)
    {events : List QueueEvent} {queue : HeapQueue}
    (reached : execRun (code.exec fuel) .empty events = some queue) : Sound queue := by
  have run : Run (fun queue event next => code.exec fuel queue event = some next) .empty events
      queue := run_of_exec (fun _ _ _ taken => taken) reached
  refine run_keeps Sound ?_ ⟨[], holds_empty⟩ run
  intro queue event next sound taken
  exact exec_sound code enough sound taken

/-- Whatever was done before, an addition replaces the first message of its type if it
is told to and comes last, a full queue refuses it unchanged, and the oldest message is
the one that is deleted. Without memory the addition writes through a null pointer. -/
theorem message_queue_is_bounded_fifo (code : QueueModule) {fuel : Nat} (enough : 10 ≤ fuel)
    {events : List QueueEvent} {queue : HeapQueue}
    (reached : execRun (code.exec fuel) .empty events = some queue) :
    ∃ nodes, Holds queue nodes ∧ (queue.head = none ↔ queue.tail = none) ∧
      (∀ memory type delTypeFlag block,
        let kept := if delTypeFlag then nodes.eraseP fun node => node.2.type = type else nodes
        let added := code.add fuel queue (some memory) type delTypeFlag block
        (kept.length = 10 ∧ kept = nodes ∧ added = some (false, queue)) ∨
          (kept.length < 10 ∧ ∃ address, block = some address ∧ address ∉ addresses kept ∧
            ∃ next, added = some (true, next) ∧
              Holds next (kept ++ [(address, ⟨copied code.ping memory type, type⟩)])) ∨
          (kept.length < 10 ∧ (∀ address, block = some address → address ∈ addresses kept) ∧
            added = none)) ∧
      (∃ next, code.deleteHead queue = some (true, next) ∧ Holds next nodes.tail) ∧
      ∃ next, code.deleteAll queue = some (true, next) ∧ Holds next [] := by
  obtain ⟨nodes, holds⟩ := reached_sound code enough reached
  rw [code.add_eq, code.delete_head_eq, code.delete_all_eq]
  refine ⟨nodes, holds, head_null_iff_tail_null holds, ?_, delete_head_holds holds,
    delete_all_holds holds⟩
  intro memory type delTypeFlag block
  exact add_cases enough holds

def threeMessages : List QueueEvent :=
  [.add [104, 0] 1 false (some 16), .add [105, 0] 0 false (some 32),
    .add [106, 0] 1 true (some 16)]

/-- The third message takes the memory of the first, and comes last. -/
theorem bounded_fifo_three_messages :
    ∃ queue,
      execRun (QueueModule.uart0SendQueue.exec 10) .empty threeMessages = some queue ∧
      queue.head = some 32 ∧ queue.tail = some 16 ∧
      ∃ nodes, Holds queue nodes ∧ nodes.length = 2 := by
  refine ⟨_, rfl, rfl, rfl, ?_⟩
  obtain ⟨nodes, holds, -⟩ :=
    @message_queue_is_bounded_fifo .uart0SendQueue 10 (Nat.le_refl 10) threeMessages _ rfl
  exact ⟨nodes, holds, holds.counted.symm⟩

section Abstraction

/-- The list of the queue holds the same messages. -/
def Matches (queue : HeapQueue) (list : LinkQueue) : Prop :=
  ∃ nodes, Holds queue nodes ∧
    (nodes.map fun node => (some node.2.data, node.2.type)) =
      list.nodes.map fun node => (node.data, node.type)

variable {queue : HeapQueue} {list : LinkQueue}

theorem matches_length {nodes : List (Address × Message)}
    (same : (nodes.map fun node => (some node.2.data, node.2.type)) =
      list.nodes.map fun node => (node.data, node.type)) : nodes.length = list.length := by
  have lengths := congrArg List.length same
  rwa [List.length_map, List.length_map] at lengths

theorem delete_head_matches (same : Matches queue list) :
    ∃ next, deleteHead queue = some (true, next) ∧ Matches next (SendQueue.iotgoQueueDeleteHead list) := by
  obtain ⟨nodes, holds, equal⟩ := same
  obtain ⟨next, deleted, kept⟩ := delete_head_holds holds
  refine ⟨next, deleted, nodes.tail, kept, ?_⟩
  rw [delete_head_nodes, List.map_tail, List.map_tail, equal]

theorem delete_all_matches (same : Matches queue list) :
    ∃ next, queueDeleteAll queue = some (true, next) ∧ Matches next (SendQueue.iotgoQueueDeleteAll list) := by
  obtain ⟨nodes, holds, equal⟩ := same
  obtain ⟨next, deleted, kept⟩ := delete_all_holds holds
  exact ⟨next, deleted, [], kept, by rw [delete_all_nodes]; rfl⟩

theorem delete_type_matches (type : UInt8) {fuel : Nat} (enough : 10 ≤ fuel)
    (same : Matches queue list) :
    ∃ next, deleteType fuel queue type = some (true, next) ∧
      Matches next (iotgoDeleteType list type) := by
  obtain ⟨nodes, holds, equal⟩ := same
  obtain ⟨next, deleted, kept, -⟩ := delete_type_holds type enough holds
  refine ⟨next, deleted, withoutFirst type nodes, kept, ?_⟩
  have erased := congrArg (List.eraseP fun content => content.2 = type) equal
  rw [List.eraseP_map, List.eraseP_map] at erased
  change _ = (nodesWithoutType type list.nodes).map _
  rw [nodes_without_type]
  exact erased

theorem insert_matches {memory : List UInt8} {type : UInt8} {address : Address}
    (same : Matches queue list) (unused : queue.heap address = none) :
    ∃ next, insertNode iotgoPing queue (some memory) type (some address) =
        some ((iotgoInsertNode list (some memory) type).1, next) ∧
      Matches next (iotgoInsertNode list (some memory) type).2 := by
  obtain ⟨nodes, holds, equal⟩ := same
  have lengths := matches_length equal
  by_cases full : nodes.length = 10
  · refine ⟨queue, ?_, ?_⟩
    · rw [insert_refused holds full, iotgoInsertNode, dif_pos (by omega)]
    · rw [iotgoInsertNode, dif_pos (by omega)]
      exact ⟨nodes, holds, equal⟩
  · have room : nodes.length < 10 := Nat.lt_of_le_of_ne holds.short full
    have fresh : address ∉ addresses nodes := by
      intro member
      exact segment_allocated holds.linked address member unused
    obtain ⟨next, inserted, linked⟩ := @insert_holds iotgoPing queue nodes memory type address
      holds room fresh
    refine ⟨next, ?_, ?_⟩
    · rw [inserted, iotgoInsertNode, dif_neg (by omega)]
    · rw [iotgoInsertNode, dif_neg (by omega)]
      refine ⟨_, linked, ?_⟩
      rw [link_nodes, List.map_append, List.map_append, equal]
      rfl

end Abstraction

end IotgoFirmware.Mcu.HeapQueues
