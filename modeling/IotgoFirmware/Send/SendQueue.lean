import Mathlib.Data.List.Nodup
import IotgoFirmware.Library.CStrings

/-!
# The send queue

The linked list of `iotgo_queue.c` as the list of its nodes, head first. A node
owns a copy of the data it was made from.
-/

namespace IotgoFirmware.Send.SendQueue

open IotgoFirmware.Library.CStrings

set_option autoImplicit false

/-- `IOTGO_PING`. -/
def iotgoPing : UInt8 := 3

/-- `IOTGO_REGISTER`. -/
def iotgoRegister : UInt8 := 8

/-- `IOTGO_USER_DEFAULT`. -/
def iotgoUserDefault : UInt8 := 97

/-- `serial` numbers the nodes in the order of their allocation; the source tells
them apart by their addresses. -/
structure QNode where
  serial : Nat
  data : Option (List UInt8)
  type : UInt8
deriving DecidableEq

structure LinkQueue where
  nodes : List QNode
  allocated : Nat
  short : nodes.length ≤ 10
  distinct : (nodes.map QNode.serial).Nodup
  numbered : ∀ node ∈ nodes, node.serial < allocated

namespace LinkQueue

variable (queue : LinkQueue)

def empty : LinkQueue where
  nodes := []
  allocated := 0
  short := Nat.zero_le 10
  distinct := List.nodup_nil
  numbered node member := by cases member

def length : Nat :=
  queue.nodes.length

def serials : List Nat :=
  queue.nodes.map QNode.serial

/-- The nodes that are left once others are freed. -/
def keep (nodes : List QNode) (fewer : nodes.Sublist queue.nodes) : LinkQueue where
  nodes := nodes
  allocated := queue.allocated
  short := fewer.length_le.trans queue.short
  distinct := queue.distinct.sublist (fewer.map QNode.serial)
  numbered node member := queue.numbered node (fewer.subset member)

theorem fresh_serial : queue.allocated ∉ queue.serials := by
  intro member
  rcases List.mem_map.1 member with ⟨node, among, serial⟩
  have below := queue.numbered node among
  omega

def link (data : List UInt8) (type : UInt8) (room : queue.length < 10) : LinkQueue where
  nodes := queue.nodes ++ [⟨queue.allocated, some data, type⟩]
  allocated := queue.allocated + 1
  short := by
    rw [List.length_append]
    exact room
  distinct := by
    rw [List.map_append, List.map_singleton, ← List.concat_eq_append]
    exact queue.distinct.concat queue.fresh_serial
  numbered node member := by
    rcases List.mem_append.1 member with old | new
    · exact Nat.lt_succ_of_lt (queue.numbered node old)
    · rw [List.mem_singleton.1 new]
      exact Nat.lt_succ_self queue.allocated

end LinkQueue

/-- `none` where `q->head` is `NULL` and the read faults. -/
def iotgoQueueHeadType (queue : LinkQueue) : Option UInt8 :=
  queue.nodes.head?.map QNode.type

def iotgoQueueLength (queue : LinkQueue) : Nat :=
  queue.length

/-- What a node copies: a ping is no string, its six bytes are taken as they are. -/
def copiedData (memory : List UInt8) (type : UInt8) : List UInt8 :=
  if type ≠ iotgoPing then cString memory ++ [0] else memory.take 6

/-- `data` is `none` for the `NULL` pointer. -/
def iotgoInsertNode (queue : LinkQueue) (data : Option (List UInt8)) (type : UInt8) :
    Bool × LinkQueue :=
  match data with
  | none => (false, queue)
  | some memory =>
      if full : 10 ≤ queue.length then (false, queue)
      else (true, queue.link (copiedData memory type) type (Nat.lt_of_not_le full))

def iotgoQueueDeleteHead (queue : LinkQueue) : LinkQueue :=
  queue.keep queue.nodes.tail (List.tail_sublist queue.nodes)

/-- The loop of `iotgoDeleteType`, at a node that stays. -/
def deleteLaterType (type : UInt8) (node : QNode) : List QNode → List QNode
  | [] => [node]
  | next :: rest =>
      if next.type = type then node :: rest
      else node :: deleteLaterType type next rest

theorem delete_later_type (type : UInt8) (node : QNode) (rest : List QNode) :
    deleteLaterType type node rest = node :: rest.eraseP (·.type = type) := by
  induction rest generalizing node with
  | nil => rfl
  | cons next rest ih =>
      rw [deleteLaterType]
      split
      · rename_i same
        rw [List.eraseP_cons_of_pos (by simpa using same)]
      · rename_i other
        rw [ih next, List.eraseP_cons_of_neg (by simpa using other)]

def nodesWithoutType (type : UInt8) : List QNode → List QNode
  | [] => []
  | node :: rest => if node.type = type then rest else deleteLaterType type node rest

theorem nodes_without_type (type : UInt8) (nodes : List QNode) :
    nodesWithoutType type nodes = nodes.eraseP (·.type = type) := by
  cases nodes with
  | nil => rfl
  | cons node rest =>
      rw [nodesWithoutType]
      split
      · rename_i same
        rw [List.eraseP_cons_of_pos (by simpa using same)]
      · rename_i other
        rw [delete_later_type, List.eraseP_cons_of_neg (by simpa using other)]

theorem nodes_without_type_sublist (type : UInt8) (nodes : List QNode) :
    (nodesWithoutType type nodes).Sublist nodes := by
  rw [nodes_without_type]
  exact List.eraseP_sublist

def iotgoDeleteType (queue : LinkQueue) (type : UInt8) : LinkQueue :=
  queue.keep (nodesWithoutType type queue.nodes) (nodes_without_type_sublist type queue.nodes)

/-- The loop of `iotgoQueueDeleteAll`. -/
def deleteHeads : Nat → LinkQueue → LinkQueue
  | 0, queue => queue
  | count + 1, queue => deleteHeads count (iotgoQueueDeleteHead queue)

def iotgoQueueDeleteAll (queue : LinkQueue) : LinkQueue :=
  deleteHeads queue.length queue

section Lemmas

variable (queue : LinkQueue)

@[simp] theorem keep_nodes (nodes : List QNode) (fewer : nodes.Sublist queue.nodes) :
    (queue.keep nodes fewer).nodes = nodes := rfl

@[simp] theorem keep_allocated (nodes : List QNode) (fewer : nodes.Sublist queue.nodes) :
    (queue.keep nodes fewer).allocated = queue.allocated := rfl

@[simp] theorem link_serials (data : List UInt8) (type : UInt8) (room : queue.length < 10) :
    (queue.link data type room).serials = queue.serials ++ [queue.allocated] := by
  rw [LinkQueue.serials, LinkQueue.link, List.map_append, List.map_singleton]
  rfl

@[simp] theorem link_nodes (data : List UInt8) (type : UInt8) (room : queue.length < 10) :
    (queue.link data type room).nodes = queue.nodes ++ [⟨queue.allocated, some data, type⟩] := rfl

@[simp] theorem link_allocated (data : List UInt8) (type : UInt8) (room : queue.length < 10) :
    (queue.link data type room).allocated = queue.allocated + 1 := rfl

@[simp] theorem link_length (data : List UInt8) (type : UInt8) (room : queue.length < 10) :
    (queue.link data type room).length = queue.length + 1 := by
  rw [LinkQueue.length, LinkQueue.link, List.length_append]
  rfl

@[simp] theorem delete_head_nodes : (iotgoQueueDeleteHead queue).nodes = queue.nodes.tail := rfl

@[simp] theorem delete_head_allocated :
    (iotgoQueueDeleteHead queue).allocated = queue.allocated := rfl

theorem delete_heads_nodes (count : Nat) :
    (deleteHeads count queue).nodes = queue.nodes.drop count := by
  induction count generalizing queue with
  | zero => rfl
  | succ count ih =>
      rw [deleteHeads, ih, delete_head_nodes, List.drop_tail]

theorem delete_heads_allocated (count : Nat) :
    (deleteHeads count queue).allocated = queue.allocated := by
  induction count generalizing queue with
  | zero => rfl
  | succ count ih =>
      rw [deleteHeads, ih]
      rfl

@[simp] theorem delete_all_nodes : (iotgoQueueDeleteAll queue).nodes = [] := by
  rw [iotgoQueueDeleteAll, delete_heads_nodes]
  exact List.drop_length

@[simp] theorem delete_all_serials : (iotgoQueueDeleteAll queue).serials = [] := by
  rw [LinkQueue.serials, delete_all_nodes]
  rfl

@[simp] theorem delete_all_allocated :
    (iotgoQueueDeleteAll queue).allocated = queue.allocated :=
  delete_heads_allocated queue queue.length

theorem serials_eq_nil_iff : queue.serials = [] ↔ queue.nodes = [] := by
  rw [LinkQueue.serials, List.map_eq_nil_iff]

theorem delete_type_cases (type : UInt8) :
    (∀ node ∈ queue.nodes, node.type ≠ type) ∧ (iotgoDeleteType queue type).nodes = queue.nodes ∨
      ∃ front node back, queue.nodes = front ++ node :: back ∧ node.type = type ∧
        (∀ earlier ∈ front, earlier.type ≠ type) ∧
        (iotgoDeleteType queue type).nodes = front ++ back := by
  have erased : (iotgoDeleteType queue type).nodes = queue.nodes.eraseP (·.type = type) :=
    nodes_without_type type queue.nodes
  rw [erased]
  rcases List.exists_or_eq_self_of_eraseP (fun node => decide (node.type = type)) queue.nodes with
    same | ⟨node, front, back, before, here, split, rest⟩
  · by_cases present : ∃ node ∈ queue.nodes, node.type = type
    · rcases present with ⟨node, member, typed⟩
      have shorter := List.length_eraseP_of_mem (p := fun node => decide (node.type = type))
        member (by simpa using typed)
      have positive := List.length_pos_of_mem member
      rw [same] at shorter
      omega
    · refine .inl ⟨fun node member typed => present ⟨node, member, typed⟩, same⟩
  · refine .inr ⟨front, node, back, split, by simpa using here, ?_, rest⟩
    intro earlier member
    simpa using before earlier member

theorem insert_node_cases (data : Option (List UInt8)) (type : UInt8) :
    iotgoInsertNode queue data type = (false, queue) ∧ (data = none ∨ 10 ≤ queue.length) ∨
      ∃ memory room, data = some memory ∧
        iotgoInsertNode queue data type =
          (true, queue.link (copiedData memory type) type room) := by
  cases data with
  | none => exact .inl ⟨rfl, .inl rfl⟩
  | some memory =>
      by_cases full : 10 ≤ queue.length
      · refine .inl ⟨?_, .inr full⟩
        rw [iotgoInsertNode, dif_pos full]
      · refine .inr ⟨memory, Nat.lt_of_not_le full, rfl, ?_⟩
        rw [iotgoInsertNode, dif_neg full]

end Lemmas

end IotgoFirmware.Send.SendQueue
