import IotgoFirmware.Library.CIntegers
import IotgoFirmware.Library.Doubles
import IotgoFirmware.Library.SlidingWindows
import IotgoFirmware.Send.SendJson

/-!
# The reports of the signal strength

Every six seconds `wifiListenRSSITmrCb` takes the strength of the signal into a window of ten
values. At every tenth call it compares their average with the last one that it took over, and
tells the server only when they are three apart or more.
-/

namespace IotgoFirmware.Core.RssiReports

open IotgoFirmware.Library.CIntegers
open IotgoFirmware.Library.Doubles
open IotgoFirmware.Library.SlidingWindows
open IotgoFirmware.Send.SendJson (IoTgoDeviceMode)

set_option autoImplicit false

section Model

/-- `IOTGO_RSSI_QUEUE_LEN`. -/
def iotgoRssiQueueLen : Nat := 10

variable (double : CDouble)

/-- `__iotgo_rssi_queue`, the last value first. -/
structure RssiQueue where
  cells : List Int
  sized : cells.length = iotgoRssiQueueLen

theorem RssiQueue.cells_ne_nil (queue : RssiQueue) : queue.cells ≠ [] :=
  List.ne_nil_of_length_eq_add_one queue.sized

theorem shifted_cells (queue : RssiQueue) (value : Int) :
    (shiftUp 0 (iotgoRssiQueueLen - 1) queue.cells).set 0 value = push queue.cells value :=
  shift_up_set 0 value queue.sized

theorem shifted_sized (queue : RssiQueue) (value : Int) :
    ((shiftUp 0 (iotgoRssiQueueLen - 1) queue.cells).set 0 value).length = iotgoRssiQueueLen := by
  rw [shifted_cells, push_length queue.cells_ne_nil, queue.sized]

def queueInit (value : Int) : RssiQueue where
  cells := List.replicate iotgoRssiQueueLen value
  sized := List.length_replicate

def queueShift (queue : RssiQueue) (value : Int) : RssiQueue where
  cells := (shiftUp 0 (iotgoRssiQueueLen - 1) queue.cells).set 0 value
  sized := shifted_sized queue value

theorem queue_shift_cells (queue : RssiQueue) (value : Int) :
    (queueShift queue value).cells = push queue.cells value :=
  shifted_cells queue value

/-- The average with a half, as a double and then as an `int8`. -/
def queueAverage (queue : RssiQueue) : Int :=
  double.cast (double.round (double.round (queue.cells.sum / 10) + 1 / 2))

/-- `deviceRssi` is the average that was taken over last, zero where there is no signal;
`wifiRssi` is what the device tells, and `updates` are the values that it has told the server. -/
structure RssiState where
  queue : RssiQueue
  cnt : UInt32
  deviceRssi : Int
  wifiRssi : Int
  updates : List Int

/-- `joinAPStage2` has an address. -/
def rssiJoined (state : RssiState) (rssi : Int) : RssiState :=
  let queue := queueInit (if rssi < 0 then rssi else 0)
  { state with
    queue := queue, deviceRssi := queueAverage double queue, wifiRssi := queueAverage double queue }

/-- The average of the window at every tenth call. -/
def compareAverage (mode : IoTgoDeviceMode) (state : RssiState) : RssiState :=
  let average := queueAverage double state.queue
  if 3 ≤ (state.deviceRssi - average).natAbs then
    if average ≠ 0 ∧ mode = .workNormal then
      { state with
        deviceRssi := average, wifiRssi := average, updates := state.updates ++ [average] }
    else { state with deviceRssi := average }
  else state

def wifiListenRSSITmrCb (state : RssiState) (rssi : Int) (mode : IoTgoDeviceMode) : RssiState :=
  let counted := { state with cnt := state.cnt + 1 }
  if rssi < 0 then
    let shifted := { counted with queue := queueShift state.queue rssi }
    if shifted.cnt % 10 = 0 then compareAverage double mode shifted else shifted
  else { counted with deviceRssi := 0 }

/-- Calls of the timer, each with the strength that it reads and the mode it finds. -/
def listen (state : RssiState) (calls : List (Int × IoTgoDeviceMode)) : RssiState :=
  calls.foldl (fun state call => wifiListenRSSITmrCb double state call.1 call.2) state

end Model

section Averages

variable {double : CDouble}

theorem round_whole (ordered : double.Ordered) {value : Int} (few : value.natAbs ≤ 1000) :
    double.round value = value := by
  have half := ordered.halves (2 * value) (by omega)
  have same : ((2 * value : Int) : Rat) / 2 = value := by
    push_cast
    ring
  rw [same] at half
  exact half

theorem round_middle (ordered : double.Ordered) {value : Int} (few : value.natAbs ≤ 1000) :
    double.round (value + 1 / 2) = value + 1 / 2 := by
  have half := ordered.halves (2 * value + 1) (by omega)
  have same : ((2 * value + 1 : Int) : Rat) / 2 = value + 1 / 2 := by
    push_cast
    ring
  rw [same] at half
  exact half

theorem average_between (ordered : double.Ordered) {queue : RssiQueue} {low high : Int}
    (least : -128 ≤ low) (negative : high < 0) (below : 10 * low ≤ queue.cells.sum)
    (above : queue.cells.sum ≤ 10 * high) :
    low + 1 ≤ queueAverage double queue ∧ queueAverage double queue ≤ high + 1 := by
  have lower : (low : Rat) ≤ double.round (queue.cells.sum / 10) := by
    rw [← round_whole ordered (show low.natAbs ≤ 1000 by omega)]
    apply ordered.monotone
    rw [le_div_iff₀ (by norm_num)]
    exact_mod_cast (mul_comm low 10).trans_le below
  have upper : double.round (queue.cells.sum / 10) ≤ high := by
    rw [← round_whole ordered (show high.natAbs ≤ 1000 by omega)]
    apply ordered.monotone
    rw [div_le_iff₀ (by norm_num)]
    exact_mod_cast above.trans_eq (mul_comm 10 high)
  have least' : (low : Rat) + 1 / 2 ≤ double.round (double.round (queue.cells.sum / 10) + 1 / 2) := by
    rw [← round_middle ordered (show low.natAbs ≤ 1000 by omega)]
    exact ordered.monotone (add_le_add_left lower _)
  have most : double.round (double.round (queue.cells.sum / 10) + 1 / 2) ≤ (high : Rat) + 1 / 2 := by
    rw [← round_middle ordered (show high.natAbs ≤ 1000 by omega)]
    exact ordered.monotone (add_le_add_left upper _)
  have ends : (high : Rat) ≤ -1 := by exact_mod_cast Int.le_sub_one_of_lt negative
  have starts : (-128 : Rat) ≤ low := by exact_mod_cast least
  rw [queueAverage, ordered.truncates _ (by linarith) (by linarith), if_pos (by linarith)]
  constructor
  · rw [Int.add_one_le_iff, Int.lt_ceil]
    linarith
  · rw [Int.ceil_le, Int.cast_add, Int.cast_one]
    linarith

end Averages

section Settling

variable {double : CDouble} {low : Int}

/-- Three neighbouring strengths of the signal. -/
def InBand (low rssi : Int) : Prop :=
  low ≤ rssi ∧ rssi ≤ low + 2

/-- The window holds nothing else. -/
def Filled (low : Int) (state : RssiState) : Prop :=
  ∀ value ∈ state.queue.cells, InBand low value

theorem filled_average (ordered : double.Ordered) (least : -128 ≤ low) (negative : low + 2 < 0)
    {state : RssiState} (filled : Filled low state) :
    low + 1 ≤ queueAverage double state.queue ∧ queueAverage double state.queue ≤ low + 3 := by
  have below := List.card_nsmul_le_sum state.queue.cells low fun value member =>
    (filled value member).1
  have above := List.sum_le_card_nsmul state.queue.cells (low + 2) fun value member =>
    (filled value member).2
  rw [state.queue.sized, nsmul_eq_mul] at below above
  obtain ⟨most, few⟩ := average_between ordered least negative below above
  exact ⟨most, by omega⟩

variable {state : RssiState} {rssi : Int} {mode : IoTgoDeviceMode}

theorem listen_cells (negative : rssi < 0) :
    (wifiListenRSSITmrCb double state rssi mode).queue.cells = push state.queue.cells rssi := by
  have cells := queue_shift_cells state.queue rssi
  unfold wifiListenRSSITmrCb compareAverage
  rw [if_pos negative]
  dsimp only
  split
  · split
    · split <;> exact cells
    · exact cells
  · exact cells

theorem listen_cnt : (wifiListenRSSITmrCb double state rssi mode).cnt = state.cnt + 1 := by
  unfold wifiListenRSSITmrCb compareAverage
  dsimp only
  split
  · split
    · split
      · split <;> rfl
      · rfl
    · rfl
  · rfl

theorem listen_all_cells {calls : List (Int × IoTgoDeviceMode)}
    (negative : ∀ call ∈ calls, call.1 < 0) :
    (listen double state calls).queue.cells = (calls.map Prod.fst).foldl push state.queue.cells := by
  induction calls generalizing state with
  | nil => rfl
  | cons call calls ih =>
      rw [listen, List.foldl_cons, ← listen, ih fun later member =>
        negative later (List.mem_cons_of_mem call member)]
      rw [listen_cells (negative call List.mem_cons_self)]
      rfl

theorem filled_listen (filled : Filled low state) (band : InBand low rssi) (negative : rssi < 0) :
    Filled low (wifiListenRSSITmrCb double state rssi mode) := by
  intro value member
  rw [listen_cells negative] at member
  rcases List.mem_cons.1 member with rfl | kept
  · exact band
  · exact filled value (List.dropLast_subset _ kept)

/-- The strength that was taken over lies where the averages lie. -/
def Near (low : Int) (state : RssiState) : Prop :=
  low + 1 ≤ state.deviceRssi ∧ state.deviceRssi ≤ low + 3

instance (low : Int) (state : RssiState) : Decidable (Near low state) :=
  inferInstanceAs (Decidable (_ ∧ _))

/-- It is less than three apart from one of them. -/
def Close (low : Int) (state : RssiState) : Prop :=
  low - 1 ≤ state.deviceRssi ∧ state.deviceRssi ≤ low + 5

/-- What a call does when the window is filled: the average is not taken over, and after a
comparison that is because it is close; or it is, and then it was not near before. -/
inductive ListenCase (low : Int) (state next : RssiState) : Prop where
  | kept (updates : next.updates = state.updates) (device : next.deviceRssi = state.deviceRssi)
      (compared : (state.cnt + 1) % 10 = 0 → Close low state)
  | taken (updates : next.updates.length ≤ state.updates.length + 1) (near : Near low next)
      (far : ¬ Near low state)

variable (ordered : double.Ordered) (least : -128 ≤ low) (below : low + 2 < 0)
include ordered least below

theorem listen_case (filled : Filled low state) (band : InBand low rssi) :
    ListenCase low state (wifiListenRSSITmrCb double state rssi mode) := by
  have negative : rssi < 0 := lt_of_le_of_lt band.2 below
  have later : Filled low { state with
      cnt := state.cnt + 1, queue := queueShift state.queue rssi } := by
    intro value member
    change value ∈ (queueShift state.queue rssi).cells at member
    rw [queue_shift_cells] at member
    rcases List.mem_cons.1 member with rfl | kept
    · exact band
    · exact filled value (List.dropLast_subset _ kept)
  have average := filled_average ordered least below later
  unfold wifiListenRSSITmrCb compareAverage
  rw [if_pos negative]
  dsimp only at average ⊢
  generalize queueAverage double (queueShift state.queue rssi) = mean at average
  split
  · split
    · rename_i due apart
      have far : ¬ Near low state := by
        rintro ⟨most, few⟩
        omega
      split
      · exact .taken (by rw [List.length_append]; exact Nat.le_refl _) average far
      · exact .taken (Nat.le_succ _) average far
    · rename_i due apart
      refine .kept rfl rfl fun _ => ⟨?_, ?_⟩ <;> omega
  · rename_i later
    exact .kept rfl rfl fun due => absurd due later

omit ordered least below in
theorem case_close {next : RssiState} (step : ListenCase low state next)
    (close : Close low state ∨ (state.cnt + 1) % 10 = 0) : Close low next := by
  cases step with
  | kept updates device compared =>
      have same : Close low state := close.elim id compared
      unfold Close
      rw [device]
      exact same
  | taken updates near far =>
      obtain ⟨most, few⟩ := near
      exact ⟨by omega, by omega⟩

variable {calls : List (Int × IoTgoDeviceMode)}

theorem listen_updates (filled : Filled low state)
    (band : ∀ call ∈ calls, InBand low call.1) :
    (listen double state calls).updates.length ≤
      state.updates.length + if Near low state then 0 else 1 := by
  induction calls generalizing state with
  | nil => exact Nat.le_add_right _ _
  | cons call calls ih =>
      have here := band call List.mem_cons_self
      have step : ListenCase low state (wifiListenRSSITmrCb double state call.1 call.2) :=
        listen_case ordered least below filled here
      have filled' : Filled low (wifiListenRSSITmrCb double state call.1 call.2) :=
        filled_listen filled here (lt_of_le_of_lt here.2 below)
      have later := ih filled' fun call member => band call (List.mem_cons_of_mem _ member)
      rw [listen, List.foldl_cons, ← listen]
      cases step with
      | kept updates device compared =>
          have same : Near low (wifiListenRSSITmrCb double state call.1 call.2) = Near low state := by
            unfold Near
            rw [device]
          simp only [same, updates] at later
          exact later
      | taken updates near far =>
          rw [if_pos near] at later
          rw [if_neg far]
          omega

theorem listen_close (close : Close low state) (filled : Filled low state)
    (band : ∀ call ∈ calls, InBand low call.1) : Close low (listen double state calls) := by
  induction calls generalizing state with
  | nil => exact close
  | cons call calls ih =>
      have here := band call List.mem_cons_self
      have step : ListenCase low state (wifiListenRSSITmrCb double state call.1 call.2) :=
        listen_case ordered least below filled here
      have filled' : Filled low (wifiListenRSSITmrCb double state call.1 call.2) :=
        filled_listen filled here (lt_of_le_of_lt here.2 below)
      rw [listen, List.foldl_cons, ← listen]
      exact ih (case_close step (.inl close)) filled'
        fun call member => band call (List.mem_cons_of_mem _ member)

def due (cnt : UInt32) : Nat :=
  min (10 - cnt.toNat % 10) (4294967296 - cnt.toNat)

omit ordered least below in
theorem due_next {cnt : UInt32} (later : (cnt + 1) % 10 ≠ 0) : due (cnt + 1) + 1 = due cnt := by
  have bound := cnt.toNat_lt
  have next : (cnt + 1).toNat = (cnt.toNat + 1) % 4294967296 := UInt32.toNat_add cnt 1
  have rest : (cnt + 1).toNat % 10 ≠ 0 := by
    intro zero
    apply later
    apply UInt32.toNat_inj.1
    rw [UInt32.toNat_mod]
    exact zero
  have small : cnt.toNat + 1 < 4294967296 := by
    by_contra last
    apply rest
    rw [next, show cnt.toNat + 1 = 4294967296 by omega]
  rw [Nat.mod_eq_of_lt small] at next
  rw [next] at rest
  unfold due
  rw [next]
  omega

theorem listen_compared (filled : Filled low state) (band : ∀ call ∈ calls, InBand low call.1)
    (enough : due state.cnt ≤ calls.length) : Close low (listen double state calls) := by
  induction calls generalizing state with
  | nil =>
      have bound := state.cnt.toNat_lt
      unfold due at enough
      rw [List.length_nil] at enough
      omega
  | cons call calls ih =>
      have here := band call List.mem_cons_self
      have step : ListenCase low state (wifiListenRSSITmrCb double state call.1 call.2) :=
        listen_case ordered least below filled here
      have filled' : Filled low (wifiListenRSSITmrCb double state call.1 call.2) :=
        filled_listen filled here (lt_of_le_of_lt here.2 below)
      have band' : ∀ call ∈ calls, InBand low call.1 :=
        fun call member => band call (List.mem_cons_of_mem _ member)
      rw [listen, List.foldl_cons, ← listen]
      by_cases compared : (state.cnt + 1) % 10 = 0
      · exact listen_close ordered least below (case_close step (.inr compared)) filled' band'
      · apply ih filled' band'
        have fewer := due_next compared
        rw [listen_cnt]
        rw [List.length_cons] at enough
        omega

/-- From the tenth reading within three neighbouring strengths on there is at most one more
report, however long the readings stay there; ten readings later what the device holds is less
than six apart from each of them. -/
theorem reports_settle {first rest : List (Int × IoTgoDeviceMode)}
    (band : ∀ call ∈ first ++ rest, InBand low call.1) (full : iotgoRssiQueueLen ≤ first.length) :
    (listen double state (first ++ rest)).updates.length ≤
        (listen double state first).updates.length + 1 ∧
      (10 ≤ rest.length → ∀ rssi, InBand low rssi →
        ((listen double state (first ++ rest)).deviceRssi - rssi).natAbs ≤ 5) := by
  have before : ∀ call ∈ first, InBand low call.1 :=
    fun call member => band call (List.mem_append_left _ member)
  have after : ∀ call ∈ rest, InBand low call.1 :=
    fun call member => band call (List.mem_append_right _ member)
  have split : listen double state (first ++ rest) =
      listen double (listen double state first) rest := List.foldl_append ..
  have filled : Filled low (listen double state first) := by
    intro value member
    rw [listen_all_cells fun call member => lt_of_le_of_lt (before call member).2 below] at member
    have taken := mem_push_all state.queue.cells_ne_nil
      (by rw [state.queue.sized, List.length_map]; exact full) member
    obtain ⟨call, listed, rfl⟩ := List.mem_map.1 taken
    exact before call listed
  rw [split]
  constructor
  · have updates := listen_updates ordered least below filled after
    split_ifs at updates <;> omega
  · intro enough rssi within
    have close := listen_compared ordered least below filled after (by unfold due; omega)
    obtain ⟨most, few⟩ := close
    obtain ⟨least', most'⟩ := within
    omega

end Settling

section Instance

/-- The device has joined, and the signal has been at -70 then. -/
def joinedState : RssiState :=
  rssiJoined unrounded ⟨queueInit 0, 0, 0, 0, []⟩ (-70)

def steadyCalls : List (Int × IoTgoDeviceMode) :=
  List.replicate 10 (-60, .workNormal)

theorem reports_settle_steady :
    (listen unrounded joinedState (steadyCalls ++ steadyCalls)).updates.length ≤
        (listen unrounded joinedState steadyCalls).updates.length + 1 ∧
      (10 ≤ steadyCalls.length → ∀ rssi, InBand (-61) rssi →
        ((listen unrounded joinedState (steadyCalls ++ steadyCalls)).deviceRssi - rssi).natAbs ≤
          5) := by
  apply reports_settle unrounded_ordered (by decide) (by decide) _ (by decide)
  intro call member
  rw [steadyCalls, List.replicate_append_replicate] at member
  rw [List.eq_of_mem_replicate member]
  exact ⟨by decide, by decide⟩

end Instance

end IotgoFirmware.Core.RssiReports
