import IotgoFirmware.Library.StepRuns
import Mathlib.Data.Int.Notation
import Mathlib.Data.Nat.Notation

/-!
# The period of the pings

`sendPingToServer` compares the time since the last package, a difference of two
readings of a clock of 32 bits, with a product of seconds and 1000000 that has 32
bits as well. Beside the registers of the firmware stand the times that do not come
round: a difference is never more than the time that passed, but a product that came
round may be much less than the period.
-/

namespace IotgoFirmware.Core.PingPeriod

open IotgoFirmware.Library.StepRuns

set_option autoImplicit false

section Clock

/-- `IOTGO_HEARTBEAT_PERIOD_BASE`. -/
def iotgoHeartbeatPeriodBase : UInt32 := 7

def systemGetTime (now : Nat) : UInt32 :=
  UInt32.ofNat now

/-- `rand` is what the C library draws. -/
def iotgoRand (rand n1 n2 : UInt32) : UInt32 :=
  if n1 < n2 then n1 + (rand % (n2 - n1 + 1) + (n2 - n1 + 1)) % (n2 - n1 + 1)
  else if n2 < n1 then n2 + (rand % (n1 - n2 + 1) + (n1 - n2 + 1)) % (n1 - n2 + 1)
  else n2

/-- A ping that was posted: the interval in seconds, and the times of the last package
or ping and of this one. -/
structure PingRecord where
  interval : Nat
  since : Nat
  time : Nat
deriving DecidableEq

/-- `__iotgo_heartbeat_max_offset`, `_iotgo_heartbeat_rand_offset`,
`__last_ws_pkg_time` and whether `__heartbeat_timer` is armed; then the time in
microseconds since the start, and that of the last package or ping. -/
structure HeartbeatState where
  maxOffset : UInt32
  randOffset : UInt32
  lastPkgTime : UInt32
  armed : Bool
  now : Nat
  since : Nat
  pings : List PingRecord

variable (state : HeartbeatState)

def iotgoCoreRefreshLastPkgTime : HeartbeatState :=
  { state with lastPkgTime := systemGetTime state.now }

def iotgoCoreHeartbeatSetMaxOffset (delaySecond : UInt32) : HeartbeatState :=
  { state with maxOffset := delaySecond }

/-- The difference is taken in 64 bits. -/
def wsPkgTimeDiff : Nat :=
  (4294967296 + (systemGetTime state.now).toNat - state.lastPkgTime.toNat) % 4294967296

def pingThreshold : UInt32 :=
  (state.maxOffset + state.randOffset) * 1000000

def sendPingToServer (rand : UInt32) : HeartbeatState :=
  if (pingThreshold state).toNat ≤ wsPkgTimeDiff state then
    { iotgoCoreRefreshLastPkgTime state with
      randOffset := iotgoRand rand 0 iotgoHeartbeatPeriodBase
      since := state.now
      pings := state.pings ++ [⟨state.maxOffset.toNat, state.since, state.now⟩] }
  else state

def iotgoCoreHeartbeatStart : HeartbeatState :=
  iotgoCoreRefreshLastPkgTime { state with armed := true }

def iotgoCoreHeartbeatStop : HeartbeatState :=
  { state with armed := false }

def doNotifyConfig (hb hbi : Int) : HeartbeatState :=
  if hb = 1 then
    iotgoCoreHeartbeatStart (iotgoCoreHeartbeatSetMaxOffset state (UInt32.ofInt hbi))
  else iotgoCoreHeartbeatStop state

end Clock

section Runs

/-- What happens to the heartbeat at a time. A pong is a package, and what the server
notifies comes in one. -/
inductive BeatEvent where
  | tick (time : Nat) (rand : UInt32)
  | package (time : Nat)
  | connected (time : Nat)
  | notifyConfig (time : Nat) (hb hbi : Int)
  | stop (time : Nat)

def BeatEvent.time : BeatEvent → Nat
  | .tick time _ => time
  | .package time => time
  | .connected time => time
  | .notifyConfig time _ _ => time
  | .stop time => time

def BeatEvent.isTick : BeatEvent → Bool
  | .tick _ _ => true
  | _ => false

def beatEffect (state : HeartbeatState) : BeatEvent → HeartbeatState
  | .tick _ rand => sendPingToServer state rand
  | .package _ => { iotgoCoreRefreshLastPkgTime state with since := state.now }
  | .connected _ => iotgoCoreHeartbeatStart state
  | .notifyConfig _ hb hbi =>
      doNotifyConfig { iotgoCoreRefreshLastPkgTime state with since := state.now } hb hbi
  | .stop _ => iotgoCoreHeartbeatStop state

/-- Time does not run back, and the timer ticks while it is armed. -/
def BeatStep (state : HeartbeatState) (event : BeatEvent) (next : HeartbeatState) : Prop :=
  state.now ≤ event.time ∧ (event.isTick = true → state.armed = true) ∧
    next = beatEffect { state with now := event.time } event

def powerUp : HeartbeatState where
  maxOffset := 7
  randOffset := 0
  lastPkgTime := 0
  armed := false
  now := 0
  since := 0
  pings := []

/-- No ping was posted before the interval was over. -/
def NoEarlyPing (state : HeartbeatState) : Prop :=
  ∀ ping ∈ state.pings, ping.since + ping.interval * 1000000 ≤ ping.time

/-- The product of a tick stays below 2^32. -/
def ProductFits (state : HeartbeatState) (event : BeatEvent) : Prop :=
  event.isTick = true → state.maxOffset.toNat + state.randOffset.toNat ≤ 4294

end Runs

section Invariant

/-- The register was last set at some time that is not before the last package or ping. -/
structure Timed (state : HeartbeatState) : Prop where
  register : ∃ refreshed, state.lastPkgTime = systemGetTime refreshed ∧
    state.since ≤ refreshed ∧ refreshed ≤ state.now
  rand_le : state.randOffset.toNat ≤ 7

variable {state next : HeartbeatState}

theorem iotgo_rand_le (rand : UInt32) :
    (iotgoRand rand 0 iotgoHeartbeatPeriodBase).toNat ≤ 7 := by
  have drawn : iotgoRand rand 0 iotgoHeartbeatPeriodBase = 0 + (rand % 8 + 8) % 8 := by
    rw [iotgoRand, if_pos (by decide)]
    rfl
  rw [drawn]
  simp only [UInt32.toNat_add, UInt32.toNat_mod]
  have eight : (8 : UInt32).toNat = 8 := rfl
  have zero : (0 : UInt32).toNat = 0 := rfl
  rw [eight, zero]
  omega

theorem ws_pkg_time_diff_le {refreshed : Nat} (register : state.lastPkgTime = systemGetTime refreshed)
    (before : refreshed ≤ state.now) : wsPkgTimeDiff state ≤ state.now - refreshed := by
  unfold wsPkgTimeDiff
  rw [register]
  simp only [systemGetTime, UInt32.toNat_ofNat']
  omega

theorem ws_pkg_time_diff_of_lt {refreshed : Nat}
    (register : state.lastPkgTime = systemGetTime refreshed) (before : refreshed ≤ state.now)
    (short : state.now - refreshed < 4294967296) :
    wsPkgTimeDiff state = state.now - refreshed := by
  unfold wsPkgTimeDiff
  rw [register]
  simp only [systemGetTime, UInt32.toNat_ofNat']
  omega

theorem ping_threshold_of_fits (fits : state.maxOffset.toNat + state.randOffset.toNat ≤ 4294) :
    (pingThreshold state).toNat =
      (state.maxOffset.toNat + state.randOffset.toNat) * 1000000 := by
  have million : (1000000 : UInt32).toNat = 1000000 := rfl
  rw [pingThreshold, UInt32.toNat_mul, UInt32.toNat_add, million]
  omega

theorem ping_threshold_of_wraps (rand_le : state.randOffset.toNat ≤ 7)
    (wraps : 4294 < state.maxOffset.toNat + state.randOffset.toNat) :
    (pingThreshold state).toNat < state.maxOffset.toNat * 1000000 := by
  have million : (1000000 : UInt32).toNat = 1000000 := rfl
  have bound := (pingThreshold state).toNat_lt
  by_cases large : 4295 ≤ state.maxOffset.toNat
  · omega
  · have sum : (state.maxOffset.toNat + state.randOffset.toNat) % 2 ^ 32 =
        state.maxOffset.toNat + state.randOffset.toNat := Nat.mod_eq_of_lt (by omega)
    have round : 4294967296 ≤ (state.maxOffset.toNat + state.randOffset.toNat) * 1000000 := by
      omega
    have once := Nat.mod_eq_sub_mod round
    have less := Nat.mod_le
      ((state.maxOffset.toNat + state.randOffset.toNat) * 1000000 - 4294967296) 4294967296
    rw [pingThreshold, UInt32.toNat_mul, UInt32.toNat_add, million, sum]
    omega

theorem timed_refresh (timed : Timed state) (since : Nat) (seen : since ≤ state.now) :
    Timed { iotgoCoreRefreshLastPkgTime state with since := since } where
  register := ⟨state.now, rfl, seen, Nat.le_refl _⟩
  rand_le := timed.rand_le

theorem timed_later (timed : Timed state) {time : Nat} (later : state.now ≤ time) :
    Timed { state with now := time } where
  register := by
    obtain ⟨refreshed, register, seen, before⟩ := timed.register
    exact ⟨refreshed, register, seen, Nat.le_trans before later⟩
  rand_le := timed.rand_le

theorem timed_start (timed : Timed state) : Timed (iotgoCoreHeartbeatStart state) where
  register := by
    obtain ⟨refreshed, -, seen, before⟩ := timed.register
    exact ⟨state.now, rfl, Nat.le_trans seen before, Nat.le_refl _⟩
  rand_le := timed.rand_le

theorem timed_effect (timed : Timed state) (event : BeatEvent) :
    Timed (beatEffect state event) := by
  cases event with
  | tick time rand =>
      rw [beatEffect, sendPingToServer]
      split
      · exact ⟨⟨state.now, rfl, Nat.le_refl _, Nat.le_refl _⟩, iotgo_rand_le rand⟩
      · exact timed
  | package time => exact timed_refresh timed state.now (Nat.le_refl _)
  | connected time => exact timed_start timed
  | notifyConfig time hb hbi =>
      have seen := timed_refresh timed state.now (Nat.le_refl _)
      rw [beatEffect, doNotifyConfig]
      split
      · exact timed_start ⟨seen.register, seen.rand_le⟩
      · exact ⟨seen.register, seen.rand_le⟩
  | stop time => exact ⟨timed.register, timed.rand_le⟩

theorem timed_step (timed : Timed state) {event : BeatEvent} (taken : BeatStep state event next) :
    Timed next := by
  obtain ⟨later, -, rfl⟩ := taken
  exact timed_effect (timed_later timed later) event

theorem timed_power_up : Timed powerUp where
  register := ⟨0, rfl, Nat.le_refl _, Nat.le_refl _⟩
  rand_le := by decide

theorem no_early_ping_effect (timed : Timed state) (kept : NoEarlyPing state) {event : BeatEvent}
    (fits : ProductFits state event) : NoEarlyPing (beatEffect state event) := by
  cases event with
  | tick time rand =>
      rw [beatEffect, sendPingToServer]
      split
      · rename_i due
        intro ping member
        rcases List.mem_append.1 member with earlier | last
        · exact kept ping earlier
        · rw [List.mem_singleton.1 last]
          obtain ⟨refreshed, register, seen, before⟩ := timed.register
          have passed := ws_pkg_time_diff_le register before
          rw [ping_threshold_of_fits (fits rfl)] at due
          dsimp only
          omega
      · exact kept
  | package time => exact kept
  | connected time => exact kept
  | notifyConfig time hb hbi =>
      rw [beatEffect, doNotifyConfig]
      split
      · exact kept
      · exact kept
  | stop time => exact kept

theorem no_early_ping_step (timed : Timed state) (kept : NoEarlyPing state) {event : BeatEvent}
    (fits : ProductFits state event) (taken : BeatStep state event next) : NoEarlyPing next := by
  obtain ⟨later, -, rfl⟩ := taken
  exact no_early_ping_effect (timed_later timed later) kept fits

theorem ping_threshold_later (state : HeartbeatState) (time : Nat) :
    pingThreshold { state with now := time } = pingThreshold state := rfl

theorem beat_step_tick (armed : state.armed = true) {time : Nat} (later : state.now ≤ time)
    (rand : UInt32) :
    BeatStep state (.tick time rand) (sendPingToServer { state with now := time } rand) :=
  ⟨later, fun _ => armed, rfl⟩

theorem early_tick_of_wraps (rand_le : state.randOffset.toNat ≤ 7)
    (wraps : 4294 < state.maxOffset.toNat + state.randOffset.toNat)
    (register : state.lastPkgTime = systemGetTime state.now) (seen : state.since = state.now) :
    ¬ NoEarlyPing
      (sendPingToServer { state with now := state.now + (pingThreshold state).toNat } 0) := by
  have bound := (pingThreshold state).toNat_lt
  have short := ping_threshold_of_wraps rand_le wraps
  have threshold := ping_threshold_later state (state.now + (pingThreshold state).toNat)
  generalize left : (pingThreshold state).toNat = rest at bound short threshold ⊢
  have apart : wsPkgTimeDiff { state with now := state.now + rest } =
      state.now + rest - state.now :=
    ws_pkg_time_diff_of_lt register (Nat.le_add_right _ _) (by dsimp only; omega)
  have due : (pingThreshold { state with now := state.now + rest }).toNat ≤
      wsPkgTimeDiff { state with now := state.now + rest } := by
    rw [threshold, left, apart]
    omega
  intro none
  rw [sendPingToServer, if_pos due] at none
  have fits := none _ (List.mem_append_right _ (List.mem_singleton_self _))
  dsimp only at fits
  omega

/-- When the product comes round, a package and the next tick make a ping that is too
early. -/
theorem early_ping_of_wraps (timed : Timed state)
    (wraps : 4294 < state.maxOffset.toNat + state.randOffset.toNat) :
    ∃ later late, Run BeatStep state later late ∧ ¬ NoEarlyPing late := by
  obtain ⟨connected, started⟩ : ∃ connected, connected = iotgoCoreHeartbeatStart state := ⟨_, rfl⟩
  obtain ⟨seen, package⟩ : ∃ seen : HeartbeatState,
      seen = { iotgoCoreRefreshLastPkgTime connected with since := connected.now } := ⟨_, rfl⟩
  have product : seen.maxOffset = state.maxOffset ∧ seen.randOffset = state.randOffset := by
    rw [package, started]
    exact ⟨rfl, rfl⟩
  have early := @early_tick_of_wraps seen (by rw [product.2]; exact timed.rand_le)
    (by rw [product.1, product.2]; exact wraps) (by rw [package]; rfl) (by rw [package]; rfl)
  have first : BeatStep state (.connected state.now) connected :=
    ⟨Nat.le_refl _, fun tick => Bool.noConfusion tick, started⟩
  have second : BeatStep connected (.package connected.now) seen :=
    ⟨Nat.le_refl _, fun tick => Bool.noConfusion tick, package⟩
  have armed : seen.armed = true := by
    rw [package, started]
    rfl
  have third := beat_step_tick armed (Nat.le_add_right seen.now (pingThreshold seen).toNat) 0
  exact ⟨_, _, .cons first (.cons second (.cons third .nil)), early⟩

end Invariant

/-- Runs whose ticks have products that fit post no ping before the interval is over,
and from any state with a product that does not fit a tick may post one. -/
theorem heartbeat_period (events : List BeatEvent) :
    (Meets BeatStep ProductFits powerUp events → Keeps BeatStep NoEarlyPing powerUp events) ∧
    ∀ state, Run BeatStep powerUp events state →
      4294 < state.maxOffset.toNat + state.randOffset.toNat →
        ∃ later late, Run BeatStep state later late ∧ ¬ NoEarlyPing late := by
  constructor
  · intro met
    have initial : Timed powerUp ∧ NoEarlyPing powerUp :=
      ⟨timed_power_up, fun ping member => absurd member List.not_mem_nil⟩
    have kept : Keeps BeatStep (fun state => Timed state ∧ NoEarlyPing state) powerUp events := by
      apply keeps_of_meets (fun state => Timed state ∧ NoEarlyPing state) _ initial met
      intro state event next held fits taken
      exact ⟨timed_step held.1 taken, no_early_ping_step held.1 held.2 fits taken⟩
    exact keeps_mono (fun state held => held.2) kept
  · intro state run wraps
    have timed := run_keeps Timed (fun _ _ _ held taken => timed_step held taken) timed_power_up run
    exact early_ping_of_wraps timed wraps

/-- An interval of 4295 seconds is over after 32704 microseconds. -/
theorem interval_4295_pings_early :
    ¬ ∀ events, Keeps BeatStep NoEarlyPing powerUp events := by
  intro all
  have run : Run BeatStep powerUp
      [.connected 0, .notifyConfig 1000000 1 4295, .tick 2000000 0]
      { maxOffset := 4295, randOffset := 0, lastPkgTime := 2000000, armed := true, now := 2000000,
        since := 2000000, pings := [⟨4295, 1000000, 2000000⟩] } := by
    refine .cons ⟨by decide, by decide, rfl⟩ (.cons ⟨by decide, by decide, rfl⟩
      (.cons ⟨by decide, fun _ => rfl, ?_⟩ .nil))
    rfl
  have kept := keeps_final (all _) run
  exact absurd (kept _ (List.mem_singleton_self _)) (by decide)

end IotgoFirmware.Core.PingPeriod
