import IotgoFirmware.Upgrade.UpgradeRegion

/-!
# What a download owns, and for how long

The record of a request and the two buffers are freed where the end of a download is
handled, and every signal that was posted before that is still handled after it. Of
the handlers only the one for a lost connection looks whether a download has started.
So a null pointer is read exactly where a signal or a package comes outside of the
time from a request, or from the start of a download, to the end that is handled next.
-/

namespace IotgoFirmware.Upgrade.UpgradeLifetime

open IotgoFirmware.Library.NorFlash
open IotgoFirmware.Library.StepRuns
open IotgoFirmware.Upgrade.UpgradeRegion
open IotgoFirmware.Upgrade.UpgradeSession
open IotgoFirmware.Upgrade.UpgradeSteps

set_option autoImplicit false

/-- What has come since `MSG_CORE_UPGRADE_EXIT` was handled last: a request, and a start with
memory for each of the buffers. -/
structure Session where
  requested : Bool
  httpMemory : Bool
  sectorMemory : Bool

def Session.ended : Session where
  requested := false
  httpMemory := false
  sectorMemory := false

structure Tracked where
  state : UpgradeState
  session : Session

def Tracked.initial (flash : Flash) : Tracked where
  state := .initial flash
  session := .ended

def signalAfter (session : Session) (returns : SystemReturns) : Option UpgradeSignal → Session
  | some .upgradeEnter =>
      { session with httpMemory := returns.httpMemory, sectorMemory := returns.sectorMemory }
  | some (.upgradeExit _) => .ended
  | _ => session

def sessionAfter (tracked : Tracked) : UpgradeEvent → Session
  | .request _ memory => { tracked.session with requested := memory }
  | .handle returns => signalAfter tracked.session returns tracked.state.inbox.head?
  | _ => tracked.session

def trackedStep (board : Board) (tracked : Tracked) (event : UpgradeEvent) (next : Tracked) :
    Prop :=
  upgradeStep board tracked.state event next.state ∧ next.session = sessionAfter tracked event

/-- A package with data, of a download whose length is known. -/
def HasData (state : UpgradeState) (pdata : List UInt8) (len : Nat) (flag : Bool) : Prop :=
  flag = true ∧ (takeFileLength state pdata len).started = true ∧
    (packageData pdata len).isSome = true

/-- A start and an end come behind a request, and data is asked for behind a start. -/
def AttendedSignal (session : Session) : Option UpgradeSignal → Prop
  | some .upgradeEnter => session.requested = true
  | some (.upgradeExit _) => session.requested = true
  | some .getUpgradeData => session.httpMemory = true
  | _ => True

/-- What comes belongs to a download that has not ended yet, and there is memory for it. -/
def Attended (tracked : Tracked) (event : UpgradeEvent) : Prop :=
  tracked.state.halted = none →
    match event with
    | .request _ memory => memory = true
    | .handle _ => AttendedSignal tracked.session tracked.state.inbox.head?
    | .package pdata len flag _ =>
        tracked.state.spro = true ∨ 0 < tracked.state.leaked →
          HasData tracked.state pdata len flag → tracked.session.sectorMemory = true
    | _ => True

section Pointers

variable {board : Board} {state next : UpgradeState} {event : UpgradeEvent}

/-- A handler reads a pointer that is null. -/
def MissingSignal (state : UpgradeState) : Option UpgradeSignal → Prop
  | some .upgradeEnter => state.info = none
  | some (.upgradeExit _) => state.info = none
  | some .getUpgradeData => ¬ (state.httpBuffer = true ∧ state.info.isSome = true)
  | _ => False

def Missing (state : UpgradeState) : UpgradeEvent → Prop
  | .request _ memory => memory = false
  | .handle _ => MissingSignal state state.inbox.head?
  | .connectServerAgainTimer _ => state.info = none
  | .package pdata len flag _ =>
      HasData state pdata len flag ∧ (state.sectorBuffer = false ∨ state.info = none)
  | _ => False

theorem post_halted (state : UpgradeState) (signal : UpgradeSignal) :
    (systemOsPost state signal).halted = state.halted := by
  obtain ⟨inbox, posted, -⟩ := post_eq state signal
  rw [posted]

theorem connect_halted (state : UpgradeState) (connectOk : Bool) :
    (connectToDownloadServer state connectOk).halted =
      if state.info = none then some .nullPointer else state.halted := by
  unfold connectToDownloadServer
  cases state.info with
  | none => rfl
  | some info =>
      dsimp only
      split
      · rfl
      · exact post_halted state _

theorem start_halted (running : state.halted = none) (returns : SystemReturns) :
    (iotgoUpgradeStart state returns).halted =
      if state.info = none then some .nullPointer else none := by
  have connected := connect_halted (resetDownload (iotgoUpgradeMalloc state returns))
    returns.connectOk
  have same : (resetDownload (iotgoUpgradeMalloc state returns)).halted = none := running
  have info : (resetDownload (iotgoUpgradeMalloc state returns)).info = state.info := rfl
  rw [same, info] at connected
  unfold iotgoUpgradeStart
  dsimp only
  split
  · exact connected
  · exact connected

theorem stop_halted (running : state.halted = none) (errorCode : Nat) :
    (iotgoUpgradeStop state errorCode).halted =
      if state.info = none then some .nullPointer else none := by
  unfold iotgoUpgradeStop
  cases state.info with
  | none => rfl
  | some info =>
      dsimp only [iotgoUpgradeFree, resetDownload, logged, recordNewBin]
      split
      · exact running
      · exact running

theorem download_halted (running : state.halted = none) (sendOk : Bool) :
    (iotgoUpgradeDownload state sendOk).halted =
      if state.httpBuffer = true ∧ state.info.isSome = true then none else some .nullPointer := by
  unfold iotgoUpgradeDownload
  dsimp only
  split
  · split
    · exact running
    · exact (post_halted _ _).trans running
  · rfl

theorem reconnect_halted (state : UpgradeState) :
    (iotgoUpgradeReconnect state).halted = state.halted := by
  unfold iotgoUpgradeReconnect
  dsimp only
  split
  · split
    · rfl
    · exact post_halted _ _
  · rfl

theorem timer_halted (state : UpgradeState) : (cbUpgradeTimer state).halted = state.halted := by
  unfold cbUpgradeTimer
  dsimp only
  split
  · exact post_halted _ _
  · rfl

theorem finish_halted (running : state.halted = none) (info : UpgradeInfo) :
    (finishStore board state info).halted ≠ some .nullPointer := by
  unfold finishStore
  split
  · split
    · exact fun same => Halt.noConfusion (Option.some.inj same)
    · rw [post_halted, logged, running]
      exact (Option.some_ne_none _).symm
    · rw [post_halted, running]
      exact (Option.some_ne_none _).symm
  · rw [post_halted, running]
    exact (Option.some_ne_none _).symm

theorem null_iff {condition : Prop} [Decidable condition] :
    (if condition then some Halt.nullPointer else none) = some .nullPointer ↔ condition := by
  split <;> simp [*]

theorem package_halted (board : Board) (running : state.halted = none) (pdata : List UInt8)
    (len : Nat) (flag : Bool) (result : FlashResult) :
    (upgradeTCPSproOnePkgCb board state pdata len flag result).halted = some .nullPointer ↔
      HasData state pdata len flag ∧ (state.sectorBuffer = false ∨ state.info = none) := by
  have quiet (other : UpgradeState) (same : other.halted = none) (signal : UpgradeSignal) :
      (systemOsPost other signal).halted ≠ some .nullPointer := by
    rw [post_halted, same]
    exact (Option.some_ne_none _).symm
  have taken : (takeFileLength state pdata len).halted = none := by
    obtain ⟨started, length, measured⟩ := take_file_length_eq state pdata len
    rw [measured]
    exact running
  have buffer := take_file_length_buffer state pdata len
  have info := (take_file_length_untouched state pdata len).info
  unfold upgradeTCPSproOnePkgCb HasData
  dsimp only
  by_cases whole : flag = true
  · rw [if_pos whole]
    by_cases started : (takeFileLength state pdata len).started = true
    · rw [if_pos started]
      cases parsed : packageData pdata len with
      | none => simp [quiet _ taken]
      | some found =>
          dsimp only
          by_cases held : (takeFileLength state pdata len).sectorBuffer = true
          · rw [if_pos held, storeUpgradeDataToFlash, info]
            cases present : state.info with
            | none => simp [halt, whole, started]
            | some record =>
                have kept : state.sectorBuffer ≠ false := by
                  rw [← buffer, held]
                  decide
                cases result with
                | ok =>
                    have counted : (countStore (takeFileLength state pdata len) record
                        (sectorImage (packageBytes pdata found)) found.1).halted = none := taken
                    simp [finish_halted counted record, kept]
                | error left =>
                    have spoilt : (spoiled (takeFileLength state pdata len) record
                        (sectorImage (packageBytes pdata found)) left).halted = none := taken
                    have failed : (failStore (takeFileLength state pdata len) record
                        (sectorImage (packageBytes pdata found)) left).halted ≠
                        some .nullPointer := quiet _ spoilt _
                    simp [failed, kept]
          · rw [if_neg held]
            rw [buffer, Bool.not_eq_true] at held
            simp [halt, whole, started, held]
    · rw [if_neg started]
      simp [quiet _ taken, started]
  · rw [if_neg whole]
    simp [quiet _ running, whole]

theorem handle_halted {returns : SystemReturns} {signal : UpgradeSignal}
    (running : state.halted = none) :
    (taskIoTgoNetworkCenter state returns signal).halted = some .nullPointer ↔
      MissingSignal state (some signal) := by
  cases signal with
  | upgradeEnter =>
      rw [taskIoTgoNetworkCenter, start_halted running, null_iff]
      rfl
  | upgradeExit errorCode =>
      rw [taskIoTgoNetworkCenter, stop_halted running, null_iff]
      rfl
  | getUpgradeData =>
      rw [taskIoTgoNetworkCenter, download_halted running, ← ite_not, null_iff]
      rfl
  | upgradeReconnectAgain =>
      rw [taskIoTgoNetworkCenter, reconnect_halted, running]
      simp [MissingSignal]
  | other signal =>
      rw [taskIoTgoNetworkCenter, running]
      simp [MissingSignal]

/-- A step halts the device at a null pointer exactly where a pointer that it reads is null. -/
theorem exec_halts (running : state.halted = none)
    (computed : upgradeExec board state event = some next) :
    next.halted = some .nullPointer ↔ Missing state event := by
  cases event with
  | request info memory =>
      cases computed
      unfold iotgoUpgradeProcessRequest Missing
      cases memory with
      | true => simp [running]
      | false => simp [halt]
  | enterTimer =>
      rw [upgradeExec] at computed
      split_ifs at computed
      cases computed
      rw [post_halted]
      simp [running, Missing]
  | handle returns =>
      obtain ⟨signal, rest, waits, rfl⟩ := handle_taken computed
      unfold Missing
      rw [waits]
      exact handle_halted running
  | connectServerAgainTimer connectOk =>
      rw [upgradeExec] at computed
      split_ifs at computed
      cases computed
      rw [connect_halted, running, null_iff]
      rfl
  | progressTimer =>
      rw [upgradeExec] at computed
      split_ifs at computed
      cases computed
      rw [timer_halted]
      simp [running, Missing]
  | package pdata len flag result =>
      rw [upgradeExec] at computed
      split_ifs at computed
      cases computed
      exact package_halted board running pdata len flag result
  | connected =>
      cases computed
      rw [post_halted]
      simp [running, Missing]
  | lost =>
      cases computed
      rw [post_halted]
      simp [running, Missing]
  | post signal =>
      cases computed
      rw [post_halted]
      simp [running, Missing]

end Pointers

section Invariant

variable {board : Board} {state next : UpgradeState} {session : Session}

/-- What comes since the last end is what is there; a reconnection waits only while there is a
record. -/
structure Live (state : UpgradeState) (session : Session) : Prop where
  requested : session.requested = state.info.isSome
  http : session.httpMemory = state.httpBuffer
  sector : session.sectorMemory = state.sectorBuffer
  buffers : state.httpBuffer = true ∨ state.sectorBuffer = true → state.info.isSome = true
  started : state.upgradeStartedFlag = true → state.info.isSome = true
  again : state.connectServerAgainTimer = true → state.info.isSome = true

/-- Nothing is allocated or freed, and no reconnection is set up. -/
structure Owns (before after : UpgradeState) : Prop where
  info : after.info = before.info
  http : after.httpBuffer = before.httpBuffer
  sector : after.sectorBuffer = before.sectorBuffer
  started : after.upgradeStartedFlag = before.upgradeStartedFlag
  again : after.connectServerAgainTimer = true → before.connectServerAgainTimer = true

theorem live_owns (owns : Owns state next) (live : Live state session) : Live next session where
  requested := by
    rw [owns.info]
    exact live.requested
  http := live.http.trans owns.http.symm
  sector := live.sector.trans owns.sector.symm
  buffers := by
    rw [owns.info, owns.http, owns.sector]
    exact live.buffers
  started := by
    rw [owns.info, owns.started]
    exact live.started
  again := by
    rw [owns.info]
    exact fun armed => live.again (owns.again armed)

theorem owns_trans {first second third : UpgradeState} (left : Owns first second)
    (right : Owns second third) : Owns first third where
  info := right.info.trans left.info
  http := right.http.trans left.http
  sector := right.sector.trans left.sector
  started := right.started.trans left.started
  again := fun armed => left.again (right.again armed)

theorem post_owns (state : UpgradeState) (signal : UpgradeSignal) :
    Owns state (systemOsPost state signal) := by
  obtain ⟨inbox, posted, -⟩ := post_eq state signal
  rw [posted]
  exact ⟨rfl, rfl, rfl, rfl, id⟩

theorem connect_owns (state : UpgradeState) (connectOk : Bool) :
    Owns state (connectToDownloadServer state connectOk) := by
  unfold connectToDownloadServer
  split
  · exact ⟨rfl, rfl, rfl, rfl, id⟩
  · split
    · exact ⟨rfl, rfl, rfl, rfl, id⟩
    · exact post_owns state _

theorem timer_owns (state : UpgradeState) : Owns state (cbUpgradeTimer state) := by
  unfold cbUpgradeTimer
  dsimp only
  split
  · refine owns_trans ?_ (post_owns _ _)
    exact ⟨rfl, rfl, rfl, rfl, id⟩
  · exact ⟨rfl, rfl, rfl, rfl, id⟩

theorem take_owns (state : UpgradeState) (pdata : List UInt8) (len : Nat) :
    Owns state (takeFileLength state pdata len) := by
  obtain ⟨started, length, measured⟩ := take_file_length_eq state pdata len
  rw [measured]
  exact ⟨rfl, rfl, rfl, rfl, id⟩

theorem finish_owns (board : Board) (state : UpgradeState) (info : UpgradeInfo) :
    Owns state (finishStore board state info) := by
  unfold finishStore
  split
  · split
    · exact ⟨rfl, rfl, rfl, rfl, id⟩
    · refine owns_trans ?_ (post_owns _ _)
      exact ⟨rfl, rfl, rfl, rfl, id⟩
    · exact post_owns state _
  · exact post_owns state _

theorem store_owns (board : Board) (state : UpgradeState) (src : List UInt8) (len : Nat)
    (result : FlashResult) : Owns state (storeUpgradeDataToFlash board state src len result) := by
  unfold storeUpgradeDataToFlash
  split
  · exact ⟨rfl, rfl, rfl, rfl, id⟩
  · split
    · refine owns_trans ?_ (finish_owns board _ _)
      exact ⟨rfl, rfl, rfl, rfl, id⟩
    · refine owns_trans ?_ (post_owns _ _)
      exact ⟨rfl, rfl, rfl, rfl, id⟩

theorem package_owns (board : Board) (state : UpgradeState) (pdata : List UInt8) (len : Nat)
    (flag : Bool) (result : FlashResult) :
    Owns state (upgradeTCPSproOnePkgCb board state pdata len flag result) := by
  have taken := take_owns state pdata len
  unfold upgradeTCPSproOnePkgCb
  dsimp only
  split
  · split
    · split
      · exact owns_trans taken (post_owns _ _)
      · split
        · exact owns_trans taken (store_owns board _ _ _ result)
        · refine owns_trans taken ?_
          exact ⟨rfl, rfl, rfl, rfl, id⟩
    · exact owns_trans taken (post_owns _ _)
  · exact post_owns state _

theorem start_live (running : state.halted = none) (returns : SystemReturns)
    (live : Live state session) (on : (iotgoUpgradeStart state returns).halted = none) :
    Live (iotgoUpgradeStart state returns) (signalAfter session returns (some .upgradeEnter)) := by
  have present : state.info ≠ none := by
    intro missing
    rw [start_halted running, if_pos missing] at on
    cases on
  have held : state.info.isSome = true := Option.isSome_iff_ne_none.2 present
  have kept := start_kept state returns
  have info : (iotgoUpgradeStart state returns).info.isSome = true := by
    rw [kept.info]
    exact held
  refine ⟨?_, kept.httpBuffer.symm, kept.sectorBuffer.symm, fun _ => info, fun _ => info,
    fun _ => info⟩
  rw [info]
  exact live.requested.trans held

theorem stop_live (running : state.halted = none) (errorCode : Nat) (returns : SystemReturns)
    (on : (iotgoUpgradeStop state errorCode).halted = none) :
    Live (iotgoUpgradeStop state errorCode)
      (signalAfter session returns (some (.upgradeExit errorCode))) := by
  rw [stop_halted running] at on
  unfold iotgoUpgradeStop
  cases present : state.info with
  | none =>
      rw [if_pos present] at on
      cases on
  | some info =>
      refine ⟨rfl, rfl, rfl, ?_, ?_, ?_⟩
      · rintro (held | held) <;> cases held
      · exact fun flag => Bool.noConfusion flag
      · exact fun armed => Bool.noConfusion armed

theorem download_owns (state : UpgradeState) (sendOk : Bool) :
    Owns state (iotgoUpgradeDownload state sendOk) := by
  unfold iotgoUpgradeDownload
  dsimp only
  split
  · split
    · exact ⟨rfl, rfl, rfl, rfl, id⟩
    · refine owns_trans ?_ (post_owns _ _)
      exact ⟨rfl, rfl, rfl, rfl, id⟩
  · exact ⟨rfl, rfl, rfl, rfl, id⟩

theorem reconnect_live (live : Live state session) :
    Live (iotgoUpgradeReconnect state) session := by
  unfold iotgoUpgradeReconnect
  dsimp only
  split
  · rename_i flag
    split
    · exact { live with again := fun _ => live.started flag }
    · refine live_owns (post_owns _ _) ?_
      exact { live with }
  · exact live

theorem handle_live {returns : SystemReturns} {signal : UpgradeSignal}
    (running : state.halted = none) (live : Live state session)
    (on : (taskIoTgoNetworkCenter state returns signal).halted = none) :
    Live (taskIoTgoNetworkCenter state returns signal)
      (signalAfter session returns (some signal)) := by
  cases signal with
  | upgradeEnter => exact start_live running returns live on
  | upgradeExit errorCode => exact stop_live running errorCode returns on
  | getUpgradeData => exact live_owns (download_owns state returns.sendOk) live
  | upgradeReconnectAgain => exact reconnect_live live
  | other signal => exact live

end Invariant

section Runs

variable {board : Board} {tracked next : Tracked} {event : UpgradeEvent}

/-- The pointers of a device that runs are those of its session. -/
def Alive (tracked : Tracked) : Prop :=
  tracked.state.halted = none → Live tracked.state tracked.session

theorem alive_step (alive : Alive tracked) (step : trackedStep board tracked event next) :
    Alive next := by
  obtain ⟨state, session⟩ := tracked
  obtain ⟨next, session'⟩ := next
  obtain ⟨⟨running, computed⟩, followed⟩ := step
  have live : Live state session := alive running
  intro on
  dsimp only at running computed followed on ⊢
  subst followed
  cases event with
  | request info memory =>
      cases computed
      unfold iotgoUpgradeProcessRequest at on ⊢
      cases memory with
      | false => cases on
      | true =>
          exact { live with
            requested := rfl
            buffers := fun _ => rfl
            started := fun _ => rfl
            again := fun _ => rfl }
  | enterTimer =>
      rw [upgradeExec] at computed
      split_ifs at computed
      cases computed
      refine live_owns (owns_trans ?_ (post_owns _ _)) live
      exact ⟨rfl, rfl, rfl, rfl, id⟩
  | handle returns =>
      obtain ⟨signal, rest, waits, rfl⟩ := handle_taken computed
      unfold sessionAfter
      dsimp only
      rw [waits]
      have popped : Live { state with inbox := rest } session := { live with }
      exact handle_live running popped on
  | connectServerAgainTimer connectOk =>
      rw [upgradeExec] at computed
      split_ifs at computed
      cases computed
      refine live_owns (owns_trans ?_ (connect_owns _ connectOk)) live
      exact ⟨rfl, rfl, rfl, rfl, fun armed => Bool.noConfusion armed⟩
  | progressTimer =>
      rw [upgradeExec] at computed
      split_ifs at computed
      cases computed
      exact live_owns (timer_owns state) live
  | package pdata len flag result =>
      rw [upgradeExec] at computed
      split_ifs at computed
      cases computed
      exact live_owns (package_owns board state pdata len flag result) live
  | connected =>
      cases computed
      exact live_owns (post_owns state _) live
  | lost =>
      cases computed
      exact live_owns (post_owns state _) live
  | post signal =>
      cases computed
      exact live_owns (post_owns state _) live

/-- A signal or a package that is attended finds the pointers that it needs. -/
theorem attended_signal_iff {state : UpgradeState} {session : Session} (live : Live state session)
    (signal : Option UpgradeSignal) :
    AttendedSignal session signal ↔ ¬ MissingSignal state signal := by
  have record : session.requested = true ↔ ¬ state.info = none := by
    rw [live.requested, Option.isSome_iff_ne_none]
  have buffer : session.httpMemory = true ↔
      ¬ ¬ (state.httpBuffer = true ∧ state.info.isSome = true) := by
    rw [not_not, live.http]
    exact ⟨fun held => ⟨held, live.buffers (.inl held)⟩, And.left⟩
  cases signal with
  | none => exact iff_of_true trivial id
  | some signal =>
      cases signal with
      | upgradeEnter => exact record
      | upgradeExit errorCode => exact record
      | getUpgradeData => exact buffer
      | upgradeReconnectAgain => exact iff_of_true trivial id
      | other signal => exact iff_of_true trivial id

/-- The sector buffer goes with a record. -/
theorem sector_memory_iff {state : UpgradeState} {session : Session} (live : Live state session) :
    session.sectorMemory = true ↔ ¬ (state.sectorBuffer = false ∨ state.info = none) := by
  rw [live.sector, not_or, Bool.not_eq_false]
  constructor
  · intro held
    exact ⟨held, Option.isSome_iff_ne_none.1 (live.buffers (.inr held))⟩
  · exact And.left

theorem attended_iff (board : Board) {state : UpgradeState} {session : Session}
    (live : Live state session) (running : state.halted = none) :
    Attended ⟨state, session⟩ event ↔
      ∀ next, upgradeExec board state event = some next → ¬ Missing state event := by
  unfold Attended
  rw [imp_iff_right running]
  cases event with
  | request info memory =>
      constructor
      · rintro rfl next - missing
        exact Bool.noConfusion missing
      · intro kept
        exact Bool.eq_true_of_not_eq_false (kept _ rfl)
  | handle returns =>
      have attended := attended_signal_iff live state.inbox.head?
      unfold upgradeExec Missing
      cases waits : state.inbox with
      | nil => exact iff_of_true trivial fun next computed => by cases computed
      | cons signal rest =>
          rw [waits] at attended
          exact attended.trans ⟨fun found next _ => found, fun found => found _ rfl⟩
  | connectServerAgainTimer connectOk =>
      refine iff_of_true trivial fun next computed missing => ?_
      rw [upgradeExec] at computed
      split_ifs at computed with armed
      exact Option.isSome_iff_ne_none.1 (live.again armed) missing
  | package pdata len flag result =>
      have memory := sector_memory_iff live
      unfold upgradeExec Missing
      dsimp only
      by_cases there : state.spro = true ∨ 0 < state.leaked
      · rw [imp_iff_right there, if_pos there, memory, ← not_and]
        exact ⟨fun found next _ => found, fun found => found _ rfl⟩
      · rw [if_neg there]
        exact iff_of_true (fun held => absurd held there) fun next computed => by cases computed
  | _ => exact iff_of_true trivial fun next _ => id

theorem alive_initial (flash : Flash) : Alive (Tracked.initial flash) := by
  refine fun _ => ⟨rfl, rfl, rfl, ?_, ?_, ?_⟩
  · rintro (held | held) <;> cases held
  · exact fun flag => Bool.noConfusion flag
  · exact fun armed => Bool.noConfusion armed

/-- No handler reads a null pointer exactly in the runs in which every signal and every package
comes while what it needs has not been freed. -/
theorem lifetime_kept_iff (board : Board) (flash : Flash) (events : List UpgradeEvent) :
    Keeps (trackedStep board) (fun tracked => tracked.state.halted ≠ some .nullPointer)
        (.initial flash) events ↔
      Meets (trackedStep board) Attended (.initial flash) events := by
  apply keeps_iff_meets Alive
  · intro tracked event next alive step
    exact alive_step alive step
  · rintro ⟨state, session⟩ event alive -
    cases running : state.halted with
    | some reason =>
        refine iff_of_true (fun next step => ?_) fun on => ?_
        · exact absurd (running.symm.trans step.1.1) (Option.some_ne_none reason)
        · exact absurd (running.symm.trans on) (Option.some_ne_none reason)
    | none =>
        rw [attended_iff board (alive running) running]
        constructor
        · intro kept next computed missing
          exact kept ⟨next, _⟩ ⟨⟨running, computed⟩, rfl⟩ ((exec_halts running computed).2 missing)
        · rintro kept next ⟨⟨-, computed⟩, -⟩ halts
          exact kept next.state computed ((exec_halts running computed).1 halts)
  · exact alive_initial flash
  · exact (Option.some_ne_none _).symm

/-- Two packages that are not whole, each with its own end of the download. -/
def endedTwice : List UpgradeEvent :=
  [.request anyUpgrade true, .enterTimer, .handle allReturns, .package [] 0 false .ok,
    .package [] 0 false .ok, .handle allReturns, .handle allReturns]

def trackedExec (board : Board) (tracked : Tracked) (event : UpgradeEvent) : Option Tracked :=
  (runExec board tracked.state event).map fun next => ⟨next, sessionAfter tracked event⟩

theorem tracked_exec_sound (board : Board) (tracked : Tracked) (event : UpgradeEvent)
    (next : Tracked) (computed : trackedExec board tracked event = some next) :
    trackedStep board tracked event next := by
  obtain ⟨state, taken, rfl⟩ := Option.map_eq_some_iff.1 computed
  exact ⟨run_exec_sound board tracked.state event state taken, rfl⟩

/-- The second of two ends reads the record that the first has freed. -/
theorem lifetime_lost :
    ¬ Keeps (trackedStep firstBoard) (fun tracked => tracked.state.halted ≠ some .nullPointer)
        (.initial fun _ => 0xFF) endedTwice := by
  have reached : ((execRun (trackedExec firstBoard) (.initial fun _ => 0xFF) endedTwice).any
      fun final => decide (final.state.halted = some .nullPointer)) = true := rfl
  intro kept
  obtain ⟨final, run, halted⟩ := exists_run_of_exec (tracked_exec_sound firstBoard) reached
  exact keeps_final kept run (of_decide_eq_true halted)

end Runs

end IotgoFirmware.Upgrade.UpgradeLifetime
