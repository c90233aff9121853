import IotgoFirmware.Setting.SettingServer

/-!
# Who reads the buffers of the setting server

A stop of the server frees its two buffers and its receive object, and leaves alone the
messages that wait in the queue and the timer that sends an answer. Only the callback for
received bytes looks whether the server is started. So the buffers are there for every
reader exactly in the runs in which what a request has set off comes before the next stop.
-/

namespace IotgoFirmware.Setting.ServerBuffers

open IotgoFirmware.Library.CStrings
open IotgoFirmware.Library.StepRuns
open IotgoFirmware.Setting.SettingServer

set_option autoImplicit false

/-- What a start of the server has got from the allocator. -/
structure Server where
  object : Bool
  httpMemory : Bool
  jsonMemory : Bool

/-- The last start, if no stop has come after it. -/
structure Tracked where
  state : SettingState
  server : Option Server

def Tracked.initial : Tracked where
  state := .initial
  server := none

def ServerMemory.server (memory : ServerMemory) : Server where
  object := memory.spro
  httpMemory := memory.httpBuffer.isSome
  jsonMemory := memory.jsonBuffer.isSome

def signalAfter (server : Option Server) (memory : ServerMemory) :
    Option SettingSignal → Option Server
  | some .enterSettingSelfapMode => some (ServerMemory.server memory)
  | some .settingScStop => some (ServerMemory.server memory)
  | _ => server

def serverAfter (tracked : Tracked) : SettingEvent → Option Server
  | .handle memory => signalAfter tracked.server memory tracked.state.inbox.head?
  | .waitingClientTimer => none
  | .settingExitTimer => none
  | .selfapExitTimer => none
  | _ => tracked.server

def trackedStep (board : SettingBoard) (tracked : Tracked) (event : SettingEvent)
    (next : Tracked) : Prop :=
  settingStep board tracked.state event next.state ∧ next.server = serverAfter tracked event

/-- The buffers were there for whoever has used them, and the object for all bytes. -/
def Served (state : SettingState) : Prop :=
  state.halted = false ∧ SettingLog.spTcpRecv false ∉ state.log

def Holds (server : Option Server) (part : Server → Bool) : Prop :=
  ∃ started, server = some started ∧ part started = true

/-- An answer is put together while the server is started, and has both of its buffers. -/
def AttendedSignal (server : Option Server) : Option SettingSignal → Prop
  | some .settingSendIdToApp => Holds server fun started => started.jsonMemory && started.httpMemory
  | some (.settingRespToApp _) =>
      Holds server fun started => started.jsonMemory && started.httpMemory
  | _ => True

/-- What comes finds a server that has been started, and that has not been stopped since. -/
def Attended (tracked : Tracked) : SettingEvent → Prop
  | .handle _ => AttendedSignal tracked.server tracked.state.inbox.head?
  | .recv =>
      tracked.state.listening = true → ∀ started, tracked.server = some started →
        started.object = true
  | .delayRespAppTimer =>
      tracked.state.delayRespAppTimer = true → Holds tracked.server Server.httpMemory
  | _ => True

section Steps

variable {board : SettingBoard} {state next : SettingState} {event : SettingEvent}

/-- Neither the server nor what has happened to it changes. -/
structure Owns (before after : SettingState) : Prop where
  started : after.isSettingStarted = before.isSettingStarted
  spro : after.spro = before.spro
  http : after.httpBuffer.isSome = before.httpBuffer.isSome
  json : after.jsonBuffer.isSome = before.jsonBuffer.isSome

theorem Owns.trans {first second third : SettingState} (left : Owns first second)
    (right : Owns second third) : Owns first third where
  started := right.started.trans left.started
  spro := right.spro.trans left.spro
  http := right.http.trans left.http
  json := right.json.trans left.json

/-- Nothing is read that is not there. -/
structure Quiet (before after : SettingState) : Prop where
  halted : after.halted = before.halted
  log : SettingLog.spTcpRecv false ∈ after.log ↔ SettingLog.spTcpRecv false ∈ before.log

theorem Quiet.trans {first second third : SettingState} (left : Quiet first second)
    (right : Quiet second third) : Quiet first third where
  halted := right.halted.trans left.halted
  log := right.log.trans left.log

theorem served_of_quiet (quiet : Quiet state next) (served : Served state) : Served next := by
  refine ⟨quiet.halted.trans served.1, fun member => ?_⟩
  exact served.2 (quiet.log.1 member)

theorem post_owns (state : SettingState) (signal : SettingSignal) :
    Owns state (systemOsPost state signal) := by
  unfold systemOsPost
  split
  · exact ⟨rfl, rfl, rfl, rfl⟩
  · exact ⟨rfl, rfl, rfl, rfl⟩

theorem post_quiet (state : SettingState) (signal : SettingSignal) :
    Quiet state (systemOsPost state signal) := by
  unfold systemOsPost
  split
  · exact ⟨rfl, Iff.rfl⟩
  · exact ⟨rfl, Iff.rfl⟩

theorem logged_owns (state : SettingState) (entry : SettingLog) :
    Owns state (logged state entry) :=
  ⟨rfl, rfl, rfl, rfl⟩

theorem logged_quiet (state : SettingState) {entry : SettingLog}
    (other : entry ≠ .spTcpRecv false) : Quiet state (logged state entry) where
  halted := rfl
  log := by simp [logged, other.symm]

theorem save_owns (state : SettingState) (param : SavedParam) :
    Owns state (saveAndRespond state param) :=
  (logged_owns state _).trans (post_owns _ _)

theorem save_quiet (state : SettingState) (param : SavedParam) :
    Quiet state (saveAndRespond state param) :=
  (logged_quiet state (by simp)).trans (post_quiet _ _)

theorem package_owns (state : SettingState) (board : SettingBoard) (pdata : List UInt8) :
    Owns state (svrSproOnePkgCb state board pdata) := by
  unfold svrSproOnePkgCb
  split
  · exact post_owns state _
  · dsimp only
    split
    · split
      · exact save_owns state _
      · split
        · split
          · exact save_owns state _
          · exact ⟨rfl, rfl, rfl, rfl⟩
        · exact ⟨rfl, rfl, rfl, rfl⟩
    · exact ⟨rfl, rfl, rfl, rfl⟩

theorem package_quiet (state : SettingState) (board : SettingBoard) (pdata : List UInt8) :
    Quiet state (svrSproOnePkgCb state board pdata) := by
  unfold svrSproOnePkgCb
  split
  · exact post_quiet state _
  · dsimp only
    split
    · split
      · exact save_quiet state _
      · split
        · split
          · exact save_quiet state _
          · exact ⟨rfl, Iff.rfl⟩
        · exact ⟨rfl, Iff.rfl⟩
    · exact ⟨rfl, Iff.rfl⟩

theorem exit_owns (state : SettingState) : Owns state (postExit state) := by
  unfold postExit
  split_ifs
  · exact post_owns state _
  · exact post_owns state _
  · exact ⟨rfl, rfl, rfl, rfl⟩

theorem exit_quiet (state : SettingState) : Quiet state (postExit state) := by
  unfold postExit
  split_ifs
  · exact post_quiet state _
  · exact post_quiet state _
  · exact ⟨rfl, Iff.rfl⟩

theorem fill_owns (state : SettingState) (json : List UInt8) :
    Owns state (fillBuffers state json) := by
  unfold fillBuffers
  split
  · rename_i held
    exact ⟨rfl, rfl, held.2.symm, held.1.symm⟩
  · exact ⟨rfl, rfl, rfl, rfl⟩

theorem send_owns (state : SettingState) : Owns state (espconnSend state) := by
  unfold espconnSend
  split
  · exact ⟨rfl, rfl, rfl, rfl⟩
  · exact logged_owns state _

theorem delay_owns (state : SettingState) : Owns state (settingDelayRespAppTimerCb state) := by
  have sent := send_owns state
  unfold settingDelayRespAppTimerCb
  dsimp only
  split_ifs
  · exact sent
  · exact sent.trans (exit_owns _)
  · exact sent

theorem device_info_owns (state : SettingState) (board : SettingBoard) :
    Owns state (iotgoSettingSendDeviceInfoToApp state board) := by
  have filled := fill_owns { state with waitingClientTimer := false } board.idToApp
  have same : Owns state { state with waitingClientTimer := false } := ⟨rfl, rfl, rfl, rfl⟩
  unfold iotgoSettingSendDeviceInfoToApp
  dsimp only
  split_ifs
  · exact same.trans filled
  · exact (same.trans filled).trans (send_owns _)

theorem resp_owns (state : SettingState) (par : StationStatus) :
    Owns state (iotgoSettingSendRespToApp state par) := by
  have filled := fill_owns state (respText par)
  unfold iotgoSettingSendRespToApp
  dsimp only
  split_ifs
  · exact filled
  · exact ⟨filled.started, filled.spro, filled.http, filled.json⟩

/-- Both buffers are needed to fill them. -/
theorem fill_served_iff (served : Served state) (json : List UInt8) :
    Served (fillBuffers state json) ↔
      state.jsonBuffer.isSome = true ∧ state.httpBuffer.isSome = true := by
  unfold fillBuffers
  split
  · rename_i held
    exact iff_of_true served held
  · rename_i missing
    exact iff_of_false (fun kept => Bool.noConfusion kept.1) missing

theorem send_served_iff (served : Served state) :
    Served (espconnSend state) ↔ state.httpBuffer.isSome = true := by
  unfold espconnSend
  cases state.httpBuffer with
  | none => exact iff_of_false (fun kept => Bool.noConfusion kept.1) (by simp)
  | some text =>
      refine iff_of_true ?_ rfl
      exact served_of_quiet (logged_quiet state (by simp)) served

theorem delay_served_iff (served : Served state) :
    Served (settingDelayRespAppTimerCb state) ↔ state.httpBuffer.isSome = true := by
  have sent := send_served_iff served
  rw [← sent]
  unfold settingDelayRespAppTimerCb
  dsimp only
  split_ifs with halted flag
  · exact Iff.rfl
  · have quiet := exit_quiet (espconnSend state)
    constructor
    · intro kept
      exact ⟨quiet.halted.symm.trans kept.1, fun member => kept.2 (quiet.log.2 member)⟩
    · exact served_of_quiet quiet
  · exact Iff.rfl

theorem device_info_served_iff (board : SettingBoard) (served : Served state) :
    Served (iotgoSettingSendDeviceInfoToApp state board) ↔
      state.jsonBuffer.isSome = true ∧ state.httpBuffer.isSome = true := by
  have unarmed : Served { state with waitingClientTimer := false } := served
  have filled := fill_served_iff unarmed board.idToApp
  have owns := fill_owns { state with waitingClientTimer := false } board.idToApp
  unfold iotgoSettingSendDeviceInfoToApp
  dsimp only
  split_ifs with halted
  · exact filled
  · by_cases held : state.jsonBuffer.isSome = true ∧ state.httpBuffer.isSome = true
    · rw [send_served_iff (filled.2 held), owns.http]
      exact iff_of_true held.2 held
    · -- a buffer that is missing has halted the device before
      have missing : fillBuffers { state with waitingClientTimer := false } board.idToApp =
          halt { state with waitingClientTimer := false } := if_neg held
      rw [missing] at halted
      exact absurd rfl halted

theorem resp_served_iff (par : StationStatus) (served : Served state) :
    Served (iotgoSettingSendRespToApp state par) ↔
      state.jsonBuffer.isSome = true ∧ state.httpBuffer.isSome = true := by
  have filled := fill_served_iff served (respText par)
  rw [← filled]
  unfold iotgoSettingSendRespToApp
  dsimp only
  split_ifs
  · exact Iff.rfl
  · exact Iff.rfl

end Steps

section Invariant

variable {board : SettingBoard} {state next : SettingState} {server : Option Server}
variable {event : SettingEvent}

/-- The last start is what the pointers show. -/
structure Live (state : SettingState) (server : Option Server) : Prop where
  started : state.isSettingStarted = server.isSome
  spro : state.spro = server.any Server.object
  http : state.httpBuffer.isSome = server.any Server.httpMemory
  json : state.jsonBuffer.isSome = server.any Server.jsonMemory

theorem live_owns (owns : Owns state next) (live : Live state server) : Live next server where
  started := owns.started.trans live.started
  spro := owns.spro.trans live.spro
  http := owns.http.trans live.http
  json := owns.json.trans live.json

theorem holds_iff {server : Option Server} {part : Server → Bool} :
    Holds server part ↔ server.any part = true := by
  cases server with
  | none => simp [Holds]
  | some started => simp [Holds]

theorem holds_both_iff (live : Live state server) :
    Holds server (fun started => started.jsonMemory && started.httpMemory) ↔
      state.jsonBuffer.isSome = true ∧ state.httpBuffer.isSome = true := by
  rw [holds_iff, live.json, live.http]
  cases server with
  | none => simp
  | some started => simp

theorem start_live (state : SettingState) (memory : ServerMemory) :
    Live (iotgoSettingServerStart state memory) (some (ServerMemory.server memory)) :=
  ⟨rfl, rfl, rfl, rfl⟩

theorem stop_live (state : SettingState) : Live (iotgoSettingServerStop state) none :=
  ⟨rfl, rfl, rfl, rfl⟩

theorem handle_live (memory : ServerMemory) (signal : SettingSignal) (live : Live state server) :
    Live (taskIoTgoNetworkCenter board state memory signal)
      (signalAfter server memory (some signal)) := by
  cases signal with
  | enterSettingMode =>
      have owns : Owns state { state with mode := .setting } := ⟨rfl, rfl, rfl, rfl⟩
      exact live_owns (owns.trans (post_owns _ _)) live
  | exitSettingMode => exact { live with }
  | settingSendIdToApp => exact live_owns (device_info_owns state board) live
  | settingRespToApp par => exact live_owns (resp_owns state par) live
  | enterSettingSelfapMode => exact start_live _ memory
  | exitSettingSelfapMode => exact { live with }
  | settingScStart => exact live
  | settingScStop => exact start_live _ memory
  | settingScRestart => exact live_owns (post_owns _ _) live
  | other signal => exact live

theorem live_step (live : Live state server)
    (computed : settingExec board state event = some next) :
    Live next (serverAfter ⟨state, server⟩ event) := by
  cases event with
  | handle memory =>
      rw [settingExec] at computed
      unfold serverAfter
      cases waits : state.inbox with
      | nil =>
          rw [waits] at computed
          cases computed
      | cons signal rest =>
          rw [waits] at computed
          cases computed
          have popped : Live { state with inbox := rest } server := { live with }
          exact handle_live memory signal popped
  | recv =>
      rw [settingExec] at computed
      split_ifs at computed
      cases computed
      refine live_owns ?_ live
      unfold svrTCPRecvCallback
      split_ifs
      · exact logged_owns state _
      · exact ⟨rfl, rfl, rfl, rfl⟩
  | package pdata =>
      rw [settingExec] at computed
      split_ifs at computed
      cases computed
      exact live_owns (package_owns state board pdata) live
  | startTcpListenTimer =>
      rw [settingExec] at computed
      split_ifs at computed
      cases computed
      exact { live with }
  | waitingClientTimer =>
      rw [settingExec] at computed
      split_ifs at computed
      cases computed
      exact live_owns (post_owns _ _) (stop_live state)
  | delayRespAppTimer =>
      rw [settingExec] at computed
      split_ifs at computed
      cases computed
      have unarmed : Live { state with delayRespAppTimer := false } server := { live with }
      exact live_owns (delay_owns _) unarmed
  | settingExitTimer =>
      rw [settingExec] at computed
      split_ifs at computed
      cases computed
      exact stop_live _
  | selfapExitTimer =>
      rw [settingExec] at computed
      split_ifs at computed
      cases computed
      exact ⟨rfl, rfl, rfl, rfl⟩
  | setMode mode =>
      cases computed
      exact { live with }
  | post signal =>
      cases computed
      exact live_owns (post_owns state _) live

theorem handle_served_iff (board : SettingBoard) (memory : ServerMemory) (signal : SettingSignal)
    (live : Live state server) (served : Served state) :
    Served (taskIoTgoNetworkCenter board state memory signal) ↔
      AttendedSignal server (some signal) := by
  cases signal with
  | enterSettingMode =>
      refine iff_of_true ?_ trivial
      exact served_of_quiet (post_quiet _ _) served
  | settingSendIdToApp =>
      exact (device_info_served_iff board served).trans (holds_both_iff live).symm
  | settingRespToApp par =>
      exact (resp_served_iff par served).trans (holds_both_iff live).symm
  | settingScRestart =>
      refine iff_of_true ?_ trivial
      exact served_of_quiet (post_quiet _ _) served
  | _ => exact iff_of_true served trivial

theorem recv_served_iff (live : Live state server) (served : Served state) :
    Served (svrTCPRecvCallback state) ↔ ∀ started, server = some started →
      started.object = true := by
  unfold svrTCPRecvCallback
  rw [live.started, live.spro]
  cases server with
  | none =>
      refine iff_of_true served ?_
      rintro started missing
      cases missing
  | some started =>
      rw [Option.isSome_some, if_pos rfl, Option.any_some]
      cases held : started.object with
      | true =>
          refine iff_of_true ?_ ?_
          · exact served_of_quiet (logged_quiet state (by simp)) served
          · intro other same
            rw [← Option.some.inj same]
            exact held
      | false =>
          refine iff_of_false ?_ ?_
          · exact fun kept => kept.2 (by simp [logged])
          · intro all
            rw [all started rfl] at held
            cases held

/-- A step leaves the device as it was, or does so exactly where what it needs is there. -/
theorem step_served_iff (board : SettingBoard) (live : Live state server) (served : Served state) :
    (∀ next, settingExec board state event = some next → Served next) ↔
      Attended ⟨state, server⟩ event := by
  cases event with
  | handle memory =>
      unfold settingExec Attended
      dsimp only
      cases waits : state.inbox with
      | nil => exact iff_of_true (fun next computed => by cases computed) trivial
      | cons signal rest =>
          have popped : Live { state with inbox := rest } server := { live with }
          have handled := handle_served_iff board memory signal popped served
          constructor
          · intro kept
            exact handled.1 (kept _ rfl)
          · rintro attended next computed
            cases computed
            exact handled.2 attended
  | recv =>
      unfold settingExec Attended
      dsimp only
      by_cases listening : state.listening = true
      · rw [if_pos listening, imp_iff_right listening, ← recv_served_iff live served]
        simp
      · rw [if_neg listening]
        simp [listening]
  | package pdata =>
      refine iff_of_true (fun next computed => ?_) trivial
      rw [settingExec] at computed
      split_ifs at computed
      cases computed
      exact served_of_quiet (package_quiet state board pdata) served
  | delayRespAppTimer =>
      unfold settingExec Attended
      dsimp only
      by_cases armed : state.delayRespAppTimer = true
      · have unarmed : Served { state with delayRespAppTimer := false } := served
        have sent := delay_served_iff unarmed
        rw [if_pos armed, imp_iff_right armed, holds_iff, ← live.http, ← sent]
        simp
      · rw [if_neg armed]
        simp [armed]
  | waitingClientTimer =>
      refine iff_of_true (fun next computed => ?_) trivial
      rw [settingExec] at computed
      split_ifs at computed
      cases computed
      exact served_of_quiet (post_quiet _ _) served
  | startTcpListenTimer =>
      refine iff_of_true (fun next computed => ?_) trivial
      rw [settingExec] at computed
      split_ifs at computed
      cases computed
      exact served
  | settingExitTimer =>
      refine iff_of_true (fun next computed => ?_) trivial
      rw [settingExec] at computed
      split_ifs at computed
      cases computed
      exact served
  | selfapExitTimer =>
      refine iff_of_true (fun next computed => ?_) trivial
      rw [settingExec] at computed
      split_ifs at computed
      cases computed
      exact served
  | setMode mode =>
      refine iff_of_true (fun next computed => ?_) trivial
      cases computed
      exact served
  | post signal =>
      refine iff_of_true (fun next computed => ?_) trivial
      cases computed
      exact served_of_quiet (post_quiet state signal) served

end Invariant

section Runs

/-- Every reader of a buffer finds it, and the object is there for all bytes, exactly in the
runs in which each comes between a start of the server and the next stop. -/
theorem buffers_served_iff (board : SettingBoard) (events : List SettingEvent) :
    Keeps (trackedStep board) (fun tracked => Served tracked.state) .initial events ↔
      Meets (trackedStep board) Attended .initial events := by
  refine keeps_iff_meets (fun tracked => Live tracked.state tracked.server) ?_ ?_ ?_ ?_
  · rintro ⟨state, server⟩ event ⟨next, server'⟩ live ⟨⟨-, computed⟩, followed⟩
    dsimp only at live computed followed ⊢
    subst followed
    exact live_step live computed
  · rintro ⟨state, server⟩ event live served
    rw [← step_served_iff board live served]
    constructor
    · intro kept next computed
      exact kept ⟨next, _⟩ ⟨⟨served.1, computed⟩, rfl⟩
    · rintro kept next ⟨⟨-, computed⟩, -⟩
      exact kept next.state computed
  · exact ⟨rfl, rfl, rfl, rfl⟩
  · exact ⟨rfl, List.not_mem_nil⟩

/-- Any board: nothing is parsed in the run below. -/
def plainBoard : SettingBoard where
  jsonparse := fun _ => []
  idToApp := asciiBytes "\x7b\x7d"

def allMemory : ServerMemory where
  spro := true
  httpBuffer := some []
  jsonBuffer := some []

/-- An app asks for the device in the moment in which the server has waited for 30 s. -/
def lateRequest : List SettingEvent :=
  [.setMode .setting, .post .settingScStop, .handle allMemory, .startTcpListenTimer, .recv,
    .package (asciiBytes "GET /device HTTP/1.1\r\n\r\n"), .waitingClientTimer, .handle allMemory]

def trackedExec (board : SettingBoard) (tracked : Tracked) (event : SettingEvent) :
    Option Tracked :=
  if tracked.state.halted = false then
    (settingExec board tracked.state event).map fun next => ⟨next, serverAfter tracked event⟩
  else none

theorem tracked_exec_sound (board : SettingBoard) (tracked : Tracked) (event : SettingEvent)
    (next : Tracked) (computed : trackedExec board tracked event = some next) :
    trackedStep board tracked event next := by
  unfold trackedExec at computed
  split_ifs at computed with running
  obtain ⟨state, taken, rfl⟩ := Option.map_eq_some_iff.1 computed
  exact ⟨⟨running, taken⟩, rfl⟩

/-- The answer is put together in buffers that the timer has freed. -/
theorem late_request_lost :
    ¬ Keeps (trackedStep plainBoard) (fun tracked => Served tracked.state) .initial
        lateRequest := by
  have reached : ((execRun (trackedExec plainBoard) .initial lateRequest).any
      fun final => final.state.halted) = true := by decide
  intro kept
  obtain ⟨final, run, halted⟩ := exists_run_of_exec (tracked_exec_sound plainBoard) reached
  have served := keeps_final kept run
  exact Bool.noConfusion (halted.symm.trans served.1)

end Runs

end IotgoFirmware.Setting.ServerBuffers
