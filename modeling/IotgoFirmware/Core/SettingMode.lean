import IotgoFirmware.Core.CoreSteps

/-!
# What ends a setting mode

The handlers of the registration and of the connection leave a setting mode alone;
those of the Wi-Fi and of the end of an upgrade, and the receive callback, do not.
Beside the state run a count of the entries into a setting mode, for either exit timer
the entry during which its message was handled, and for every waiting message the entry
whose exit timer has posted it.
-/

namespace IotgoFirmware.Core.SettingMode

open IotgoFirmware.Library.StepRuns
open IotgoFirmware.Core.PkgScan
open IotgoFirmware.Core.CoreTask
open IotgoFirmware.Core.CoreSteps
open IotgoFirmware.Receive
open IotgoFirmware.Send.SendJson (IoTgoDeviceMode coreQueueLength)

set_option autoImplicit false

structure Tracked where
  state : CoreState
  entries : Nat
  settingExit : Nat
  selfapExit : Nat
  origins : List (Option Nat)
  isolated : Bool

def Tracked.initial : Tracked where
  state := .initial
  entries := 0
  settingExit := 0
  selfapExit := 0
  origins := []
  isolated := true

def handledMessage (state : CoreState) : CoreEvent → Option CoreMessage
  | .handle _ => state.inbox.head?
  | _ => none

def entriesAfter (tracked : Tracked) (event : CoreEvent) : Nat :=
  match handledMessage tracked.state event with
  | some .enterSettingMode => tracked.entries + 1
  | some .enterSettingSelfapMode => tracked.entries + 1
  | _ => tracked.entries

def settingExitAfter (tracked : Tracked) (event : CoreEvent) : Nat :=
  match handledMessage tracked.state event with
  | some .exitSettingMode => tracked.entries
  | _ => tracked.settingExit

def selfapExitAfter (tracked : Tracked) (event : CoreEvent) : Nat :=
  match handledMessage tracked.state event with
  | some .exitSettingSelfapMode => tracked.entries
  | _ => tracked.selfapExit

/-- The entry that a firing exit timer ends. -/
def exitOf (tracked : Tracked) : CoreEvent → Option Nat
  | .settingExitTimer _ => some tracked.settingExit
  | .selfapExitTimer => some tracked.selfapExit
  | _ => none

def keptOrigins (tracked : Tracked) : CoreEvent → List (Option Nat)
  | .handle _ => tracked.origins.tail
  | _ => tracked.origins

/-- What a step has posted stands behind what has waited. -/
def originsAfter (tracked : Tracked) (event : CoreEvent) (next : CoreState) : List (Option Nat) :=
  (keptOrigins tracked event ++
    List.replicate next.inbox.length (exitOf tracked event)).take next.inbox.length

/-- The causes for which a setting mode may be left: it is entered, or the exit path that was
taken since it was entered comes to its end. -/
def allowedCause (tracked : Tracked) : CoreEvent → Bool
  | .handle _ =>
      match tracked.state.inbox.head? with
      | some .enterSettingMode => true
      | some .enterSettingSelfapMode => true
      | some .joinAp => decide (tracked.origins.head? = some (some tracked.entries))
      | _ => false
  | .settingExitTimer _ => decide (tracked.settingExit = tracked.entries)
  | .selfapExitTimer => decide (tracked.selfapExit = tracked.entries)
  | _ => false

/-- The mode has not changed from a setting mode for any other cause. -/
def isolatedAfter (tracked : Tracked) (event : CoreEvent) (next : CoreState) : Bool :=
  tracked.isolated &&
    (decide (Setting tracked.state → next.mode = tracked.state.mode) || allowedCause tracked event)

def trackedAfter (tracked : Tracked) (event : CoreEvent) (next : CoreState) : Tracked where
  state := next
  entries := entriesAfter tracked event
  settingExit := settingExitAfter tracked event
  selfapExit := selfapExitAfter tracked event
  origins := originsAfter tracked event next
  isolated := isolatedAfter tracked event next

def trackedStep (board : CoreBoard) (tracked : Tracked) (event : CoreEvent) (next : Tracked) :
    Prop :=
  coreStep board tracked.state event next.state ∧ next = trackedAfter tracked event next.state

/-- In a setting mode comes no event whose handler ends it without being asked to. -/
def Undisturbed (board : CoreBoard) (tracked : Tracked) (event : CoreEvent) : Prop :=
  Setting tracked.state →
    match event with
    | .handle _ =>
        match tracked.state.inbox.head? with
        | some .joinAp => tracked.origins.head? = some (some tracked.entries)
        | some .joinApErr => False
        | some .apJoined => False
        | some .upgradeExit => False
        | _ => True
    | .package _ _ =>
        ∀ type, pkgTypeAt board tracked.state event = some type → setsNormal type = false
    | .settingExitTimer gotIp =>
        tracked.state.settingExitTimer = true → gotIp = true →
          tracked.settingExit = tracked.entries
    | .selfapExitTimer =>
        tracked.state.selfapExitTimer = true → tracked.selfapExit = tracked.entries
    | _ => True

section Isolation

variable {board : CoreBoard} {tracked : Tracked} {event : CoreEvent} {next : CoreState}

theorem isolated_after_iff :
    isolatedAfter tracked event next = true ↔ tracked.isolated = true ∧
      (Setting tracked.state → next.mode ≠ tracked.state.mode →
        allowedCause tracked event = true) := by
  unfold isolatedAfter
  rw [Bool.and_eq_true, Bool.or_eq_true, decide_eq_true_eq]
  apply and_congr_right
  intro _
  constructor
  · rintro (same | allowed) setting changed
    · exact absurd (same setting) changed
    · exact allowed
  · intro allowed
    by_cases changes : Setting tracked.state ∧ next.mode ≠ tracked.state.mode
    · exact .inr (allowed changes.1 changes.2)
    · refine .inl fun setting => ?_
      by_contra changed
      exact changes ⟨setting, changed⟩

theorem work_mode_ne {mode : IoTgoDeviceMode} (setting : Setting tracked.state)
    (work : mode ≠ .setting ∧ mode ≠ .settingSelfap) : mode ≠ tracked.state.mode := by
  rintro rfl
  obtain here | here := setting
  · exact work.1 here
  · exact work.2 here

theorem changes_iff {mode : IoTgoDeviceMode} (setting : Setting tracked.state)
    (work : mode ≠ .setting ∧ mode ≠ .settingSelfap) (allowed : Bool) :
    (mode ≠ tracked.state.mode → allowed = true) ↔ allowed = true :=
  imp_iff_right (work_mode_ne setting work)

theorem kept_iff (mode : IoTgoDeviceMode) (allowed : Bool) :
    (mode ≠ mode → allowed = true) ↔ True :=
  iff_of_true (fun changed => absurd rfl changed) trivial

theorem message_iff {message : CoreMessage} {rest : List CoreMessage} (memory : Bool)
    (setting : Setting tracked.state) (waits : tracked.state.inbox = message :: rest) :
    Undisturbed board tracked (.handle memory) ↔
      (messageMode tracked.state message ≠ tracked.state.mode →
        allowedCause tracked (.handle memory) = true) := by
  unfold Undisturbed allowedCause
  rw [imp_iff_right setting, waits, List.head?_cons]
  cases message with
  | joinAp =>
      rw [messageMode]
      refine Iff.trans ?_ (changes_iff setting (by decide) _).symm
      exact decide_eq_true_iff.symm
  | joinApErr =>
      rw [messageMode]
      refine Iff.trans ?_ (changes_iff setting (by decide) _).symm
      exact ⟨False.elim, Bool.noConfusion⟩
  | apJoined =>
      rw [messageMode]
      refine Iff.trans ?_ (changes_iff setting (by decide) _).symm
      exact ⟨False.elim, Bool.noConfusion⟩
  | upgradeExit =>
      rw [messageMode]
      refine Iff.trans ?_ (changes_iff setting (by decide) _).symm
      exact ⟨False.elim, Bool.noConfusion⟩
  | enterSettingMode => exact iff_of_true trivial fun _ => rfl
  | enterSettingSelfapMode => exact iff_of_true trivial fun _ => rfl
  | connectServerAgain =>
      rw [messageMode, if_pos setting]
      exact (kept_iff _ _).symm
  | register =>
      rw [messageMode, if_pos setting]
      exact (kept_iff _ _).symm
  | registered =>
      rw [messageMode, if_pos setting]
      exact (kept_iff _ _).symm
  | _ => exact (kept_iff _ _).symm

/-- The steps that do not disturb are those that leave a setting mode for an allowed cause, or
not at all. -/
theorem undisturbed_iff (step : coreStep board tracked.state event next) :
    Undisturbed board tracked event ↔
      (Setting tracked.state → next.mode ≠ tracked.state.mode →
        allowedCause tracked event = true) := by
  rw [step_mode board step]
  by_cases setting : Setting tracked.state
  · rw [imp_iff_right setting]
    cases event with
    | handle memory =>
        obtain ⟨message, rest, waits, -⟩ := message_taken board step
        rw [message_iff memory setting waits, modeAfter, waits, List.head?_cons]
    | package pdata len =>
        unfold Undisturbed modeAfter
        dsimp only
        rw [imp_iff_right setting]
        cases pkgTypeAt board tracked.state (.package pdata len) with
        | none =>
            exact iff_of_true (fun type found => by cases found)
              fun changed => absurd rfl changed
        | some type =>
            dsimp only
            cases normal : setsNormal type with
            | true =>
                rw [if_pos rfl, changes_iff setting (by decide)]
                refine iff_of_false (fun kept => ?_) Bool.noConfusion
                have none := kept type rfl
                rw [normal] at none
                cases none
            | false =>
                refine iff_of_true ?_ fun changed => absurd rfl changed
                rintro type' found
                cases found
                exact normal
    | settingExitTimer gotIp =>
        obtain ⟨armed, -⟩ := armed_step step
        unfold Undisturbed modeAfter allowedCause
        dsimp only
        rw [imp_iff_right setting, imp_iff_right armed]
        cases gotIp with
        | true =>
            rw [imp_iff_right rfl, if_pos rfl, changes_iff setting (by decide)]
            exact decide_eq_true_iff.symm
        | false => exact iff_of_true Bool.noConfusion fun changed => absurd rfl changed
    | selfapExitTimer =>
        obtain ⟨armed, -⟩ := armed_step step
        unfold Undisturbed modeAfter allowedCause
        dsimp only
        rw [imp_iff_right setting, imp_iff_right armed, changes_iff setting (by decide)]
        exact decide_eq_true_iff.symm
    | _ => exact iff_of_true (fun _ => trivial) fun changed => absurd rfl changed
  · exact iff_of_true (fun held => absurd held setting) fun held => absurd held setting

theorem undisturbed_idle (idle : ∀ next, ¬ coreStep board tracked.state event next) :
    Undisturbed board tracked event := by
  intro setting
  cases event with
  | handle memory =>
      cases waits : tracked.state.inbox with
      | nil => trivial
      | cons message rest =>
          refine absurd ?_ (idle (takeMessage tracked.state memory message rest))
          unfold coreStep coreExec
          rw [waits]
  | package pdata len => exact absurd rfl (idle _)
  | settingExitTimer gotIp =>
      intro armed
      exact (idle _ (if_pos armed)).elim
  | selfapExitTimer =>
      intro armed
      exact (idle _ (if_pos armed)).elim
  | _ => trivial

/-- A setting mode ends for the allowed causes only, exactly in the runs in which nothing
disturbs it. -/
theorem isolation_iff (board : CoreBoard) (events : List CoreEvent) :
    Keeps (trackedStep board) (fun tracked => tracked.isolated = true) .initial events ↔
      Meets (trackedStep board) (Undisturbed board) .initial events := by
  apply keeps_iff_meets fun _ => True
  · exact fun _ _ _ _ _ => trivial
  · intro tracked event _ isolated
    constructor
    · intro kept
      by_cases possible : ∃ next, coreStep board tracked.state event next
      · obtain ⟨next, step⟩ := possible
        have after := kept (trackedAfter tracked event next) ⟨step, rfl⟩
        exact (undisturbed_iff step).2 (isolated_after_iff.1 after).2
      · exact undisturbed_idle fun next step => possible ⟨next, step⟩
    · rintro undisturbed next ⟨step, after⟩
      rw [after]
      exact isolated_after_iff.2 ⟨isolated, (undisturbed_iff step).1 undisturbed⟩
  · trivial
  · rfl

def trackedExec (board : CoreBoard) (tracked : Tracked) (event : CoreEvent) : Option Tracked :=
  (coreExec tracked.state board event).map (trackedAfter tracked event)

theorem tracked_exec_sound (board : CoreBoard) (tracked : Tracked) (event : CoreEvent)
    (next : Tracked) (computed : trackedExec board tracked event = some next) :
    trackedStep board tracked event next := by
  obtain ⟨state, taken, rfl⟩ := Option.map_eq_some_iff.1 computed
  exact ⟨taken, rfl⟩

/-- The Wi-Fi is lost while the message of the key waits. -/
def lostBeforeEntry : List CoreEvent :=
  [.startTimer, .handle true, .post .enterSettingMode, .wifiDisconnected true, .handle true,
    .handle true]

/-- `MSG_CORE_JOIN_AP`, queued before the mode was entered, ends it. -/
theorem isolation_broken :
    ¬ ∀ board, Keeps (trackedStep board) (fun tracked => tracked.isolated = true) .initial
        lostBeforeEntry := by
  intro kept
  have reached : ((execRun (trackedExec ⟨[], [], true, true, true, fun _ => []⟩) .initial
      lostBeforeEntry).any fun final => decide (final.isolated = false)) = true := rfl
  obtain ⟨final, run, broken⟩ := exists_run_of_exec (tracked_exec_sound _) reached
  have isolated := keeps_final (kept _) run
  rw [of_decide_eq_true broken] at isolated
  cases isolated

end Isolation

end IotgoFirmware.Core.SettingMode
