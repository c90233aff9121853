import IotgoFirmware.Send.SendJson
import Mathlib.Data.List.TakeWhile

/-!
# Debouncing the key

`keyISR` arms a timer that samples the pin every 25 ms, and `keyISRStage2` counts
the samples until the key counts as released. The two device programs have the
same `keyISRStage2` but for what a long and a short press do in each device
mode, which is the `KeyTable` here. The counters stay small, so that they are
natural numbers.
-/

namespace IotgoFirmware.Device.KeyDebounce

open IotgoFirmware.Send.SendJson

set_option autoImplicit false

section Constants

def keyDebonceInterval : Nat := 25
def keyLongPressTime : Nat := 5000
def keyDebonceFirstTime : Nat := keyDebonceInterval * 2
def keyDebonceSecondTime : Nat := keyDebonceInterval * 2

end Constants

inductive KeyEffect where
  | enterSettingMode
  | exitSettingMode
  | enterSettingSelfapMode
  | exitSettingSelfapMode
  | selfapTimer (milliseconds : Nat)
  | switchON
  | switchOFF
  | updateByLocal
deriving DecidableEq

inductive KeyAction where
  | longPress (effects : List KeyEffect)
  | shortPress (effects : List KeyEffect)
deriving DecidableEq

/-- One reading of the pin, with the device mode and the relay at that time. -/
structure KeySample where
  released : Bool
  mode : IoTgoDeviceMode
  switchOn : Bool
deriving DecidableEq

/-- The branches on the device mode; `none` where a branch does nothing. -/
structure KeyTable where
  longPress : IoTgoDeviceMode → Option (List KeyEffect)
  shortPress : IoTgoDeviceMode → Bool → Option (List KeyEffect)

structure KeyState where
  key_pressed_level_counter : Nat
  key_released_level_counter : Nat
  long_press_processed : Bool
  timerArmed : Bool
  interruptArmed : Bool

section Stages

/-- Nothing is done a second time, but the press counts as processed in every mode. -/
def longPressed (keys : KeyTable) (state : KeyState) (sample : KeySample) :
    KeyState × List KeyAction :=
  match keys.longPress sample.mode with
  | some effects =>
      if state.long_press_processed = false then
        ({ state with long_press_processed := true }, [.longPress effects])
      else (state, [])
  | none => ({ state with long_press_processed := true }, [])

def readPin (keys : KeyTable) (state : KeyState) (sample : KeySample) :
    KeyState × List KeyAction :=
  if sample.released = true then
    if 0 < state.key_pressed_level_counter then
      ({ state with key_released_level_counter := state.key_released_level_counter + 1 }, [])
    else (state, [])
  else if state.key_released_level_counter = 0 then
    let count := state.key_pressed_level_counter + 1
    if keyLongPressTime / keyDebonceInterval ≤ count then
      longPressed keys
        { state with key_pressed_level_counter := keyLongPressTime / keyDebonceInterval } sample
    else ({ state with key_pressed_level_counter := count }, [])
  else (state, [])

def shortPressed (keys : KeyTable) (state : KeyState) (sample : KeySample) : List KeyAction :=
  if keyDebonceFirstTime / keyDebonceInterval ≤ state.key_pressed_level_counter ∧
      state.long_press_processed = false then
    ((keys.shortPress sample.mode sample.switchOn).map KeyAction.shortPress).toList
  else []

def keyISRStage2 (keys : KeyTable) (state : KeyState) (sample : KeySample) :
    KeyState × List KeyAction :=
  let (state, actions) := readPin keys state sample
  if keyDebonceSecondTime / keyDebonceInterval ≤ state.key_released_level_counter then
    ({ key_pressed_level_counter := 0
       key_released_level_counter := 0
       long_press_processed := false
       timerArmed := false
       interruptArmed := true },
      actions ++ shortPressed keys state sample)
  else (state, actions)

/-- `raised` is the bit of the key in the interrupt status. -/
def keyISR (state : KeyState) (raised : Bool) : KeyState :=
  if raised = true then
    { state with
      key_pressed_level_counter := 0
      key_released_level_counter := 0
      timerArmed := true
      interruptArmed := false }
  else state

/-- The statics behind `interruptInit`. -/
def startUp : KeyState where
  key_pressed_level_counter := 0
  key_released_level_counter := 0
  long_press_processed := false
  timerArmed := false
  interruptArmed := true

end Stages

section Devices

inductive KeyDevice where
  | fwtrxTc
  | fwsw01
deriving DecidableEq

def fwtrxTcKeys : KeyTable where
  longPress mode :=
    if mode ≠ .setting ∧ mode ≠ .settingSelfap then some [.enterSettingMode]
    else if mode = .setting then some [.exitSettingMode, .selfapTimer 1500]
    else none
  shortPress mode _ :=
    if mode = .setting then some [.exitSettingMode]
    else if mode = .settingSelfap then some [.exitSettingSelfapMode]
    else none

def fwsw01Keys : KeyTable where
  longPress mode :=
    if mode ≠ .settingSelfap then some [.enterSettingSelfapMode] else none
  shortPress mode switchOn :=
    if mode = .settingSelfap then some [.exitSettingSelfapMode]
    else some ((if switchOn then .switchOFF else .switchON) ::
      if mode = .workNormal then [.updateByLocal] else [])

def KeyDevice.keys : KeyDevice → KeyTable
  | .fwtrxTc => fwtrxTcKeys
  | .fwsw01 => fwsw01Keys

end Devices

section Presses

/-- An action with the samples of its press, up to the one it is taken at. -/
structure TakenAction where
  action : KeyAction
  samples : List KeySample
deriving DecidableEq

/-- The state with what happened since the interrupt of the current press. -/
structure KeyHistory where
  state : KeyState
  samples : List KeySample
  taken : List TakenAction

inductive KeyEvent where
  | interrupt (raised : Bool)
  | sample (sample : KeySample)

/-- The bit of the key is raised while its interrupt is armed only, and the pin is
sampled while the timer is. -/
def keyStep (keys : KeyTable) (history : KeyHistory) : KeyEvent → KeyHistory
  | .interrupt raised =>
      if raised = true ∧ history.state.interruptArmed = true then
        { state := keyISR history.state true, samples := [], taken := [] }
      else { history with state := keyISR history.state false }
  | .sample sample =>
      if history.state.timerArmed = true then
        let (state, actions) := keyISRStage2 keys history.state sample
        let samples := history.samples ++ [sample]
        { state := state
          samples := samples
          taken := history.taken ++ actions.map fun action => { action := action, samples := samples } }
      else history

def keyRun (keys : KeyTable) (events : List KeyEvent) : KeyHistory :=
  events.foldl (keyStep keys) { state := startUp, samples := [], taken := [] }

def pressed (sample : KeySample) : Bool := !sample.released

/-- A released sample counts when a pressed one stands before it. -/
def counted (samples : List KeySample) : List KeySample :=
  samples.dropWhile fun sample => sample.released

/-- The pressed samples before the first counted release. -/
def pressedSamples (samples : List KeySample) : Nat :=
  ((counted samples).takeWhile pressed).length

def releasedSamples (samples : List KeySample) : Nat :=
  (((counted samples).dropWhile pressed).filter fun sample => sample.released).length

end Presses

/-- The samples of a press that is not over: those before the first pressed one, the
pressed ones up to the first counted release, and the rest. -/
structure PressSplit (samples idle firm loose : List KeySample) : Prop where
  whole : samples = idle ++ (firm ++ loose)
  idle_released : ∀ sample ∈ idle, sample.released = true
  firm_pressed : ∀ sample ∈ firm, sample.released = false
  loose_first : ∀ sample ∈ loose.head?, sample.released = true
  loose_behind : firm = [] → loose = []

section Counts

variable {samples idle firm loose : List KeySample}

def looseReleases (loose : List KeySample) : Nat :=
  (loose.filter fun sample => sample.released).length

theorem counted_split (split : PressSplit samples idle firm loose) :
    counted samples = firm ++ loose := by
  have behind := split.loose_behind
  rw [counted, split.whole, List.dropWhile_append_of_pos split.idle_released]
  cases firm with
  | nil => rw [behind rfl]; rfl
  | cons first rest =>
      have down := split.firm_pressed first List.mem_cons_self
      rw [List.cons_append, List.dropWhile_cons_of_neg (by simp [down])]

theorem sample_counts_split (split : PressSplit samples idle firm loose) :
    pressedSamples samples = firm.length ∧ releasedSamples samples = looseReleases loose := by
  have firmPressed : ∀ sample ∈ firm, pressed sample = true := by
    intro sample member
    simp [pressed, split.firm_pressed sample member]
  have first := split.loose_first
  have stops : loose.takeWhile pressed = [] ∧ loose.dropWhile pressed = loose := by
    cases loose with
    | nil => exact ⟨rfl, rfl⟩
    | cons sample rest =>
        have up : pressed sample = false := by simp [pressed, first sample rfl]
        simp [up]
  rw [pressedSamples, releasedSamples, counted_split split,
    List.takeWhile_append_of_pos firmPressed, List.dropWhile_append_of_pos firmPressed, stops.1,
    stops.2, List.append_nil]
  exact ⟨rfl, rfl⟩

theorem press_split_nil : PressSplit [] [] [] [] where
  whole := rfl
  idle_released := by simp
  firm_pressed := by simp
  loose_first := by simp
  loose_behind _ := rfl

theorem press_split_idle (split : PressSplit samples idle [] loose) {sample : KeySample}
    (up : sample.released = true) :
    PressSplit (samples ++ [sample]) (idle ++ [sample]) [] loose where
  whole := by
    rw [split.whole, split.loose_behind rfl]
    simp
  idle_released := by
    intro other member
    rcases List.mem_append.1 member with earlier | last
    · exact split.idle_released other earlier
    · rw [List.mem_singleton.1 last]
      exact up
  firm_pressed := split.firm_pressed
  loose_first := split.loose_first
  loose_behind := split.loose_behind

theorem press_split_firm (split : PressSplit samples idle firm []) {sample : KeySample}
    (down : sample.released = false) :
    PressSplit (samples ++ [sample]) idle (firm ++ [sample]) [] where
  whole := by
    rw [split.whole]
    simp
  idle_released := split.idle_released
  firm_pressed := by
    intro other member
    rcases List.mem_append.1 member with earlier | last
    · exact split.firm_pressed other earlier
    · rw [List.mem_singleton.1 last]
      exact down
  loose_first := by simp
  loose_behind _ := rfl

theorem press_split_loose (split : PressSplit samples idle firm loose) {sample : KeySample}
    (some : firm ≠ []) (later : loose = [] → sample.released = true) :
    PressSplit (samples ++ [sample]) idle firm (loose ++ [sample]) where
  whole := by
    rw [split.whole]
    simp
  idle_released := split.idle_released
  firm_pressed := split.firm_pressed
  loose_first := by
    have first := split.loose_first
    cases loose with
    | nil => simpa using later rfl
    | cons other rest => simpa using first
  loose_behind none := absurd none some

theorem loose_releases_append (loose : List KeySample) (sample : KeySample) :
    looseReleases (loose ++ [sample]) =
      looseReleases loose + (if sample.released = true then 1 else 0) := by
  rw [looseReleases, looseReleases, List.filter_append, List.length_append]
  by_cases up : sample.released = true
  · simp [up]
  · simp [up]

theorem loose_releases_zero_iff (split : PressSplit samples idle firm loose) :
    looseReleases loose = 0 ↔ loose = [] := by
  have first := split.loose_first
  cases loose with
  | nil => exact iff_of_true rfl rfl
  | cons sample rest =>
      have up := first sample rfl
      simp [looseReleases, up]

end Counts

section Polling

variable {samples idle firm loose : List KeySample}

/-- The state while the pin is sampled, told from the samples of the press. -/
def pollState (firm loose : List KeySample) : KeyState where
  key_pressed_level_counter := min 200 firm.length
  key_released_level_counter := looseReleases loose
  long_press_processed := decide (200 ≤ firm.length)
  timerArmed := true
  interruptArmed := false

theorem long_press_samples : keyLongPressTime / keyDebonceInterval = 200 := rfl

theorem first_samples : keyDebonceFirstTime / keyDebonceInterval = 2 := rfl

theorem second_samples : keyDebonceSecondTime / keyDebonceInterval = 2 := rfl

variable (keys : KeyTable) (sample : KeySample)

theorem stage_2_idle (up : sample.released = true) :
    keyISRStage2 keys (pollState [] []) sample = (pollState [] [], []) := by
  have read : readPin keys (pollState [] []) sample = (pollState [] [], []) := by
    rw [readPin, if_pos up, if_neg (by decide)]
  simp only [keyISRStage2, read]
  rw [if_neg (by decide)]

theorem stage_2_release (up : sample.released = true) (some : firm ≠ []) :
    keyISRStage2 keys (pollState firm loose) sample =
      if 2 ≤ looseReleases (loose ++ [sample]) then
        (startUp, shortPressed keys (pollState firm (loose ++ [sample])) sample)
      else (pollState firm (loose ++ [sample]), []) := by
  have positive : 0 < min 200 firm.length := by
    have := List.length_pos_iff.2 some
    omega
  have read : readPin keys (pollState firm loose) sample =
      (pollState firm (loose ++ [sample]), []) := by
    rw [readPin, if_pos up, pollState, if_pos positive, pollState, loose_releases_append, if_pos up]
  simp only [keyISRStage2, read, second_samples]
  rfl

theorem stage_2_press (down : sample.released = false) :
    keyISRStage2 keys (pollState firm []) sample =
      (pollState (firm ++ [sample]) [],
        if firm.length = 199 then ((keys.longPress sample.mode).map KeyAction.longPress).toList
        else []) := by
  have read : readPin keys (pollState firm []) sample =
      (pollState (firm ++ [sample]) [],
        if firm.length = 199 then ((keys.longPress sample.mode).map KeyAction.longPress).toList
        else []) := by
    have up : ¬ sample.released = true := by simp [down]
    have size : (firm ++ [sample]).length = firm.length + 1 := List.length_append
    have noneYet : (pollState firm []).key_released_level_counter = 0 := rfl
    rw [readPin, if_neg up, if_pos noneYet, long_press_samples, pollState, pollState, size]
    dsimp only
    by_cases long : 200 ≤ min 200 firm.length + 1
    · rw [if_pos long, longPressed]
      have full : min 200 (firm.length + 1) = 200 := by omega
      have processed : 200 ≤ firm.length + 1 := by omega
      rw [full, decide_eq_true processed]
      by_cases first : firm.length = 199
      · rw [if_pos first]
        have fresh : decide (200 ≤ firm.length) = false := decide_eq_false (by omega)
        cases keys.longPress sample.mode with
        | none => rfl
        | some effects => simp only [fresh]; rfl
      · rw [if_neg first]
        have before : decide (200 ≤ firm.length) = true := decide_eq_true (by omega)
        cases keys.longPress sample.mode with
        | none => rfl
        | some effects => simp only [before]; rfl
    · have count : min 200 firm.length + 1 = min 200 (firm.length + 1) := by omega
      have fresh : decide (200 ≤ firm.length) = decide (200 ≤ firm.length + 1) := by
        rw [decide_eq_decide]
        omega
      rw [if_neg long, if_neg (by omega), count, fresh]
  have unreleased : ¬ 2 ≤ (pollState (firm ++ [sample]) []).key_released_level_counter :=
    show ¬ 2 ≤ 0 by decide
  simp only [keyISRStage2, read, second_samples]
  exact if_neg unreleased

theorem stage_2_bounce (down : sample.released = false)
    (split : PressSplit samples idle firm loose) (some : loose ≠ [])
    (few : looseReleases loose < 2) :
    keyISRStage2 keys (pollState firm loose) sample =
      (pollState firm (loose ++ [sample]), []) := by
  have up : ¬ sample.released = true := by simp [down]
  have positive : ¬ looseReleases loose = 0 := mt (loose_releases_zero_iff split).1 some
  have same : pollState firm (loose ++ [sample]) = pollState firm loose := by
    rw [pollState, pollState, loose_releases_append, if_neg up, Nat.add_zero]
  have read : readPin keys (pollState firm loose) sample =
      (pollState firm (loose ++ [sample]), []) := by
    rw [readPin, if_neg up, same, pollState, if_neg positive]
  have open_yet : ¬ 2 ≤ looseReleases (loose ++ [sample]) := by
    rw [loose_releases_append, if_neg up]
    omega
  simp only [keyISRStage2, read, second_samples]
  exact if_neg open_yet

end Polling

section Invariant

/-- The samples that an action stands behind. -/
def ActionFits (taken : TakenAction) : Prop :=
  match taken.action with
  | .longPress _ => pressedSamples taken.samples = 200 ∧ releasedSamples taken.samples = 0
  | .shortPress _ => 2 ≤ pressedSamples taken.samples ∧ pressedSamples taken.samples < 200 ∧
      releasedSamples taken.samples = 2

/-- What holds of the press at hand and of the state once it is over. -/
structure Debounced (history : KeyHistory) : Prop where
  once : history.taken.length ≤ 1
  fits : ∀ taken ∈ history.taken, ActionFits taken
  rearmed : history.state.interruptArmed = true →
    history.state.key_pressed_level_counter = 0 ∧
      history.state.key_released_level_counter = 0 ∧ history.state.long_press_processed = false

/-- Between two presses the state is that of the start; while one goes on it is told
from the samples, and no action has been taken before the two hundredth. -/
inductive PressPhase (history : KeyHistory) : Prop where
  | waiting (state : history.state = startUp)
  | polling (idle firm loose : List KeySample)
      (split : PressSplit history.samples idle firm loose)
      (state : history.state = pollState firm loose) (few : looseReleases loose < 2)
      (early : firm.length < 200 → history.taken = [])

structure Tracked (history : KeyHistory) : Prop where
  phase : PressPhase history
  once : history.taken.length ≤ 1
  fits : ∀ taken ∈ history.taken, ActionFits taken

theorem debounced_of_tracked {history : KeyHistory} (tracked : Tracked history) :
    Debounced history where
  once := tracked.once
  fits := tracked.fits
  rearmed armed := by
    cases tracked.phase with
    | waiting state =>
        rw [state]
        exact ⟨rfl, rfl, rfl⟩
    | polling idle firm loose split state few early =>
        rw [state] at armed
        cases armed

theorem tracked_start : Tracked { state := startUp, samples := [], taken := [] } where
  phase := .waiting rfl
  once := Nat.zero_le 1
  fits := by simp

theorem tracked_interrupt (keys : KeyTable) {history : KeyHistory} (raised : Bool)
    (tracked : Tracked history) : Tracked (keyStep keys history (.interrupt raised)) := by
  have same : { history with state := keyISR history.state false } = history := rfl
  rw [keyStep]
  split
  · rename_i enabled
    cases tracked.phase with
    | waiting state =>
        refine ⟨.polling [] [] [] press_split_nil ?_ (by decide) (fun _ => rfl), Nat.zero_le 1, by simp⟩
        rw [state]
        rfl
    | polling idle firm loose split state few early =>
        rw [state] at enabled
        cases enabled.2
  · rw [same]
    exact tracked

theorem tracked_quiet {history : KeyHistory} {state : KeyState} {sample : KeySample}
    (tracked : Tracked history)
    (phase : PressPhase { state := state, samples := history.samples ++ [sample],
                          taken := history.taken }) :
    Tracked { state := state, samples := history.samples ++ [sample],
              taken := history.taken ++ [].map fun action =>
                { action := action, samples := history.samples ++ [sample] } } := by
  rw [List.map_nil, List.append_nil]
  exact ⟨phase, tracked.once, tracked.fits⟩

theorem tracked_action {samples : List KeySample} {state : KeyState} {actions : List KeyAction}
    (few : actions.length ≤ 1)
    (fits : ∀ action ∈ actions, ActionFits { action := action, samples := samples })
    (phase : PressPhase { state := state, samples := samples,
                          taken := [] ++ actions.map fun action =>
                            { action := action, samples := samples } }) :
    Tracked { state := state, samples := samples,
              taken := [] ++ actions.map fun action =>
                { action := action, samples := samples } } where
  phase := phase
  once := by simpa using few
  fits := by simpa using fits

theorem option_actions_few (make : List KeyEffect → KeyAction)
    (effects : Option (List KeyEffect)) : (effects.map make).toList.length ≤ 1 := by
  cases effects with
  | none => exact Nat.zero_le 1
  | some => exact Nat.le_refl 1

theorem tracked_rearm (keys : KeyTable) {history : KeyHistory} (sample : KeySample)
    {idle firm loose : List KeySample} (tracked : Tracked history)
    (split : PressSplit (history.samples ++ [sample]) idle firm loose)
    (early : firm.length < 200 → history.taken = []) (two : looseReleases loose = 2) :
    Tracked { state := startUp, samples := history.samples ++ [sample],
              taken := history.taken ++
                (shortPressed keys (pollState firm loose) sample).map fun action =>
                  { action := action, samples := history.samples ++ [sample] } } := by
  have counts := sample_counts_split split
  rw [shortPressed, first_samples]
  by_cases short : 2 ≤ (pollState firm loose).key_pressed_level_counter ∧
      (pollState firm loose).long_press_processed = false
  · have enough : 2 ≤ min 200 firm.length := short.1
    have fewer : ¬ 200 ≤ firm.length := of_decide_eq_false short.2
    rw [if_pos short, early (by omega)]
    refine tracked_action (option_actions_few _ _) ?_ (.waiting rfl)
    intro action member
    obtain ⟨effects, -, rfl⟩ := Option.map_eq_some_iff.1 (Option.mem_toList.1 member)
    refine ⟨?_, ?_, counts.2.trans two⟩
    · rw [counts.1]
      omega
    · rw [counts.1]
      omega
  · rw [if_neg short]
    exact tracked_quiet tracked (.waiting rfl)

theorem tracked_press (keys : KeyTable) {history : KeyHistory} (sample : KeySample)
    {idle firm : List KeySample} (tracked : Tracked history)
    (split : PressSplit (history.samples ++ [sample]) idle (firm ++ [sample]) [])
    (early : firm.length < 200 → history.taken = []) :
    Tracked { state := pollState (firm ++ [sample]) [], samples := history.samples ++ [sample],
              taken := history.taken ++
                (if firm.length = 199 then
                  ((keys.longPress sample.mode).map KeyAction.longPress).toList else []).map
                    fun action => { action := action, samples := history.samples ++ [sample] } } := by
  have size : (firm ++ [sample]).length = firm.length + 1 := List.length_append
  have counts := sample_counts_split split
  by_cases full : firm.length = 199
  · rw [if_pos full, early (by omega)]
    refine tracked_action (option_actions_few _ _) ?_ ?_
    · intro action member
      obtain ⟨effects, -, rfl⟩ := Option.map_eq_some_iff.1 (Option.mem_toList.1 member)
      refine ⟨?_, counts.2⟩
      rw [counts.1, size, full]
    · refine .polling idle _ [] split rfl (by decide) fun short => ?_
      rw [size] at short
      omega
  · rw [if_neg full]
    refine tracked_quiet tracked (.polling idle _ [] split rfl (by decide) fun short => ?_)
    rw [size] at short
    exact early (by omega)

theorem tracked_sample (keys : KeyTable) {history : KeyHistory} (sample : KeySample)
    (tracked : Tracked history) : Tracked (keyStep keys history (.sample sample)) := by
  cases tracked.phase with
  | waiting state =>
      have unarmed : ¬ history.state.timerArmed = true := by
        rw [state]
        decide
      rw [keyStep, if_neg unarmed]
      exact tracked
  | polling idle firm loose split state few early =>
      have armed : history.state.timerArmed = true := by
        rw [state]
        rfl
      rw [keyStep, if_pos armed, state]
      by_cases up : sample.released = true
      · by_cases none : firm = []
        · -- A release before any press is not counted.
          subst none
          cases split.loose_behind rfl
          simp only [stage_2_idle keys sample up]
          refine tracked_quiet tracked (.polling (idle ++ [sample]) [] [] ?_ rfl few early)
          exact press_split_idle split up
        · have longer := press_split_loose split none fun _ => up
          simp only [stage_2_release keys sample up none]
          by_cases ends : 2 ≤ looseReleases (loose ++ [sample])
          · simp only [if_pos ends]
            exact tracked_rearm keys sample tracked longer early (by
              rw [loose_releases_append, if_pos up] at ends ⊢
              omega)
          · simp only [if_neg ends]
            refine tracked_quiet tracked (.polling idle firm _ longer rfl ?_ early)
            omega
      · have down : sample.released = false := Bool.eq_false_of_not_eq_true up
        by_cases none : loose = []
        · subst none
          simp only [stage_2_press keys sample down]
          exact tracked_press keys sample tracked (press_split_firm split down) early
        · have some : firm ≠ [] := fun empty => none (split.loose_behind empty)
          simp only [stage_2_bounce keys sample down split none few]
          refine tracked_quiet tracked (.polling idle firm _ ?_ rfl ?_ early)
          · exact press_split_loose split some fun empty => absurd empty none
          · rw [loose_releases_append, if_neg up]
            exact few

theorem tracked_step (keys : KeyTable) {history : KeyHistory} (event : KeyEvent)
    (tracked : Tracked history) : Tracked (keyStep keys history event) := by
  cases event with
  | interrupt raised => exact tracked_interrupt keys raised tracked
  | sample sample => exact tracked_sample keys sample tracked

theorem tracked_run (keys : KeyTable) (events : List KeyEvent) : Tracked (keyRun keys events) := by
  unfold keyRun
  exact List.foldlRecOn events (keyStep keys) tracked_start
    fun history tracked event _ => tracked_step keys event tracked

end Invariant

/-- Two presses are told apart by the second counted release: a press takes one
action at most, and the next one starts from the state of the start. -/
theorem presses_are_debounced (device : KeyDevice) (events : List KeyEvent) :
    Debounced (keyRun device.keys events) :=
  debounced_of_tracked (tracked_run device.keys events)

/-- Two pressed samples, a release, 198 pressed samples that count no more, and the
second release: the samples of the press have 200 pressed ones among them. -/
def bouncedPress : List KeyEvent :=
  let down := KeyEvent.sample { released := false, mode := .workNormal, switchOn := false }
  let up := KeyEvent.sample { released := true, mode := .workNormal, switchOn := false }
  .interrupt true :: List.replicate 2 down ++ up :: List.replicate 198 down ++ [up]

/-- A short press may see as many pressed samples as a long one, if they bounce. -/
theorem bounced_press_stays_short :
    ¬ ∀ (device : KeyDevice) (events : List KeyEvent), ∀ taken ∈ (keyRun device.keys events).taken,
      ∀ effects, taken.action = .shortPress effects →
        2 ≤ taken.samples.countP pressed ∧ taken.samples.countP pressed < 200 := by
  intro fewer
  have run : (keyRun KeyDevice.fwsw01.keys bouncedPress).taken.map (fun taken =>
      (taken.action, taken.samples.countP pressed)) =
        [(.shortPress [.switchON, .updateByLocal], 200)] := by
    decide +kernel
  obtain ⟨taken, member, same⟩ := List.mem_map.1 (run ▸ List.mem_singleton_self _)
  rw [Prod.mk.injEq] at same
  have bound := (fewer .fwsw01 bouncedPress taken member _ same.1).2
  omega

end IotgoFirmware.Device.KeyDebounce
