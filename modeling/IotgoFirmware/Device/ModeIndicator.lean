import IotgoFirmware.Send.SendJson

/-!
# The lamp of the device

Every 100 ms `modeIndicatorTimerCallback` looks at the mode of the device and counts the looks
since the mode has changed. In some modes the count says whether the lamp is lit, in others when
it is turned over, so that what it shows depends on what it has shown before. It repeats itself
every twenty looks, and thirteen of them tell the mode.
-/

namespace IotgoFirmware.Device.ModeIndicator

open IotgoFirmware.Send.SendJson (IoTgoDeviceMode)

set_option autoImplicit false

/-- `counter` is `status_100ms_counter`; `pin` is that of the lamp, which is lit when it is low. -/
structure Indicator where
  counter : Nat
  oldMode : IoTgoDeviceMode
  modeIndicator : Bool
  pin : Bool

/-- `DEV_SLED_ON` is the low level. -/
def devSledOn : Bool := false

def devSledOff : Bool := true

section Callback

variable (indicator : Indicator)

def modeIndicatorOn : Indicator :=
  { indicator with pin := devSledOn, modeIndicator := devSledOn }

def modeIndicatorOff : Indicator :=
  { indicator with pin := devSledOff, modeIndicator := devSledOff }

/-- What `initStatusIndicator` leaves. -/
def initStatusIndicator : Indicator :=
  modeIndicatorOff indicator

/-- The lamp is turned over. -/
def turnOver : Indicator :=
  if indicator.modeIndicator = devSledOff then modeIndicatorOn indicator
  else modeIndicatorOff indicator

/-- The count up to the test on the mode. -/
def countLook (mode : IoTgoDeviceMode) : Indicator :=
  let counted := { indicator with counter := indicator.counter + 1 }
  let moved :=
    if counted.oldMode ≠ mode then { counted with oldMode := mode, counter := 0 } else counted
  if 20 ≤ moved.counter then { moved with counter := 0 } else moved

def showMode (mode : IoTgoDeviceMode) (normalModeLedOff : Bool) : Indicator :=
  match mode with
  | .workNormal =>
      if !normalModeLedOff then
        if indicator.modeIndicator ≠ devSledOn then modeIndicatorOn indicator else indicator
      else if indicator.modeIndicator ≠ devSledOff then modeIndicatorOff indicator
      else indicator
  | .workApOk =>
      if indicator.counter = 1 then modeIndicatorOn indicator
      else if indicator.counter = 2 then modeIndicatorOff indicator
      else if indicator.counter = 3 then modeIndicatorOn indicator
      else modeIndicatorOff indicator
  | .workApErr =>
      if indicator.counter = 1 then modeIndicatorOn indicator else modeIndicatorOff indicator
  | .workInit => if indicator.counter % 10 = 0 then turnOver indicator else indicator
  | .setting =>
      if indicator.counter < 9 then
        if indicator.modeIndicator ≠ devSledOn then modeIndicatorOn indicator else indicator
      else if indicator.counter % 2 = 0 then turnOver indicator
      else indicator
  | .settingSelfap => if indicator.counter % 2 = 0 then turnOver indicator else indicator
  | .start => modeIndicatorOff indicator
  | .factory =>
      if indicator.counter = 1 then modeIndicatorOn indicator
      else if indicator.counter = 2 then modeIndicatorOff indicator
      else if indicator.counter = 3 then modeIndicatorOn indicator
      else if indicator.counter = 4 then modeIndicatorOff indicator
      else if indicator.counter = 5 then modeIndicatorOn indicator
      else if indicator.counter = 6 then modeIndicatorOff indicator
      else if indicator.counter = 7 then modeIndicatorOn indicator
      else if indicator.counter = 8 then modeIndicatorOff indicator
      else if indicator.counter = 9 then modeIndicatorOn indicator
      else modeIndicatorOff indicator
  | .upgrade => modeIndicatorOff indicator
  | .invalid => modeIndicatorOff indicator

/-- One look, at the mode and at `normal_mode_led_off`. -/
def modeIndicatorTimerCallback (look : IoTgoDeviceMode × Bool) : Indicator :=
  showMode (countLook indicator look.1) look.1 look.2

end Callback

/-- After `iotgoSledStart`. -/
def sledStart : Indicator :=
  initStatusIndicator ⟨0, .invalid, devSledOff, devSledOff⟩

def watch (looks : List (IoTgoDeviceMode × Bool)) : Indicator :=
  looks.foldl modeIndicatorTimerCallback sledStart

def Indicator.lit (indicator : Indicator) : Bool :=
  indicator.pin == devSledOn

/-- The lamp at a count, by whether it was lit before the mode began. -/
def lightAt (mode : IoTgoDeviceMode) (normalModeLedOff before : Bool) (count : Nat) : Bool :=
  match mode with
  | .workNormal => !normalModeLedOff
  | .workApOk => decide (count = 1 ∨ count = 3)
  | .workApErr => decide (count = 1)
  | .workInit => xor before (decide (count < 10))
  | .setting => decide (count < 10 ∨ count / 2 = 6 ∨ count / 2 = 8)
  | .settingSelfap => xor before (decide (count / 2 % 2 = 0))
  | .factory => decide (count < 10 ∧ count % 2 = 1)
  | .start => false
  | .upgrade => false
  | .invalid => false

/-- The mode that the lamp tells, or `none` where it stays dark. -/
def toldMode (mode : IoTgoDeviceMode) (normalModeLedOff : Bool) : Option IoTgoDeviceMode :=
  match mode with
  | .start => none
  | .upgrade => none
  | .invalid => none
  | .workNormal => if normalModeLedOff then none else some .workNormal
  | mode => some mode

/-- How the mode is read off the lamp, from the first look in the mode on. -/
def readLamp (lamp : Nat → Bool) : Option IoTgoDeviceMode :=
  if lamp 0 then
    if lamp 2 then
      if lamp 10 then some .workNormal else if lamp 12 then some .setting else some .workInit
    else some .settingSelfap
  else if lamp 1 then
    if lamp 5 then some .factory else if lamp 3 then some .workApOk else some .workApErr
  else if lamp 2 then some .settingSelfap
  else if lamp 10 then some .workInit
  else none

/-- The mode that the last look has found. -/
def lastMode (looks : List (IoTgoDeviceMode × Bool)) : IoTgoDeviceMode :=
  (looks.getLast?.map Prod.fst).getD .invalid

section Lamp

variable {indicator : Indicator} {mode : IoTgoDeviceMode} {lit before normalModeLedOff : Bool}

/-- The variable says of the pin whether the lamp is lit. -/
structure Agrees (indicator : Indicator) (lit : Bool) : Prop where
  indicated : indicator.modeIndicator = !lit
  pin : indicator.pin = !lit

theorem on_agrees {shown : Prop} [Decidable shown] (holds : shown) :
    Agrees (modeIndicatorOn indicator) (decide shown) := by
  rw [decide_eq_true holds]
  exact ⟨rfl, rfl⟩

theorem off_agrees {shown : Prop} [Decidable shown] (fails : ¬ shown) :
    Agrees (modeIndicatorOff indicator) (decide shown) := by
  rw [decide_eq_false fails]
  exact ⟨rfl, rfl⟩

theorem set_on_agrees (agrees : Agrees indicator lit) :
    Agrees (if indicator.modeIndicator ≠ devSledOn then modeIndicatorOn indicator else indicator)
      true := by
  split
  · exact ⟨rfl, rfl⟩
  · next on =>
      have same : indicator.modeIndicator = false := Decidable.not_not.1 on
      rw [agrees.indicated] at same
      exact ⟨agrees.indicated.trans same, agrees.pin.trans same⟩

theorem set_off_agrees (agrees : Agrees indicator lit) :
    Agrees (if indicator.modeIndicator ≠ devSledOff then modeIndicatorOff indicator else indicator)
      false := by
  split
  · exact ⟨rfl, rfl⟩
  · next off =>
      have same : indicator.modeIndicator = true := Decidable.not_not.1 off
      rw [agrees.indicated] at same
      exact ⟨agrees.indicated.trans same, agrees.pin.trans same⟩

theorem turn_over_agrees (agrees : Agrees indicator lit) : Agrees (turnOver indicator) (!lit) := by
  unfold turnOver
  rw [agrees.indicated]
  cases lit with
  | false => exact ⟨rfl, rfl⟩
  | true => exact ⟨rfl, rfl⟩

/-- The lamp after a look, by the count and by whether it was lit before the look. -/
def nextLit (mode : IoTgoDeviceMode) (normalModeLedOff lit : Bool) (count : Nat) : Bool :=
  match mode with
  | .workInit => if count % 10 = 0 then !lit else lit
  | .setting => if count < 9 then true else if count % 2 = 0 then !lit else lit
  | .settingSelfap => if count % 2 = 0 then !lit else lit
  | mode => lightAt mode normalModeLedOff false count

theorem show_agrees (agrees : Agrees indicator lit) (mode : IoTgoDeviceMode)
    (normalModeLedOff : Bool) :
    Agrees (showMode indicator mode normalModeLedOff)
      (nextLit mode normalModeLedOff lit indicator.counter) := by
  cases mode with
  | workNormal =>
      cases normalModeLedOff with
      | false => exact set_on_agrees agrees
      | true => exact set_off_agrees agrees
  | workInit =>
      dsimp only [showMode, nextLit]
      split
      · exact turn_over_agrees agrees
      · exact agrees
  | setting =>
      dsimp only [showMode, nextLit]
      split
      · exact set_on_agrees agrees
      · split
        · exact turn_over_agrees agrees
        · exact agrees
  | settingSelfap =>
      dsimp only [showMode, nextLit]
      split
      · exact turn_over_agrees agrees
      · exact agrees
  | workApOk =>
      dsimp only [showMode, nextLit, lightAt]
      split_ifs <;> first | exact on_agrees (by omega) | exact off_agrees (by omega)
  | workApErr =>
      dsimp only [showMode, nextLit, lightAt]
      split_ifs <;> first | exact on_agrees (by omega) | exact off_agrees (by omega)
  | factory =>
      dsimp only [showMode, nextLit, lightAt]
      split_ifs <;> first | exact on_agrees (by omega) | exact off_agrees (by omega)
  | start => exact ⟨rfl, rfl⟩
  | upgrade => exact ⟨rfl, rfl⟩
  | invalid => exact ⟨rfl, rfl⟩

theorem show_count (indicator : Indicator) (mode : IoTgoDeviceMode) (normalModeLedOff : Bool) :
    (showMode indicator mode normalModeLedOff).counter = indicator.counter ∧
      (showMode indicator mode normalModeLedOff).oldMode = indicator.oldMode := by
  cases mode with
  | start => exact ⟨rfl, rfl⟩
  | upgrade => exact ⟨rfl, rfl⟩
  | invalid => exact ⟨rfl, rfl⟩
  | _ =>
      dsimp only [showMode, turnOver]
      split_ifs <;> exact ⟨rfl, rfl⟩

theorem count_first (changed : indicator.oldMode ≠ mode) :
    countLook indicator mode = { indicator with oldMode := mode, counter := 0 } := by
  unfold countLook
  dsimp only
  rw [if_pos changed]
  exact if_neg (show ¬ 20 ≤ 0 by decide)

theorem count_later {looks : Nat} (same : indicator.oldMode = mode)
    (counted : indicator.counter = looks % 20) :
    countLook indicator mode = { indicator with counter := (looks + 1) % 20 } := by
  unfold countLook
  dsimp only
  have kept : ¬ indicator.oldMode ≠ mode := fun changed => changed same
  rw [if_neg kept]
  by_cases full : 20 ≤ indicator.counter + 1
  · have round : (looks + 1) % 20 = 0 := by omega
    rw [round]
    exact if_pos full
  · have counting : (looks + 1) % 20 = indicator.counter + 1 := by omega
    rw [counting]
    exact if_neg full

theorem light_first (mode : IoTgoDeviceMode) (normalModeLedOff before : Bool) :
    nextLit mode normalModeLedOff before 0 = lightAt mode normalModeLedOff before 0 := by
  cases mode <;> cases before <;> rfl

theorem light_later (mode : IoTgoDeviceMode) :
    ∀ count < 20, ∀ normalModeLedOff earlier before : Bool,
      nextLit mode normalModeLedOff (lightAt mode earlier before count) ((count + 1) % 20) =
        lightAt mode normalModeLedOff before ((count + 1) % 20) := by
  cases mode <;> decide

/-- What holds after `looks` more looks in a mode than the first. -/
structure Shows (mode : IoTgoDeviceMode) (before normalModeLedOff : Bool) (looks : Nat)
    (indicator : Indicator) : Prop where
  oldMode : indicator.oldMode = mode
  counter : indicator.counter = looks % 20
  agrees : Agrees indicator (lightAt mode normalModeLedOff before (looks % 20))

theorem look_shows {looks : Nat} {lit : Bool} (agrees : Agrees indicator lit)
    (oldMode : indicator.oldMode = mode) (counter : indicator.counter = looks % 20)
    (light : nextLit mode normalModeLedOff lit (looks % 20) =
      lightAt mode normalModeLedOff before (looks % 20)) :
    Shows mode before normalModeLedOff looks (showMode indicator mode normalModeLedOff) := by
  obtain ⟨sameCounter, sameMode⟩ := show_count indicator mode normalModeLedOff
  have shown := show_agrees agrees mode normalModeLedOff
  rw [counter, light] at shown
  exact ⟨sameMode.trans oldMode, sameCounter.trans counter, shown⟩

theorem first_look (agrees : Agrees indicator before) (changed : indicator.oldMode ≠ mode)
    (normalModeLedOff : Bool) :
    Shows mode before normalModeLedOff 0
      (modeIndicatorTimerCallback indicator (mode, normalModeLedOff)) := by
  have kept : Agrees { indicator with oldMode := mode, counter := 0 } before :=
    ⟨agrees.indicated, agrees.pin⟩
  unfold modeIndicatorTimerCallback
  rw [count_first changed]
  exact look_shows kept rfl rfl (light_first mode normalModeLedOff before)

theorem later_look {looks : Nat} (shows : Shows mode before normalModeLedOff looks indicator)
    (ledOff : Bool) :
    Shows mode before ledOff (looks + 1)
      (modeIndicatorTimerCallback indicator (mode, ledOff)) := by
  have kept : Agrees { indicator with counter := (looks + 1) % 20 }
      (lightAt mode normalModeLedOff before (looks % 20)) :=
    ⟨shows.agrees.indicated, shows.agrees.pin⟩
  have round : (looks + 1) % 20 = (looks % 20 + 1) % 20 := by omega
  have light := light_later mode (looks % 20) (Nat.mod_lt _ (by decide)) ledOff normalModeLedOff
    before
  rw [← round] at light
  unfold modeIndicatorTimerCallback
  rw [count_later shows.oldMode shows.counter]
  exact look_shows kept shows.oldMode rfl light

end Lamp

section Runs

variable {front same : List (IoTgoDeviceMode × Bool)} {mode : IoTgoDeviceMode}

theorem watch_snoc (looks : List (IoTgoDeviceMode × Bool)) (look : IoTgoDeviceMode × Bool) :
    watch (looks ++ [look]) = modeIndicatorTimerCallback (watch looks) look :=
  List.foldl_append ..

theorem watch_agrees (looks : List (IoTgoDeviceMode × Bool)) :
    Agrees (watch looks) (watch looks).lit := by
  have agrees : ∃ lit, Agrees (watch looks) lit := by
    induction looks using List.reverseRecOn with
    | nil => exact ⟨false, rfl, rfl⟩
    | append_singleton looks look ih =>
        obtain ⟨lit, agrees⟩ := ih
        have kept : Agrees (countLook (watch looks) look.1) lit := by
          unfold countLook
          dsimp only
          split_ifs <;> exact ⟨agrees.indicated, agrees.pin⟩
        rw [watch_snoc]
        exact ⟨_, show_agrees kept look.1 look.2⟩
  obtain ⟨lit, agrees⟩ := agrees
  have same : (watch looks).lit = lit := by
    rw [Indicator.lit, agrees.pin]
    cases lit <;> rfl
  rw [same]
  exact agrees

theorem watch_old_mode (looks : List (IoTgoDeviceMode × Bool)) :
    (watch looks).oldMode = lastMode looks := by
  induction looks using List.reverseRecOn with
  | nil => rfl
  | append_singleton looks look ih =>
      have counted : (countLook (watch looks) look.1).oldMode = look.1 := by
        unfold countLook
        dsimp only
        split_ifs with changed round round
        · rfl
        · rfl
        · exact Decidable.not_not.1 changed
        · exact Decidable.not_not.1 changed
      rw [watch_snoc, modeIndicatorTimerCallback, (show_count _ _ _).2, counted, lastMode,
        List.getLast?_concat]
      rfl

theorem watch_shows (begins : lastMode front ≠ mode) (inMode : ∀ look ∈ same, look.1 = mode)
    (normalModeLedOff : Bool) :
    Shows mode (watch front).lit normalModeLedOff same.length
      (watch (front ++ same ++ [(mode, normalModeLedOff)])) := by
  rw [watch_snoc]
  induction same using List.reverseRecOn generalizing normalModeLedOff with
  | nil =>
      rw [List.append_nil]
      exact first_look (watch_agrees front) (watch_old_mode front ▸ begins) normalModeLedOff
  | append_singleton same look ih =>
      have earlier := ih (fun other member => inMode other (List.mem_append_left _ member)) look.2
      have found : look.1 = mode := inMode look (List.mem_append_right _ List.mem_cons_self)
      rw [← List.append_assoc, watch_snoc, List.length_append, List.length_singleton]
      have later := later_look earlier normalModeLedOff
      rw [← found] at later ⊢
      exact later

theorem read_light (mode : IoTgoDeviceMode) (normalModeLedOff before : Bool) :
    readLamp (fun looks => lightAt mode normalModeLedOff before (looks % 20)) =
      toldMode mode normalModeLedOff := by
  cases mode <;> cases normalModeLedOff <;> cases before <;> rfl

/-- What the lamp shows in a mode, whatever has come before it, and that the mode can be read
off it. -/
theorem lamp_tells_mode (begins : lastMode front ≠ mode) :
    (∀ same normalModeLedOff, (∀ look ∈ same, look.1 = mode) →
        (watch (front ++ same ++ [(mode, normalModeLedOff)])).lit =
          lightAt mode normalModeLedOff (watch front).lit (same.length % 20)) ∧
      ∀ normalModeLedOff,
        readLamp (fun looks =>
            (watch (front ++ List.replicate (looks + 1) (mode, normalModeLedOff))).lit) =
          toldMode mode normalModeLedOff := by
  have shown : ∀ same normalModeLedOff, (∀ look ∈ same, look.1 = mode) →
      (watch (front ++ same ++ [(mode, normalModeLedOff)])).lit =
        lightAt mode normalModeLedOff (watch front).lit (same.length % 20) := by
    intro same normalModeLedOff inMode
    have shows := watch_shows begins inMode normalModeLedOff
    rw [Indicator.lit, shows.agrees.pin]
    cases lightAt mode normalModeLedOff (watch front).lit (same.length % 20) <;> rfl
  refine ⟨shown, fun normalModeLedOff => ?_⟩
  have lamp : (fun looks =>
      (watch (front ++ List.replicate (looks + 1) (mode, normalModeLedOff))).lit) =
      fun looks => lightAt mode normalModeLedOff (watch front).lit (looks % 20) := by
    funext looks
    have stretch := shown (List.replicate looks (mode, normalModeLedOff)) normalModeLedOff
      fun look member => by rw [List.eq_of_mem_replicate member]
    rw [List.length_replicate, List.append_assoc, ← List.replicate_succ'] at stretch
    exact stretch
  rw [lamp, read_light]

theorem lamp_tells_mode_init :
    (∀ same normalModeLedOff, (∀ look ∈ same, look.1 = .workInit) →
        (watch ([(.workApOk, false)] ++ same ++ [(.workInit, normalModeLedOff)])).lit =
          lightAt .workInit normalModeLedOff (watch [(.workApOk, false)]).lit
            (same.length % 20)) ∧
      ∀ normalModeLedOff,
        readLamp (fun looks =>
            (watch ([(.workApOk, false)] ++
              List.replicate (looks + 1) (.workInit, normalModeLedOff))).lit) =
          toldMode .workInit normalModeLedOff :=
  lamp_tells_mode (by decide)

end Runs

end IotgoFirmware.Device.ModeIndicator
