import IotgoFirmware.Upgrade.NewBinCheck
import IotgoFirmware.Upgrade.UpgradeOffers

/-!
# Into which image the device reboots

A reboot into the other image is armed at the end of a verified download, when the request says
so, or by a request to restart that passes the check. Three seconds go by before it, in which a
download may go on; and the check goes by a record that may be older than the device runs. Where
no download disturbs what has been verified, the image that is rebooted into has the digest of
the record, and the record is one of an accepted request, or the one that was there at the start.
-/

namespace IotgoFirmware.Upgrade.UpgradeRestarts

open IotgoFirmware.Library.CIntegers
open IotgoFirmware.Library.CStrings
open IotgoFirmware.Library.JsonDocuments
open IotgoFirmware.Library.NorFlash
open IotgoFirmware.Library.PullParser
open IotgoFirmware.Library.StepRuns
open IotgoFirmware.Factory.MacTexts (hexText hex_digit_ne_zero)
open IotgoFirmware.Upgrade.NewBinCheck
open IotgoFirmware.Upgrade.Sha256
open IotgoFirmware.Upgrade.UpgradeOffers
open IotgoFirmware.Upgrade.UpgradeRecord
open IotgoFirmware.Upgrade.UpgradeRegion
open IotgoFirmware.Upgrade.UpgradeRequest (UpgradeDevice)
open IotgoFirmware.Upgrade.UpgradeSession
open IotgoFirmware.Upgrade.UpgradeSteps

set_option autoImplicit false

section Model

/-- The device as the downloads see it, with the digest that its library takes. -/
def boardOf (digest : List UInt8 → List UInt8) (device : UpgradeDevice) : Board where
  currentBin := device.currentBin
  sha256Hex bytes := sha256Hex (digest bytes)

structure Reboot where
  flash : Flash
  bin : NewBinInfo

/-- `loaded` is `new_bin_info` as it is loaded at the start. Every request to restart that passes
has a timer of its own. -/
structure RestartState where
  upgrade : UpgradeState
  loaded : NewBinInfo
  restartTimers : Nat
  booted : Option Reboot

inductive RestartEvent (Context : Type) where
  | request (tokens : List JsonToken) (memory : Bool)
  | upgrade (event : UpgradeEvent)
  | restart (readable : Nat → Bool) (memory : Context) (buffer : Option (List UInt8))
  | restartTimer
  | exitTimer

def recordOf : UpgradeLog → Option NewBinInfo
  | .newBinInfo bin _ => some bin
  | _ => none

def recordsOf (log : List UpgradeLog) : List NewBinInfo :=
  log.filterMap recordOf

/-- `iotgo_flash_param.new_bin_info` -/
def newBin (state : RestartState) : NewBinInfo :=
  (recordsOf state.upgrade.log).getLastD state.loaded

/-- The upgrade behind the reply to a request. -/
def takeReply (digest : List UInt8 → List UInt8) (device : UpgradeDevice) (upgrade : UpgradeState)
    (reply : UpgradeRequest.RequestReply) : UpgradeState :=
  match reply.info with
  | some info => iotgoUpgradeProcessRequest (boardOf digest device) upgrade info true
  | none => upgrade

def reboot (state : RestartState) : Reboot where
  flash := state.upgrade.flash
  bin := newBin state

def iotgoUpgradeRestartForNewBin (state : RestartState) (result : NewBinResult) : RestartState :=
  if result = .ok then { state with restartTimers := state.restartTimers + 1 } else state

/-- A device that has rebooted takes no further step. -/
def RestartStep {Context : Type} (code : DigestCode Context) (digest : List UInt8 → List UInt8)
    (device : UpgradeDevice) (before : RestartState) (event : RestartEvent Context)
    (after : RestartState) : Prop :=
  before.booted = none ∧ before.upgrade.halted = none ∧
    match event with
    | .request tokens memory =>
        ∃ reply, UpgradeRequest.iotgoUpgradeProcessRequest device memory tokens = .ok reply ∧
          after = { before with upgrade := takeReply digest device before.upgrade reply }
    | .upgrade event =>
        (∀ info memory, event ≠ .request info memory) ∧
          ∃ next, upgradeStep (boardOf digest device) before.upgrade event next ∧
            after = { before with upgrade := next }
    | .restart readable memory buffer =>
        ∃ result, iotgoUpgradeVerifyNewBin code ⟨before.upgrade.flash, readable⟩ memory buffer
            device.fmVersion device.currentBin (newBin before) = some result ∧
          after = iotgoUpgradeRestartForNewBin before result
    | .restartTimer =>
        0 < before.restartTimers ∧ after = { before with
          restartTimers := before.restartTimers - 1
          booted := some (reboot before) }
    | .exitTimer =>
        before.upgrade.exitTimer = true ∧ after = { before with
          upgrade := { before.upgrade with exitTimer := false }
          booted := some (reboot before) }

def Armed (state : RestartState) : Prop :=
  0 < state.restartTimers ∨ state.upgrade.exitTimer = true

/-- Nothing disturbs a verified download until it is recorded, no package reaches the flash while
a reboot waits, and the flash can be read for the check. -/
def Settled {Context : Type} (device : UpgradeDevice) (state : RestartState)
    (event : RestartEvent Context) : Prop :=
  match event with
  | .request tokens memory =>
      ∀ reply info, UpgradeRequest.iotgoUpgradeProcessRequest device memory tokens = .ok reply →
        reply.info = some info → Undisturbed state.upgrade (.request info true)
  | .upgrade event =>
      Undisturbed state.upgrade event ∧ (Armed state → ¬ ReachesFlash state.upgrade event)
  | .restart readable _ _ => ∀ address, readable address = true
  | _ => True

def RestartState.initial (flash : Flash) (loaded : NewBinInfo) : RestartState where
  upgrade := .initial flash
  loaded := loaded
  restartTimers := 0
  booted := none

end Model

section Records

variable {board : Board} {state next : UpgradeState} {event : UpgradeEvent}

/-- What a step without a request and without an end leaves alone. -/
structure Carries (before after : UpgradeState) : Prop where
  records : recordsOf after.log = recordsOf before.log
  exitTimer : after.exitTimer = before.exitTimer
  info : after.info = before.info

theorem carries_trans {first second third : UpgradeState} (left : Carries first second)
    (right : Carries second third) : Carries first third :=
  ⟨right.records.trans left.records, right.exitTimer.trans left.exitTimer,
    right.info.trans left.info⟩

theorem kept_carries (kept : Kept state next) : Carries state next :=
  ⟨congrArg recordsOf kept.log, kept.exitTimer, kept.info⟩

theorem records_append (log more : List UpgradeLog) :
    recordsOf (log ++ more) = recordsOf log ++ recordsOf more :=
  List.filterMap_append

theorem logged_carries (state : UpgradeState) {entry : UpgradeLog} (other : recordOf entry = none) :
    Carries state (logged state entry) := by
  refine ⟨?_, rfl, rfl⟩
  rw [logged, records_append, recordsOf, recordsOf, List.filterMap_cons_none other,
    List.filterMap_nil, List.append_nil]

theorem post_carries (state : UpgradeState) (signal : UpgradeSignal) :
    Carries state (systemOsPost state signal) := by
  obtain ⟨inbox, posted, -⟩ := post_eq state signal
  rw [posted]
  exact ⟨rfl, rfl, rfl⟩

theorem take_carries (state : UpgradeState) (pdata : List UInt8) (len : Nat) :
    Carries state (takeFileLength state pdata len) := by
  obtain ⟨started, length, taken⟩ := take_file_length_eq state pdata len
  rw [taken]
  exact ⟨rfl, rfl, rfl⟩

theorem start_carries (state : UpgradeState) (returns : SystemReturns) :
    Carries state (iotgoUpgradeStart state returns) := by
  have reset : Carries state (resetDownload (iotgoUpgradeMalloc state returns)) := ⟨rfl, rfl, rfl⟩
  exact carries_trans reset (kept_carries (start_kept state returns))

theorem download_carries (state : UpgradeState) (sendOk : Bool) :
    Carries state (iotgoUpgradeDownload state sendOk) := by
  have ranges : Carries state (ranged state) := ⟨rfl, rfl, rfl⟩
  rcases download_cases state sendOk with ⟨-, kept⟩ | halted
  · exact carries_trans ranges (carries_trans (logged_carries _ rfl) (kept_carries kept))
  · rw [halted]
    exact ⟨rfl, rfl, rfl⟩

theorem finish_carries (board : Board) (state : UpgradeState) (info : UpgradeInfo) :
    Carries state (finishStore board state info) := by
  rcases finish_cases board state info with kept | ⟨-, verified⟩
  · exact kept_carries kept
  · rw [verified]
    exact carries_trans (logged_carries state rfl) (post_carries _ _)

theorem count_carries (state : UpgradeState) (info : UpgradeInfo) (src : List UInt8)
    (count : Nat) : Carries state (countStore state info src count) := by
  have noted := @logged_carries state (.flashed (storeSector state info) true) rfl
  exact ⟨noted.records, rfl, rfl⟩

theorem spoiled_carries (state : UpgradeState) (info : UpgradeInfo) (src : List UInt8)
    (left : Flash) : Carries state (spoiled state info src left) := by
  have noted := @logged_carries state (.flashed (storeSector state info) false) rfl
  exact ⟨noted.records, rfl, rfl⟩

/-- A step that is no request carries the records on, or ends a download. -/
theorem step_carries (other : ∀ info memory, event ≠ .request info memory)
    (step : upgradeStep board state event next) :
    Carries state next ∨ ∃ returns errorCode rest, event = .handle returns ∧
      state.inbox = .upgradeExit errorCode :: rest ∧
      next = iotgoUpgradeStop { state with inbox := rest } errorCode := by
  cases step_kind step with
  | untouched quiet _ _ =>
      cases quiet with
      | kept frame _ _ => exact .inl (kept_carries frame)
      | entered returns rest _ _ taken =>
          subst taken
          have popped : Carries state { state with inbox := rest } := ⟨rfl, rfl, rfl⟩
          exact .inl (carries_trans popped (start_carries _ returns))
      | asked returns rest _ _ taken =>
          subst taken
          have popped : Carries state { state with inbox := rest } := ⟨rfl, rfl, rfl⟩
          exact .inl (carries_trans popped (download_carries _ returns.sendOk))
      | measured pdata len result _ frame =>
          exact .inl (carries_trans (take_carries state pdata len) (kept_carries frame))
  | requested info memory same _ => exact absurd same (other info memory)
  | stopped returns errorCode rest same waits taken =>
      exact .inr ⟨returns, errorCode, rest, same, waits, taken⟩
  | stored pdata len info src count _ _ _ taken =>
      rw [taken]
      have counted := count_carries (takeFileLength state pdata len) info src count
      exact .inl (carries_trans (take_carries state pdata len)
        (carries_trans counted (finish_carries board _ info)))
  | failed pdata len info src count left _ _ _ taken =>
      rw [taken]
      have noted := spoiled_carries (takeFileLength state pdata len) info src left
      exact .inl (carries_trans (take_carries state pdata len)
        (carries_trans noted (kept_carries (fail_kept _ info src left))))

/-- What the end of a download records: what was verified, or nothing. -/
theorem stop_records (errorCode : Nat) :
    recordsOf (iotgoUpgradeStop state errorCode).log = recordsOf state.log ∧
        (iotgoUpgradeStop state errorCode).exitTimer = state.exitTimer ∨
      errorCode = upgradeErrorOk ∧ ∃ info, state.info = some info ∧
        recordsOf (iotgoUpgradeStop state errorCode).log =
          recordsOf state.log ++ [binInfo state info] := by
  cases present : state.info with
  | none =>
      rw [UpgradePlacement.stop_missing errorCode present]
      exact .inl ⟨rfl, rfl⟩
  | some info =>
      obtain ⟨log, timer⟩ := stop_present errorCode present
      rw [log, timer]
      by_cases ok : errorCode = upgradeErrorOk
      · refine .inr ⟨ok, info, rfl, ?_⟩
        rw [if_pos ok, records_append]
        rfl
      · refine .inl ⟨?_, ?_⟩
        · rw [if_neg ok, records_append]
          exact List.append_nil _
        · rw [decide_eq_false ok, Bool.false_and, Bool.or_false]

end Records

section Invariant

variable {Context : Type} {code : DigestCode Context} {digest : List UInt8 → List UInt8}
  {device : UpgradeDevice} {asked : List (List JsonToken)} {before after : RestartState}

/-- The record is one of an accepted request. -/
def Offered (device : UpgradeDevice) (asked : List (List JsonToken)) (bin : NewBinInfo) : Prop :=
  ∃ tokens ∈ asked, ∃ info, MadeOf device tokens info ∧ bin.name = info.name ∧
    bin.version = info.version ∧ bin.sha256 = info.sha256

/-- The record is confirmed by the flash, and it is an offered one or the one of the start. -/
structure Lawful (digest : List UInt8 → List UInt8) (device : UpgradeDevice)
    (asked : List (List JsonToken)) (loaded : NewBinInfo) (reboot : Reboot) : Prop where
  confirmed : Confirmed digest reboot.flash device.fmVersion device.currentBin reboot.bin
  origin : reboot.bin = loaded ∨ Offered device asked reboot.bin

structure Rests (digest : List UInt8 → List UInt8) (device : UpgradeDevice)
    (asked : List (List JsonToken)) (state : RestartState) : Prop where
  sound : Sound (boardOf digest device) state.upgrade
  made : ∀ info ∈ state.upgrade.info, ∃ tokens ∈ asked, MadeOf device tokens info
  origin : newBin state = state.loaded ∨ Offered device asked (newBin state)
  short : (newBin state).length < 2 ^ 32
  armed : Armed state →
    Confirmed digest state.upgrade.flash device.fmVersion device.currentBin (newBin state)
  booted : ∀ reboot ∈ state.booted, Lawful digest device asked state.loaded reboot

theorem file_size_lt (upgrade : UpgradeState) : fileSize upgrade < 2 ^ 32 := by
  unfold fileSize uint32
  omega

theorem hex_nul_free (bytes : List UInt8) : (0 : UInt8) ∉ sha256Hex bytes := by
  intro member
  obtain ⟨byte, -, digit⟩ := List.mem_flatMap.1 member
  have bound := byte.toNat_lt
  simp only [hexText, List.mem_cons, List.not_mem_nil, or_false] at digit
  rcases digit with high | low
  · exact hex_digit_ne_zero (by omega) high.symm
  · exact hex_digit_ne_zero (Nat.mod_lt _ (by decide)) low.symm

theorem other_name_text (bin : UserBin) : cString (otherName bin) = otherName bin := by
  cases bin <;> decide

/-- A verified image is confirmed by the record that its end makes. -/
theorem verified_confirmed {upgrade : UpgradeState} {info : UpgradeInfo} {tokens : List JsonToken}
    (verified : Verified (boardOf digest device) upgrade info) (made : MadeOf device tokens info) :
    Confirmed digest upgrade.flash device.fmVersion device.currentBin (binInfo upgrade info) where
  name := ⟨[], by
    rw [List.append_nil, binInfo, made.name]
    exact other_name_text device.currentBin⟩
  version := made.newer
  digest := by
    have same : sha256Hex (digest (readAt upgrade.flash (info.sector * sectorSize)
        (fileSize upgrade))) = info.sha256 := verified.digest
    rw [made.sector] at same
    rw [binInfo, ← same]
    exact (c_string_of_nul_free (hex_nul_free _)).symm

theorem new_bin_of_records {upgrade : UpgradeState}
    (records : recordsOf upgrade.log = recordsOf before.upgrade.log) :
    newBin { before with upgrade := upgrade } = newBin before := by
  rw [newBin, newBin, records]

theorem new_bin_recorded {upgrade : UpgradeState} {bin : NewBinInfo}
    (records : recordsOf upgrade.log = recordsOf before.upgrade.log ++ [bin]) :
    newBin { before with upgrade := upgrade } = bin := by
  rw [newBin, records, List.getLastD_concat]

/-- The record, the image and the timers stay. -/
theorem rests_carried {upgrade : UpgradeState} (rests : Rests digest device asked before)
    (sound : Sound (boardOf digest device) upgrade)
    (made : ∀ info ∈ upgrade.info, ∃ tokens ∈ asked, MadeOf device tokens info)
    (records : recordsOf upgrade.log = recordsOf before.upgrade.log)
    (timer : upgrade.exitTimer = before.upgrade.exitTimer)
    (flash : Armed before → upgrade.flash = before.upgrade.flash) :
    Rests digest device asked { before with upgrade := upgrade } := by
  have same := new_bin_of_records records
  refine ⟨sound, made, ?_, ?_, ?_, rests.booted⟩
  · rw [same]
    exact rests.origin
  · rw [same]
    exact rests.short
  · intro armed
    have waits : Armed before := armed.imp_right fun exits => timer ▸ exits
    rw [same]
    change Confirmed digest upgrade.flash _ _ _
    rw [flash waits]
    exact rests.armed waits

/-- A record that has just been made of what was verified. -/
theorem rests_recorded {upgrade : UpgradeState} {info : UpgradeInfo}
    (rests : Rests digest device asked before) (sound : Sound (boardOf digest device) upgrade)
    (gone : upgrade.info = none) (flash : upgrade.flash = before.upgrade.flash)
    (verified : Verified (boardOf digest device) before.upgrade info)
    (offer : ∃ tokens ∈ asked, MadeOf device tokens info)
    (records : recordsOf upgrade.log =
      recordsOf before.upgrade.log ++ [binInfo before.upgrade info]) :
    Rests digest device asked { before with upgrade := upgrade } := by
  have same := new_bin_recorded records
  obtain ⟨tokens, member, made⟩ := offer
  refine ⟨sound, ?_, ?_, ?_, ?_, rests.booted⟩
  · intro info present
    exact absurd (gone.symm.trans present) (by simp)
  · rw [same]
    exact .inr ⟨tokens, member, info, made, rfl, rfl, rfl⟩
  · rw [same]
    exact file_size_lt before.upgrade
  · intro _
    rw [same]
    change Confirmed digest upgrade.flash _ _ _
    rw [flash]
    exact verified_confirmed verified made

theorem rests_upgrade {event : UpgradeEvent} {next : UpgradeState}
    (rests : Rests digest device asked before)
    (settled : @Settled Context device before (.upgrade event))
    (other : ∀ info memory, event ≠ .request info memory)
    (step : upgradeStep (boardOf digest device) before.upgrade event next) :
    Rests digest device asked { before with upgrade := next } := by
  have sound := sound_step rests.sound settled.1 step
  have flash : Armed before → next.flash = before.upgrade.flash := fun waits =>
    missed_flash step (settled.2 waits)
  rcases step_carries other step with carries | ⟨returns, errorCode, rest, -, waits, taken⟩
  · apply rests_carried rests sound _ carries.records carries.exitTimer flash
    rw [carries.info]
    exact rests.made
  · have gone : next.info = none := by
      rw [taken]
      exact stop_info _ errorCode
    have kept : next.flash = before.upgrade.flash := by
      rw [taken]
      exact stop_flash _ errorCode
    rcases @stop_records { before.upgrade with inbox := rest } errorCode with
      ⟨records, timer⟩ | ⟨rfl, info, present, records⟩
    · rw [← taken] at records timer
      apply rests_carried rests sound _ records timer flash
      intro info present
      exact absurd (gone.symm.trans present) (by simp)
    · rw [← taken] at records
      have verified := rests.sound.pending (waits ▸ List.mem_cons_self) info present
      exact rests_recorded rests sound gone kept verified (rests.made info present) records

theorem rests_request {tokens : List JsonToken} {memory : Bool}
    {reply : UpgradeRequest.RequestReply} (rests : Rests digest device asked before)
    (settled : @Settled Context device before (.request tokens memory)) (member : tokens ∈ asked)
    (replied : UpgradeRequest.iotgoUpgradeProcessRequest device memory tokens = .ok reply) :
    Rests digest device asked
      { before with upgrade := takeReply digest device before.upgrade reply } := by
  cases present : reply.info with
  | none =>
      have same : takeReply digest device before.upgrade reply = before.upgrade := by
        rw [takeReply, present]
      rw [same]
      exact rests
  | some info =>
      have made := (reply_made (scan_request 0 [] (initial_found tokens device)) replied).2 info
        present
      have taken : takeReply digest device before.upgrade reply =
          { before.upgrade with info := some info, enterTimer := true } := by
        rw [takeReply, present]
        exact Option.some.inj (made_begun made (boardOf digest device) before.upgrade rfl)
      have sound : Sound (boardOf digest device) (takeReply digest device before.upgrade reply) := by
        rw [takeReply, present]
        exact sound_request true rests.sound (settled reply info replied present)
      rw [taken] at sound ⊢
      apply rests_carried rests sound _ rfl rfl (fun _ => rfl)
      intro record held
      cases held
      exact ⟨tokens, member, made⟩

theorem rests_restart (parts : DigestsParts code digest) {readable : Nat → Bool} {memory : Context}
    {buffer : Option (List UInt8)} {result : NewBinResult} (rests : Rests digest device asked before)
    (settled : Settled device before (.restart readable memory buffer))
    (checked : iotgoUpgradeVerifyNewBin code ⟨before.upgrade.flash, readable⟩ memory buffer
      device.fmVersion device.currentBin (newBin before) = some result) :
    Rests digest device asked (iotgoUpgradeRestartForNewBin before result) := by
  unfold iotgoUpgradeRestartForNewBin
  split
  · rename_i ok
    subst ok
    have readable : ∀ address, readable address = true := settled
    have passed := (new_bin_ok parts readable rests.short).1 checked
    exact ⟨rests.sound, rests.made, rests.origin, rests.short, fun _ => passed.2.2, rests.booted⟩
  · exact rests

/-- The timer of the end has fired. -/
theorem sound_fired {upgrade : UpgradeState} (sound : Sound (boardOf digest device) upgrade) :
    Sound (boardOf digest device) { upgrade with exitTimer := false } := by
  refine ⟨sound.sector, ⟨sound.recorded.verified, fun armed => (by cases armed)⟩, ?_⟩
  intro waits info present
  exact verified_congr (sound.pending waits info present) rfl rfl rfl fun _ => id

/-- A reboot that has waited finds what was confirmed. -/
theorem reboot_lawful (rests : Rests digest device asked before) (armed : Armed before) :
    Lawful digest device asked before.loaded (reboot before) :=
  ⟨rests.armed armed, rests.origin⟩

/-- A request of the events is one of those asked. -/
def Known (asked : List (List JsonToken)) (event : RestartEvent Context) : Prop :=
  ∀ tokens memory, event = .request tokens memory → tokens ∈ asked

theorem rests_step (parts : DigestsParts code digest) {event : RestartEvent Context}
    (rests : Rests digest device asked before)
    (settled : Settled device before event) (known : Known asked event)
    (step : RestartStep code digest device before event after) :
    Rests digest device asked after ∧ after.loaded = before.loaded := by
  obtain ⟨-, -, step⟩ := step
  cases event with
  | request tokens memory =>
      obtain ⟨reply, replied, rfl⟩ := step
      exact ⟨rests_request rests settled (known tokens memory rfl) replied, rfl⟩
  | upgrade event =>
      obtain ⟨other, next, taken, rfl⟩ := step
      exact ⟨rests_upgrade rests settled other taken, rfl⟩
  | restart readable memory buffer =>
      obtain ⟨result, checked, rfl⟩ := step
      refine ⟨rests_restart parts rests settled checked, ?_⟩
      unfold iotgoUpgradeRestartForNewBin
      split <;> rfl
  | restartTimer =>
      obtain ⟨armed, rfl⟩ := step
      have lawful := reboot_lawful rests (.inl armed)
      refine ⟨⟨rests.sound, rests.made, rests.origin, rests.short, ?_, ?_⟩, rfl⟩
      · intro waits
        exact rests.armed (waits.imp_left fun _ => armed)
      · intro found same
        cases same
        exact lawful
  | exitTimer =>
      obtain ⟨armed, rfl⟩ := step
      have lawful := reboot_lawful rests (.inr armed)
      refine ⟨⟨?_, rests.made, rests.origin, rests.short, ?_, ?_⟩, rfl⟩
      · exact sound_fired rests.sound
      · intro _
        exact rests.armed (.inr armed)
      · intro found same
        cases same
        exact lawful

theorem rests_initial (digest : List UInt8 → List UInt8) (device : UpgradeDevice)
    (asked : List (List JsonToken)) (flash : Flash) {loaded : NewBinInfo} (short : loaded.length < 2 ^ 32) :
    Rests digest device asked (.initial flash loaded) := by
  refine ⟨⟨?_, ⟨?_, ?_⟩, ?_⟩, ?_, .inl rfl, short, ?_, ?_⟩
  · exact fun info present => by cases present
  · exact fun bin image member => by cases member
  · exact fun armed => by cases armed
  · exact fun waits => by cases waits
  · exact fun info present => by cases present
  · rintro (armed | armed)
    · cases armed
    · cases armed
  · exact fun reboot booted => by cases booted

end Invariant

section Runs

variable {Context : Type} {code : DigestCode Context} {digest : List UInt8 → List UInt8}
  {device : UpgradeDevice} {flash : Flash} {loaded : NewBinInfo}
  {events : List (RestartEvent Context)} {final : RestartState}

def requests (events : List (RestartEvent Context)) : List (List JsonToken) :=
  events.filterMap fun event =>
    match event with
    | .request tokens _ => some tokens
    | _ => none

theorem requests_known {event : RestartEvent Context} (member : event ∈ events) :
    Known (requests events) event := by
  rintro tokens memory rfl
  exact List.mem_filterMap.2 ⟨_, member, rfl⟩

def restartExec (code : DigestCode Context) (digest : List UInt8 → List UInt8)
    (device : UpgradeDevice) (state : RestartState) (event : RestartEvent Context) :
    Option RestartState :=
  if state.booted = none ∧ state.upgrade.halted = none then
    match event with
    | .request tokens memory =>
        match UpgradeRequest.iotgoUpgradeProcessRequest device memory tokens with
        | .ok reply => some { state with upgrade := takeReply digest device state.upgrade reply }
        | .error _ => none
    | .upgrade (.request _ _) => none
    | .upgrade event => (upgradeExec (boardOf digest device) state.upgrade event).map fun next =>
        { state with upgrade := next }
    | .restart readable memory buffer =>
        (iotgoUpgradeVerifyNewBin code ⟨state.upgrade.flash, readable⟩ memory buffer
          device.fmVersion device.currentBin (newBin state)).map
            (iotgoUpgradeRestartForNewBin state)
    | .restartTimer =>
        if 0 < state.restartTimers then
          some { state with
            restartTimers := state.restartTimers - 1
            booted := some (reboot state) }
        else none
    | .exitTimer =>
        if state.upgrade.exitTimer = true then
          some { state with
            upgrade := { state.upgrade with exitTimer := false }
            booted := some (reboot state) }
        else none
  else none

theorem restart_exec_sound (code : DigestCode Context) (digest : List UInt8 → List UInt8)
    (device : UpgradeDevice) (state : RestartState) (event : RestartEvent Context)
    (next : RestartState) (computed : restartExec code digest device state event = some next) :
    RestartStep code digest device state event next := by
  obtain ⟨running, computed⟩ := Option.ite_none_right_eq_some.1 computed
  refine ⟨running.1, running.2, ?_⟩
  cases event with
  | request tokens memory =>
      cases replied : UpgradeRequest.iotgoUpgradeProcessRequest device memory tokens with
      | error fault => simp [replied] at computed
      | ok reply =>
          simp only [replied, Option.some.injEq] at computed
          exact ⟨reply, replied, computed.symm⟩
  | upgrade event =>
      cases event with
      | request info memory => simp at computed
      | _ =>
          obtain ⟨upgrade, taken, rfl⟩ := Option.map_eq_some_iff.1 computed
          exact ⟨fun _ _ same => (by cases same), upgrade, ⟨running.2, taken⟩, rfl⟩
  | restart readable memory buffer =>
      obtain ⟨result, checked, rfl⟩ := Option.map_eq_some_iff.1 computed
      exact ⟨result, checked, rfl⟩
  | restartTimer =>
      obtain ⟨armed, computed⟩ := Option.ite_none_right_eq_some.1 computed
      exact ⟨armed, (Option.some.inj computed).symm⟩
  | exitTimer =>
      obtain ⟨armed, computed⟩ := Option.ite_none_right_eq_some.1 computed
      exact ⟨armed, (Option.some.inj computed).symm⟩

theorem restart_step_unique (code : DigestCode Context) (digest : List UInt8 → List UInt8)
    (device : UpgradeDevice) (state : RestartState) (event : RestartEvent Context)
    (left right : RestartState) (first : RestartStep code digest device state event left)
    (second : RestartStep code digest device state event right) : left = right := by
  obtain ⟨-, -, first⟩ := first
  obtain ⟨-, -, second⟩ := second
  cases event with
  | request tokens memory =>
      obtain ⟨reply, replied, rfl⟩ := first
      obtain ⟨again, twice, rfl⟩ := second
      cases replied.symm.trans twice
      rfl
  | upgrade event =>
      obtain ⟨-, next, taken, rfl⟩ := first
      obtain ⟨-, again, twice, rfl⟩ := second
      cases upgrade_step_unique _ _ _ _ _ taken twice
      rfl
  | restart readable memory buffer =>
      obtain ⟨result, checked, rfl⟩ := first
      obtain ⟨again, twice, rfl⟩ := second
      cases checked.symm.trans twice
      rfl
  | restartTimer => exact first.2.trans second.2.symm
  | exitTimer => exact first.2.trans second.2.symm

/-- No request waits behind a verified image, and no check is made. -/
def Calm (state : RestartState) : RestartEvent Context → Prop
  | .request _ _ => .upgradeExit upgradeErrorOk ∉ state.upgrade.inbox
  | .upgrade event =>
      Undisturbed state.upgrade event ∧ ((0 < state.restartTimers ∨
        state.upgrade.exitTimer = true) → ¬ ReachesFlash state.upgrade event)
  | .restart _ _ _ => False
  | _ => True

instance (state : RestartState) (event : RestartEvent Context) : Decidable (Calm state event) := by
  cases event <;> unfold Calm <;> infer_instance

theorem calm_settled (state : RestartState) (event : RestartEvent Context)
    (calm : Calm state event) : Settled device state event := by
  cases event with
  | request tokens memory => exact fun _ _ _ _ waits => absurd waits calm
  | upgrade event => exact calm
  | restart readable memory buffer => exact calm.elim
  | restartTimer => trivial
  | exitTimer => trivial

/-- An offer of an image of the two bytes that `UpgradePlacement.shortAnswer` carries. -/
def shortOffer : List JsonToken :=
  reported (.object ((asciiBytes "binList", .array [.object
    [(asciiBytes "downloadUrl", .string (asciiBytes "http://ota/user2.bin")),
      (asciiBytes "name", .string (asciiBytes "user2.bin")),
      (asciiBytes "digest", .string (asciiBytes
        "8f434346648f6b96df89dda901c5176b10a6d83961dd3c1ac88b59b2dc327aa4"))]]) :: askedRest))

/-- The image is downloaded, verified and recorded, and three seconds later the device reboots
into it. -/
def shortUpgrade : List (RestartEvent Sha256Context) :=
  [.request shortOffer true, .upgrade .enterTimer, .upgrade (.handle allReturns),
    .upgrade .connected, .upgrade (.handle allReturns), .upgrade UpgradePlacement.shortAnswer.event,
    .upgrade (.handle allReturns), .exitTimer]

def shortBin : NewBinInfo where
  name := asciiBytes "user2.bin"
  version := asciiBytes "1.7.0"
  length := 2
  sha256 := asciiBytes "8f434346648f6b96df89dda901c5176b10a6d83961dd3c1ac88b59b2dc327aa4"

/-- The digest as the code computes it, which the kernel is quicker to evaluate. -/
def computedDigest (bytes : List UInt8) : List UInt8 :=
  if bytes.length < 2 ^ 32 then
    sha256Finish (sha256Update (sha256Starts (List.replicate 64 0)) bytes)
  else Sha256.digest bytes

theorem computed_digest_eq : computedDigest = Sha256.digest := by
  funext bytes
  unfold computedDigest
  split
  · rename_i small
    have parts := sha256_digests_parts (sha256Starts []) [bytes]
      (fun chunk member => List.mem_singleton.1 member ▸ small)
    rw [List.flatten_singleton] at parts
    exact parts (by omega)
  · rfl

theorem short_upgrade_reached :
    ((execRun (restartExec sha256Code Sha256.digest askedDevice)
        (.initial (fun _ => 0xFF) largeBin) shortUpgrade).any fun final =>
      decide (final.booted.map Reboot.bin = some shortBin)) = true := by
  rw [← computed_digest_eq]
  decide +kernel

theorem short_upgrade_settled :
    Meets (RestartStep sha256Code Sha256.digest askedDevice) (Settled askedDevice)
      (.initial (fun _ => 0xFF) largeBin) shortUpgrade := by
  rw [← computed_digest_eq]
  apply meets_imp (fun _ => True) (fun state event _ => calm_settled state event)
    (fun _ _ _ _ _ _ => trivial) trivial
  exact meets_of_exec (restart_step_unique sha256Code computedDigest askedDevice)
    (restart_exec_sound sha256Code computedDigest askedDevice) (by decide +kernel)

end Runs

end IotgoFirmware.Upgrade.UpgradeRestarts
