import IotgoFirmware.Upgrade.UpgradeSession

/-!
# What a step of a download changes

A package either reaches the flash, and then a sector is stored and counted or the
attempt fails, or it leaves everything in the flash as it is. Of the signals only the
end of a download sets the sector index back.
-/

namespace IotgoFirmware.Upgrade.UpgradeSteps

open IotgoFirmware.Library.CIntegers
open IotgoFirmware.Library.NorFlash
open IotgoFirmware.Upgrade.UpgradeSession

set_option autoImplicit false

def flashedSectors (log : List UpgradeLog) : List Nat :=
  log.filterMap fun
    | .flashed sector _ => some sector
    | _ => none

/-- The record, the sector and the length of a package that reaches the flash. -/
def flashAttempt (state : UpgradeState) (pdata : List UInt8) (len : Nat) (flag : Bool) :
    Option (UpgradeInfo × List UInt8 × Nat) :=
  if flag = true ∧ (takeFileLength state pdata len).started = true ∧ state.sectorBuffer = true then
    (packageData pdata len).bind fun found =>
      state.info.map fun info => (info, sectorImage (packageBytes pdata found), found.1)
  else none

/-- What the flash, its index and its log have in common before and after a step. -/
structure Untouched (before after : UpgradeState) : Prop where
  index : after.flashSectorIndex = before.flashSectorIndex
  sectors : flashedSectors after.log = flashedSectors before.log
  flash : after.flash = before.flash
  info : after.info = before.info

/-- A step that concerns neither the download nor what it is kept in; the end of a verified
download is not among the signals that it posts. -/
structure Kept (before after : UpgradeState) : Prop where
  upgradeFile : after.upgradeFile = before.upgradeFile
  started : after.started = before.started
  index : after.flashSectorIndex = before.flashSectorIndex
  info : after.info = before.info
  httpBuffer : after.httpBuffer = before.httpBuffer
  sectorBuffer : after.sectorBuffer = before.sectorBuffer
  flash : after.flash = before.flash
  log : after.log = before.log
  exitTimer : after.exitTimer = before.exitTimer
  verified : .upgradeExit upgradeErrorOk ∈ after.inbox → .upgradeExit upgradeErrorOk ∈ before.inbox

section Frames

variable {first second third : UpgradeState} {board : Board} {state : UpgradeState}

theorem untouched_trans (left : Untouched first second) (right : Untouched second third) :
    Untouched first third :=
  ⟨right.index.trans left.index, right.sectors.trans left.sectors, right.flash.trans left.flash,
    right.info.trans left.info⟩

theorem kept_trans (left : Kept first second) (right : Kept second third) : Kept first third where
  upgradeFile := right.upgradeFile.trans left.upgradeFile
  started := right.started.trans left.started
  index := right.index.trans left.index
  info := right.info.trans left.info
  httpBuffer := right.httpBuffer.trans left.httpBuffer
  sectorBuffer := right.sectorBuffer.trans left.sectorBuffer
  flash := right.flash.trans left.flash
  log := right.log.trans left.log
  exitTimer := right.exitTimer.trans left.exitTimer
  verified := fun waits => left.verified (right.verified waits)

theorem kept_untouched (kept : Kept first second) : Untouched first second :=
  ⟨kept.index, congrArg flashedSectors kept.log, kept.flash, kept.info⟩

theorem kept_inbox (state : UpgradeState) {inbox : List UpgradeSignal}
    (fewer : ∀ signal ∈ inbox, signal ∈ state.inbox) : Kept state { state with inbox := inbox } :=
  ⟨rfl, rfl, rfl, rfl, rfl, rfl, rfl, rfl, rfl, fewer _⟩

theorem post_eq (state : UpgradeState) (signal : UpgradeSignal) :
    ∃ inbox, systemOsPost state signal = { state with inbox := inbox } ∧
      ∀ waiting ∈ inbox, waiting ∈ state.inbox ∨ waiting = signal := by
  unfold systemOsPost
  split
  · refine ⟨_, rfl, fun waiting member => ?_⟩
    rcases List.mem_append.1 member with before | now
    · exact .inl before
    · exact .inr (List.mem_singleton.1 now)
  · exact ⟨state.inbox, rfl, fun _ member => .inl member⟩

theorem post_kept (state : UpgradeState) {signal : UpgradeSignal}
    (other : signal ≠ .upgradeExit upgradeErrorOk) : Kept state (systemOsPost state signal) := by
  obtain ⟨inbox, posted, members⟩ := post_eq state signal
  rw [posted]
  refine ⟨rfl, rfl, rfl, rfl, rfl, rfl, rfl, rfl, rfl, fun waits => ?_⟩
  exact (members _ waits).resolve_right (Ne.symm other)

theorem post_untouched (state : UpgradeState) (signal : UpgradeSignal) :
    Untouched state (systemOsPost state signal) := by
  obtain ⟨inbox, posted, -⟩ := post_eq state signal
  rw [posted]
  exact ⟨rfl, rfl, rfl, rfl⟩

theorem sectors_append (log more : List UpgradeLog) :
    flashedSectors (log ++ more) = flashedSectors log ++ flashedSectors more :=
  List.filterMap_append

theorem take_file_length_eq (state : UpgradeState) (pdata : List UInt8) (len : Nat) :
    ∃ started length, takeFileLength state pdata len = { state with
      started := started
      upgradeFile := { state.upgradeFile with fileLength := length } } := by
  unfold takeFileLength
  split
  · exact ⟨state.started, state.upgradeFile.fileLength, rfl⟩
  · exact ⟨_, _, rfl⟩

theorem take_file_length_untouched (state : UpgradeState) (pdata : List UInt8) (len : Nat) :
    Untouched state (takeFileLength state pdata len) := by
  obtain ⟨started, length, taken⟩ := take_file_length_eq state pdata len
  rw [taken]
  exact ⟨rfl, rfl, rfl, rfl⟩

theorem connect_kept (state : UpgradeState) (connectOk : Bool) :
    Kept state (connectToDownloadServer state connectOk) := by
  unfold connectToDownloadServer
  split
  · exact ⟨rfl, rfl, rfl, rfl, rfl, rfl, rfl, rfl, rfl, id⟩
  · split
    · exact kept_inbox state fun _ => id
    · exact post_kept state UpgradeSignal.noConfusion

theorem start_kept (state : UpgradeState) (returns : SystemReturns) :
    Kept (resetDownload (iotgoUpgradeMalloc state returns)) (iotgoUpgradeStart state returns) := by
  have connected := connect_kept (resetDownload (iotgoUpgradeMalloc state returns))
    returns.connectOk
  unfold iotgoUpgradeStart
  dsimp only
  split
  · exact connected
  · refine kept_trans connected ?_
    exact ⟨rfl, rfl, rfl, rfl, rfl, rfl, rfl, rfl, rfl, id⟩

/-- The range of the next sector is noted. -/
def ranged (state : UpgradeState) : UpgradeState :=
  { state with
    upgradeFile := { state.upgradeFile with
      rangeStart := rangeStart state
      rangeEnd := rangeEnd state } }

/-- A range is asked for, or a pointer is null. -/
theorem download_cases (state : UpgradeState) (sendOk : Bool) :
    (state.info.isSome = true ∧
        Kept (logged (ranged state) (.request (rangeStart state) (rangeEnd state)))
          (iotgoUpgradeDownload state sendOk)) ∨
      iotgoUpgradeDownload state sendOk = halt (ranged state) .nullPointer := by
  unfold iotgoUpgradeDownload
  dsimp only
  split
  · rename_i ready
    refine .inl ⟨ready.2, ?_⟩
    split
    · exact kept_inbox _ fun _ => id
    · exact post_kept _ UpgradeSignal.noConfusion
  · exact .inr rfl

theorem reconnect_kept (state : UpgradeState) : Kept state (iotgoUpgradeReconnect state) := by
  unfold iotgoUpgradeReconnect
  dsimp only
  split
  · split
    · exact ⟨rfl, rfl, rfl, rfl, rfl, rfl, rfl, rfl, rfl, id⟩
    · refine kept_trans ?_ (post_kept _ ?_)
      · exact ⟨rfl, rfl, rfl, rfl, rfl, rfl, rfl, rfl, rfl, id⟩
      · decide
  · exact kept_inbox state fun _ => id

theorem timer_kept (state : UpgradeState) : Kept state (cbUpgradeTimer state) := by
  unfold cbUpgradeTimer
  dsimp only
  split
  · refine kept_trans ?_ (post_kept _ ?_)
    · exact ⟨rfl, rfl, rfl, rfl, rfl, rfl, rfl, rfl, rfl, id⟩
    · decide
  · exact ⟨rfl, rfl, rfl, rfl, rfl, rfl, rfl, rfl, rfl, id⟩

/-- The download goes on or ends in an error, or it is verified. -/
theorem finish_cases (board : Board) (state : UpgradeState) (info : UpgradeInfo) :
    Kept state (finishStore board state info) ∨
      (verifyFlashData board state.flash (info.sector * sectorSize) (fileSize state) info.sha256 =
          some true ∧
        finishStore board state info =
          systemOsPost (logged state (.verified (binInfo state info)))
            (.upgradeExit upgradeErrorOk)) := by
  unfold finishStore
  split
  · split
    · exact .inl ⟨rfl, rfl, rfl, rfl, rfl, rfl, rfl, rfl, rfl, id⟩
    · rename_i verified
      exact .inr ⟨verified, rfl⟩
    · refine .inl (post_kept state ?_)
      decide
  · exact .inl (post_kept state UpgradeSignal.noConfusion)

theorem finish_untouched (board : Board) (state : UpgradeState) (info : UpgradeInfo) :
    Untouched state (finishStore board state info) := by
  rcases finish_cases board state info with kept | ⟨-, verified⟩
  · exact kept_untouched kept
  · rw [verified]
    refine untouched_trans ?_ (post_untouched _ _)
    exact ⟨rfl, (sectors_append state.log _).trans (List.append_nil _), rfl, rfl⟩

/-- What an attempt that fails leaves in the flash and in its log. -/
def spoiled (state : UpgradeState) (info : UpgradeInfo) (src : List UInt8) (left : Flash) :
    UpgradeState :=
  { logged state (.flashed (storeSector state info) false) with
    flash := flashOneSector state.flash (storeSector state info) src (.error left) }

theorem fail_kept (state : UpgradeState) (info : UpgradeInfo) (src : List UInt8) (left : Flash) :
    Kept (spoiled state info src left) (failStore state info src left) := by
  apply post_kept
  decide

end Frames

section Packages

variable (board : Board) {state : UpgradeState} {pdata : List UInt8} {len : Nat} {flag : Bool}

theorem take_file_length_buffer (state : UpgradeState) (pdata : List UInt8) (len : Nat) :
    (takeFileLength state pdata len).sectorBuffer = state.sectorBuffer := by
  obtain ⟨started, length, same⟩ := take_file_length_eq state pdata len
  rw [same]

/-- A package that does not reach the flash leaves at most the length of its file. -/
theorem package_missed (result : FlashResult)
    (missed : flashAttempt state pdata len flag = none) :
    let after := upgradeTCPSproOnePkgCb board state pdata len flag result
    Kept state after ∨ flag = true ∧ Kept (takeFileLength state pdata len) after := by
  have taken := take_file_length_untouched state pdata len
  have buffer := take_file_length_buffer state pdata len
  have other : UpgradeSignal.upgradeExit upgradeErrorDownload ≠ .upgradeExit upgradeErrorOk := by
    decide
  unfold upgradeTCPSproOnePkgCb
  dsimp only
  by_cases whole : flag = true
  · refine .inr ⟨whole, ?_⟩
    rw [if_pos whole]
    by_cases started : (takeFileLength state pdata len).started = true
    · rw [if_pos started]
      cases parsed : packageData pdata len with
      | none => exact post_kept _ other
      | some found =>
          dsimp only
          by_cases held : (takeFileLength state pdata len).sectorBuffer = true
          · rw [if_pos held, storeUpgradeDataToFlash, taken.info]
            rw [flashAttempt, if_pos ⟨whole, started, buffer.symm.trans held⟩, parsed,
              Option.bind_some, Option.map_eq_none_iff] at missed
            rw [missed]
            exact ⟨rfl, rfl, rfl, rfl, rfl, rfl, rfl, rfl, rfl, id⟩
          · rw [if_neg held]
            exact ⟨rfl, rfl, rfl, rfl, rfl, rfl, rfl, rfl, rfl, id⟩
    · rw [if_neg started]
      exact post_kept _ other
  · rw [if_neg whole]
    exact .inl (post_kept _ other)

/-- A package that reaches the flash is stored, or the attempt fails. -/
theorem package_attempt {info : UpgradeInfo} {src : List UInt8} {count : Nat} (result : FlashResult)
    (attempt : flashAttempt state pdata len flag = some (info, src, count)) :
    flag = true ∧ state.info = some info ∧
      upgradeTCPSproOnePkgCb board state pdata len flag result =
        match result with
        | .ok => finishStore board (countStore (takeFileLength state pdata len) info src count) info
        | .error left => failStore (takeFileLength state pdata len) info src left := by
  have taken := take_file_length_untouched state pdata len
  have buffer := take_file_length_buffer state pdata len
  unfold flashAttempt at attempt
  split_ifs at attempt with reached
  obtain ⟨whole, started, held⟩ := reached
  obtain ⟨found, parsed, mapped⟩ := Option.bind_eq_some_iff.1 attempt
  obtain ⟨record, present, same⟩ := Option.map_eq_some_iff.1 mapped
  cases same
  refine ⟨whole, present, ?_⟩
  rw [upgradeTCPSproOnePkgCb, if_pos whole]
  dsimp only
  rw [if_pos started, parsed]
  dsimp only
  rw [if_pos (buffer.trans held)]
  cases result with
  | ok => simp only [storeUpgradeDataToFlash, taken.info, present]
  | error left => simp only [storeUpgradeDataToFlash, taken.info, present]

end Packages

section Kinds

def ReachesFlash (state : UpgradeState) : UpgradeEvent → Prop
  | .package pdata len flag _ =>
      state.halted = none ∧ (state.spro = true ∨ 0 < state.leaked) ∧
        (flashAttempt state pdata len flag).isSome = true
  | _ => False

instance (state : UpgradeState) (event : UpgradeEvent) : Decidable (ReachesFlash state event) := by
  cases event <;> unfold ReachesFlash <;> infer_instance

/-- The signal that the core task takes from its queue. -/
def handled (state : UpgradeState) : UpgradeEvent → Option UpgradeSignal
  | .handle _ => state.inbox.head?
  | _ => none

theorem handled_of_waits {state : UpgradeState} {returns : SystemReturns} {signal : UpgradeSignal}
    {rest : List UpgradeSignal} (waits : state.inbox = signal :: rest) :
    handled state (.handle returns) = some signal := by
  rw [handled, waits, List.head?_cons]

/-- The ways in which a step leaves the flash alone. -/
inductive QuietKind (state : UpgradeState) (event : UpgradeEvent) (next : UpgradeState) : Prop where
  | kept (frame : Kept state next) (enters : handled state event ≠ some .upgradeEnter)
      (asks : handled state event ≠ some .getUpgradeData)
  | entered (returns : SystemReturns) (rest : List UpgradeSignal) (same : event = .handle returns)
      (waits : state.inbox = .upgradeEnter :: rest)
      (taken : next = iotgoUpgradeStart { state with inbox := rest } returns)
  | asked (returns : SystemReturns) (rest : List UpgradeSignal) (same : event = .handle returns)
      (waits : state.inbox = .getUpgradeData :: rest)
      (taken : next = iotgoUpgradeDownload { state with inbox := rest } returns.sendOk)
  | measured (pdata : List UInt8) (len : Nat) (result : FlashResult)
      (same : event = .package pdata len true result)
      (frame : Kept (takeFileLength state pdata len) next)

/-- The ways in which a step bears on the flash. -/
inductive StepKind (board : Board) (state : UpgradeState) (event : UpgradeEvent)
    (next : UpgradeState) : Prop where
  | untouched (quiet : QuietKind state event next) (misses : ¬ ReachesFlash state event)
      (stays : ∀ errorCode, handled state event ≠ some (.upgradeExit errorCode))
  | requested (info : UpgradeInfo) (memory : Bool) (same : event = .request info memory)
      (taken : next = iotgoUpgradeProcessRequest board state info memory)
  | stopped (returns : SystemReturns) (errorCode : Nat) (rest : List UpgradeSignal)
      (same : event = .handle returns) (waits : state.inbox = .upgradeExit errorCode :: rest)
      (taken : next = iotgoUpgradeStop { state with inbox := rest } errorCode)
  | stored (pdata : List UInt8) (len : Nat) (info : UpgradeInfo) (src : List UInt8)
      (count : Nat) (same : event = .package pdata len true .ok)
      (attempt : flashAttempt state pdata len true = some (info, src, count))
      (present : state.info = some info)
      (taken : next =
        finishStore board (countStore (takeFileLength state pdata len) info src count) info)
  | failed (pdata : List UInt8) (len : Nat) (info : UpgradeInfo) (src : List UInt8)
      (count : Nat) (left : Flash) (same : event = .package pdata len true (.error left))
      (attempt : flashAttempt state pdata len true = some (info, src, count))
      (present : state.info = some info)
      (taken : next = failStore (takeFileLength state pdata len) info src left)

variable {board : Board} {state next : UpgradeState} {event : UpgradeEvent}

theorem start_untouched (state : UpgradeState) (returns : SystemReturns) :
    Untouched state (iotgoUpgradeStart state returns) := by
  refine untouched_trans ?_ (kept_untouched (start_kept state returns))
  exact ⟨rfl, rfl, rfl, rfl⟩

theorem download_untouched (state : UpgradeState) (sendOk : Bool) :
    Untouched state (iotgoUpgradeDownload state sendOk) := by
  rcases download_cases state sendOk with ⟨-, asked⟩ | halted
  · refine untouched_trans ?_ (kept_untouched asked)
    exact ⟨rfl, (sectors_append state.log _).trans (List.append_nil _), rfl, rfl⟩
  · rw [halted]
    exact ⟨rfl, rfl, rfl, rfl⟩

theorem quiet_untouched (quiet : QuietKind state event next) : Untouched state next := by
  cases quiet with
  | kept frame _ _ => exact kept_untouched frame
  | entered returns rest _ _ taken =>
      subst taken
      refine untouched_trans ?_ (start_untouched _ returns)
      exact ⟨rfl, rfl, rfl, rfl⟩
  | asked returns rest _ _ taken =>
      subst taken
      refine untouched_trans ?_ (download_untouched _ returns.sendOk)
      exact ⟨rfl, rfl, rfl, rfl⟩
  | measured pdata len _ _ frame =>
      exact untouched_trans (take_file_length_untouched state pdata len) (kept_untouched frame)

theorem handle_kind {returns : SystemReturns} {signal : UpgradeSignal} {rest : List UpgradeSignal}
    (waits : state.inbox = signal :: rest) :
    StepKind board state (.handle returns)
      (taskIoTgoNetworkCenter { state with inbox := rest } returns signal) := by
  have popped : Kept state { state with inbox := rest } := by
    apply kept_inbox
    intro waiting member
    exact waits ▸ List.mem_cons_of_mem signal member
  have taken : handled state (.handle returns) = some signal := handled_of_waits waits
  have differs {other : UpgradeSignal} (different : signal ≠ other) :
      handled state (.handle returns) ≠ some other := by
    rw [taken]
    exact fun same => different (Option.some.inj same)
  cases signal with
  | upgradeEnter =>
      refine .untouched (.entered returns rest rfl waits rfl) not_false fun errorCode => ?_
      exact differs UpgradeSignal.noConfusion
  | upgradeExit errorCode => exact .stopped returns errorCode rest rfl waits rfl
  | getUpgradeData =>
      refine .untouched (.asked returns rest rfl waits rfl) not_false fun errorCode => ?_
      exact differs UpgradeSignal.noConfusion
  | upgradeReconnectAgain =>
      refine .untouched (.kept (kept_trans popped (reconnect_kept _)) ?_ ?_) not_false ?_
      · exact differs UpgradeSignal.noConfusion
      · exact differs UpgradeSignal.noConfusion
      · exact fun errorCode => differs UpgradeSignal.noConfusion
  | other signal =>
      refine .untouched (.kept popped ?_ ?_) not_false ?_
      · exact differs UpgradeSignal.noConfusion
      · exact differs UpgradeSignal.noConfusion
      · exact fun errorCode => differs UpgradeSignal.noConfusion

/-- A signal that is handled has waited longest. -/
theorem handle_taken {returns : SystemReturns}
    (computed : upgradeExec board state (.handle returns) = some next) :
    ∃ signal rest, state.inbox = signal :: rest ∧
      taskIoTgoNetworkCenter { state with inbox := rest } returns signal = next := by
  rw [upgradeExec] at computed
  cases waits : state.inbox with
  | nil =>
      rw [waits] at computed
      cases computed
  | cons signal rest =>
      rw [waits] at computed
      exact ⟨signal, rest, rfl, Option.some.inj computed⟩

/-- A step that is not the core task's. -/
theorem kept_kind (frame : Kept state next) (misses : ¬ ReachesFlash state event)
    (outside : handled state event = none) : StepKind board state event next := by
  have differs (signal : UpgradeSignal) : handled state event ≠ some signal := by
    rw [outside]
    exact (Option.some_ne_none signal).symm
  exact .untouched (.kept frame (differs _) (differs _)) misses fun _ => differs _

theorem package_kind {pdata : List UInt8} {len : Nat} {flag : Bool} {result : FlashResult} :
    StepKind board state (.package pdata len flag result)
      (upgradeTCPSproOnePkgCb board state pdata len flag result) := by
  cases attempt : flashAttempt state pdata len flag with
  | none =>
      have misses : ¬ ReachesFlash state (.package pdata len flag result) := by
        rintro ⟨-, -, reached⟩
        rw [attempt] at reached
        cases reached
      rcases package_missed board result attempt with kept | ⟨whole, measured⟩
      · exact kept_kind kept misses rfl
      · subst whole
        refine .untouched (.measured pdata len result rfl measured) misses fun _ => ?_
        exact (Option.some_ne_none _).symm
  | some found =>
      obtain ⟨info, src, count⟩ := found
      obtain ⟨whole, present, taken⟩ := package_attempt board result attempt
      subst whole
      cases result with
      | ok => exact .stored pdata len info src count rfl attempt present taken
      | error left => exact .failed pdata len info src count left rfl attempt present taken

theorem step_kind (step : upgradeStep board state event next) :
    StepKind board state event next := by
  obtain ⟨running, computed⟩ := step
  cases event with
  | request info memory =>
      cases computed
      exact .requested info memory rfl rfl
  | enterTimer =>
      rw [upgradeExec] at computed
      split_ifs at computed
      cases computed
      refine kept_kind (kept_trans ?_ (post_kept _ UpgradeSignal.noConfusion)) not_false rfl
      exact ⟨rfl, rfl, rfl, rfl, rfl, rfl, rfl, rfl, rfl, id⟩
  | handle returns =>
      obtain ⟨signal, rest, waits, rfl⟩ := handle_taken computed
      exact handle_kind waits
  | connectServerAgainTimer connectOk =>
      rw [upgradeExec] at computed
      split_ifs at computed
      cases computed
      refine kept_kind (kept_trans ?_ (connect_kept _ connectOk)) not_false rfl
      exact ⟨rfl, rfl, rfl, rfl, rfl, rfl, rfl, rfl, rfl, id⟩
  | progressTimer =>
      rw [upgradeExec] at computed
      split_ifs at computed
      cases computed
      exact kept_kind (timer_kept state) not_false rfl
  | package pdata len flag result =>
      rw [upgradeExec] at computed
      split_ifs at computed
      cases computed
      exact package_kind
  | connected =>
      cases computed
      exact kept_kind (post_kept _ UpgradeSignal.noConfusion) not_false rfl
  | lost =>
      cases computed
      exact kept_kind (post_kept _ UpgradeSignal.noConfusion) not_false rfl
  | post signal =>
      cases computed
      exact kept_kind (post_kept _ UpgradeSignal.noConfusion) not_false rfl

def runExec (board : Board) (state : UpgradeState) (event : UpgradeEvent) : Option UpgradeState :=
  if state.halted = none then upgradeExec board state event else none

theorem run_exec_sound (board : Board) (state : UpgradeState) (event : UpgradeEvent)
    (next : UpgradeState) (computed : runExec board state event = some next) :
    upgradeStep board state event next := by
  unfold runExec at computed
  split_ifs at computed with running
  exact ⟨running, computed⟩

theorem upgrade_step_unique (board : Board) (state : UpgradeState) (event : UpgradeEvent)
    (left right : UpgradeState) (first : upgradeStep board state event left)
    (second : upgradeStep board state event right) : left = right :=
  Option.some.inj (first.2.symm.trans second.2)

end Kinds

end IotgoFirmware.Upgrade.UpgradeSteps
