import IotgoFirmware.Library.CIntegers
import IotgoFirmware.Library.CStrings
import IotgoFirmware.Library.LoopRules
import IotgoFirmware.Library.NorFlash
import IotgoFirmware.Library.StepRuns

/-!
# Downloading a firmware

A request of the server leaves its record in `iotgo_upgrade_info` and starts a timer;
the core task then sets the download up, asks for one range of the file for each
signal it gets, stores every answer in the next sector, and ends with
`iotgoUpgradeStop`, which frees everything. Requests, answers, network callbacks and
timers come in any order, and each signal waits in the queue of the core task behind
those of others. A step that reads through a null pointer, or whose loop does not
end, halts the device.

The network is not modelled further than by its callbacks; what a flash operation
that fails leaves in its sector is arbitrary.
-/

namespace IotgoFirmware.Upgrade.UpgradeSession

open IotgoFirmware.Library.CIntegers
open IotgoFirmware.Library.CStrings
open IotgoFirmware.Library.LoopRules
open IotgoFirmware.Library.NorFlash

set_option autoImplicit false

def upgradeBinMaxLen : Int := 460 * 1024

def upgradeErrorOk : Nat := 0
def upgradeErrorDownload : Nat := 404
def upgradeErrorDigest : Nat := 409

def upgradeTimeoutLimit : Nat := 180

/-- `IOTGO_TASK_CORE_QLEN`. -/
def coreQueueLength : Nat := 64

inductive UserBin where
  | bin1
  | bin2
  deriving DecidableEq

/-- The first sector of the image that is not running. -/
def binStartSector : UserBin → Nat
  | .bin1 => 0x81
  | .bin2 => 0x01

/-- What the running device has of its own: the image that runs, and SHA-256. -/
structure Board where
  currentBin : UserBin
  sha256Hex : List UInt8 → List UInt8

structure UpgradeInfo where
  name : List UInt8
  version : List UInt8
  sha256 : List UInt8
  sequence : List UInt8
  host : List UInt8
  port : Nat
  path : List UInt8
  sector : Nat
  autoRestart : Bool
  deriving DecidableEq

structure NewBinInfo where
  name : List UInt8
  version : List UInt8
  length : Nat
  sha256 : List UInt8
  deriving DecidableEq

structure UpgradeFile where
  fileLength : Int
  rangeStart : Nat
  rangeEnd : Nat
  downloadedLength : Int
  couter : Nat
  deriving DecidableEq

def UpgradeFile.zero : UpgradeFile where
  fileLength := 0
  rangeStart := 0
  rangeEnd := 0
  downloadedLength := 0
  couter := 0

inductive UpgradeSignal where
  | upgradeEnter
  | upgradeExit (errorCode : Nat)
  | getUpgradeData
  | upgradeReconnectAgain
  | other (signal : Nat)
  deriving DecidableEq

inductive Halt where
  | nullPointer
  | endlessLoop
  deriving DecidableEq

/-- `image` is what the flash holds when the record is made. -/
inductive UpgradeLog where
  | flashed (sector : Nat) (ok : Bool)
  | request (rangeStart rangeEnd : Nat)
  | verified (bin : NewBinInfo)
  | newBinInfo (bin : NewBinInfo) (image : List UInt8)
  | sendUpgradeState (errorCode : Nat) (sequence : List UInt8)
  deriving DecidableEq

/-- The pointers `iotgo_upgrade_info`, `upgrade_http_buffer`, `download_sector_buffer` and
`upgrade_spro` are null where there is no record, or the flag is not set; `leaked` counts
the stream objects that live on without a pointer to them. -/
structure UpgradeState where
  upgradeFile : UpgradeFile
  flashSectorIndex : Nat
  started : Bool
  upgradeStartedFlag : Bool
  connectServerAgainCounter : Nat
  upgradeTimeout : Nat
  info : Option UpgradeInfo
  httpBuffer : Bool
  sectorBuffer : Bool
  spro : Bool
  leaked : Nat
  progressTimer : Bool
  enterTimer : Bool
  connectServerAgainTimer : Bool
  exitTimer : Bool
  inbox : List UpgradeSignal
  flash : Flash
  halted : Option Halt
  log : List UpgradeLog

def UpgradeState.initial (flash : Flash) : UpgradeState where
  upgradeFile := .zero
  flashSectorIndex := 0
  started := false
  upgradeStartedFlag := false
  connectServerAgainCounter := 0
  upgradeTimeout := 0
  info := none
  httpBuffer := false
  sectorBuffer := false
  spro := false
  leaked := 0
  progressTimer := false
  enterTimer := false
  connectServerAgainTimer := false
  exitTimer := false
  inbox := []
  flash := flash
  halted := none
  log := []

/-- What the system functions that a signal leads to return. -/
structure SystemReturns where
  sproMemory : Bool
  httpMemory : Bool
  sectorMemory : Bool
  connectOk : Bool
  sendOk : Bool

/-- Erasing and writing a sector; a failure leaves some bytes in it. -/
inductive FlashResult where
  | ok
  | error (left : Flash)

inductive UpgradeEvent where
  | request (info : UpgradeInfo) (memory : Bool)
  | enterTimer
  | handle (returns : SystemReturns)
  | connectServerAgainTimer (connectOk : Bool)
  | progressTimer
  | package (pdata : List UInt8) (len : Nat) (flag : Bool) (result : FlashResult)
  | connected
  | lost
  | post (signal : Nat)

section Functions

variable (board : Board) (state : UpgradeState)

def systemOsPost (signal : UpgradeSignal) : UpgradeState :=
  if state.inbox.length < coreQueueLength then
    { state with inbox := state.inbox ++ [signal] }
  else state

def halt (reason : Halt) : UpgradeState :=
  { state with halted := some reason }

def logged (entry : UpgradeLog) : UpgradeState :=
  { state with log := state.log ++ [entry] }

/-- `spi_flash_erase_sector` and `spi_flash_write` in `flashOneSector`. -/
def flashOneSector (flash : Flash) (sector : Nat) (src : List UInt8) : FlashResult → Flash
  | .ok => runOps [.erase sector, .write (sector * sectorSize) src] flash
  | .error left => fun address =>
      if address / sectorSize = sector then left address else flash address

/-- The sectors are counted in sixteen bits. -/
def verifyBody (flash : Flash) (startAddr size : Nat) (head : Nat × List UInt8) :
    LoopStep (Nat × List UInt8) :=
  if head.1 < size / sectorSize then
    .again ((head.1 + 1) % 65536,
      head.2 ++ readAt flash (startAddr + head.1 * sectorSize) sectorSize)
  else .exit (head.1,
    head.2 ++ readAt flash (startAddr + head.1 * sectorSize) (size % sectorSize))

/-- No result where the loop does not end; 65536 passes see every value of the index. -/
def verifyFlashData (flash : Flash) (startAddr size : Nat) (digestHex : List UInt8) :
    Option Bool :=
  match iterate (verifyBody flash startAddr size) 65536 (0, []) with
  | .again _ => none
  | .exit read => some (board.sha256Hex read.2 = digestHex)

/-- `upgrade_file.file_length` as `size`. -/
def fileSize : Nat :=
  uint32 state.upgradeFile.fileLength

def binInfo (info : UpgradeInfo) : NewBinInfo where
  name := info.name
  version := info.version
  length := fileSize state
  sha256 := info.sha256

/-- What follows a sector that has been stored. -/
def finishStore (info : UpgradeInfo) : UpgradeState :=
  if state.upgradeFile.fileLength ≤ state.upgradeFile.downloadedLength then
    match verifyFlashData board state.flash (info.sector * sectorSize) (fileSize state)
        info.sha256 with
    | none => halt state .endlessLoop
    | some true =>
        systemOsPost (logged state (.verified (binInfo state info))) (.upgradeExit upgradeErrorOk)
    | some false => systemOsPost state (.upgradeExit upgradeErrorDigest)
  else systemOsPost state .getUpgradeData

def storeSector (info : UpgradeInfo) : Nat :=
  uint16 (state.flashSectorIndex + info.sector)

/-- The sector is stored and counted. -/
def countStore (info : UpgradeInfo) (src : List UInt8) (len : Nat) : UpgradeState :=
  { logged state (.flashed (storeSector state info) true) with
    flash := flashOneSector state.flash (storeSector state info) src .ok
    flashSectorIndex := uint16 (state.flashSectorIndex + 1)
    upgradeFile := { state.upgradeFile with
      couter := uint16 (state.upgradeFile.couter + 1)
      downloadedLength := sint32 (state.upgradeFile.downloadedLength + len) } }

def failStore (info : UpgradeInfo) (src : List UInt8) (left : Flash) : UpgradeState :=
  systemOsPost
    { logged state (.flashed (storeSector state info) false) with
      flash := flashOneSector state.flash (storeSector state info) src (.error left) }
    (.upgradeExit upgradeErrorDownload)

def storeUpgradeDataToFlash (src : List UInt8) (len : Nat) (result : FlashResult) : UpgradeState :=
  match state.info with
  | none => halt state .nullPointer
  | some info =>
      match result with
      | .ok => finishStore board (countStore state info src len) info
      | .error left => failStore state info src left

end Functions

section Packages

def getContentLength (pdata : List UInt8) (len : Nat) : Int :=
  match strstr pdata (asciiBytes "Content-Length: ") with
  | none => -1
  | some t1 =>
      if len ≤ t1 then -1
      else
        match strstr (pdata.drop t1) (asciiBytes "\r\n") with
        | none => -1
        | some t2 =>
            if len ≤ t1 + t2 then -1
            else atoi (pdata.drop (t1 + (asciiBytes "Content-Length: ").length))

def getUserBinLength (pdata : List UInt8) (len : Nat) : Int :=
  match strstr pdata (asciiBytes "Content-Range") with
  | none => -1
  | some t1 =>
      if len ≤ t1 then -1
      else
        match strstr (pdata.drop t1) (asciiBytes "/") with
        | none => -1
        | some t2 =>
            if len ≤ t1 + t2 then -1
            else
              match strstr (pdata.drop (t1 + t2)) (asciiBytes "\r\n") with
              | none => -1
              | some t3 =>
                  if len ≤ t1 + t2 + t3 then -1 else atoi (pdata.drop (t1 + t2 + 1))

/-- The length of the data of a package and where it starts; none for a package that ends
in an error. -/
def packageData (pdata : List UInt8) (len : Nat) : Option (Nat × Nat) :=
  match strstr pdata (asciiBytes "HTTP/1.1 206 Partial Content\r\n") with
  | none => none
  | some t1 =>
      if len ≤ t1 then none
      else
        let pkgLen := uint16 (getContentLength (pdata.drop t1) len)
        if sectorSize < pkgLen then none
        else
          match strstr pdata (asciiBytes "\r\n\r\n") with
          | none => none
          | some t2 => if len ≤ t2 then none else some (pkgLen, t2 + 4)

/-- The buffer is set to ones before the data is copied. -/
def sectorImage (bytes : List UInt8) : List UInt8 :=
  bytes ++ List.replicate (sectorSize - bytes.length) 0xFF

/-- The data of a package that is stored. -/
def packageBytes (pdata : List UInt8) (found : Nat × Nat) : List UInt8 :=
  (pdata.drop found.2).take found.1

variable (board : Board) (state : UpgradeState)

/-- The file length is taken from the first package of a download. -/
def takeFileLength (pdata : List UInt8) (len : Nat) : UpgradeState :=
  if state.started then state
  else
    let length := getUserBinLength pdata len
    { state with
      started := length ≤ upgradeBinMaxLen
      upgradeFile := { state.upgradeFile with fileLength := length } }

def upgradeTCPSproOnePkgCb (pdata : List UInt8) (len : Nat) (flag : Bool) (result : FlashResult) :
    UpgradeState :=
  if flag then
    let measured := takeFileLength state pdata len
    if measured.started then
      match packageData pdata len with
      | none => systemOsPost measured (.upgradeExit upgradeErrorDownload)
      | some found =>
          if measured.sectorBuffer then
            storeUpgradeDataToFlash board measured (sectorImage (packageBytes pdata found)) found.1
              result
          else halt measured .nullPointer
    else systemOsPost measured (.upgradeExit upgradeErrorDownload)
  else systemOsPost state (.upgradeExit upgradeErrorDownload)

end Packages

section Task

variable (board : Board) (state : UpgradeState)

def connectToDownloadServer (connectOk : Bool) : UpgradeState :=
  match state.info with
  | none => halt state .nullPointer
  | some _ => if connectOk then state else systemOsPost state .upgradeReconnectAgain

/-- The buffers are freed and allocated again; a stream object that is there is forgotten. -/
def iotgoUpgradeMalloc (returns : SystemReturns) : UpgradeState :=
  { state with
    spro := returns.sproMemory
    leaked := if state.spro then state.leaked + 1 else state.leaked
    httpBuffer := returns.httpMemory
    sectorBuffer := returns.sectorMemory }

def resetDownload : UpgradeState :=
  { state with
    connectServerAgainCounter := 0
    started := false
    upgradeFile := .zero
    upgradeTimeout := 0 }

def iotgoUpgradeStart (returns : SystemReturns) : UpgradeState :=
  let connected :=
    connectToDownloadServer (resetDownload (iotgoUpgradeMalloc state returns)) returns.connectOk
  if connected.halted.isSome then connected
  else { connected with progressTimer := true, upgradeStartedFlag := true }

def rangeStart : Nat :=
  uint32 (state.upgradeFile.couter * 4096)

def rangeEnd : Nat :=
  if uint32 (state.upgradeFile.fileLength - 1) ≤ uint32 (rangeStart state + 4095) then
    uint32 (state.upgradeFile.fileLength - 1)
  else uint32 (rangeStart state + 4095)

def iotgoUpgradeDownload (sendOk : Bool) : UpgradeState :=
  let ranged := { state with
    upgradeFile := { state.upgradeFile with
      rangeStart := rangeStart state
      rangeEnd := rangeEnd state } }
  if state.httpBuffer = true ∧ state.info.isSome = true then
    let asked := logged ranged (.request (rangeStart state) (rangeEnd state))
    if sendOk then asked else systemOsPost asked .upgradeReconnectAgain
  else halt ranged .nullPointer

def iotgoUpgradeReconnect : UpgradeState :=
  if state.upgradeStartedFlag then
    let counted := { state with
      connectServerAgainCounter := (state.connectServerAgainCounter + 1) % 256 }
    if counted.connectServerAgainCounter < 4 then
      { counted with connectServerAgainTimer := true }
    else systemOsPost counted (.upgradeExit upgradeErrorDownload)
  else state

/-- `iotgo_flash_param.new_bin_info` as `iotgoUpgradeStop` stores it. -/
def recordNewBin (info : UpgradeInfo) : UpgradeState :=
  logged state (.newBinInfo (binInfo state info)
    (readAt state.flash (info.sector * sectorSize) (fileSize state)))

def iotgoUpgradeFree : UpgradeState :=
  { state with httpBuffer := false, sectorBuffer := false, info := none }

/-- The record is read in every case, for its sequence number. -/
def iotgoUpgradeStop (errorCode : Nat) : UpgradeState :=
  match state.info with
  | none => halt state .nullPointer
  | some info =>
      let recorded := if errorCode = upgradeErrorOk then recordNewBin state info else state
      let told := logged recorded (.sendUpgradeState errorCode info.sequence)
      iotgoUpgradeFree { resetDownload told with
        upgradeStartedFlag := false
        connectServerAgainTimer := false
        progressTimer := false
        flashSectorIndex := 0
        spro := false
        exitTimer := told.exitTimer || (errorCode = upgradeErrorOk && info.autoRestart) }

def cbUpgradeTimer : UpgradeState :=
  let file := state.upgradeFile
  let counted := { state with
    progressTimer := state.progressTimer && file.downloadedLength ≠ file.fileLength
    upgradeTimeout := uint16 (state.upgradeTimeout + 1) }
  if upgradeTimeoutLimit ≤ counted.upgradeTimeout ∧ file.fileLength ≠ file.downloadedLength ∧
      file.fileLength ≠ 0 then
    systemOsPost counted (.upgradeExit upgradeErrorDownload)
  else counted

/-- The record of a request that has passed its checks; the one before it is freed. -/
def iotgoUpgradeProcessRequest (info : UpgradeInfo) (memory : Bool) : UpgradeState :=
  if memory then
    { state with
      info := some { info with sector := binStartSector board.currentBin }
      enterTimer := true }
  else halt { state with info := none } .nullPointer

def taskIoTgoNetworkCenter (returns : SystemReturns) : UpgradeSignal → UpgradeState
  | .upgradeEnter => iotgoUpgradeStart state returns
  | .upgradeExit errorCode => iotgoUpgradeStop state errorCode
  | .getUpgradeData => iotgoUpgradeDownload state returns.sendOk
  | .upgradeReconnectAgain => iotgoUpgradeReconnect state
  | .other _ => state

/-- A timer fires where it is armed, a signal is handled where there is one, and a package
comes from a stream object. -/
def upgradeExec : UpgradeEvent → Option UpgradeState
  | .request info memory => some (iotgoUpgradeProcessRequest board state info memory)
  | .enterTimer =>
      if state.enterTimer then some (systemOsPost { state with enterTimer := false } .upgradeEnter)
      else none
  | .handle returns =>
      match state.inbox with
      | [] => none
      | signal :: rest => some (taskIoTgoNetworkCenter { state with inbox := rest } returns signal)
  | .connectServerAgainTimer connectOk =>
      if state.connectServerAgainTimer then
        some (connectToDownloadServer { state with connectServerAgainTimer := false } connectOk)
      else none
  | .progressTimer => if state.progressTimer then some (cbUpgradeTimer state) else none
  | .package pdata len flag result =>
      if state.spro = true ∨ 0 < state.leaked then
        some (upgradeTCPSproOnePkgCb board state pdata len flag result)
      else none
  | .connected => some (systemOsPost state .getUpgradeData)
  | .lost => some (systemOsPost state .upgradeReconnectAgain)
  | .post signal => some (systemOsPost state (.other signal))

/-- A device that has halted takes no further step. -/
def upgradeStep (state : UpgradeState) (event : UpgradeEvent) (next : UpgradeState) : Prop :=
  state.halted = none ∧ upgradeExec board state event = some next

end Task

end IotgoFirmware.Upgrade.UpgradeSession
