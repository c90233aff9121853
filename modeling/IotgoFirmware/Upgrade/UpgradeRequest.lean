import IotgoFirmware.Core.PkgScan
import IotgoFirmware.Upgrade.DownloadUrl
import IotgoFirmware.Upgrade.NewBinCheck

/-!
# The request for an upgrade

`iotgoUpgradeProcessRequest` takes a request of the server apart: a list of images, of which the
one that is not running is looked for, and the model and the version that the request is for. A
request that is refused is told why; of one that passes a record is made for the download.
-/

namespace IotgoFirmware.Upgrade.UpgradeRequest

open IotgoFirmware.Core.PkgScan
open IotgoFirmware.Library.CFaults
open IotgoFirmware.Library.CStrings
open IotgoFirmware.Library.JsonDocuments
open IotgoFirmware.Upgrade.DownloadUrl
open IotgoFirmware.Upgrade.NewBinCheck
open IotgoFirmware.Upgrade.UpgradeSession
  (Board UserBin UpgradeInfo UpgradeState UpgradeEvent binStartSector upgradeExec)

set_option autoImplicit false

section Images

/-- `IoTgoUpgradeBinInfo`: the name that is looked for, and what is found. -/
structure BinInfo where
  name : List UInt8
  sha256 : List UInt8
  dlurl : List UInt8
deriving DecidableEq

/-- The local variables of `procOneBinListInfo`; `binName` is set where its flag is. -/
structure BinFields where
  binInfo : BinInfo
  binName : Option (List UInt8)
  sha256Flag : Bool
  dlurlFlag : Bool
deriving DecidableEq

/-- One name of an image; `none` where its value is no string, which ends the loop. -/
def readBinName (fields : BinFields) (name : List UInt8) (rest : List JsonToken) :
    Option (BinFields × Nat) :=
  if Matches name (asciiBytes "name") then
    (jsonIoTgoGetString rest 20).map fun text => ({ fields with binName := some text }, 2)
  else if Matches name (asciiBytes "digest") then
    (jsonIoTgoGetString rest 65).map fun text =>
      ({ fields with binInfo := { fields.binInfo with sha256 := text }, sha256Flag := true }, 2)
  else if Matches name (asciiBytes "downloadUrl") then
    (jsonIoTgoGetString rest 150).map fun text =>
      ({ fields with binInfo := { fields.binInfo with dlurl := text }, dlurlFlag := true }, 2)
  else some (fields, 0)

def behind {Result : Type} (scanned : Result × Nat) : Result × Nat :=
  (scanned.1, scanned.2 + 1)

/-- The loop of `procOneBinListInfo`, with the elements it consumes; `skip` elements are
consumed already. -/
def scanBin : Nat → BinFields → List JsonToken → BinFields × Nat
  | _, fields, [] => (fields, 0)
  | skip + 1, fields, _ :: rest => behind (scanBin skip fields rest)
  | 0, fields, .arrayEnd :: _ => (fields, 1)
  | 0, fields, .objectEnd :: _ => (fields, 1)
  | 0, fields, .failed :: _ => (fields, 1)
  | 0, fields, .pairName name :: rest =>
      match readBinName fields name rest with
      | some (next, consumed) => behind (scanBin consumed next rest)
      | none => (fields, 3)
  | 0, fields, _ :: rest => behind (scanBin 0 fields rest)

/-- The image is the one that is looked for, with a digest of 64 digits. -/
def binMatches (fields : BinFields) : Bool :=
  fields.sha256Flag && fields.dlurlFlag && decide (fields.binName = some fields.binInfo.name) &&
    decide (fields.binInfo.sha256.length = 64)

def procOneBinListInfo (binInfo : BinInfo) (tokens : List JsonToken) :
    (Bool × BinInfo) × Nat :=
  let (fields, consumed) := scanBin 0 ⟨binInfo, none, false, false⟩ tokens
  ((binMatches fields, fields.binInfo), consumed)

def scanList : Nat → BinInfo → List JsonToken → (Bool × BinInfo) × Nat
  | _, binInfo, [] => ((false, binInfo), 0)
  | skip + 1, binInfo, _ :: rest => behind (scanList skip binInfo rest)
  | 0, binInfo, .arrayEnd :: _ => ((false, binInfo), 1)
  | 0, binInfo, .failed :: _ => ((false, binInfo), 1)
  | 0, binInfo, .object :: rest =>
      match procOneBinListInfo binInfo rest with
      | ((true, found), consumed) => ((true, found), consumed + 1)
      | ((false, left), consumed) => behind (scanList consumed left rest)
  | 0, binInfo, _ :: rest => behind (scanList 0 binInfo rest)

def jsonIoTgoProcBinList (binInfo : BinInfo) : List JsonToken → (Bool × BinInfo) × Nat
  | .pair :: .array :: rest =>
      let (result, consumed) := scanList 0 binInfo rest
      (result, consumed + 2)
  | _ => ((false, binInfo), 2)

end Images

section Requests

structure UpgradeDevice where
  currentBin : UserBin
  deviceModel : List UInt8
  fmVersion : List UInt8

/-- The local variables of `iotgoUpgradeProcessRequest`; a field is set where its flag is, and
`userbin` has what `jsonIoTgoProcBinList` returned. -/
structure RequestFields where
  binInfo : BinInfo
  userbin : Option Bool
  serverSequence : Option (List UInt8)
  model : Option (List UInt8)
  version : Option (List UInt8)
  autoRestart : Option Int
deriving DecidableEq

def RequestFields.initial (currentBin : UserBin) : RequestFields where
  binInfo := ⟨otherName currentBin, [], []⟩
  userbin := none
  serverSequence := none
  model := none
  version := none
  autoRestart := none

/-- A value of the wrong type is consumed, and the flag not set. -/
def takeField {Value : Type} (fields : RequestFields) (set : Value → RequestFields) :
    Option Value → RequestFields × Nat
  | some value => (set value, 2)
  | none => (fields, 2)

def readRequestName (fields : RequestFields) (name : List UInt8) (rest : List JsonToken) :
    RequestFields × Nat :=
  if fields.userbin = none ∧ Matches name (asciiBytes "binList") then
    let ((ret, binInfo), consumed) := jsonIoTgoProcBinList fields.binInfo rest
    ({ fields with binInfo := binInfo, userbin := some ret }, consumed)
  else if fields.serverSequence = none ∧ Matches name (asciiBytes "sequence") then
    takeField fields (fun text => { fields with serverSequence := some text })
      (jsonIoTgoGetString rest 51)
  else if fields.model = none ∧ Matches name (asciiBytes "model") then
    takeField fields (fun text => { fields with model := some text })
      (jsonIoTgoGetString rest 21)
  else if fields.version = none ∧ Matches name (asciiBytes "version") then
    takeField fields (fun text => { fields with version := some text })
      (jsonIoTgoGetString rest 6)
  else if fields.autoRestart = none ∧ Matches name (asciiBytes "autoRestart") then
    takeField fields (fun value => { fields with autoRestart := some value })
      (jsonIoTgoGetNumber rest)
  else (fields, 0)

/-- The loop over the elements; `skip` elements are consumed already. -/
def scanRequest : Nat → RequestFields → List JsonToken → RequestFields
  | _, fields, [] => fields
  | skip + 1, fields, _ :: rest => scanRequest skip fields rest
  | 0, fields, .failed :: _ => fields
  | 0, fields, .pairName name :: rest =>
      let (next, consumed) := readRequestName fields name rest
      scanRequest consumed next rest
  | 0, fields, _ :: rest => scanRequest 0 fields rest

def modelMatch (device : UpgradeDevice) (model : List UInt8) : Bool :=
  cString device.deviceModel = model

def upgradeErrorOk : Nat := 0
def upgradeErrorBadreq : Nat := 400
def upgradeErrorModel : Nat := 406
def upgradeErrorVersion : Nat := 410

/-- What is replied to the server, with the record of a request that passes. -/
structure RequestReply where
  errorCode : Nat
  sequence : List UInt8
  info : Option UpgradeInfo
deriving DecidableEq

/-- The record, zeroed before it is filled; `auto_restart` is a `bool` of one byte. -/
def upgradeInfo (device : UpgradeDevice) (fields : RequestFields) (version : List UInt8)
    (autoRestart : Int) : Checked UpgradeInfo := do
  let address ← parseDownloadURLToUpgradeInfo fields.binInfo.dlurl
    ⟨0, List.replicate 50 0, 0, []⟩
  return {
    name := fields.binInfo.name
    version := version
    sha256 := fields.binInfo.sha256
    sequence := fields.serverSequence.getD []
    host := cString address.host
    port := address.port.toNat
    path := address.path
    sector := binStartSector device.currentBin
    autoRestart := decide (autoRestart % 256 ≠ 0) }

/-- Behind the loop; `memory` tells whether there is memory for the record. -/
def replyRequest (device : UpgradeDevice) (memory : Bool) (fields : RequestFields) :
    Checked RequestReply :=
  let refused (errorCode : Nat) : Checked RequestReply :=
    .ok ⟨errorCode, fields.serverSequence.getD [], none⟩
  match fields.userbin, fields.serverSequence, fields.version, fields.autoRestart with
  | some true, some sequence, some version, some autoRestart =>
      if ¬ (fields.model.map (modelMatch device)).getD false then refused upgradeErrorModel
      else if ¬ verifyFirmwareVersion device.fmVersion version then refused upgradeErrorVersion
      else if ¬ memory then .error .null
      else do
        let info ← upgradeInfo device fields version autoRestart
        return ⟨upgradeErrorOk, sequence, some info⟩
  | _, _, _, _ => refused upgradeErrorBadreq

def iotgoUpgradeProcessRequest (device : UpgradeDevice) (memory : Bool)
    (tokens : List JsonToken) : Checked RequestReply :=
  replyRequest device memory (scanRequest 0 (.initial device.currentBin) tokens)

end Requests

end IotgoFirmware.Upgrade.UpgradeRequest
