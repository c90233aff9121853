import IotgoFirmware.Library.CIntegers
import IotgoFirmware.Library.CStrings
import IotgoFirmware.Library.JsonDocuments

/-!
# The type of a package

`parseTypeOfIoTgoPkg` of `iotgo_pconn.c`: one loop over the elements that
`jsonparse_next` reports, which keeps the first value found for each of fifteen
names, and a chain of comparisons over what was kept. `jsonparse` belongs to the
SDK; it stands here for what it reports of a string, call by call, the names, strings
and numbers with the value that the other functions of the parser read. A name is compared by
`jsonparse_strcmp_value`, which looks at no more bytes than the name has.
-/

namespace IotgoFirmware.Core.PkgScan

open IotgoFirmware.Library.CIntegers
open IotgoFirmware.Library.CStrings
open IotgoFirmware.Library.JsonDocuments

set_option autoImplicit false

structure IoTgoDevice where
  deviceid : List UInt8
  factoryApikey : List UInt8
  ownerUuid : List UInt8

/-- The names the scan looks for, in the order of its comparisons. -/
inductive PkgKey where
  | apikey
  | deviceid
  | error
  | action
  | params
  | reason
  | date
  | config
  | hb
  | hbInterval
  | regInterval
  | ip
  | port
  | cmd
  | sequence
deriving DecidableEq

def PkgKey.all : List PkgKey :=
  [.apikey, .deviceid, .error, .action, .params, .reason, .date, .config, .hb, .hbInterval,
    .regInterval, .ip, .port, .cmd, .sequence]

def PkgKey.name : PkgKey → List UInt8
  | .apikey => asciiBytes "apikey"
  | .deviceid => asciiBytes "deviceid"
  | .error => asciiBytes "error"
  | .action => asciiBytes "action"
  | .params => asciiBytes "params"
  | .reason => asciiBytes "reason"
  | .date => asciiBytes "date"
  | .config => asciiBytes "config"
  | .hb => asciiBytes "hb"
  | .hbInterval => asciiBytes "hbInterval"
  | .regInterval => asciiBytes "regInterval"
  | .ip => asciiBytes "IP"
  | .port => asciiBytes "port"
  | .cmd => asciiBytes "cmd"
  | .sequence => asciiBytes "sequence"

/-- The local variables of the scan; a field is set where its flag is. -/
structure PkgFields where
  apikey : Option (List UInt8)
  deviceid : Option (List UInt8)
  error : Option Int
  action : Option (List UInt8)
  params : Bool
  reason : Option (List UInt8)
  date : Option (List UInt8)
  config : Bool
  hb : Option Int
  hbi : Option Int
  regi : Option Int
  serverIp : Option (List UInt8)
  serverPort : Option Int
  cmd : Option (List UInt8)
  serverSequence : Option (List UInt8)
deriving DecidableEq

def PkgFields.initial : PkgFields where
  apikey := none
  deviceid := none
  error := none
  action := none
  params := false
  reason := none
  date := none
  config := false
  hb := none
  hbi := none
  regi := none
  serverIp := none
  serverPort := none
  cmd := none
  serverSequence := none

def PkgFields.flag (fields : PkgFields) : PkgKey → Bool
  | .apikey => fields.apikey.isSome
  | .deviceid => fields.deviceid.isSome
  | .error => fields.error.isSome
  | .action => fields.action.isSome
  | .params => fields.params
  | .reason => fields.reason.isSome
  | .date => fields.date.isSome
  | .config => fields.config
  | .hb => fields.hb.isSome
  | .hbInterval => fields.hbi.isSome
  | .regInterval => fields.regi.isSome
  | .ip => fields.serverIp.isSome
  | .port => fields.serverPort.isSome
  | .cmd => fields.cmd.isSome
  | .sequence => fields.serverSequence.isSome

/-- `jsonIoTgoGetString` consumes two elements, and fails unless they are `:` and a
string; a longer string is cut to the buffer of `len` bytes. -/
def jsonIoTgoGetString (rest : List JsonToken) (len : Nat) : Option (List UInt8) :=
  match rest with
  | .pair :: .string text :: _ => some (text.take (len - 1))
  | _ => none

def jsonIoTgoGetNumber (rest : List JsonToken) : Option Int :=
  match rest with
  | .pair :: .number value :: _ => some value
  | _ => none

/-- The type of `params` has to be an object, an array or a number. -/
def jsonParams (rest : List JsonToken) : Option Unit :=
  match rest with
  | .pair :: .object :: _ => some ()
  | .pair :: .array :: _ => some ()
  | .pair :: .number _ :: _ => some ()
  | _ => none

/-- A field of the wrong type ends the scan. -/
def readField {Value : Type} (fields : PkgFields) (set : Value → PkgFields) :
    Option Value → Except PkgFields (PkgFields × Nat)
  | some value => .ok (set value, 2)
  | none => .error fields

/-- The branch of the scan for one name. That of `config` consumes nothing, and that of
`sequence` goes on after a value of the wrong type. -/
def readKey (fields : PkgFields) (rest : List JsonToken) :
    PkgKey → Except PkgFields (PkgFields × Nat)
  | .apikey =>
      readField fields (fun text => { fields with apikey := some text })
        (jsonIoTgoGetString rest 37)
  | .deviceid =>
      readField fields (fun text => { fields with deviceid := some text })
        (jsonIoTgoGetString rest 11)
  | .error =>
      readField fields (fun value => { fields with error := some value }) (jsonIoTgoGetNumber rest)
  | .action =>
      readField fields (fun text => { fields with action := some text })
        (jsonIoTgoGetString rest 10)
  | .params => readField fields (fun _ => { fields with params := true }) (jsonParams rest)
  | .reason =>
      readField fields (fun text => { fields with reason := some text })
        (jsonIoTgoGetString rest 50)
  | .date =>
      readField fields (fun text => { fields with date := some text }) (jsonIoTgoGetString rest 25)
  | .config => .ok ({ fields with config := true }, 0)
  | .hb =>
      readField fields (fun value => { fields with hb := some value }) (jsonIoTgoGetNumber rest)
  | .hbInterval =>
      readField fields (fun value => { fields with hbi := some value }) (jsonIoTgoGetNumber rest)
  | .regInterval =>
      readField fields (fun value => { fields with regi := some value }) (jsonIoTgoGetNumber rest)
  | .ip =>
      readField fields (fun text => { fields with serverIp := some text })
        (jsonIoTgoGetString rest 51)
  | .port =>
      readField fields (fun value => { fields with serverPort := some value })
        (jsonIoTgoGetNumber rest)
  | .cmd =>
      readField fields (fun text => { fields with cmd := some text }) (jsonIoTgoGetString rest 20)
  | .sequence =>
      match jsonIoTgoGetString rest 51 with
      | some text => .ok ({ fields with serverSequence := some text }, 2)
      | none => .ok (fields, 2)

/-- The branch a name takes: the first whose flag is not set and whose name it begins. -/
def branchOf (fields : PkgFields) (name : List UInt8) : Option PkgKey :=
  PkgKey.all.find? fun key => !fields.flag key && decide (Matches name key.name)

def readName (fields : PkgFields) (name : List UInt8) (rest : List JsonToken) :
    Except PkgFields (PkgFields × Nat) :=
  match branchOf fields name with
  | some key => readKey fields rest key
  | none => .ok (fields, 0)

def scanFields (tokens : List JsonToken) : PkgFields :=
  scanLast readName .initial tokens

inductive IoTgoPkgType where
  | invalid
  | respOfInit
  | respOfUpdate
  | respOfQuery
  | respOfDate
  | reqOfUpdate
  | reqOfQuery
  | reqOfUpgrade
  | reqOfRedirect
  | reqOfNotifyConfig
  | retOfRestart
  | errorOfForbidden
  | respOfInitFailed
deriving DecidableEq

/-- What `parseTypeOfIoTgoPkg` changes besides returning a type. -/
inductive PkgEffect where
  | serverSequence (text : List UInt8)
  | serverInfo (host : List UInt8) (port : Int)
  | notifyConfig (hb hbi : Int)
  | ownerUuid (apikey : List UInt8)
  | regInterval (regi : Nat)
deriving DecidableEq

/-- The comparison most branches begin with: the package names the owner and the
device. -/
def FromOwner (device : IoTgoDevice) (fields : PkgFields) : Prop :=
  fields.apikey = some device.ownerUuid ∧ fields.deviceid = some device.deviceid

instance (device : IoTgoDevice) (fields : PkgFields) : Decidable (FromOwner device fields) :=
  inferInstanceAs (Decidable (_ ∧ _))

def Acting (fields : PkgFields) (action : String) : Prop :=
  fields.action = some (asciiBytes action)

instance (fields : PkgFields) (action : String) : Decidable (Acting fields action) :=
  inferInstanceAs (Decidable (_ = _))

/-- A key as long as the factory key, and another. -/
def OwnerKey (device : IoTgoDevice) (fields : PkgFields) : Prop :=
  fields.apikey.isSome ∧ (fields.apikey.getD []).length = device.factoryApikey.length ∧
    fields.apikey ≠ some device.factoryApikey

instance (device : IoTgoDevice) (fields : PkgFields) : Decidable (OwnerKey device fields) :=
  inferInstanceAs (Decidable (_ ∧ _))

def initConfig (fields : PkgFields) : List PkgEffect :=
  if fields.config ∧ fields.hb.isSome ∧ fields.hbi.isSome then
    [.notifyConfig (fields.hb.getD 0) (fields.hbi.getD 0)]
  else []

def pkgTypeOf (device : IoTgoDevice) (fields : PkgFields) : IoTgoPkgType × List PkgEffect :=
  if FromOwner device fields ∧ Acting fields "update" ∧ fields.params then (.reqOfUpdate, [])
  else if FromOwner device fields ∧ Acting fields "upgrade" ∧ fields.params then
    (.reqOfUpgrade, [])
  else if FromOwner device fields ∧ Acting fields "restart" then (.retOfRestart, [])
  else if FromOwner device fields ∧ Acting fields "redirect" ∧ fields.serverIp.isSome ∧
      fields.serverPort.isSome then
    (.reqOfRedirect, [.serverInfo (fields.serverIp.getD []) (fields.serverPort.getD 0)])
  else if FromOwner device fields ∧ Acting fields "notify" ∧
      fields.cmd = some (asciiBytes "config") ∧ fields.hb.isSome ∧ fields.hbi.isSome then
    (.reqOfNotifyConfig, [.notifyConfig (fields.hb.getD 0) (fields.hbi.getD 0)])
  else if FromOwner device fields ∧ Acting fields "queryDev" ∧ fields.params then
    (.reqOfQuery, [])
  else if FromOwner device fields ∧ fields.error = some 0 ∧ fields.params then (.respOfQuery, [])
  else if FromOwner device fields ∧ fields.error = some 0 ∧ ¬ fields.params ∧
      fields.date = none then
    (.respOfUpdate, [])
  else if FromOwner device fields ∧ fields.error = some 0 ∧ fields.date.isSome then
    (.respOfDate, [])
  else if OwnerKey device fields ∧ fields.deviceid = some device.deviceid ∧
      fields.error = some 0 ∧ ¬ fields.params then
    (.respOfInit, .ownerUuid (fields.apikey.getD []) :: initConfig fields)
  else if fields.error = some 404 ∧ fields.apikey = some device.factoryApikey ∧
      fields.deviceid = some device.deviceid then
    (.respOfInitFailed, if let some regi := fields.regi then [.regInterval (uint32 regi)] else [])
  else if fields.error = some 403 ∧ FromOwner device fields then (.errorOfForbidden, [])
  else (.invalid, [])

/-- The sequence is copied as soon as the scan has it. -/
def sequenceEffect (fields : PkgFields) : List PkgEffect :=
  match fields.serverSequence with
  | some text => [.serverSequence text]
  | none => []

def parseTypeOfIoTgoPkg (jsonparse : List UInt8 → List JsonToken) (device : IoTgoDevice)
    (data : List UInt8) : IoTgoPkgType × List PkgEffect :=
  let fields := scanFields (jsonparse (cString data))
  ((pkgTypeOf device fields).1, sequenceEffect fields ++ (pkgTypeOf device fields).2)

section Branches

variable {fields : PkgFields} {name : List UInt8} {key : PkgKey}

theorem mem_all (key : PkgKey) : key ∈ PkgKey.all := by
  cases key <;> decide

theorem branch_none_iff :
    branchOf fields name = none ↔
      ∀ key, fields.flag key = false → ¬ Matches name key.name := by
  unfold branchOf
  rw [List.find?_eq_none]
  constructor
  · intro closed key unset named
    have missed := closed key (mem_all key)
    rw [unset, decide_eq_true named] at missed
    exact missed rfl
  · intro closed key _ found
    rw [Bool.and_eq_true, Bool.not_eq_true', decide_eq_true_eq] at found
    exact closed key found.1 found.2

theorem branch_matches (found : branchOf fields name = some key) : Matches name key.name := by
  have chosen := List.find?_some found
  rw [Bool.and_eq_true, decide_eq_true_eq] at chosen
  exact chosen.2

/-- No other name begins as `params` does. -/
theorem params_matches (named : Matches PkgKey.params.name key.name) : key = .params := by
  have checked : ∀ key ∈ PkgKey.all, Matches PkgKey.params.name key.name → key = .params := by
    decide
  exact checked key (mem_all key) named

theorem get_string_sees (head : JsonToken) (more : List JsonToken) (len : Nat) :
    jsonIoTgoGetString (.pair :: head :: more) len = jsonIoTgoGetString [.pair, head] len := by
  cases head <;> rfl

theorem get_number_sees (head : JsonToken) (more : List JsonToken) :
    jsonIoTgoGetNumber (.pair :: head :: more) = jsonIoTgoGetNumber [.pair, head] := by
  cases head <;> rfl

theorem params_sees (head : JsonToken) (more : List JsonToken) :
    jsonParams (.pair :: head :: more) = jsonParams [.pair, head] := by
  cases head <;> rfl

theorem read_key_sees (fields : PkgFields) (head : JsonToken) (more : List JsonToken)
    (key : PkgKey) :
    readKey fields (.pair :: head :: more) key = readKey fields [.pair, head] key := by
  cases key <;>
    simp only [readKey, get_string_sees head more, get_number_sees head more,
      params_sees head more]

theorem read_field_ok {Value : Type} {set : Value → PkgFields} {read : Option Value}
    {next : PkgFields} {consumed : Nat}
    (result : readField fields set read = .ok (next, consumed)) :
    consumed = 2 ∧ ∃ value, next = set value := by
  cases read with
  | none => cases result
  | some value =>
      cases result
      exact ⟨rfl, value, rfl⟩

/-- What a branch that goes on does: at most two elements are consumed, and no flag is
cleared. -/
theorem read_key_ok {rest : List JsonToken} {next : PkgFields} {consumed : Nat}
    (result : readKey fields rest key = .ok (next, consumed)) :
    consumed ≤ 2 ∧ ∀ other, fields.flag other = true → next.flag other = true := by
  cases key with
  | config =>
      cases result
      refine ⟨Nat.zero_le 2, fun other held => ?_⟩
      cases other <;> first | exact held | rfl
  | sequence =>
      rw [readKey] at result
      cases found : jsonIoTgoGetString rest 51 with
      | some text =>
          rw [found] at result
          cases result
          refine ⟨Nat.le_refl 2, fun other held => ?_⟩
          cases other <;> first | exact held | rfl
      | none =>
          rw [found] at result
          cases result
          exact ⟨Nat.le_refl 2, fun other held => held⟩
  | _ =>
      obtain ⟨rfl, value, rfl⟩ := read_field_ok result
      refine ⟨Nat.le_refl 2, fun other held => ?_⟩
      cases other <;> first | exact held | rfl

theorem read_name_head : ReadsHead readName where
  sees fields name head more := by
    unfold readName
    cases branchOf fields name with
    | none => rfl
    | some key => exact read_key_sees fields head more key
  consumes fields name rest next consumed result := by
    unfold readName at result
    cases found : branchOf fields name with
    | none =>
        rw [found] at result
        cases result
        exact Nat.zero_le 2
    | some key =>
        rw [found] at result
        exact (read_key_ok result).1

end Branches

end IotgoFirmware.Core.PkgScan
