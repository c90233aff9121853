import IotgoFirmware.Library.PullParser
import IotgoFirmware.Upgrade.UpgradeRequest

/-!
# What an accepted request offers

Of a request that is accepted, the name, the digest and the URL stand in one object, whatever
else the request holds: the values of an image that does not match are left in the variables,
and none of them is taken.
-/

namespace IotgoFirmware.Upgrade.UpgradeOffers

open IotgoFirmware.Core.PkgScan
open IotgoFirmware.Library.CFaults
open IotgoFirmware.Library.CStrings
open IotgoFirmware.Library.JsonDocuments
open IotgoFirmware.Library.PullParser
open IotgoFirmware.Upgrade.DownloadUrl
open IotgoFirmware.Upgrade.NewBinCheck
open IotgoFirmware.Upgrade.UpgradeRequest
open IotgoFirmware.Upgrade.UpgradeSession
  (Board UpgradeInfo UpgradeState binStartSector upgradeExec)

set_option autoImplicit false

/-- A name, or a beginning of it, stands with its value among the elements. -/
def Reads (tokens : List JsonToken) (name : String) (value : JsonToken) : Prop :=
  ∃ given, Matches given (asciiBytes name) ∧ [.pairName given, .pair, value] <:+: tokens

/-- No object and no array ends among the elements. -/
def Open (tokens : List JsonToken) : Prop :=
  .objectEnd ∉ tokens ∧ .arrayEnd ∉ tokens

/-- An object begins among the elements, and `inside` is the beginning of what it holds. -/
def Begins (tokens inside : List JsonToken) : Prop :=
  ∃ before behind, tokens = before ++ .object :: (inside ++ behind) ∧ Open inside

/-- A text is read in the elements, and cut to a buffer. -/
def Cut (tokens : List JsonToken) (name : String) (size : Nat) (text : List UInt8) : Prop :=
  ∃ whole, Reads tokens name (.string whole) ∧ text = whole.take (size - 1)

section Images

variable {tokens rest inside : List JsonToken} {fields next : BinFields} {binInfo : BinInfo}

/-- What is set stands in the elements. -/
structure ReadFrom (tokens : List JsonToken) (fields : BinFields) : Prop where
  binName : ∀ text, fields.binName = some text → Cut tokens "name" 20 text
  sha256 : fields.sha256Flag = true → Cut tokens "digest" 65 fields.binInfo.sha256
  dlurl : fields.dlurlFlag = true → Cut tokens "downloadUrl" 150 fields.binInfo.dlurl

theorem reads_append {name : String} {value : JsonToken} (front back : List JsonToken)
    (reads : Reads front name value) : Reads (front ++ back) name value := by
  obtain ⟨given, named, inside⟩ := reads
  exact ⟨given, named, inside.trans (List.prefix_append front back).isInfix⟩

theorem cut_append {name : String} {size : Nat} {text : List UInt8} (front back : List JsonToken)
    (cut : Cut front name size text) : Cut (front ++ back) name size text := by
  obtain ⟨whole, reads, same⟩ := cut
  exact ⟨whole, reads_append front back reads, same⟩

theorem read_from_append (back : List JsonToken) (read : ReadFrom tokens fields) :
    ReadFrom (tokens ++ back) fields where
  binName text set := cut_append tokens back (read.binName text set)
  sha256 set := cut_append tokens back (read.sha256 set)
  dlurl set := cut_append tokens back (read.dlurl set)

theorem string_of_get {size : Nat} {text : List UInt8}
    (found : jsonIoTgoGetString rest size = some text) :
    ∃ whole behind, rest = .pair :: .string whole :: behind ∧ text = whole.take (size - 1) := by
  unfold jsonIoTgoGetString at found
  split at found
  · rename_i whole behind
    cases found
    exact ⟨whole, behind, rfl, rfl⟩
  · cases found

theorem number_of_get {value : Int} (found : jsonIoTgoGetNumber rest = some value) :
    ∃ behind, rest = .pair :: .number value :: behind := by
  unfold jsonIoTgoGetNumber at found
  split at found
  · rename_i value behind
    cases found
    exact ⟨behind, rfl⟩
  · cases found

/-- A text that is read is the last thing in the elements up to it. -/
theorem cut_of_get {size : Nat} {text given : List UInt8} {name : String}
    (named : Matches given (asciiBytes name)) (found : jsonIoTgoGetString rest size = some text) :
    Cut (tokens ++ .pairName given :: rest.take 2) name size text ∧ Open (rest.take 2) := by
  obtain ⟨whole, behind, rfl, same⟩ := string_of_get found
  refine ⟨⟨whole, ⟨given, named, tokens, [], ?_⟩, same⟩, ?_⟩
  · rw [List.append_nil]
    rfl
  · constructor
    · simp
    · simp

/-- A name of an image is read from the elements up to its value. -/
theorem read_bin_name {name : List UInt8} {consumed : Nat} (read : ReadFrom tokens fields)
    (taken : readBinName fields name rest = some (next, consumed)) :
    ReadFrom (tokens ++ .pairName name :: rest.take consumed) next ∧
      Open (rest.take consumed) ∧ next.binInfo.name = fields.binInfo.name := by
  unfold readBinName at taken
  split at taken
  · rename_i named
    obtain ⟨text, found, same⟩ := Option.map_eq_some_iff.1 taken
    cases same
    obtain ⟨cut, opens⟩ := @cut_of_get tokens rest 20 text name "name" named found
    have kept := read_from_append (.pairName name :: rest.take 2) read
    refine ⟨⟨fun other set => ?_, kept.sha256, kept.dlurl⟩, opens, rfl⟩
    cases set
    exact cut
  split at taken
  · rename_i named
    obtain ⟨text, found, same⟩ := Option.map_eq_some_iff.1 taken
    cases same
    obtain ⟨cut, opens⟩ := @cut_of_get tokens rest 65 text name "digest" named found
    have kept := read_from_append (.pairName name :: rest.take 2) read
    exact ⟨⟨kept.binName, fun _ => cut, kept.dlurl⟩, opens, rfl⟩
  split at taken
  · rename_i named
    obtain ⟨text, found, same⟩ := Option.map_eq_some_iff.1 taken
    cases same
    obtain ⟨cut, opens⟩ := @cut_of_get tokens rest 150 text name "downloadUrl" named found
    have kept := read_from_append (.pairName name :: rest.take 2) read
    exact ⟨⟨kept.binName, kept.sha256, fun _ => cut⟩, opens, rfl⟩
  · cases taken
    exact ⟨read_from_append _ read, ⟨List.not_mem_nil, List.not_mem_nil⟩, rfl⟩

/-- What the loop over an image has found when it ends: it stands in some first elements, in
which nothing is closed. -/
structure ScannedBin (tokens : List JsonToken) (name : List UInt8) (fields : BinFields) :
    Prop where
  found : ∃ inside behind, tokens = inside ++ behind ∧ Open inside ∧ ReadFrom inside fields
  name : fields.binInfo.name = name

theorem open_append {front back : List JsonToken} (first : Open front) (second : Open back) :
    Open (front ++ back) := by
  constructor
  · intro member
    exact (List.mem_append.1 member).elim first.1 second.1
  · intro member
    exact (List.mem_append.1 member).elim first.2 second.2

theorem open_cons {token : JsonToken} (object : token ≠ .objectEnd) (array : token ≠ .arrayEnd)
    (opens : Open rest) : Open (token :: rest) := by
  constructor
  · intro member
    rcases List.mem_cons.1 member with same | later
    · exact object same.symm
    · exact opens.1 later
  · intro member
    rcases List.mem_cons.1 member with same | later
    · exact array same.symm
    · exact opens.2 later

/-- `before` has been passed, and what is consumed already has been read. -/
theorem scan_bin (skip : Nat) (before : List JsonToken)
    (read : ReadFrom (before ++ tokens.take skip) fields)
    (opens : Open (before ++ tokens.take skip)) :
    ScannedBin (before ++ tokens) fields.binInfo.name (scanBin skip fields tokens).1 := by
  induction tokens generalizing skip before fields with
  | nil =>
      rw [List.take_nil, List.append_nil] at read opens
      rw [List.append_nil]
      cases skip <;> exact ⟨⟨before, [], (List.append_nil before).symm, opens, read⟩, rfl⟩
  | cons token rest ih =>
      have onward : before ++ token :: rest = (before ++ [token]) ++ rest := by
        rw [List.append_assoc]
        rfl
      cases skip with
      | succ skip =>
          have moved : before ++ (token :: rest).take (skip + 1) =
              (before ++ [token]) ++ rest.take skip := by
            rw [List.append_assoc]
            rfl
          rw [moved] at read opens
          rw [onward]
          exact ih skip (before ++ [token]) read opens
      | zero =>
          rw [List.take_zero, List.append_nil] at read opens
          have ends : ScannedBin (before ++ token :: rest) fields.binInfo.name fields :=
            ⟨⟨before, token :: rest, rfl, opens, read⟩, rfl⟩
          have passes : token ≠ .objectEnd → token ≠ .arrayEnd →
              ScannedBin (before ++ token :: rest) fields.binInfo.name
                (scanBin 0 fields rest).1 := by
            intro object array
            rw [onward]
            refine ih 0 (before ++ [token]) ?_ ?_
            · rw [List.take_zero, List.append_nil]
              exact read_from_append [token] read
            · rw [List.take_zero, List.append_nil]
              exact open_append opens (open_cons object array ⟨List.not_mem_nil, List.not_mem_nil⟩)
          cases token with
          | objectEnd => exact ends
          | arrayEnd => exact ends
          | failed => exact ends
          | pairName name =>
              unfold scanBin
              cases taken : readBinName fields name rest with
              | none => exact ends
              | some result =>
                  obtain ⟨next, consumed⟩ := result
                  obtain ⟨kept, more, same⟩ := read_bin_name read taken
                  have moved : before ++ .pairName name :: rest.take consumed =
                      (before ++ [.pairName name]) ++ rest.take consumed := by
                    rw [List.append_assoc]
                    rfl
                  have wide : Open (before ++ .pairName name :: rest.take consumed) :=
                    open_append opens (open_cons JsonToken.noConfusion JsonToken.noConfusion more)
                  rw [moved] at kept wide
                  rw [onward, ← same]
                  exact ih consumed (before ++ [.pairName name]) kept wide
          | object => exact passes JsonToken.noConfusion JsonToken.noConfusion
          | array => exact passes JsonToken.noConfusion JsonToken.noConfusion
          | comma => exact passes JsonToken.noConfusion JsonToken.noConfusion
          | pair => exact passes JsonToken.noConfusion JsonToken.noConfusion
          | string text => exact passes JsonToken.noConfusion JsonToken.noConfusion
          | number value => exact passes JsonToken.noConfusion JsonToken.noConfusion

/-- An image of a name is offered among the elements: the name, the digest and the URL stand in
one object. -/
structure Offers (tokens : List JsonToken) (binInfo : BinInfo) : Prop where
  image : ∃ inside, Begins tokens inside ∧ Cut inside "name" 20 binInfo.name ∧
    Cut inside "digest" 65 binInfo.sha256 ∧ Cut inside "downloadUrl" 150 binInfo.dlurl
  digits : binInfo.sha256.length = 64

theorem offers_behind (front : List JsonToken) (offers : Offers tokens binInfo) :
    Offers (front ++ tokens) binInfo := by
  obtain ⟨inside, ⟨before, behind, same, opens⟩, found⟩ := offers.image
  refine ⟨⟨inside, ⟨front ++ before, behind, ?_, opens⟩, found⟩, offers.digits⟩
  rw [same, List.append_assoc]

theorem proc_one_offers (ret : Bool) (found : BinInfo)
    (done : (procOneBinListInfo binInfo rest).1 = (ret, found)) :
    found.name = binInfo.name ∧ (ret = true → Offers (.object :: rest) found) := by
  have none : ReadFrom [] ⟨binInfo, none, false, false⟩ :=
    ⟨fun _ set => (by cases set), fun set => (by cases set), fun set => (by cases set)⟩
  obtain ⟨⟨inside, behind, same, opens, read⟩, name⟩ :=
    @scan_bin rest _ 0 [] none ⟨List.not_mem_nil, List.not_mem_nil⟩
  cases done
  refine ⟨name, fun matched => ?_⟩
  unfold binMatches at matched
  simp only [Bool.and_eq_true, decide_eq_true_eq] at matched
  obtain ⟨⟨⟨sha256, dlurl⟩, binName⟩, digits⟩ := matched
  refine ⟨⟨inside, ⟨[], behind, ?_, opens⟩, read.binName _ binName, read.sha256 sha256,
    read.dlurl dlurl⟩, digits⟩
  rw [← same]
  rfl

theorem scan_list_offers (skip : Nat) (ret : Bool) (found : BinInfo)
    (done : (scanList skip binInfo tokens).1 = (ret, found)) :
    found.name = binInfo.name ∧ (ret = true → Offers tokens found) := by
  induction tokens generalizing skip binInfo with
  | nil =>
      cases skip <;> cases done <;> exact ⟨rfl, fun set => by cases set⟩
  | cons token rest ih =>
      have onward : found.name = binInfo.name ∧ (ret = true → Offers rest found) →
          found.name = binInfo.name ∧ (ret = true → Offers (token :: rest) found) :=
        fun later => ⟨later.1, fun set => offers_behind [token] (later.2 set)⟩
      cases skip with
      | succ skip => exact onward (ih skip done)
      | zero =>
          cases token with
          | arrayEnd =>
              cases done
              exact ⟨rfl, fun set => by cases set⟩
          | failed =>
              cases done
              exact ⟨rfl, fun set => by cases set⟩
          | object =>
              unfold scanList at done
              cases one : procOneBinListInfo binInfo rest with
              | mk result consumed =>
                  obtain ⟨matched, left⟩ := result
                  rw [one] at done
                  have offered := proc_one_offers matched left (congrArg Prod.fst one)
                  cases matched with
                  | true =>
                      cases done
                      exact ⟨offered.1, fun _ => offered.2 rfl⟩
                  | false =>
                      have later := ih consumed done
                      rw [offered.1] at later
                      exact onward later
          | objectEnd => exact onward (ih 0 done)
          | array => exact onward (ih 0 done)
          | comma => exact onward (ih 0 done)
          | pairName name => exact onward (ih 0 done)
          | pair => exact onward (ih 0 done)
          | string text => exact onward (ih 0 done)
          | number value => exact onward (ih 0 done)

theorem bin_list_offers (ret : Bool) (found : BinInfo)
    (done : (jsonIoTgoProcBinList binInfo tokens).1 = (ret, found)) :
    found.name = binInfo.name ∧ (ret = true → Offers tokens found) := by
  unfold jsonIoTgoProcBinList at done
  split at done
  · rename_i rest
    have offered := scan_list_offers 0 ret found done
    exact ⟨offered.1, fun set => offers_behind [.pair, .array] (offered.2 set)⟩
  · cases done
    exact ⟨rfl, fun set => by cases set⟩

end Images

section Requests

variable {tokens rest before : List JsonToken} {fields : RequestFields} {device : UpgradeDevice}
  {name : List UInt8}

/-- What is set stands in the request. -/
structure FoundIn (tokens : List JsonToken) (wanted : List UInt8) (fields : RequestFields) :
    Prop where
  name : fields.binInfo.name = wanted
  image : fields.userbin = some true → Offers tokens fields.binInfo
  serverSequence : ∀ text, fields.serverSequence = some text → Cut tokens "sequence" 51 text
  model : ∀ text, fields.model = some text → Cut tokens "model" 21 text
  version : ∀ text, fields.version = some text → Cut tokens "version" 6 text
  autoRestart : ∀ value, fields.autoRestart = some value →
    Reads tokens "autoRestart" (.number value)

theorem cut_behind {size : Nat} {text : List UInt8} {wanted : String}
    (named : Matches name (asciiBytes wanted)) (found : jsonIoTgoGetString rest size = some text) :
    Cut (before ++ .pairName name :: rest) wanted size text := by
  obtain ⟨whole, behind, rfl, same⟩ := string_of_get found
  refine ⟨whole, ⟨name, named, before, behind, ?_⟩, same⟩
  rw [List.append_assoc]
  rfl

theorem number_behind {value : Int} {wanted : String} (named : Matches name (asciiBytes wanted))
    (found : jsonIoTgoGetNumber rest = some value) :
    Reads (before ++ .pairName name :: rest) wanted (.number value) := by
  obtain ⟨behind, rfl⟩ := number_of_get found
  refine ⟨name, named, before, behind, ?_⟩
  rw [List.append_assoc]
  rfl

theorem take_field {Value : Type} {wanted : List UInt8} (set : Value → RequestFields)
    (value : Option Value) (found : FoundIn tokens wanted fields)
    (taken : ∀ read, value = some read → FoundIn tokens wanted (set read)) :
    FoundIn tokens wanted (takeField fields set value).1 := by
  cases value with
  | none => exact found
  | some read => exact taken read rfl

theorem read_request_name {wanted : List UInt8}
    (found : FoundIn (before ++ .pairName name :: rest) wanted fields) :
    FoundIn (before ++ .pairName name :: rest) wanted (readRequestName fields name rest).1 := by
  unfold readRequestName
  split
  · obtain ⟨kept, offers⟩ := @bin_list_offers rest fields.binInfo _ _ rfl
    refine ⟨kept.trans found.name, fun set => ?_, found.serverSequence, found.model,
      found.version, found.autoRestart⟩
    have onward := offers_behind (before ++ [.pairName name]) (offers (Option.some.inj set))
    rw [List.append_assoc] at onward
    exact onward
  split
  · rename_i named
    refine take_field _ _ found fun text read => ?_
    refine ⟨found.name, found.image, fun other set => ?_, found.model, found.version,
      found.autoRestart⟩
    cases set
    exact cut_behind named.2 read
  split
  · rename_i named
    refine take_field _ _ found fun text read => ?_
    refine ⟨found.name, found.image, found.serverSequence, fun other set => ?_, found.version,
      found.autoRestart⟩
    cases set
    exact cut_behind named.2 read
  split
  · rename_i named
    refine take_field _ _ found fun text read => ?_
    refine ⟨found.name, found.image, found.serverSequence, found.model, fun other set => ?_,
      found.autoRestart⟩
    cases set
    exact cut_behind named.2 read
  split
  · rename_i named
    refine take_field _ _ found fun value read => ?_
    refine ⟨found.name, found.image, found.serverSequence, found.model, found.version,
      fun other set => ?_⟩
    cases set
    exact number_behind named.2 read
  · exact found

/-- `before` has been passed. -/
theorem scan_request {wanted : List UInt8} (skip : Nat) (before : List JsonToken)
    (found : FoundIn (before ++ tokens) wanted fields) :
    FoundIn (before ++ tokens) wanted (scanRequest skip fields tokens) := by
  induction tokens generalizing skip before fields with
  | nil => cases skip <;> exact found
  | cons token rest ih =>
      have onward : before ++ token :: rest = (before ++ [token]) ++ rest := by
        rw [List.append_assoc]
        rfl
      have passes : ∀ skip next, FoundIn (before ++ token :: rest) wanted next →
          FoundIn (before ++ token :: rest) wanted (scanRequest skip next rest) := by
        intro skip next kept
        rw [onward] at kept ⊢
        exact ih skip (before ++ [token]) kept
      cases skip with
      | succ skip => exact passes skip fields found
      | zero =>
          cases token with
          | pairName name => exact passes _ _ (read_request_name found)
          | object => exact passes 0 fields found
          | objectEnd => exact passes 0 fields found
          | array => exact passes 0 fields found
          | arrayEnd => exact passes 0 fields found
          | comma => exact passes 0 fields found
          | pair => exact passes 0 fields found
          | string text => exact passes 0 fields found
          | number value => exact passes 0 fields found
          | failed => exact found

theorem initial_found (tokens : List JsonToken) (device : UpgradeDevice) :
    FoundIn tokens (otherName device.currentBin) (.initial device.currentBin) where
  name := rfl
  image set := by cases set
  serverSequence _ set := by cases set
  model _ set := by cases set
  version _ set := by cases set
  autoRestart _ set := by cases set

/-- The record is made of what the request holds: of one object with the name of the image that
is not running, and of members wherever they stand. -/
structure MadeOf (device : UpgradeDevice) (tokens : List JsonToken) (info : UpgradeInfo) :
    Prop where
  name : info.name = otherName device.currentBin
  sector : info.sector = binStartSector device.currentBin
  image : ∃ url address, Offers tokens ⟨info.name, info.sha256, url⟩ ∧
    parseDownloadURLToUpgradeInfo url ⟨0, List.replicate 50 0, 0, []⟩ = .ok address ∧
    info.host = cString address.host ∧ info.port = address.port.toNat ∧ info.path = address.path
  version : Cut tokens "version" 6 info.version
  newer : cString device.fmVersion < cString info.version
  model : Cut tokens "model" 21 (cString device.deviceModel)
  sequence : Cut tokens "sequence" 51 info.sequence
  autoRestart : ∃ value, Reads tokens "autoRestart" (.number value) ∧
    info.autoRestart = decide (value % 256 ≠ 0)

theorem upgrade_info_address {version : List UInt8} {autoRestart : Int} {info : UpgradeInfo}
    (made : upgradeInfo device fields version autoRestart = .ok info) :
    ∃ address, parseDownloadURLToUpgradeInfo fields.binInfo.dlurl
        ⟨0, List.replicate 50 0, 0, []⟩ = .ok address ∧
      info = {
        name := fields.binInfo.name
        version := version
        sha256 := fields.binInfo.sha256
        sequence := fields.serverSequence.getD []
        host := cString address.host
        port := address.port.toNat
        path := address.path
        sector := binStartSector device.currentBin
        autoRestart := decide (autoRestart % 256 ≠ 0) } := by
  obtain ⟨address, parsed, left⟩ := bind_ok_iff.1 made
  exact ⟨address, parsed, (Except.ok.inj left).symm⟩

theorem model_matched {model : Option (List UInt8)}
    (matched : (model.map (modelMatch device)).getD false = true) :
    model = some (cString device.deviceModel) := by
  cases model with
  | none => cases matched
  | some model =>
      have same : decide (cString device.deviceModel = model) = true := matched
      rw [of_decide_eq_true same]

/-- A record is made exactly where the reply says so. -/
def Tells (reply : RequestReply) : Prop :=
  reply.info.isSome = true ↔ reply.errorCode = upgradeErrorOk

theorem refused_tells {errorCode : Nat} (sequence : List UInt8) (bad : errorCode ≠ upgradeErrorOk) :
    Tells ⟨errorCode, sequence, none⟩ := by
  constructor
  · intro some
    cases some
  · intro ok
    exact absurd ok bad

theorem reply_made {memory : Bool} {reply : RequestReply}
    (found : FoundIn tokens (otherName device.currentBin) fields)
    (replied : replyRequest device memory fields = .ok reply) :
    Tells reply ∧ ∀ info, reply.info = some info → MadeOf device tokens info := by
  unfold replyRequest at replied
  dsimp only at replied
  split at replied
  · rename_i sequence version autoRestart userbin serverSequence versionSet restartSet
    split at replied
    · cases replied
      exact ⟨refused_tells _ (by decide), fun info made => (by cases made)⟩
    split at replied
    · cases replied
      exact ⟨refused_tells _ (by decide), fun info made => (by cases made)⟩
    split at replied
    · cases replied
    · rename_i matched newer present
      obtain ⟨made, info, left⟩ := bind_ok_iff.1 replied
      cases left
      obtain ⟨address, parsed, rfl⟩ := upgrade_info_address info
      refine ⟨⟨fun _ => rfl, fun _ => rfl⟩, fun info same => ?_⟩
      cases same
      have image := found.image userbin
      refine ⟨found.name, rfl, ⟨_, address, image, parsed, rfl, rfl, rfl⟩,
        found.version version versionSet, ?_, ?_, ?_, autoRestart,
        found.autoRestart autoRestart restartSet, rfl⟩
      · exact of_decide_eq_true (not_not.1 newer)
      · exact found.model _ (model_matched (not_not.1 matched))
      · rw [serverSequence]
        exact found.serverSequence sequence serverSequence
  · cases replied
    exact ⟨refused_tells _ (by decide), fun info made => (by cases made)⟩

/-- The upgrade of the device begins with the record as it was made. -/
def Begun (device : UpgradeDevice) (info : UpgradeInfo) : Prop :=
  ∀ (board : Board) (state : UpgradeState), board.currentBin = device.currentBin →
    upgradeExec board state (.request info true) =
      some { state with info := some info, enterTimer := true }

theorem made_begun {info : UpgradeInfo} (made : MadeOf device tokens info) :
    Begun device info := by
  intro board state same
  have sector : { info with sector := binStartSector board.currentBin } = info := by
    rw [same, ← made.sector]
  change some (if true = true then _ else _) = _
  rw [if_pos rfl, sector]

def askedDevice : UpgradeDevice :=
  ⟨.bin1, asciiBytes "PSC-B67-GL", asciiBytes "1.6.0"⟩

def askedImages : List (List (List UInt8 × Json)) :=
  [[(asciiBytes "name", .string (asciiBytes "user1.bin")),
      (asciiBytes "digest", .string (List.replicate 64 48)),
      (asciiBytes "downloadUrl", .string (asciiBytes "http://ota/user1.bin"))],
    [(asciiBytes "downloadUrl", .string (asciiBytes "http://ota/user2.bin")),
      (asciiBytes "name", .string (asciiBytes "user2.bin")),
      (asciiBytes "digest", .string (List.replicate 64 49))]]

def askedRest : List (List UInt8 × Json) :=
  [(asciiBytes "model", .string (asciiBytes "PSC-B67-GL")),
    (asciiBytes "version", .string (asciiBytes "1.7.0")),
    (asciiBytes "autoRestart", .number 1), (asciiBytes "sequence", .string (asciiBytes "42"))]

def asked : List JsonToken :=
  reported (.object ((asciiBytes "binList", .array (askedImages.map .object)) :: askedRest))

end Requests

end IotgoFirmware.Upgrade.UpgradeOffers
