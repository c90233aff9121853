import IotgoFirmware.Library.PullParser
import IotgoFirmware.Upgrade.UpgradeOffers

/-!
# The list of images of a request

A list that is well formed holds objects with texts and whole numbers. Of such a list the first
image that has the name, a digest and a URL is taken, whatever stands before and behind the list
in the request; and a request without one is a bad request.
-/

namespace IotgoFirmware.Upgrade.UpgradeImages

open IotgoFirmware.Core.PkgScan
open IotgoFirmware.Library.CFaults
open IotgoFirmware.Library.CStrings
open IotgoFirmware.Library.JsonDocuments
open IotgoFirmware.Library.PullParser
open IotgoFirmware.Upgrade.DownloadUrl
open IotgoFirmware.Upgrade.NewBinCheck
open IotgoFirmware.Upgrade.UpgradeOffers
open IotgoFirmware.Upgrade.UpgradeRequest
open IotgoFirmware.Upgrade.UpgradeSession (UpgradeInfo)

set_option autoImplicit false

abbrev Members := List (List UInt8 × Json)

section Images

/-- What the loop over an image looks for. -/
inductive ImageKey where
  | name
  | digest
  | downloadUrl
deriving DecidableEq

def ImageKey.size : ImageKey → Nat
  | .name => 20
  | .digest => 65
  | .downloadUrl => 150

/-- The first of the keys that the name begins. -/
def imageKey (name : List UInt8) : Option ImageKey :=
  if Matches name (asciiBytes "name") then some .name
  else if Matches name (asciiBytes "digest") then some .digest
  else if Matches name (asciiBytes "downloadUrl") then some .downloadUrl
  else none

def valueText : Json → Option (List UInt8)
  | .string text => some text
  | _ => none

def textStep (key : ImageKey) (found : Option (List UInt8)) (member : List UInt8 × Json) :
    Option (List UInt8) :=
  match valueText member.2 with
  | some text => if imageKey member.1 = some key then some text else found
  | none => found

/-- The text of the last member for a key. -/
def textOf (key : ImageKey) (members : Members) : Option (List UInt8) :=
  members.foldl (textStep key) none

/-- An image with the name, with a digest and with a URL; a longer digest is cut. -/
def isImage (wanted : List UInt8) (members : Members) : Bool :=
  decide ((textOf .name members).map (List.take 19) = some wanted) &&
    decide ((textOf .digest members).map (fun text => (text.take 64).length) = some 64) &&
    (textOf .downloadUrl members).isSome

def imageOf (wanted : List UInt8) (members : Members) : BinInfo where
  name := wanted
  sha256 := ((textOf .digest members).getD []).take 64
  dlurl := ((textOf .downloadUrl members).getD []).take 149

/-- The values are texts and whole numbers, and what is looked for is a text. -/
def WellFormed (members : Members) : Prop :=
  ∀ member ∈ members, (∃ text, member.2 = .string text) ∨
    imageKey member.1 = none ∧ ∃ value, member.2 = .number value

end Images

section Members

variable {fields : BinFields} {members : Members} {rest : List JsonToken}

/-- The variable of a key, where its flag is set. -/
def foundText (fields : BinFields) : ImageKey → Option (List UInt8)
  | .name => fields.binName
  | .digest => if fields.sha256Flag then some fields.binInfo.sha256 else none
  | .downloadUrl => if fields.dlurlFlag then some fields.binInfo.dlurl else none

def storeText (fields : BinFields) (text : List UInt8) : ImageKey → BinFields
  | .name => { fields with binName := some (text.take 19) }
  | .digest =>
      { fields with
        binInfo := { fields.binInfo with sha256 := text.take 64 }, sha256Flag := true }
  | .downloadUrl =>
      { fields with binInfo := { fields.binInfo with dlurl := text.take 149 }, dlurlFlag := true }

/-- What the loop over an image does at a text. -/
def readText (fields : BinFields) (name text : List UInt8) : BinFields :=
  match imageKey name with
  | some key => storeText fields text key
  | none => fields

def readMember (fields : BinFields) (member : List UInt8 × Json) : BinFields :=
  match valueText member.2 with
  | some text => readText fields member.1 text
  | none => fields

theorem read_bin_text (fields : BinFields) (name text : List UInt8) (rest : List JsonToken) :
    ∃ consumed ≤ 2, readBinName fields name (.pair :: .string text :: rest) =
      some (readText fields name text, consumed) := by
  unfold readBinName readText imageKey
  by_cases named : Matches name (asciiBytes "name")
  · rw [if_pos named, if_pos named]
    exact ⟨2, Nat.le_refl 2, rfl⟩
  rw [if_neg named, if_neg named]
  by_cases digest : Matches name (asciiBytes "digest")
  · rw [if_pos digest, if_pos digest]
    exact ⟨2, Nat.le_refl 2, rfl⟩
  rw [if_neg digest, if_neg digest]
  by_cases url : Matches name (asciiBytes "downloadUrl")
  · rw [if_pos url, if_pos url]
    exact ⟨2, Nat.le_refl 2, rfl⟩
  · rw [if_neg url, if_neg url]
    exact ⟨0, Nat.zero_le 2, rfl⟩

theorem read_bin_other (fields : BinFields) {name : List UInt8} (other : imageKey name = none)
    (rest : List JsonToken) : readBinName fields name rest = some (fields, 0) := by
  unfold imageKey at other
  unfold readBinName
  split at other
  · cases other
  split at other
  · cases other
  split at other
  · cases other
  · rename_i named digest url
    rw [if_neg named, if_neg digest, if_neg url]

/-- Some elements more are consumed. -/
def shifted {Result : Type} (count : Nat) (scanned : Result × Nat) : Result × Nat :=
  (scanned.1, scanned.2 + count)

/-- An element that is passed by the loop over an image. -/
def Passing : JsonToken → Prop
  | .pair => True
  | .comma => True
  | .string _ => True
  | .number _ => True
  | _ => False

theorem scan_head {token : JsonToken} (passing : Passing token) (fields : BinFields)
    (rest : List JsonToken) :
    scanBin 0 fields (token :: rest) = behind (scanBin 0 fields rest) := by
  cases token with
  | pair => rfl
  | comma => rfl
  | string text => rfl
  | number value => rfl
  | _ => exact passing.elim

theorem scan_value {token : JsonToken} (passing : Passing token) {consumed : Nat}
    (few : consumed ≤ 2) (fields : BinFields) (rest : List JsonToken) :
    scanBin consumed fields (.pair :: token :: rest) = shifted 2 (scanBin 0 fields rest) := by
  have passed := scan_head passing fields rest
  obtain rfl | rfl | rfl : consumed = 0 ∨ consumed = 1 ∨ consumed = 2 := by omega
  · rw [@scan_head .pair trivial, passed]
    rfl
  · change behind (scanBin 0 fields (token :: rest)) = _
    rw [passed]
    rfl
  · rfl

theorem scan_member (member : List UInt8 × Json)
    (formed : (∃ text, member.2 = .string text) ∨
      imageKey member.1 = none ∧ ∃ value, member.2 = .number value)
    (fields : BinFields) (rest : List JsonToken) :
    scanBin 0 fields (pairTokens member ++ rest) =
      shifted (pairTokens member).length (scanBin 0 (readMember fields member) rest) := by
  obtain ⟨name, value⟩ := member
  have read : ∃ token consumed, value.tokens = [token] ∧ Passing token ∧ consumed ≤ 2 ∧
      readBinName fields name (.pair :: token :: rest) =
        some (readMember fields (name, value), consumed) := by
    rcases formed with ⟨text, same⟩ | ⟨other, number, same⟩
    · dsimp only at same
      subst same
      obtain ⟨consumed, few, taken⟩ := read_bin_text fields name text rest
      exact ⟨.string text, consumed, rfl, trivial, few, taken⟩
    · dsimp only at same
      subst same
      exact ⟨.number number, 0, rfl, trivial, Nat.zero_le 2, read_bin_other fields other _⟩
  obtain ⟨token, consumed, tokens, passing, few, taken⟩ := read
  rw [pairTokens, tokens]
  change scanBin 0 fields (.pairName name :: .pair :: token :: rest) = _
  rw [scanBin, taken]
  dsimp only
  rw [scan_value passing few]
  rfl

theorem scan_comma_bin (fields : BinFields) (tokens : List JsonToken) :
    scanBin 0 fields (behindComma .comma tokens ++ rest) =
      shifted ((behindComma .comma tokens).length - tokens.length)
        (scanBin 0 fields (tokens ++ rest)) := by
  cases tokens with
  | nil => rfl
  | cons token tokens =>
      have one : (behindComma .comma (token :: tokens)).length - (token :: tokens).length = 1 :=
        Nat.add_sub_cancel_left _ 1
      rw [one]
      exact @scan_head .comma trivial fields _

theorem behind_comma_length (tokens : List JsonToken) :
    tokens.length ≤ (behindComma .comma tokens).length := by
  cases tokens with
  | nil => exact Nat.le_refl 0
  | cons token tokens => exact Nat.le_succ _

theorem scan_members (wellFormed : WellFormed members) (fields : BinFields)
    (rest : List JsonToken) :
    scanBin 0 fields (memberTokens members ++ rest) =
      shifted (memberTokens members).length
        (scanBin 0 (members.foldl readMember fields) rest) := by
  induction members generalizing fields with
  | nil => rfl
  | cons member members ih =>
      have later : WellFormed members := fun other inside =>
        wellFormed other (List.mem_cons_of_mem _ inside)
      rw [memberTokens, List.append_assoc, scan_member member (wellFormed _ List.mem_cons_self),
        scan_comma_bin, ih later, List.foldl_cons, List.length_append]
      have more := behind_comma_length (memberTokens members)
      unfold shifted
      exact Prod.ext rfl (by dsimp only; omega)

theorem found_stored (fields : BinFields) (text : List UInt8) (stored key : ImageKey) :
    foundText (storeText fields text stored) key =
      if stored = key then some (text.take (key.size - 1)) else foundText fields key := by
  cases stored <;> cases key <;> rfl

theorem found_read (fields : BinFields) (member : List UInt8 × Json) (key : ImageKey)
    {found : Option (List UInt8)}
    (same : foundText fields key = found.map (List.take (key.size - 1))) :
    foundText (readMember fields member) key =
      (textStep key found member).map (List.take (key.size - 1)) := by
  unfold readMember textStep readText
  cases valueText member.2 with
  | none => exact same
  | some text =>
      dsimp only
      cases imageKey member.1 with
      | none => exact same
      | some stored =>
          dsimp only
          rw [found_stored]
          by_cases wanted : stored = key
          · rw [if_pos wanted, if_pos (congrArg some wanted)]
            rfl
          · rw [if_neg wanted, if_neg fun both => wanted (Option.some.inj both)]
            exact same

theorem found_members (members : Members) (key : ImageKey) {found : Option (List UInt8)}
    (same : foundText fields key = found.map (List.take (key.size - 1))) :
    foundText (members.foldl readMember fields) key =
      (members.foldl (textStep key) found).map (List.take (key.size - 1)) := by
  induction members generalizing fields found with
  | nil => exact same
  | cons member members ih => exact ih (found_read fields member key same)

theorem name_kept (members : Members) :
    (members.foldl readMember fields).binInfo.name = fields.binInfo.name := by
  induction members generalizing fields with
  | nil => rfl
  | cons member members ih =>
      refine ih.trans ?_
      unfold readMember readText
      cases valueText member.2 with
      | none => rfl
      | some text =>
          dsimp only
          cases imageKey member.1 with
          | none => rfl
          | some key => cases key <;> rfl

end Members

section Lists

variable {binInfo : BinInfo} {members : Members} {rest : List JsonToken}

def imageFields (binInfo : BinInfo) (members : Members) : BinFields :=
  members.foldl readMember ⟨binInfo, none, false, false⟩

theorem bin_matches_found (fields : BinFields) :
    binMatches fields =
      (decide (foundText fields .name = some fields.binInfo.name) &&
        decide ((foundText fields .digest).map List.length = some 64) &&
        (foundText fields .downloadUrl).isSome) := by
  unfold binMatches foundText
  dsimp only
  cases fields.sha256Flag <;> cases fields.dlurlFlag <;>
    simp [Bool.and_comm]

theorem image_matches (binInfo : BinInfo) (members : Members) :
    binMatches (imageFields binInfo members) = isImage binInfo.name members ∧
      (isImage binInfo.name members = true →
        (imageFields binInfo members).binInfo = imageOf binInfo.name members) := by
  have texts (key : ImageKey) : foundText (imageFields binInfo members) key =
      (textOf key members).map (List.take (key.size - 1)) := by
    apply found_members
    cases key <;> rfl
  have kept : (imageFields binInfo members).binInfo.name = binInfo.name := name_kept members
  have same : binMatches (imageFields binInfo members) = isImage binInfo.name members := by
    rw [bin_matches_found, texts, texts, texts, kept, isImage, Option.map_map, Option.isSome_map]
    rfl
  refine ⟨same, fun matched => ?_⟩
  rw [← same] at matched
  have digest := texts .digest
  have url := texts .downloadUrl
  unfold binMatches at matched
  simp only [Bool.and_eq_true] at matched
  obtain ⟨⟨⟨sha256, dlurl⟩, -⟩, -⟩ := matched
  rw [foundText, if_pos sha256] at digest
  rw [foundText, if_pos dlurl] at url
  obtain ⟨text, foundDigest, digits⟩ := Option.map_eq_some_iff.1 digest.symm
  obtain ⟨address, foundUrl, cut⟩ := Option.map_eq_some_iff.1 url.symm
  rw [imageOf, foundDigest, foundUrl, Option.getD_some, Option.getD_some, ← kept]
  exact congrArg₂ (BinInfo.mk _) digits.symm cut.symm

theorem scan_list_skips (skipped : List JsonToken) (binInfo : BinInfo) (rest : List JsonToken) :
    (scanList skipped.length binInfo (skipped ++ rest)).1 = (scanList 0 binInfo rest).1 := by
  induction skipped with
  | nil => rfl
  | cons token skipped ih => exact ih

theorem scan_list_image (wellFormed : WellFormed members) (binInfo : BinInfo)
    (rest : List JsonToken) :
    (scanList 0 binInfo ((Json.object members).tokens ++ rest)).1 =
      if isImage binInfo.name members then (true, imageOf binInfo.name members)
      else (scanList 0 (imageFields binInfo members).binInfo rest).1 := by
  have tokens : (Json.object members).tokens ++ rest =
      .object :: (memberTokens members ++ .objectEnd :: rest) := by
    rw [Json.tokens, List.cons_append, List.append_assoc]
    rfl
  have scanned : procOneBinListInfo binInfo (memberTokens members ++ .objectEnd :: rest) =
      ((binMatches (imageFields binInfo members), (imageFields binInfo members).binInfo),
        (memberTokens members ++ [JsonToken.objectEnd]).length) := by
    unfold procOneBinListInfo
    rw [scan_members wellFormed]
    rw [List.length_append, Nat.add_comm]
    rfl
  obtain ⟨same, taken⟩ := image_matches binInfo members
  rw [tokens, scanList, scanned, same]
  cases matched : isImage binInfo.name members with
  | true =>
      rw [if_pos rfl, taken matched]
  | false =>
      rw [if_neg Bool.false_ne_true]
      have skips := scan_list_skips (memberTokens members ++ [.objectEnd])
        (imageFields binInfo members).binInfo rest
      rw [List.append_assoc] at skips
      exact skips

theorem scan_list_comma (binInfo : BinInfo) (tokens rest : List JsonToken) :
    (scanList 0 binInfo (behindComma .comma tokens ++ rest)).1 =
      (scanList 0 binInfo (tokens ++ rest)).1 := by
  cases tokens with
  | nil => rfl
  | cons token tokens => rfl

theorem scan_list_first {images : List Members}
    (wellFormed : ∀ members ∈ images, WellFormed members) (binInfo : BinInfo)
    (rest : List JsonToken) :
    ∃ left : BinInfo, left.name = binInfo.name ∧
      (scanList 0 binInfo (itemTokens (images.map Json.object) ++ .arrayEnd :: rest)).1 =
        match images.find? (isImage binInfo.name) with
        | some members => (true, imageOf binInfo.name members)
        | none => (false, left) := by
  induction images generalizing binInfo with
  | nil => exact ⟨binInfo, rfl, rfl⟩
  | cons members images ih =>
      have kept : (imageFields binInfo members).binInfo.name = binInfo.name := name_kept members
      obtain ⟨left, named, later⟩ := ih
        (fun other inside => wellFormed other (List.mem_cons_of_mem _ inside))
        (imageFields binInfo members).binInfo
      rw [kept] at named later
      refine ⟨left, named, ?_⟩
      rw [List.map_cons, itemTokens, List.append_assoc,
        scan_list_image (wellFormed _ List.mem_cons_self), List.find?_cons]
      cases matched : isImage binInfo.name members with
      | true => rfl
      | false =>
          rw [if_neg Bool.false_ne_true, scan_list_comma]
          exact later

end Lists

section Requests

variable {device : UpgradeDevice} {fields : RequestFields} {front rest : List JsonToken}
  {name : List UInt8}

/-- No list of images begins among the elements, the parser does not fail there, and no name
stands so near to their end that its value would be looked for behind it. -/
structure Passed (front : List JsonToken) : Prop where
  unlisted : ∀ name, .pairName name ∈ front → ¬ Matches name (asciiBytes "binList")
  known : .failed ∉ front
  apart : ∀ before name, front ≠ before ++ [.pairName name] ∧
    ∀ token, front ≠ before ++ [.pairName name, token]

theorem take_field_few {Value : Type} (set : Value → RequestFields) (value : Option Value) :
    (takeField fields set value).2 = 2 := by
  cases value <;> rfl

theorem other_name (other : ¬ (fields.userbin = none ∧ Matches name (asciiBytes "binList")))
    (tokens : List JsonToken) :
    (readRequestName fields name tokens).1.userbin = fields.userbin ∧
      (readRequestName fields name tokens).1.binInfo = fields.binInfo ∧
      (readRequestName fields name tokens).2 ≤ 2 := by
  unfold readRequestName
  rw [if_neg other]
  split
  · refine ⟨?_, ?_, (take_field_few _ _).le⟩
    · cases jsonIoTgoGetString tokens 51 <;> rfl
    · cases jsonIoTgoGetString tokens 51 <;> rfl
  split
  · refine ⟨?_, ?_, (take_field_few _ _).le⟩
    · cases jsonIoTgoGetString tokens 21 <;> rfl
    · cases jsonIoTgoGetString tokens 21 <;> rfl
  split
  · refine ⟨?_, ?_, (take_field_few _ _).le⟩
    · cases jsonIoTgoGetString tokens 6 <;> rfl
    · cases jsonIoTgoGetString tokens 6 <;> rfl
  split
  · refine ⟨?_, ?_, (take_field_few _ _).le⟩
    · cases jsonIoTgoGetNumber tokens <;> rfl
    · cases jsonIoTgoGetNumber tokens <;> rfl
  · exact ⟨rfl, rfl, Nat.zero_le 2⟩

theorem passed_tail {token : JsonToken} (passed : Passed (token :: front)) : Passed front where
  unlisted name member := passed.unlisted name (List.mem_cons_of_mem _ member)
  known member := passed.known (List.mem_cons_of_mem _ member)
  apart before name :=
    ⟨fun same => (passed.apart (token :: before) name).1 (congrArg (List.cons token) same),
      fun last same => (passed.apart (token :: before) name).2 last
        (congrArg (List.cons token) same)⟩

theorem passed_room (passed : Passed (.pairName name :: front)) : 2 ≤ front.length := by
  cases front with
  | nil => exact absurd rfl (passed.apart [] name).1
  | cons first front =>
      cases front with
      | nil => exact absurd rfl ((passed.apart [] name).2 first)
      | cons second front => exact Nat.le_add_left 2 _

theorem scan_passed (passed : Passed front) (skip : Nat) (inside : skip ≤ front.length)
    (fields : RequestFields) (rest : List JsonToken) :
    ∃ next, scanRequest skip fields (front ++ rest) = scanRequest 0 next rest ∧
      next.userbin = fields.userbin ∧ next.binInfo = fields.binInfo := by
  induction front generalizing skip fields with
  | nil =>
      rw [Nat.le_zero.1 inside]
      exact ⟨fields, rfl, rfl, rfl⟩
  | cons token front ih =>
      have later := passed_tail passed
      cases skip with
      | succ skip => exact ih later skip (Nat.le_of_succ_le_succ inside) fields
      | zero =>
          have onward := ih later 0 (Nat.zero_le _) fields
          cases token with
          | pairName name =>
              have other : ¬ (fields.userbin = none ∧ Matches name (asciiBytes "binList")) :=
                fun listed => passed.unlisted name List.mem_cons_self listed.2
              obtain ⟨userbin, binInfo, few⟩ := @other_name fields name other (front ++ rest)
              obtain ⟨next, scanned, kept, keptInfo⟩ := ih later _
                (few.trans (passed_room passed)) (readRequestName fields name (front ++ rest)).1
              exact ⟨next, scanned, kept.trans userbin, keptInfo.trans binInfo⟩
          | object => exact onward
          | objectEnd => exact onward
          | array => exact onward
          | arrayEnd => exact onward
          | comma => exact onward
          | pair => exact onward
          | string text => exact onward
          | number value => exact onward
          | failed => exact absurd List.mem_cons_self passed.known

theorem listed_kept {ret : Bool} (skip : Nat) (tokens : List JsonToken)
    (listed : fields.userbin = some ret) :
    (scanRequest skip fields tokens).userbin = some ret ∧
      (scanRequest skip fields tokens).binInfo = fields.binInfo := by
  induction tokens generalizing skip fields with
  | nil => cases skip <;> exact ⟨listed, rfl⟩
  | cons token tokens ih =>
      cases skip with
      | succ skip => exact ih skip listed
      | zero =>
          cases token with
          | pairName name =>
              have other : ¬ (fields.userbin = none ∧ Matches name (asciiBytes "binList")) :=
                fun first => Option.some_ne_none ret (listed.symm.trans first.1)
              obtain ⟨userbin, binInfo, -⟩ := other_name other tokens
              obtain ⟨later, info⟩ := ih (readRequestName fields name tokens).2
                (userbin.trans listed)
              exact ⟨later, info.trans binInfo⟩
          | object => exact ih 0 listed
          | objectEnd => exact ih 0 listed
          | array => exact ih 0 listed
          | arrayEnd => exact ih 0 listed
          | comma => exact ih 0 listed
          | pair => exact ih 0 listed
          | string text => exact ih 0 listed
          | number value => exact ih 0 listed
          | failed => exact ⟨listed, rfl⟩

theorem scan_first_list (unread : fields.userbin = none)
    (named : Matches name (asciiBytes "binList")) {items : List JsonToken} {ret : Bool}
    {found : BinInfo} (result : (scanList 0 fields.binInfo items).1 = (ret, found)) :
    (scanRequest 0 fields (.pairName name :: .pair :: .array :: items)).userbin = some ret ∧
      (scanRequest 0 fields (.pairName name :: .pair :: .array :: items)).binInfo = found := by
  have read : (readRequestName fields name (.pair :: .array :: items)).1 =
      { fields with binInfo := found, userbin := some ret } := by
    unfold readRequestName jsonIoTgoProcBinList
    rw [if_pos ⟨unread, named⟩]
    cases scanned : scanList 0 fields.binInfo items with
    | mk pair consumed =>
        rw [scanned] at result
        cases result
        dsimp only
        rw [scanned]
  have listed : (readRequestName fields name (.pair :: .array :: items)).1.userbin = some ret := by
    rw [read]
  have kept := listed_kept (readRequestName fields name (.pair :: .array :: items)).2
    (.pair :: .array :: items) listed
  refine ⟨kept.1, kept.2.trans ?_⟩
  rw [read]

theorem members_whole {members : Members} (wellFormed : WellFormed members) : membersWhole members = true := by
  induction members with
  | nil => rfl
  | cons member members ih =>
      have later := ih fun other inside => wellFormed other (List.mem_cons_of_mem _ inside)
      obtain ⟨name, value⟩ := member
      have first : pairWhole (name, value) = true := by
        rcases wellFormed _ List.mem_cons_self with ⟨text, same⟩ | ⟨-, number, same⟩
        · dsimp only at same
          rw [same]
          rfl
        · dsimp only at same
          rw [same]
          rfl
      rw [membersWhole, first, later]
      rfl

theorem images_whole {images : List Members}
    (wellFormed : ∀ members ∈ images, WellFormed members) :
    whole (.array (images.map .object)) = true := by
  rw [whole]
  induction images with
  | nil => rfl
  | cons members images ih =>
      have later := ih fun other inside => wellFormed other (List.mem_cons_of_mem _ inside)
      rw [List.map_cons, itemsWhole, later, whole,
        members_whole (wellFormed _ List.mem_cons_self)]
      rfl

/-- A request with a list of images: what stands before it, and what the parser reports of the
list and of the text behind it, with some levels open around the pair. -/
def requestTokens (front : List JsonToken) (name : List UInt8) (outer : List Level)
    (images : List Members) (back : List Lexeme) : List JsonToken :=
  front ++ .pairName name :: .pair ::
    reports ⟨.pair :: outer, false⟩ (lexemes (.array (images.map .object)) ++ back)

theorem scan_listed {images : List Members} (passed : Passed front)
    (named : Matches name (asciiBytes "binList"))
    (wellFormed : ∀ members ∈ images, WellFormed members) (outer : List Level)
    (back : List Lexeme) :
    let tokens := requestTokens front name outer images back
    match images.find? (isImage (otherName device.currentBin)) with
    | some members =>
        (scanRequest 0 (.initial device.currentBin) tokens).userbin = some true ∧
          (scanRequest 0 (.initial device.currentBin) tokens).binInfo =
            imageOf (otherName device.currentBin) members
    | none => (scanRequest 0 (.initial device.currentBin) tokens).userbin = some false := by
  intro tokens
  obtain ⟨behind, array⟩ : ∃ behind,
      reports ⟨.pair :: outer, false⟩ (lexemes (.array (images.map .object)) ++ back) =
        .array :: (itemTokens (images.map Json.object) ++ .arrayEnd :: behind) := by
    have array := reports_tokens _ (images_whole wellFormed) (.pair :: outer) false back trivial
    rw [Json.tokens, List.cons_append, List.append_assoc] at array
    exact ⟨_, array⟩
  obtain ⟨next, scanned, userbin, binInfo⟩ := scan_passed passed 0 (Nat.zero_le _)
    (.initial device.currentBin) (.pairName name :: .pair ::
      .array :: (itemTokens (images.map Json.object) ++ .arrayEnd :: behind))
  have wanted : next.binInfo.name = otherName device.currentBin := by
    rw [binInfo]
    rfl
  obtain ⟨left, -, first⟩ := scan_list_first wellFormed next.binInfo behind
  rw [wanted] at first
  have read : scanRequest 0 (.initial device.currentBin) tokens = scanRequest 0 next
      (.pairName name :: .pair ::
        .array :: (itemTokens (images.map Json.object) ++ .arrayEnd :: behind)) := by
    rw [← scanned, ← array]
    rfl
  change match images.find? (isImage (otherName device.currentBin)) with
    | some members => _
    | none => _
  rw [read]
  cases found : images.find? (isImage (otherName device.currentBin)) with
  | none =>
      rw [found] at first
      exact (scan_first_list userbin named first).1
  | some members =>
      rw [found] at first
      exact scan_first_list userbin named first

structure RecordOf (image : BinInfo) (info : UpgradeInfo) : Prop where
  name : info.name = image.name
  sha256 : info.sha256 = image.sha256
  address : ∃ address,
    parseDownloadURLToUpgradeInfo image.dlurl ⟨0, List.replicate 50 0, 0, []⟩ = .ok address ∧
      info.host = cString address.host ∧ info.port = address.port.toNat ∧
      info.path = address.path

theorem reply_record {memory : Bool} {reply : RequestReply} {info : UpgradeInfo}
    (replied : replyRequest device memory fields = .ok reply) (made : reply.info = some info) :
    fields.userbin = some true ∧ RecordOf fields.binInfo info := by
  unfold replyRequest at replied
  dsimp only at replied
  split at replied
  · rename_i sequence version autoRestart userbin serverSequence versionSet restartSet
    split at replied
    · cases replied
      cases made
    split at replied
    · cases replied
      cases made
    split at replied
    · cases replied
    · obtain ⟨record, run, left⟩ := bind_ok_iff.1 replied
      cases left
      cases made
      obtain ⟨address, parsed, rfl⟩ := upgrade_info_address run
      exact ⟨userbin, rfl, rfl, address, parsed, rfl, rfl, rfl⟩
  · cases replied
    cases made

theorem reply_unmatched (unmatched : fields.userbin = some false) (memory : Bool) :
    replyRequest device memory fields =
      .ok ⟨upgradeErrorBadreq, fields.serverSequence.getD [], none⟩ := by
  unfold replyRequest
  rw [unmatched]

theorem asked_well_formed : ∀ members ∈ askedImages, WellFormed members := by
  intro members inside member here
  refine .inl ?_
  simp only [askedImages, List.mem_cons, List.not_mem_nil, or_false] at inside
  rcases inside with rfl | rfl
  · simp only [List.mem_cons, List.not_mem_nil, or_false] at here
    rcases here with rfl | rfl | rfl <;> exact ⟨_, rfl⟩
  · simp only [List.mem_cons, List.not_mem_nil, or_false] at here
    rcases here with rfl | rfl | rfl <;> exact ⟨_, rfl⟩

end Requests

end IotgoFirmware.Upgrade.UpgradeImages
