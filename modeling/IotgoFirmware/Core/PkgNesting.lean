import IotgoFirmware.Core.PkgScan
import IotgoFirmware.Library.PullParser

/-!
# Names nested in `params`

The scan does not follow the nesting of a document: a name inside the value of
`params` counts as if it stood between the members, and takes the place of one
that comes later. What is nested is without effect where every name the scan knows
has been read before and the parser reports the value to its end.
-/

namespace IotgoFirmware.Core.PkgNesting

open IotgoFirmware.Library.CStrings
open IotgoFirmware.Library.JsonDocuments
open IotgoFirmware.Library.PullParser
open IotgoFirmware.Core.PkgScan

set_option autoImplicit false

/-- The variables after some pairs, wherever these are nested. -/
def fieldsAfter (items : List ScanItem) : Except PkgFields PkgFields :=
  items.foldlM (takeItem readName) .initial

/-- A name that is still looked for, or a failure of the parser. -/
def stillRead (fields : PkgFields) : ScanItem → Bool
  | .pair name head => (branchOf fields name).isSome || decide (head = .failed)
  | .failure => true

def unread (fields : PkgFields) (items : List ScanItem) : List ScanItem :=
  items.filter (stillRead fields)

/-- What the scan meets of a member behind the element that begins its value. -/
def behindHead (value : Json) : List ScanItem :=
  value.inner ++ closingItems (value.holds false)

/-- Both begin alike: they are objects, arrays, strings, numbers that begin with a digit, or
neither of these. -/
def SameKind (value value' : Json) : Prop :=
  match value.head, value'.head with
  | .object, .object => True
  | .array, .array => True
  | .string _, .string _ => True
  | .number _, .number _ => True
  | .failed, .failed => True
  | _, _ => False

section Scan

variable {first fields next : PkgFields} {name : List UInt8} {item : ScanItem}

/-- A name that is not looked for any more stays so. -/
theorem branch_none_later (later : ∀ key, first.flag key = true → fields.flag key = true)
    (closed : branchOf first name = none) : branchOf fields name = none := by
  rw [branch_none_iff] at closed ⊢
  intro key unset
  apply closed
  rw [Bool.eq_false_iff]
  intro held
  exact absurd ((later key held).symm.trans unset) Bool.noConfusion

theorem take_item_flags (result : takeItem readName fields item = .ok next) (key : PkgKey)
    (held : fields.flag key = true) : next.flag key = true := by
  cases item with
  | failure => cases result
  | pair name head =>
      rw [takeItem, readName] at result
      cases found : branchOf fields name with
      | none =>
          rw [found] at result
          dsimp only at result
          split at result
          · cases result
          · cases result
            exact held
      | some branch =>
          rw [found] at result
          dsimp only at result
          cases taken : readKey fields [.pair, head] branch with
          | error last =>
              rw [taken] at result
              cases result
          | ok read =>
              rw [taken] at result
              dsimp only at result
              split at result
              · cases result
              · cases result
                exact (read_key_ok taken).2 key held

/-- At another item the scan does nothing. -/
theorem take_item_idle (later : ∀ key, first.flag key = true → fields.flag key = true)
    (idle : stillRead first item = false) : takeItem readName fields item = .ok fields := by
  cases item with
  | failure => cases idle
  | pair name head =>
      rw [stillRead, Bool.or_eq_false_iff, Option.isSome_eq_false_iff, Option.isNone_iff_eq_none,
        decide_eq_false_iff_not] at idle
      rw [takeItem, readName, branch_none_later later idle.1]
      exact if_neg fun failed => idle.2 failed.1

/-- Only items that are still read matter. -/
theorem read_unread (items : List ScanItem)
    (later : ∀ key, first.flag key = true → fields.flag key = true) :
    items.foldlM (takeItem readName) fields =
      (unread first items).foldlM (takeItem readName) fields := by
  induction items generalizing fields with
  | nil => rfl
  | cons item items ih =>
      rw [unread, List.filter_cons, List.foldlM_cons]
      cases read : stillRead first item with
      | false =>
          rw [take_item_idle later read, if_neg Bool.false_ne_true]
          exact ih later
      | true =>
          rw [if_pos rfl, List.foldlM_cons]
          cases taken : takeItem readName fields item with
          | error last => rfl
          | ok next =>
              apply ih
              intro key held
              exact take_item_flags taken key (later key held)

/-- Of the value of `params` itself only the type is read. -/
theorem read_params {value value' : Json} (kind : SameKind value value') :
    takeItem readName fields (.pair PkgKey.params.name value.head) =
      takeItem readName fields (.pair PkgKey.params.name value'.head) := by
  rw [takeItem, takeItem]
  unfold readName
  unfold SameKind at kind
  cases found : branchOf fields PkgKey.params.name with
  | none =>
      generalize value.head = head at kind ⊢
      generalize value'.head = head' at kind ⊢
      cases head <;> cases head' <;> first | exact kind.elim | rfl
  | some key =>
      obtain rfl := params_matches (branch_matches found)
      generalize value.head = head at kind ⊢
      generalize value'.head = head' at kind ⊢
      cases head <;> cases head' <;> first | exact kind.elim | rfl

end Scan

section Documents

variable {before after : List (List UInt8 × Json)} {value value' : Json}

theorem scan_tokens (members : List (List UInt8 × Json)) :
    scanFields (reported (.object members)) =
      match fieldsAfter (memberItems members) with
      | .ok fields => fields
      | .error fields => fields := by
  rw [scanFields, scanLast, scan_object read_name_head, fieldsAfter]
  cases (memberItems members).foldlM (takeItem readName) .initial <;> rfl

theorem document_items (before after : List (List UInt8 × Json)) (value : Json) :
    memberItems (before ++ (PkgKey.params.name, value) :: after) =
      (memberItems before ++ [.pair PkgKey.params.name value.head]) ++
        (behindHead value ++ memberItems after) := by
  rw [member_items_append, memberItems, pairItems, behindHead]
  simp only [List.append_assoc, List.cons_append, List.nil_append]

theorem fields_alike (kind : SameKind value value')
    (nested : ∀ fields,
      fieldsAfter (memberItems before ++ [.pair PkgKey.params.name value.head]) = .ok fields →
        unread fields (behindHead value) = unread fields (behindHead value')) :
    fieldsAfter (memberItems (before ++ (PkgKey.params.name, value) :: after)) =
      fieldsAfter (memberItems (before ++ (PkgKey.params.name, value') :: after)) := by
  have front : fieldsAfter (memberItems before ++ [.pair PkgKey.params.name value.head]) =
      fieldsAfter (memberItems before ++ [.pair PkgKey.params.name value'.head]) := by
    simp only [fieldsAfter, List.foldlM_append, List.foldlM_cons, read_params kind]
  have split (value : Json) :
      fieldsAfter (memberItems (before ++ (PkgKey.params.name, value) :: after)) =
        fieldsAfter (memberItems before ++ [.pair PkgKey.params.name value.head]) >>= fun fields =>
          (behindHead value).foldlM (takeItem readName) fields >>=
            (memberItems after).foldlM (takeItem readName) := by
    simp only [document_items, fieldsAfter, List.foldlM_append]
  rw [split value, split value', ← front]
  cases reached : fieldsAfter (memberItems before ++ [.pair PkgKey.params.name value.head]) with
  | error last => rfl
  | ok fields =>
      have same : (behindHead value).foldlM (takeItem readName) fields =
          (behindHead value').foldlM (takeItem readName) fields := by
        rw [read_unread (behindHead value) fun _ => id, read_unread (behindHead value') fun _ => id,
          nested fields reached]
      exact congrArg (· >>= (memberItems after).foldlM (takeItem readName)) same

/-- Two documents that differ within `params` are taken alike where the names nested there
that are still looked for are the same, with the same values, and so are the failures of the
parser between them. -/
theorem params_taken_alike (jsonparse : List UInt8 → List JsonToken) (device : IoTgoDevice)
    {data data' : List UInt8} (before after : List (List UInt8 × Json)) (value value' : Json)
    (known : jsonparse (cString data) =
      reported (.object (before ++ (PkgKey.params.name, value) :: after)))
    (known' : jsonparse (cString data') =
      reported (.object (before ++ (PkgKey.params.name, value') :: after)))
    (kind : SameKind value value')
    (nested : ∀ fields,
      fieldsAfter (memberItems before ++ [.pair PkgKey.params.name value.head]) = .ok fields →
        unread fields (behindHead value) = unread fields (behindHead value')) :
    parseTypeOfIoTgoPkg jsonparse device data = parseTypeOfIoTgoPkg jsonparse device data' := by
  have scanned :
      scanFields (jsonparse (cString data)) = scanFields (jsonparse (cString data')) := by
    rw [known, known', scan_tokens, scan_tokens, fields_alike kind nested]
  simp only [parseTypeOfIoTgoPkg, scanned]

end Documents

section Examples

/-- A parser that knows some texts. -/
def parserOf (known : List (List UInt8 × Json)) (data : List UInt8) : List JsonToken :=
  match known.find? fun entry => decide (entry.1 = data) with
  | some entry => reported entry.2
  | none => []

def someDevice : IoTgoDevice where
  deviceid := asciiBytes "1000000001"
  factoryApikey := asciiBytes "factory"
  ownerUuid := asciiBytes "owner-1"

def textMember (name text : String) : List UInt8 × Json :=
  (asciiBytes name, .string (asciiBytes text))

def ownerMembers : List (List UInt8 × Json) :=
  [textMember "apikey" "owner-1", textMember "deviceid" "1000000001"]

/-- The text of the owner's members with some others around them. -/
def ownerText (front back : String) : List UInt8 :=
  asciiBytes front ++ asciiBytes "\"apikey\":\"owner-1\",\"deviceid\":\"1000000001\"," ++
    asciiBytes back

def nestedUpdate : Json :=
  .object [textMember "action" "update"]

def nestedSwitch : Json :=
  .object [textMember "switch" "on"]

def queryMembers : List (List UInt8 × Json) :=
  textMember "action" "queryDev" :: ownerMembers

def queryUpdate : List UInt8 :=
  ownerText "\x7b\"action\":\"queryDev\"," "\"params\":\x7b\"action\":\"update\"\x7d\x7d"

def querySwitch : List UInt8 :=
  ownerText "\x7b\"action\":\"queryDev\"," "\"params\":\x7b\"switch\":\"on\"\x7d\x7d"

def queryParser : List UInt8 → List JsonToken :=
  parserOf [(queryUpdate, .object (queryMembers ++ [(PkgKey.params.name, nestedUpdate)])),
    (querySwitch, .object (queryMembers ++ [(PkgKey.params.name, nestedSwitch)]))]

theorem params_taken_alike_query :
    parseTypeOfIoTgoPkg queryParser someDevice queryUpdate =
      parseTypeOfIoTgoPkg queryParser someDevice querySwitch := by
  apply params_taken_alike queryParser someDevice queryMembers [] nestedUpdate nestedSwitch
  · decide
  · decide
  · trivial
  · intro fields reached
    cases reached
    decide

def responseMembers : List (List UInt8 × Json) :=
  (asciiBytes "error", .number 0) :: ownerMembers

def responseUpdate : List UInt8 :=
  ownerText "\x7b\"error\":0," "\"params\":\x7b\"action\":\"update\"\x7d\x7d"

def responseSwitch : List UInt8 :=
  ownerText "\x7b\"error\":0," "\"params\":\x7b\"switch\":\"on\"\x7d\x7d"

def responseParser : List UInt8 → List JsonToken :=
  parserOf [(responseUpdate, .object (responseMembers ++ [(PkgKey.params.name, nestedUpdate)])),
    (responseSwitch, .object (responseMembers ++ [(PkgKey.params.name, nestedSwitch)]))]

/-- A response to a query is taken for an update request because of an action among the
parameters it reports. -/
theorem params_decide_type :
    ¬ ∀ (jsonparse : List UInt8 → List JsonToken) (device : IoTgoDevice) (data data' : List UInt8)
      (before after : List (List UInt8 × Json)) (value value' : Json),
      jsonparse (cString data) =
          reported (.object (before ++ (PkgKey.params.name, value) :: after)) →
        jsonparse (cString data') =
          reported (.object (before ++ (PkgKey.params.name, value') :: after)) →
        SameKind value value' →
        parseTypeOfIoTgoPkg jsonparse device data =
          parseTypeOfIoTgoPkg jsonparse device data' := by
  intro alike
  have same := alike responseParser someDevice responseUpdate responseSwitch responseMembers []
    nestedUpdate nestedSwitch (by decide) (by decide) trivial
  have update :
      (parseTypeOfIoTgoPkg responseParser someDevice responseUpdate).1 = .reqOfUpdate := by
    decide
  have query :
      (parseTypeOfIoTgoPkg responseParser someDevice responseSwitch).1 = .respOfQuery := by
    decide
  rw [same, query] at update
  cases update

end Examples

end IotgoFirmware.Core.PkgNesting
