import IotgoFirmware.Core.Registration

/-!
# Which requests are acted upon

A request is compared with the owner buffer, and with nothing else. The buffer is
empty at the start, holds a placeholder once a registration has been asked for, and
keeps its content where `MSG_CORE_REGISTER` is handled without asking for one: a
request that carries this text as its key is acted upon.
-/

namespace IotgoFirmware.Core.OwnerRequests

open IotgoFirmware.Library.CStrings
open IotgoFirmware.Library.JsonDocuments
open IotgoFirmware.Library.StepRuns
open IotgoFirmware.Library.TraceLaws
open IotgoFirmware.Core.PkgScan
open IotgoFirmware.Core.CoreTask
open IotgoFirmware.Core.PkgNesting
open IotgoFirmware.Core.CoreSteps
open IotgoFirmware.Core.Registration
open IotgoFirmware.Send.SendJson (IoTgoDeviceMode)

set_option autoImplicit false

def keyAfter (accepted : Option (List UInt8)) : CoreLog → Option (List UInt8)
  | .handled .register => none
  | .ownerUuid apikey => some apikey
  | _ => accepted

/-- The key of the response accepted since `MSG_CORE_REGISTER` was handled last. -/
def acceptedKey (log : List CoreLog) : Option (List UInt8) :=
  log.foldl keyAfter none

def RequestAllowed (front : List CoreLog) : CoreLog → Prop
  | .acted _ apikey => acceptedKey front = some apikey
  | _ => True

/-- A request that the code acts upon, since it carries what the owner buffer holds, comes only
behind an accepted registration. -/
def Authorised (board : CoreBoard) (state : CoreState) (event : CoreEvent) : Prop :=
  ∀ type, pkgTypeAt board state event = some type → actsOn board type = true →
    acceptedKey state.log ≠ none

section Types

variable (board : CoreBoard) (device : IoTgoDevice) (fields : PkgFields)

def OwnedIfActed (result : IoTgoPkgType × List PkgEffect) : Prop :=
  actsOn board result.1 = true → FromOwner device fields

/-- All the requests are of the owner whose key is in the buffer. -/
theorem acted_owned : OwnedIfActed board device fields (pkgTypeOf device fields) := by
  unfold pkgTypeOf
  apply iteInduction (fun held _ => held.1) fun _ => ?_
  apply iteInduction (fun held _ => held.1) fun _ => ?_
  apply iteInduction (fun held _ => held.1) fun _ => ?_
  apply iteInduction (fun held _ => held.1) fun _ => ?_
  apply iteInduction (fun held _ => held.1) fun _ => ?_
  apply iteInduction (fun held _ => held.1) fun _ => ?_
  apply iteInduction (fun held _ => held.1) fun _ => ?_
  apply iteInduction (fun held _ => held.1) fun _ => ?_
  apply iteInduction (fun held _ => held.1) fun _ => ?_
  apply iteInduction (fun _ => Bool.noConfusion) fun _ => ?_
  apply iteInduction (fun _ => Bool.noConfusion) fun _ => ?_
  apply iteInduction (fun _ => Bool.noConfusion) fun _ => ?_
  exact Bool.noConfusion

end Types

section Law

variable {board : CoreBoard} {state next : CoreState} {event : CoreEvent} {mode : IoTgoDeviceMode}

/-- The accepted key is what the owner buffer holds. -/
def KeyHeld (state : CoreState) : Prop :=
  ∀ apikey, acceptedKey state.log = some apikey → state.ownerUuid = apikey

theorem accepted_posts (log : List CoreLog) (messages : List CoreMessage) :
    acceptedKey (log ++ messages.map .posted) = acceptedKey log := by
  unfold acceptedKey
  rw [List.foldl_append]
  induction messages with
  | nil => rfl
  | cons message messages ih => exact ih

theorem held_quiet (kept : Quiet mode state next) (held : KeyHeld state) : KeyHeld next := by
  obtain ⟨messages, grown, -⟩ := kept.log
  intro apikey accepted
  rw [grown, accepted_posts] at accepted
  rw [kept.owner]
  exact held apikey accepted

theorem held_noted (message : CoreMessage) (held : KeyHeld state) :
    KeyHeld (noted state message) := by
  intro apikey accepted
  rw [noted, acceptedKey, List.foldl_append] at accepted
  cases message with
  | register => cases accepted
  | _ => exact held apikey accepted

theorem held_step (step : coreStep board state event next) (held : KeyHeld state) :
    KeyHeld next := by
  cases core_kind board step with
  | quiet unparsed kept => exact held_quiet kept held
  | handled message unparsed kept => exact held_quiet kept (held_noted message held)
  | invalidated unparsed owner log =>
      intro apikey accepted
      rw [log, acceptedKey, List.foldl_append] at accepted
      cases accepted
  | parsed type found other owner log =>
      obtain ⟨messages, grown, -⟩ := log
      intro apikey accepted
      have acts : acceptedKey (state.log ++ actLog board type (apikeyAt board event)) =
          acceptedKey state.log := by
        unfold actLog acceptedKey
        rw [List.foldl_append]
        split <;> rfl
      rw [grown, ← List.append_assoc, accepted_posts, acts] at accepted
      rw [owner]
      exact held apikey accepted
  | accepted found owner log =>
      intro apikey accepted
      rw [log, acceptedKey, List.foldl_append] at accepted
      cases accepted
      exact owner

theorem requests_posts (log : List CoreLog) (messages : List CoreMessage) :
    Obeys RequestAllowed (log ++ messages.map .posted) ↔ Obeys RequestAllowed log := by
  rw [obeys_append_iff]
  apply and_iff_left
  apply obeys_of_free
  intro entry member front
  obtain ⟨message, -, rfl⟩ := List.mem_map.1 member
  trivial

theorem requests_snoc (log : List CoreLog) (entry : CoreLog) :
    Obeys RequestAllowed (log ++ [entry]) ↔
      Obeys RequestAllowed log ∧ RequestAllowed log entry := by
  rw [obeys_append_iff, obeys_cons_iff, List.append_nil]
  exact and_congr_right fun _ => and_iff_left obeys_nil

theorem requests_quiet (kept : Quiet mode state next) :
    Obeys RequestAllowed next.log ↔ Obeys RequestAllowed state.log := by
  obtain ⟨messages, grown, -⟩ := kept.log
  rw [grown]
  exact requests_posts state.log messages

/-- A step keeps the law unless it acts upon a request with another key than the accepted
one. -/
theorem requests_step (step : coreStep board state event next) :
    Obeys RequestAllowed next.log ↔ Obeys RequestAllowed state.log ∧
      ∀ type, pkgTypeAt board state event = some type → actsOn board type = true →
        acceptedKey state.log = some (apikeyAt board event) := by
  have nothing (unparsed : pkgTypeAt board state event = none) (type : IoTgoPkgType)
      (found : pkgTypeAt board state event = some type) : False :=
    Option.some_ne_none type (found.symm.trans unparsed)
  cases core_kind board step with
  | quiet unparsed kept =>
      rw [requests_quiet kept]
      exact (and_iff_left fun type found => (nothing unparsed type found).elim).symm
  | handled message unparsed kept =>
      have handled : Obeys RequestAllowed (noted state message).log ↔
          Obeys RequestAllowed state.log :=
        (requests_snoc state.log _).trans (and_iff_left trivial)
      rw [requests_quiet kept, handled]
      exact (and_iff_left fun type found => (nothing unparsed type found).elim).symm
  | invalidated unparsed owner log =>
      have split : next.log = (state.log ++ [.handled .register]) ++ [.ownerInvalid] := by
        rw [log, List.append_assoc]
        rfl
      rw [split, requests_snoc, requests_snoc, and_assoc]
      apply and_congr_right
      intro _
      exact iff_of_true ⟨trivial, trivial⟩ fun type found => (nothing unparsed type found).elim
  | parsed type found other owner log =>
      obtain ⟨messages, grown, -⟩ := log
      rw [grown, ← List.append_assoc, requests_posts, found]
      unfold actLog
      split
      · rename_i acts
        rw [requests_snoc]
        apply and_congr_right
        intro _
        constructor
        · rintro allowed type' same -
          exact allowed
        · exact fun allowed => allowed type rfl acts
      · rename_i idle
        rw [List.append_nil]
        refine (and_iff_left ?_).symm
        rintro type' same acts
        cases same
        exact absurd acts idle
  | accepted found owner log =>
      have split : next.log =
          (state.log ++ [.ownerUuid (apikeyAt board event)]) ++ [.posted .registered] := by
        rw [log, List.append_assoc]
        rfl
      rw [split, requests_snoc, requests_snoc, and_assoc, found]
      apply and_congr_right
      intro _
      refine iff_of_true ⟨trivial, trivial⟩ ?_
      rintro type same acts
      cases same
      cases acts

/-- The key of a request that is acted upon is what the owner buffer holds. -/
theorem acted_key {type : IoTgoPkgType} (found : pkgTypeAt board state event = some type)
    (acts : actsOn board type = true) : apikeyAt board event = state.ownerUuid := by
  unfold pkgTypeAt at found
  unfold apikeyAt
  cases parsed : parsedData event with
  | none =>
      rw [parsed] at found
      cases found
  | some data =>
      rw [parsed] at found
      cases found
      have owned := acted_owned board (state.device board) (pkgFields board data) acts
      have key : (pkgFields board data).apikey = some state.ownerUuid := owned.1
      dsimp only
      rw [key]
      rfl

end Law

section Examples

def restartText : List UInt8 :=
  asciiBytes "\x7b\"action\":\"restart\",\"apikey\":\"Invalid owner uuid\",\"deviceid\":\"1000000001\"\x7d"

def restartBoard : CoreBoard where
  deviceid := asciiBytes "1000000001"
  factoryApikey := asciiBytes "factory"
  reqOfUpdateCallback := true
  reqOfQueryCallback := true
  reqofNotityCallback := false
  jsonparse := parserOf [(restartText, .object [textMember "action" "restart",
    textMember "apikey" "Invalid owner uuid", textMember "deviceid" "1000000001"])]

end Examples

end IotgoFirmware.Core.OwnerRequests
