import IotgoFirmware.Core.CoreSteps
import IotgoFirmware.Core.PkgNesting
import IotgoFirmware.Library.TraceLaws

/-!
# Who may change the owner

The branch of the registration response is the last of a chain: it takes whatever
response of this device carries a foreign key of the right length. Whether a
registration has been asked for is not looked at.
-/

namespace IotgoFirmware.Core.Registration

open IotgoFirmware.Library.CStrings
open IotgoFirmware.Library.JsonDocuments
open IotgoFirmware.Library.StepRuns
open IotgoFirmware.Library.TraceLaws
open IotgoFirmware.Core.PkgScan
open IotgoFirmware.Core.CoreTask
open IotgoFirmware.Core.PkgNesting
open IotgoFirmware.Core.CoreSteps
open IotgoFirmware.Send.SendJson (IoTgoDeviceMode)

set_option autoImplicit false

/-- A registration is outstanding from `MSG_CORE_REGISTER` on until a response is accepted. -/
def registrationAfter (outstanding : Bool) : CoreLog → Bool
  | .handled .register => true
  | .posted .registered => false
  | _ => outstanding

def outstandingAfter (log : List CoreLog) : Bool :=
  log.foldl registrationAfter false

def ownerWritten (owner : List UInt8) : CoreLog → List UInt8
  | .ownerUuid apikey => apikey
  | .ownerInvalid => asciiBytes "Invalid owner uuid"
  | _ => owner

def ownerAfter (log : List CoreLog) : List UInt8 :=
  log.foldl ownerWritten []

/-- The owner takes a value of the server, or `MSG_CORE_REGISTERED` is posted. -/
def TakesOwner : CoreLog → Prop
  | .ownerUuid _ => True
  | .posted .registered => True
  | _ => False

def OwnerAllowed (front : List CoreLog) (entry : CoreLog) : Prop :=
  TakesOwner entry → outstandingAfter front = true

/-- A response of this device without parameters, whose key is as long as the factory key
and neither this nor the owner's. -/
def ForeignResponse (device : IoTgoDevice) (fields : PkgFields) : Prop :=
  OwnerKey device fields ∧ fields.apikey ≠ some device.ownerUuid ∧
    fields.deviceid = some device.deviceid ∧ fields.error = some 0 ∧ fields.params = false

/-- Such a response comes only while a registration is outstanding. -/
def Awaited (board : CoreBoard) (state : CoreState) (event : CoreEvent) : Prop :=
  ∀ data, parsedData event = some data →
    ForeignResponse (state.device board) (pkgFields board data) →
      outstandingAfter state.log = true

section Types

variable (device : IoTgoDevice) (fields : PkgFields)

def NotInit (result : IoTgoPkgType × List PkgEffect) : Prop :=
  result.1 ≠ .respOfInit

theorem owned_not_init (owner : fields.apikey = some device.ownerUuid) :
    NotInit (pkgTypeOf device fields) := by
  unfold pkgTypeOf
  apply iteInduction (fun _ => IoTgoPkgType.noConfusion) fun _ => ?_
  apply iteInduction (fun _ => IoTgoPkgType.noConfusion) fun _ => ?_
  apply iteInduction (fun _ => IoTgoPkgType.noConfusion) fun _ => ?_
  apply iteInduction (fun _ => IoTgoPkgType.noConfusion) fun _ => ?_
  apply iteInduction (fun _ => IoTgoPkgType.noConfusion) fun _ => ?_
  apply iteInduction (fun _ => IoTgoPkgType.noConfusion) fun _ => ?_
  apply iteInduction (fun _ => IoTgoPkgType.noConfusion) fun _ => ?_
  apply iteInduction (fun _ => IoTgoPkgType.noConfusion) fun update => ?_
  apply iteInduction (fun _ => IoTgoPkgType.noConfusion) fun date => ?_
  apply iteInduction (fun init => ?_) fun _ => ?_
  · have from_owner : FromOwner device fields := ⟨owner, init.2.1⟩
    have dated : fields.date.isSome := by
      rw [Option.isSome_iff_ne_none]
      exact fun absent => update ⟨from_owner, init.2.2.1, init.2.2.2, absent⟩
    exact absurd ⟨from_owner, init.2.2.1, dated⟩ date
  apply iteInduction (fun _ => IoTgoPkgType.noConfusion) fun _ => ?_
  apply iteInduction (fun _ => IoTgoPkgType.noConfusion) fun _ => ?_
  exact IoTgoPkgType.noConfusion

theorem type_init_iff :
    (pkgTypeOf device fields).1 = .respOfInit ↔ ForeignResponse device fields := by
  by_cases owner : fields.apikey = some device.ownerUuid
  · refine iff_of_false (fun init => ?_) fun foreign => foreign.2.1 owner
    exact owned_not_init device fields owner init
  · have foreign (rest : Prop) : ¬ (FromOwner device fields ∧ rest) := fun held => owner held.1.1
    have forbidden : ¬ (fields.error = some 403 ∧ FromOwner device fields) :=
      fun held => owner held.2.1
    unfold pkgTypeOf
    rw [if_neg (foreign _), if_neg (foreign _), if_neg (foreign _), if_neg (foreign _),
      if_neg (foreign _), if_neg (foreign _), if_neg (foreign _), if_neg (foreign _),
      if_neg (foreign _), if_neg forbidden]
    by_cases reached : OwnerKey device fields ∧ fields.deviceid = some device.deviceid ∧
        fields.error = some 0 ∧ ¬ fields.params
    · rw [if_pos reached]
      refine iff_of_true rfl ⟨reached.1, owner, reached.2.1, reached.2.2.1, ?_⟩
      exact Bool.eq_false_iff.2 reached.2.2.2
    · rw [if_neg reached]
      refine iff_of_false ?_ fun held => reached ⟨held.1, held.2.2.1, held.2.2.2.1, ?_⟩
      · split <;> exact IoTgoPkgType.noConfusion
      · exact Bool.eq_false_iff.1 held.2.2.2.2

end Types

section Law

variable {board : CoreBoard} {state next : CoreState} {event : CoreEvent} {mode : IoTgoDeviceMode}

theorem owner_after_posts (log : List CoreLog) (messages : List CoreMessage) :
    ownerAfter (log ++ messages.map .posted) = ownerAfter log := by
  unfold ownerAfter
  rw [List.foldl_append]
  induction messages with
  | nil => rfl
  | cons message messages ih => exact ih

theorem owner_after_quiet (kept : Quiet mode state next)
    (logged : state.ownerUuid = ownerAfter state.log) :
    next.ownerUuid = ownerAfter next.log := by
  obtain ⟨messages, grown, -⟩ := kept.log
  rw [kept.owner, grown, owner_after_posts, logged]

theorem owner_logged (step : coreStep board state event next)
    (logged : state.ownerUuid = ownerAfter state.log) :
    next.ownerUuid = ownerAfter next.log := by
  cases core_kind board step with
  | quiet unparsed kept => exact owner_after_quiet kept logged
  | handled message unparsed kept =>
      apply owner_after_quiet kept
      rw [noted, ownerAfter, List.foldl_append]
      exact logged
  | invalidated unparsed owner log =>
      rw [owner, log, ownerAfter, List.foldl_append]
      rfl
  | parsed type found other owner log =>
      obtain ⟨messages, grown, -⟩ := log
      have acts : ownerAfter (state.log ++ actLog board type (apikeyAt board event)) =
          ownerAfter state.log := by
        unfold actLog ownerAfter
        rw [List.foldl_append]
        split <;> rfl
      rw [owner, grown, ← List.append_assoc, owner_after_posts, acts, logged]
  | accepted found owner log =>
      rw [owner, log, ownerAfter, List.foldl_append]
      rfl

theorem posts_allowed {messages : List CoreMessage} (absent : .registered ∉ messages)
    {entry : CoreLog} (member : entry ∈ messages.map CoreLog.posted) : ¬ TakesOwner entry := by
  obtain ⟨message, listed, rfl⟩ := List.mem_map.1 member
  intro takes
  cases message <;> first | exact takes | exact absent listed

theorem obeys_free {log more : List CoreLog} (free : ∀ entry ∈ more, ¬ TakesOwner entry) :
    Obeys OwnerAllowed (log ++ more) ↔ Obeys OwnerAllowed log := by
  rw [obeys_append_iff]
  apply and_iff_left
  apply obeys_of_free
  intro entry member front takes
  exact absurd takes (free entry member)

theorem obeys_quiet (kept : Quiet mode state next) :
    Obeys OwnerAllowed next.log ↔ Obeys OwnerAllowed state.log := by
  obtain ⟨messages, grown, absent⟩ := kept.log
  rw [grown]
  exact obeys_free fun entry member => posts_allowed absent member

theorem obeys_step (step : coreStep board state event next) :
    Obeys OwnerAllowed next.log ↔ Obeys OwnerAllowed state.log ∧
      (pkgTypeAt board state event = some .respOfInit → outstandingAfter state.log = true) := by
  cases core_kind board step with
  | quiet unparsed kept =>
      rw [obeys_quiet kept, unparsed]
      exact (and_iff_left fun found => (Option.some_ne_none _ found.symm).elim).symm
  | handled message unparsed kept =>
      have noted : Obeys OwnerAllowed (noted state message).log ↔ Obeys OwnerAllowed state.log := by
        apply obeys_free
        intro entry member
        cases List.mem_singleton.1 member
        exact id
      rw [obeys_quiet kept, noted, unparsed]
      exact (and_iff_left fun found => (Option.some_ne_none _ found.symm).elim).symm
  | invalidated unparsed owner log =>
      have free : ∀ entry ∈ [CoreLog.handled .register, .ownerInvalid], ¬ TakesOwner entry := by
        intro entry member
        rcases List.mem_cons.1 member with rfl | last
        · exact id
        · cases List.mem_singleton.1 last
          exact id
      rw [log, obeys_free free, unparsed]
      exact (and_iff_left fun found => (Option.some_ne_none _ found.symm).elim).symm
  | parsed type found other owner log =>
      obtain ⟨messages, grown, absent⟩ := log
      have free : ∀ entry ∈ actLog board type (apikeyAt board event) ++ messages.map .posted,
          ¬ TakesOwner entry := by
        intro entry member
        rcases List.mem_append.1 member with act | post
        · unfold actLog at act
          split at act
          · cases List.mem_singleton.1 act
            exact id
          · cases act
        · exact posts_allowed absent post
      rw [grown, obeys_free free, found]
      exact (and_iff_left fun init => absurd (Option.some.inj init) other).symm
  | accepted found owner log =>
      rw [log, obeys_append_iff, obeys_cons_iff, obeys_cons_iff, found]
      apply and_congr_right
      intro _
      constructor
      · rintro ⟨first, -⟩ -
        have taken := first trivial
        rwa [List.append_nil] at taken
      · intro waits
        have outstanding := waits rfl
        refine ⟨fun _ => ?_, fun _ => ?_, obeys_nil⟩
        · rwa [List.append_nil]
        · rw [outstandingAfter, List.foldl_append]
          exact outstanding

theorem awaited_iff (board : CoreBoard) (state : CoreState) (event : CoreEvent) :
    Awaited board state event ↔
      (pkgTypeAt board state event = some .respOfInit → outstandingAfter state.log = true) := by
  unfold Awaited pkgTypeAt
  cases parsedData event with
  | none => exact iff_of_true (fun data found => by cases found) fun found => by cases found
  | some data =>
      have init : (parseTypeOfIoTgoPkg board.jsonparse (state.device board) data).1 = .respOfInit ↔
          ForeignResponse (state.device board) (pkgFields board data) :=
        type_init_iff (state.device board) (pkgFields board data)
      rw [Option.map_some, Option.some.injEq, init]
      constructor
      · exact fun awaited => awaited data rfl
      · rintro awaited data' found
        cases found
        exact awaited

/-- The owner takes a value of the server, and `MSG_CORE_REGISTERED` is posted, on no response
but that to an outstanding registration, exactly in the runs in which no other response
carries a foreign key. -/
theorem owner_law_iff (board : CoreBoard) (events : List CoreEvent) :
    Keeps (coreStep board)
        (fun state => state.ownerUuid = ownerAfter state.log ∧ Obeys OwnerAllowed state.log)
        .initial events ↔
      Meets (coreStep board) (Awaited board) .initial events := by
  apply keeps_iff_meets fun state => state.ownerUuid = ownerAfter state.log
  · intro state event next logged step
    exact owner_logged step logged
  · rintro state event logged ⟨-, obeyed⟩
    rw [awaited_iff]
    constructor
    · intro kept init
      obtain ⟨next, step⟩ : ∃ next, coreStep board state event next := by
        cases event with
        | package pdata len => exact ⟨_, rfl⟩
        | _ => cases init
      exact ((obeys_step step).1 (kept next step).2).2 init
    · intro awaited next step
      exact ⟨owner_logged step logged, (obeys_step step).2 ⟨obeyed, awaited⟩⟩
  · rfl
  · exact ⟨rfl, obeys_nil⟩

end Law

section Examples

/-- The text of a successful response with some members behind. -/
def responseText (apikey back : String) : List UInt8 :=
  asciiBytes "\x7b\"error\":0,\"apikey\":\"" ++ asciiBytes apikey ++
    asciiBytes "\",\"deviceid\":\"1000000001\"" ++ asciiBytes back ++ asciiBytes "\x7d"

def response (apikey : String) (more : List (List UInt8 × Json)) : Json :=
  .object ((asciiBytes "error", .number 0) :: textMember "apikey" apikey ::
    textMember "deviceid" "1000000001" :: more)

/-- A registration response, and a date response that was meant for an earlier owner. -/
def firstBoard : CoreBoard where
  deviceid := asciiBytes "1000000001"
  factoryApikey := asciiBytes "factory"
  reqOfUpdateCallback := true
  reqOfQueryCallback := true
  reqofNotityCallback := false
  jsonparse := parserOf
    [(responseText "owner-2" "", response "owner-2" []),
      (responseText "owner-1" ",\"date\":\"2015-03-02T07:23:13.073Z\"",
        response "owner-1" [textMember "date" "2015-03-02T07:23:13.073Z"])]

/-- A text frame, with the NUL behind it. -/
def textPackage (text : List UInt8) : CoreEvent :=
  .package (0x81 :: UInt8.ofNat text.length :: (text ++ [0])) (text.length + 2)

/-- From the start to the request for registration. -/
def toRegister : List CoreEvent :=
  [.startTimer, .handle true, .joinApTimer true, .joinApTimer true, .handle true, .handle true,
    .distributor (some (asciiBytes "10.0.0.1", 443)), .handle true, .handle true,
    .post .serverConnected, .handle true, .handle true,
    .package (asciiBytes "HTTP/1.1 101 Switching Protocols\r\n\r\n") 36, .handle true, .handle true]

def lateResponse : List CoreEvent :=
  toRegister ++
    [textPackage (responseText "owner-2" ""), .handle true,
      textPackage (responseText "owner-1" ",\"date\":\"2015-03-02T07:23:13.073Z\"")]

/-- A late response with the key of the owner before makes this the owner again. -/
theorem owner_law_broken :
    ¬ Keeps (coreStep firstBoard)
        (fun state => state.ownerUuid = ownerAfter state.log ∧ Obeys OwnerAllowed state.log)
        .initial lateResponse := by
  have reached : ((execRun (fun state event => coreExec state firstBoard event) .initial
      lateResponse).any fun final => decide
        (final.log.drop 23 = [.ownerUuid (asciiBytes "owner-1"), .posted .registered] ∧
          outstandingAfter (final.log.take 23) = false)) = true := rfl
  intro kept
  obtain ⟨final, run, checked⟩ := exists_run_of_exec (fun _ _ _ computed => computed) reached
  obtain ⟨tail, idle⟩ := of_decide_eq_true checked
  have split : final.log =
      final.log.take 23 ++ .ownerUuid (asciiBytes "owner-1") :: [.posted .registered] := by
    rw [← tail, List.take_append_drop]
  have outstanding := (keeps_final kept run).2 _ _ _ split trivial
  rw [idle] at outstanding
  cases outstanding

end Examples

end IotgoFirmware.Core.Registration
