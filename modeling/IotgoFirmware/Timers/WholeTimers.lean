import IotgoFirmware.Timers.TimersAlone

/-!
# Timers that are complete in themselves

A loop over the array meets such a timer as one call: it is left behind the member that
completes the timer, and what stands behind that member begins no other call.
-/

namespace IotgoFirmware.Timers.WholeTimers

open IotgoFirmware.Library.CStrings
open IotgoFirmware.Library.CollectingReads
open IotgoFirmware.Library.JsonDocuments
open IotgoFirmware.Timers.TimeObjects
open IotgoFirmware.Timers.TimerOffers
open IotgoFirmware.Timers.TimerReadings
open IotgoFirmware.Timers.TimersAlone

set_option autoImplicit false

section Conditions

/-- A text or a whole number. -/
inductive Plain : Json → Prop where
  | string (text : List UInt8) : Plain (.string text)
  | number (value : Int) : Plain (.number value)

/-- An action of texts and whole numbers, its switch a text. -/
def PlainAction (action : Members) : Prop :=
  ∀ member ∈ action, Plain member.2 ∧
    (Matches member.1 (asciiBytes "switch") → ∃ text, member.2 = .string text)

/-- A member that the reading asks for: a field, or an action. -/
inductive Asked : List UInt8 × Json → Prop where
  | field {name : List UInt8} {value : Json} {read : TimerValue} (plain : Plain value)
      (named : readName .timer name value = .one read .timer) : Asked (name, value)
  | action {name : List UInt8} {action : Members} {loop : ScanLoop} (timer : loop ≠ .timer)
      (named : readName .timer name (.object action) = .along loop)
      (plain : PlainAction action) : Asked (name, .object action)

/-- What is read of the first members of a timer, and then of one more. -/
def valuesTo (init : Members) (last : List UInt8 × Json) : List TimerValue :=
  (readMembers init .timer).values ++ (readPair last .timer).values

/-- With its member `last` a timer has all that is waited for. -/
structure Completes (init : Members) (last : List UInt8 × Json) : Prop where
  reads : (readMembers init .timer).loop = some .timer
  missing : ¬(HasSchedule (· ∈ (readMembers init .timer).values) ∧
    HasActions (· ∈ (readMembers init .timer).values))
  asked : Asked last
  schedule : HasSchedule (· ∈ valuesTo init last)
  actions : HasActions (· ∈ valuesTo init last)

/-- Each field has the last value that was read for it. -/
def fieldsOf (values : List TimerValue) : TimerFields :=
  timerCollector.after .initial values

/-- The timer is complete in itself, and its values are such. -/
def Told (holds : List TimerValue → Prop) (members : Members) : Prop :=
  ∃ init last behind, members = init ++ last :: behind ∧ Completes init last ∧
    holds (valuesTo init last)

/-- So it is, and nothing in it behind them is looked at. -/
def Whole (holds : List TimerValue → Prop) (members : Members) : Prop :=
  ∃ init last behind, members = init ++ last :: behind ∧ Completes init last ∧
    (∀ member ∈ behind, Plain member.2) ∧ holds (valuesTo init last)

/-- The timer lacks a field, and takes none from those behind it. -/
def Lacking (members : Members) (others : List Members) : Prop :=
  Separate members others ∧ ¬(HasSchedule (· ∈ (readTimer members).values) ∧
    HasSomeAction (· ∈ (readTimer members).values))

end Conditions

section Members

variable {loop : ScanLoop} {fields : TimerFields}

/-- Members with a comma behind each of them. -/
def frontTokens : Members → List JsonToken
  | [] => []
  | member :: rest => pairTokens member ++ .comma :: frontTokens rest

theorem member_tokens_begin (member : List UInt8 × Json) (members : Members) :
    ∃ token rest, memberTokens (member :: members) = token :: rest := by
  obtain ⟨name, value⟩ := member
  exact ⟨_, _, rfl⟩

theorem member_tokens_split (init behind : Members) (last : List UInt8 × Json) :
    memberTokens (init ++ last :: behind) =
      frontTokens init ++ (pairTokens last ++ behindComma .comma (memberTokens behind)) := by
  induction init with
  | nil => rfl
  | cons member init ih =>
      have begins : ∃ token rest, memberTokens (init ++ last :: behind) = token :: rest := by
        cases init with
        | nil => exact member_tokens_begin last behind
        | cons other init => exact member_tokens_begin other (init ++ last :: behind)
      obtain ⟨token, rest, tokens⟩ := begins
      rw [List.cons_append, memberTokens, frontTokens, List.append_assoc, List.cons_append, ← ih,
        tokens]
      rfl

theorem reads_front (init : Members) (loop : ScanLoop) :
    Reads loop (frontTokens init) (readMembers init loop) := by
  induction init generalizing loop with
  | nil => exact reads_nil loop
  | cons member init ih =>
      obtain ⟨name, value⟩ := member
      refine reads_append (reads_pair name (reads_tail value) loop) fun next _ => ?_
      have comma := @reads_token .comma (fun _ => JsonToken.noConfusion) next
      refine @reads_append next [.comma] _ _ (fun _ => readMembers init next) comma ?_
      rintro behind same
      have stays : behind = next := by
        cases same
        rfl
      rw [stays]
      exact ih next

theorem action_passes (action : loop ≠ .timer) {value : Json} (plain : Plain value)
    {token : JsonToken} (passed : token = .pair ∨ token = .comma ∨ token = value.head)
    (rest : List JsonToken) : scanTurn loop token rest = .goes loop 0 none := by
  rcases passed with rfl | rfl | rfl
  · cases loop with
    | timer => exact absurd rfl action
    | _ => rfl
  · cases loop with
    | timer => exact absurd rfl action
    | _ => rfl
  · cases loop with
    | timer => exact absurd rfl action
    | _ => cases plain <;> rfl

theorem action_goes (action : loop ≠ .timer) {token : JsonToken} {consumed : Nat}
    {read : Option TimerValue} {rest : List JsonToken}
    (turn : scanTurn loop token rest = .goes loop consumed read) :
    scanOffers loop 0 (token :: rest) =
        (read.map .value).toList ++ scanOffers loop consumed rest ∧
      ∀ fields, scanConsumed loop 0 fields (token :: rest) =
        scanConsumed loop consumed (timerCollector.after fields read.toList) rest + 1 := by
  refine ⟨?_, fun fields => consumed_turn (fun timer => absurd timer action) turn⟩
  rw [scanOffers, turn]
  cases loop with
  | timer => exact absurd rfl action
  | _ => cases read <;> rfl

/-- In an action nothing is looked at but its switch. -/
theorem plain_turn (action : loop ≠ .timer) {name : List UInt8} {value : Json}
    (plain : Plain value)
    (text : Matches name (asciiBytes "switch") → ∃ text, value = .string text) :
    ∃ read : Option TimerValue, readPair (name, value) loop = ⟨read.toList, some loop⟩ ∧
      ((∀ rest, scanTurn loop (.pairName name) (.pair :: value.head :: rest) =
          .goes loop 2 read) ∨
        read = none ∧ ∀ rest, scanTurn loop (.pairName name) (.pair :: value.head :: rest) =
          .goes loop 0 none) := by
  have named : readName loop name value = readActionName loop name value := by
    cases loop with
    | timer => exact absurd rfl action
    | _ => rfl
  have turned : ∀ rest, scanTurn loop (.pairName name) (.pair :: value.head :: rest) =
      actionTurn loop (.pairName name) [.pair, value.head] := by
    intro rest
    rw [scan_turn_sees]
    cases loop with
    | timer => exact absurd rfl action
    | _ => rfl
  simp only [turned, readPair, named]
  by_cases switch : Matches name (asciiBytes "switch")
  · obtain ⟨whole, rfl⟩ := text switch
    refine ⟨some (.switch loop (whole.take 9)), ?_, .inl fun _ => ?_⟩
    · rw [readActionName, if_pos switch]
      rfl
    · dsimp only [actionTurn]
      rw [if_pos switch]
      rfl
  · refine ⟨none, ?_, .inr ⟨rfl, fun _ => ?_⟩⟩
    · rw [readActionName, if_neg switch]
      cases plain <;> rfl
    · dsimp only [actionTurn]
      rw [if_neg switch]

theorem plain_pair (action : loop ≠ .timer) {name : List UInt8} {value : Json}
    (plain : Plain value)
    (text : Matches name (asciiBytes "switch") → ∃ text, value = .string text) :
    (readPair (name, value) loop).loop = some loop ∧
      ∀ rest, scanOffers loop 0 (pairTokens (name, value) ++ rest) =
          (readPair (name, value) loop).values.map .value ++ scanOffers loop 0 rest ∧
        ∀ fields, scanConsumed loop 0 fields (pairTokens (name, value) ++ rest) =
          (pairTokens (name, value)).length + scanConsumed loop 0
            (timerCollector.after fields (readPair (name, value) loop).values) rest := by
  obtain ⟨read, reading, turn⟩ := plain_turn action plain text
  have tokens : pairTokens (name, value) = [.pairName name, .pair, value.head] := by
    cases plain <;> rfl
  rw [reading, tokens]
  refine ⟨rfl, fun rest => ?_⟩
  simp only [List.cons_append, List.nil_append, List.length_cons, List.length_nil]
  rcases turn with turn | ⟨rfl, turn⟩
  · obtain ⟨offers, consumed⟩ := action_goes action (turn rest)
    refine ⟨?_, fun fields => ?_⟩
    · rw [offers]
      cases read <;> rfl
    · rw [consumed]
      change scanConsumed loop 0 _ rest + 1 + 1 + 1 = _
      omega
  · obtain ⟨offers, consumed⟩ := action_goes action (turn rest)
    have colon := action_goes action
      (action_passes action plain (.inl rfl) (value.head :: rest))
    have head := action_goes action (action_passes action plain (.inr (.inr rfl)) rest)
    refine ⟨?_, fun fields => ?_⟩
    · rw [offers, colon.1, head.1]
      rfl
    · rw [consumed, colon.2, head.2]
      change scanConsumed loop 0 fields rest + 1 + 1 + 1 = 3 + scanConsumed loop 0 fields rest
      omega

theorem plain_members (action : loop ≠ .timer) {members : Members} (plain : PlainAction members) :
    (readMembers members loop).loop = some loop ∧
      ∀ rest, scanOffers loop 0 (memberTokens members ++ rest) =
          (readMembers members loop).values.map .value ++ scanOffers loop 0 rest ∧
        ∀ fields, scanConsumed loop 0 fields (memberTokens members ++ rest) =
          (memberTokens members).length + scanConsumed loop 0
            (timerCollector.after fields (readMembers members loop).values) rest := by
  induction members with
  | nil => exact ⟨rfl, fun rest => ⟨rfl, fun fields => (Nat.zero_add _).symm⟩⟩
  | cons member members ih =>
      obtain ⟨name, value⟩ := member
      obtain ⟨first, others⟩ := List.forall_mem_cons.1 plain
      obtain ⟨stays, pair⟩ := plain_pair action first.1 first.2
      obtain ⟨along, later⟩ := ih others
      have reading : readMembers ((name, value) :: members) loop =
          ⟨(readPair (name, value) loop).values ++ (readMembers members loop).values,
            some loop⟩ := by
        rw [readMembers, Reading.andThen, stays]
        dsimp only
        rw [along]
      rw [reading]
      refine ⟨rfl, fun rest => ?_⟩
      cases members with
      | nil =>
          have tokens : memberTokens [(name, value)] = pairTokens (name, value) :=
            List.append_nil _
          have none : (readMembers [] loop).values = [] := rfl
          rw [tokens, none, List.append_nil]
          exact pair rest
      | cons other members =>
          obtain ⟨token, tokens, begins⟩ := member_tokens_begin other members
          have split : memberTokens ((name, value) :: other :: members) =
              pairTokens (name, value) ++ .comma :: memberTokens (other :: members) := by
            rw [memberTokens, begins]
            rfl
          have comma := action_goes action
            (action_passes action first.1 (.inr (.inl rfl)) (memberTokens (other :: members) ++ rest))
          obtain ⟨offers, consumed⟩ := pair (.comma :: (memberTokens (other :: members) ++ rest))
          obtain ⟨offersLater, consumedLater⟩ := later rest
          rw [split, List.append_assoc, List.cons_append]
          constructor
          · rw [offers, comma.1, offersLater, List.map_append, List.append_assoc]
            rfl
          · intro fields
            rw [consumed, comma.2, consumedLater, List.length_append, List.length_cons,
              Collector.after, Collector.after, Collector.after, Collector.after, List.foldl_append]
            simp only [Option.toList_none, List.foldl_nil]
            omega

theorem asked_turn {value : Json} {turn : ScanTurn} {reading : Reading} {read : TimerValue}
    (plain : Plain value) (turned : NameTurn .timer value turn reading)
    (given : reading = .one read .timer) : turn = .goes .timer 2 (some read) := by
  cases turned with
  | ends => cases given
  | takes next taken =>
      cases taken with
      | none => cases given
      | some taken =>
          cases given
          rfl
  | passes => cases plain <;> cases given

theorem action_begins {action : Members} {turn : ScanTurn} {reading : Reading}
    (timer : loop ≠ .timer) (turned : NameTurn .timer (.object action) turn reading)
    (given : reading = .along loop) : turn = .goes loop 2 none := by
  cases turned with
  | ends => cases given
  | takes next taken =>
      cases taken with
      | none =>
          cases given
          rfl
      | some taken => cases given
  | passes =>
      cases given
      exact absurd rfl timer

/-- The member is read to its end, with one look at what is missing. -/
structure MemberRead (last : List UInt8 × Json) (rest : List JsonToken) : Prop where
  offers : scanOffers .timer 0 (pairTokens last ++ rest) =
    .turn :: ((readPair last .timer).values.map .value ++ scanOffers .timer 0 rest)
  consumed : ∀ fields : TimerFields, fields.complete ≠ true →
    scanConsumed .timer 0 fields (pairTokens last ++ rest) =
      (pairTokens last).length + scanConsumed .timer 0
        (timerCollector.after fields (readPair last .timer).values) rest

theorem field_read {name : List UInt8} {value : Json} {read : TimerValue} (plain : Plain value)
    (named : readName .timer name value = .one read .timer) (rest : List JsonToken) :
    MemberRead (name, value) rest := by
  have turned := asked_turn plain (name_turn .timer name value) named
  have seen := scan_turn_sees .timer name value.head rest
  rw [turned] at seen
  have tokens : pairTokens (name, value) = [.pairName name, .pair, value.head] := by
    cases plain <;> rfl
  have reading : readPair (name, value) .timer = .one read .timer := by
    rw [readPair, named]
    cases plain <;> rfl
  constructor
  · rw [tokens, reading, List.cons_append, scanOffers, List.cons_append, List.singleton_append,
      seen]
    rfl
  · intro fields missing
    rw [tokens, reading, List.cons_append, List.cons_append, List.singleton_append,
      consumed_turn (fun _ => missing) seen]
    change scanConsumed .timer 0 _ rest + 1 + 1 + 1 =
      3 + scanConsumed .timer 0 (timerCollector.after fields [read]) rest
    exact Nat.add_comm _ 3

theorem action_read {name : List UInt8} {action : Members} (timer : loop ≠ .timer)
    (named : readName .timer name (.object action) = .along loop) (plain : PlainAction action)
    (rest : List JsonToken) : MemberRead (name, .object action) rest := by
  have turned := action_begins timer (name_turn .timer name (.object action)) named
  obtain ⟨stays, later⟩ := plain_members timer plain
  obtain ⟨offers, consumed⟩ := later (.objectEnd :: rest)
  have seen := scan_turn_sees .timer name .object (memberTokens action ++ .objectEnd :: rest)
  have head : (Json.object action).head = .object := rfl
  rw [head] at turned
  rw [turned] at seen
  have close : scanTurn loop .objectEnd rest = .goes .timer 0 none := by
    cases loop with
    | timer => exact absurd rfl timer
    | _ => rfl
  have tokens : pairTokens (name, .object action) ++ rest =
      .pairName name :: .pair :: .object :: (memberTokens action ++ .objectEnd :: rest) := by
    simp [pairTokens, Json.tokens]
  have length : (pairTokens (name, .object action)).length = (memberTokens action).length + 4 := by
    simp [pairTokens, Json.tokens]
  have reading : (readPair (name, .object action) .timer).values =
      (readMembers action loop).values := by
    rw [readPair, named, Reading.andThen]
    dsimp only [Reading.along]
    rw [readTail, Reading.andThen, stays]
    dsimp only [Reading.along]
    rw [List.append_nil, List.nil_append]
  constructor
  · rw [reading, tokens, scanOffers, seen]
    change Offer.turn :: scanOffers loop 0 (memberTokens action ++ .objectEnd :: rest) = _
    rw [offers, scanOffers, close]
    cases loop with
    | timer => exact absurd rfl timer
    | _ => rfl
  · intro fields missing
    have same : timerCollector.after (timerCollector.after fields (readMembers action loop).values)
        none.toList = timerCollector.after fields (readMembers action loop).values := rfl
    rw [reading, tokens, length, consumed_turn (fun _ => missing) seen]
    change scanConsumed loop 0 fields (memberTokens action ++ .objectEnd :: rest) + 1 + 1 + 1 = _
    rw [consumed, consumed_turn (fun same => absurd same timer) close, same]
    omega

/-- The member that completes a timer is read to its end. -/
theorem asked_read {last : List UInt8 × Json} (asked : Asked last) (rest : List JsonToken) :
    MemberRead last rest := by
  cases asked with
  | field plain named => exact field_read plain named rest
  | action timer named plain => exact action_read timer named plain rest

end Members

section Fields

variable {init : Members} {last : List UInt8 × Json}

theorem completes_missing (completes : Completes init last) :
    (timerCollector.after .initial (readMembers init .timer).values).complete ≠ true :=
  fun complete => completes.missing ((complete_iff _).1 complete)

theorem completes_fields (completes : Completes init last) :
    (fieldsOf (valuesTo init last)).complete = true :=
  (complete_iff _).2 ⟨completes.schedule, completes.actions⟩

theorem fields_to (init : Members) (last : List UInt8 × Json) :
    fieldsOf (valuesTo init last) = timerCollector.after
      (timerCollector.after .initial (readMembers init .timer).values)
      (readPair last .timer).values :=
  List.foldl_append

/-- The loop is left behind the member that completes the timer. -/
theorem completes_taken (completes : Completes init last) (token : JsonToken)
    (rest : List JsonToken) :
    takenValues (frontTokens init ++ (pairTokens last ++ token :: rest)) = valuesTo init last := by
  obtain ⟨front, values, cut, passes, -⟩ := reads_front init .timer
  obtain ⟨more, read, goes⟩ := passes (pairTokens last ++ token :: rest)
  have whole : .cut ∉ front := fun member => by cases completes.reads.symm.trans (cut.1 member)
  have missing := completes_missing completes
  have complete := completes_fields completes
  rw [fields_to] at complete
  rw [← values] at missing complete
  unfold takenValues
  rw [read, goes .timer completes.reads, (asked_read completes.asked (token :: rest)).offers,
    collect_goes_on whole missing, collect_turn missing, scanOffers]
  have all := @collect_values _ _ timerCollector
    (timerCollector.after .initial (heard front)) ((scanTurn .timer token rest).offered ++
      scanOffers (scanTurn .timer token rest).next (scanTurn .timer token rest).consumed rest)
    (readPair last .timer).values complete
  rw [turnOffer, List.singleton_append, all, values]
  rfl

theorem completes_consumed (completes : Completes init last) (rest : List JsonToken) :
    scanConsumed .timer 0 .initial (frontTokens init ++ (pairTokens last ++ rest)) =
      (frontTokens init ++ pairTokens last).length := by
  obtain ⟨front, values, -, -, consumes⟩ := reads_front init .timer
  have missing := completes_missing completes
  have complete := completes_fields completes
  rw [fields_to] at complete
  rw [← values] at missing complete
  rw [consumes .timer completes.reads .initial _ (unfinished_of_less missing),
    (asked_read completes.asked rest).consumed _ missing, List.length_append]
  have ended : scanConsumed .timer 0 (timerCollector.after
      (timerCollector.after .initial (heard front)) (readPair last .timer).values) rest = 0 := by
    cases rest with
    | nil => rfl
    | cons token rest => exact if_pos ⟨rfl, complete⟩
  rw [ended]
  rfl

end Fields

end IotgoFirmware.Timers.WholeTimers
