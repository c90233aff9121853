import IotgoFirmware.Timers.TimerOffers

/-!
# What the objects of a timers array say

A timer is read member by member, with all that is nested in it. The `]` of an array, a literal
and a member of a wrong type end the reading, but not within an action; behind the first `}`
or literal there the loop over the action is left.
-/

namespace IotgoFirmware.Timers.TimerReadings

open IotgoFirmware.Core.PkgScan (jsonIoTgoGetString jsonIoTgoGetNumber)
open IotgoFirmware.Library.CStrings
open IotgoFirmware.Library.CollectingReads
open IotgoFirmware.Library.JsonDocuments
open IotgoFirmware.Timers.TimeObjects
open IotgoFirmware.Timers.TimerOffers

set_option autoImplicit false

abbrev Members := List (List UInt8 × Json)

section Documents

/-- The values that a part of a document holds for the timer, up to the element that ends the
reading; where none does, the loop that runs behind the part. -/
structure Reading where
  values : List TimerValue
  loop : Option ScanLoop

def Reading.ended : Reading := ⟨[], none⟩

def Reading.along (loop : ScanLoop) : Reading := ⟨[], some loop⟩

def Reading.one (value : TimerValue) (loop : ScanLoop) : Reading := ⟨[value], some loop⟩

def Reading.andThen (first : Reading) (later : ScanLoop → Reading) : Reading :=
  match first.loop with
  | none => first
  | some loop => ⟨first.values ++ (later loop).values, (later loop).loop⟩

def readPiece (loop : ScanLoop) : Piece → Reading
  | .number _ => .along loop
  | .other =>
      match loop with
      | .timer => .ended
      | _ => .along .timer

def readPieces : ScanLoop → List Piece → Reading
  | loop, [] => .along loop
  | loop, piece :: later => (readPiece loop piece).andThen fun next => readPieces next later

def readArrayEnd (loop : ScanLoop) : Reading :=
  match loop with
  | .timer => .ended
  | _ => .along loop

/-- The beginning of a value that is not asked for. -/
def readHead (loop : ScanLoop) : Json → Reading
  | .scalar first _ => readPiece loop first
  | _ => .along loop

def numberOf : Json → Option Int
  | .scalar (.number value) _ => some value
  | _ => none

def stringOf : Json → Option (List UInt8)
  | .string text => some text
  | _ => none

/-- A value that has to be of its type. -/
def readRequired : Option TimerValue → Reading
  | some value => .one value .timer
  | none => .ended

/-- A name in a timer, with the beginning of its value. -/
def readTimerName (name : List UInt8) (value : Json) : Reading :=
  if Matches name (asciiBytes "enabled") then readRequired ((numberOf value).map .enabled)
  else if Matches name (asciiBytes "type") then
    readRequired ((stringOf value).map fun text => .type (text.take 9))
  else if Matches name (asciiBytes "at") then
    readRequired ((stringOf value).map fun text => .timerAt (text.take 49))
  else
    match actionLoop name, value with
    | some loop, .object _ => .along loop
    | some _, _ => .along .timer
    | none, _ => readHead .timer value

def readActionName (loop : ScanLoop) (name : List UInt8) (value : Json) : Reading :=
  if Matches name (asciiBytes "switch") then
    match stringOf value with
    | some text => .one (.switch loop (text.take 9)) loop
    | none => .along .timer
  else readHead loop value

def readName (loop : ScanLoop) (name : List UInt8) (value : Json) : Reading :=
  match loop with
  | .timer => readTimerName name value
  | _ => readActionName loop name value

mutual

/-- A value behind its beginning. -/
def readTail : Json → ScanLoop → Reading
  | .scalar _ later, loop => readPieces loop later
  | .string _, loop => .along loop
  | .array items, loop => (readItems items loop).andThen readArrayEnd
  | .object members, loop => (readMembers members loop).andThen fun _ => .along .timer

def readItems : List Json → ScanLoop → Reading
  | [], loop => .along loop
  | item :: rest, loop =>
      (readHead loop item).andThen fun inside =>
        (readTail item inside).andThen fun behind => readItems rest behind

def readMembers : Members → ScanLoop → Reading
  | [], loop => .along loop
  | member :: rest, loop => (readPair member loop).andThen fun next => readMembers rest next

def readPair : List UInt8 × Json → ScanLoop → Reading
  | (name, value), loop => (readName loop name value).andThen fun next => readTail value next

end

/-- A timer to its `}`, which ends no loop over it. -/
def readTimer (members : Members) : Reading :=
  (readMembers members .timer).andThen fun _ => .along .timer

/-- The timers of an array, one behind another, to its `]`. -/
def readTimers : List Members → Reading
  | [] => .ended
  | members :: rest => (readTimer members).andThen fun _ => readTimers rest

end Documents

section Elements

variable {loop : ScanLoop} {front back : List JsonToken}

/-- As long as something is missing the elements are consumed to their end. -/
def Consumes (loop : ScanLoop) (tokens : List JsonToken) (offers : List (Offer TimerValue))
    (next : ScanLoop) : Prop :=
  ∀ fields rest, Unfinished timerCollector fields offers →
    scanConsumed loop 0 fields (tokens ++ rest) =
      tokens.length + scanConsumed next 0 (timerCollector.after fields (heard offers)) rest

/-- The loops read the elements so, whatever stands behind them. -/
def Reads (loop : ScanLoop) (tokens : List JsonToken) (reading : Reading) : Prop :=
  ∃ offers, heard offers = reading.values ∧ (.cut ∈ offers ↔ reading.loop = none) ∧
    (∀ rest, ∃ more, scanOffers loop 0 (tokens ++ rest) = offers ++ more ∧
      ∀ next ∈ reading.loop, more = scanOffers next 0 rest) ∧
    ∀ next ∈ reading.loop, Consumes loop tokens offers next

theorem reads_nil (loop : ScanLoop) : Reads loop [] (.along loop) := by
  refine ⟨[], rfl, by simp [Reading.along], fun rest => ⟨_, rfl, ?_⟩, ?_⟩
  · rintro next ⟨⟩
    rfl
  · rintro next ⟨⟩ fields rest -
    exact (Nat.zero_add _).symm

theorem consumes_append {middle next : ScanLoop} {first later : List (Offer TimerValue)}
    (whole : .cut ∉ first) (begins : Consumes loop front first middle)
    (goes : Consumes middle back later next) :
    Consumes loop (front ++ back) (first ++ later) next := by
  intro fields rest unfinished
  obtain ⟨here, behind⟩ := (unfinished_append whole).1 unfinished
  rw [List.append_assoc, begins fields (back ++ rest) here, goes _ rest behind, heard_append whole,
    List.length_append, Nat.add_assoc, Collector.after, Collector.after, Collector.after,
    List.foldl_append]

theorem reads_append {first : Reading} {later : ScanLoop → Reading}
    (begins : Reads loop front first)
    (goes : ∀ next ∈ first.loop, Reads next back (later next)) :
    Reads loop (front ++ back) (first.andThen later) := by
  obtain ⟨offers, values, cut, passes, consumes⟩ := begins
  cases behind : first.loop with
  | none =>
      have same : first.andThen later = first := by
        rw [Reading.andThen, behind]
      rw [same]
      have ended : ∀ next, next ∉ first.loop := by
        intro next goesOn
        cases behind.symm.trans goesOn
      refine ⟨offers, values, cut, fun rest => ?_, fun next goesOn => absurd goesOn (ended next)⟩
      obtain ⟨more, read, -⟩ := passes (back ++ rest)
      exact ⟨more, by rw [List.append_assoc, read], fun next goesOn => absurd goesOn (ended next)⟩
  | some next =>
      obtain ⟨offersBack, valuesBack, cutBack, passesBack, consumesBack⟩ := goes next behind
      have same : first.andThen later =
          ⟨first.values ++ (later next).values, (later next).loop⟩ := by
        rw [Reading.andThen, behind]
      have whole : .cut ∉ offers := fun member => by cases behind.symm.trans (cut.1 member)
      rw [same]
      refine ⟨offers ++ offersBack, ?_, ?_, fun rest => ?_, fun last goesOn => ?_⟩
      · rw [heard_append whole, values, valuesBack]
      · rw [List.mem_append, cutBack, or_iff_right whole]
      · obtain ⟨more, read, passed⟩ := passes (back ++ rest)
        obtain ⟨moreBack, readBack, passedBack⟩ := passesBack rest
        refine ⟨moreBack, ?_, passedBack⟩
        rw [List.append_assoc, read, passed next behind, readBack, List.append_assoc]
      · exact consumes_append whole (consumes next behind) (consumesBack last goesOn)

/-- An element that is no name. -/
def readToken (loop : ScanLoop) : JsonToken → Reading
  | .objectEnd => .along .timer
  | .arrayEnd => readArrayEnd loop
  | .failed => readPiece loop .other
  | _ => .along loop

theorem heard_turn (loop : ScanLoop) (offers : List (Offer TimerValue)) :
    heard (turnOffer loop ++ offers) = heard offers := by
  cases loop <;> rfl

theorem cut_turn (loop : ScanLoop) (offers : List (Offer TimerValue)) :
    .cut ∈ turnOffer loop ++ offers ↔ .cut ∈ offers := by
  cases loop <;> simp [turnOffer]

theorem unfinished_turn {fields : TimerFields} {offers : List (Offer TimerValue)} :
    Unfinished timerCollector fields (turnOffer loop ++ offers) ↔
      (loop = .timer → fields.complete ≠ true) ∧ Unfinished timerCollector fields offers := by
  cases loop with
  | timer => exact and_congr_left fun _ => ⟨fun missing _ => missing, fun missing => missing rfl⟩
  | _ => exact (and_iff_right fun timer => ScanLoop.noConfusion timer).symm

/-- A turn that goes on, perhaps with a value. -/
theorem reads_along {next : ScanLoop} (read : Option TimerValue)
    (reads : ∀ rest, scanOffers loop 0 (front ++ rest) =
      turnOffer loop ++ ((read.map .value).toList ++ scanOffers next 0 rest))
    (consumed : ∀ fields rest, (loop = .timer → fields.complete ≠ true) →
      scanConsumed loop 0 fields (front ++ rest) =
        front.length + scanConsumed next 0 (timerCollector.after fields read.toList) rest) :
    Reads loop front ⟨read.toList, some next⟩ := by
  have values : heard (turnOffer loop ++ (read.map .value).toList) = read.toList := by
    rw [heard_turn]
    cases read <;> rfl
  refine ⟨turnOffer loop ++ (read.map .value).toList, values, ?_,
    fun rest => ⟨scanOffers next 0 rest, ?_, ?_⟩, ?_⟩
  · rw [cut_turn]
    cases read <;> simp
  · rw [reads, List.append_assoc]
  · rintro behind ⟨⟩
    rfl
  · rintro behind ⟨⟩ fields rest unfinished
    rw [values]
    exact consumed fields rest (unfinished_turn.1 unfinished).1

theorem reads_cut
    (reads : ∀ rest, ∃ more, scanOffers loop 0 (front ++ rest) = turnOffer loop ++ .cut :: more) :
    Reads loop front .ended := by
  refine ⟨turnOffer loop ++ [.cut], ?_, ?_, fun rest => ?_, ?_⟩
  · rw [heard_turn]
    rfl
  · rw [cut_turn]
    simp [Reading.ended]
  · obtain ⟨more, read⟩ := reads rest
    refine ⟨more, by rw [read, List.append_assoc]; rfl, ?_⟩
    rintro next ⟨⟩
  · rintro next ⟨⟩

/-- A turn at an element that gives nothing. -/
theorem reads_passed {token : JsonToken} {next : ScanLoop}
    (turn : ∀ rest, scanTurn loop token rest = .goes next 0 none) :
    Reads loop [token] (.along next) := by
  apply reads_along none
  · intro rest
    rw [List.singleton_append, scanOffers, turn]
    rfl
  · intro fields rest missing
    rw [List.singleton_append, consumed_turn missing (turn rest), Nat.add_comm]
    rfl

theorem reads_token {token : JsonToken} (unnamed : ∀ name, token ≠ .pairName name)
    (loop : ScanLoop) : Reads loop [token] (readToken loop token) := by
  cases token with
  | pairName name => exact absurd rfl (unnamed name)
  | arrayEnd =>
      cases loop with
      | timer => exact reads_cut fun rest => ⟨_, rfl⟩
      | _ => exact reads_passed fun rest => rfl
  | failed =>
      cases loop with
      | timer => exact reads_cut fun rest => ⟨_, rfl⟩
      | _ => exact reads_passed fun rest => rfl
  | _ => cases loop <;> exact reads_passed fun rest => rfl

theorem reads_behind {token : JsonToken} {reading : Reading}
    (turn : ∀ rest, scanTurn loop token (front ++ rest) = .goes loop 0 none)
    (reads : Reads loop front reading) : Reads loop (token :: front) reading := by
  obtain ⟨offers, values, cut, passes, consumes⟩ := reads
  refine ⟨turnOffer loop ++ offers, (heard_turn loop offers).trans values,
    (cut_turn loop offers).trans cut, fun rest => ?_, fun next goesOn fields rest unfinished => ?_⟩
  · obtain ⟨more, read, goes⟩ := passes rest
    refine ⟨more, ?_, goes⟩
    rw [List.cons_append, scanOffers, turn]
    change turnOffer loop ++ scanOffers loop 0 (front ++ rest) = _
    rw [read, List.append_assoc]
  · obtain ⟨missing, behind⟩ := unfinished_turn.1 unfinished
    have all := consumes next goesOn fields rest behind
    rw [heard_turn, List.cons_append, consumed_turn missing (turn rest), List.length_cons,
      Nat.add_right_comm]
    exact congrArg (· + 1) all

theorem read_head_token (loop : ScanLoop) (value : Json) :
    readHead loop value = readToken loop value.head := by
  cases value with
  | scalar first later => cases first <;> rfl
  | _ => rfl

theorem reads_head (loop : ScanLoop) (value : Json) :
    Reads loop [value.head] (readHead loop value) := by
  rw [read_head_token]
  exact reads_token (head_not_name value) loop

/-- A name looks at the beginning of its value only: it ends the reading, or goes on behind that
beginning, or leaves it to the loop. -/
inductive NameTurn (loop : ScanLoop) (value : Json) : ScanTurn → Reading → Prop where
  | ends : NameTurn loop value (.leaves 2) .ended
  | takes (next : ScanLoop) (read : Option TimerValue) :
      NameTurn loop value (.goes next 2 read) ⟨read.toList, some next⟩
  | passes : NameTurn loop value (.goes loop 0 none) (readHead loop value)

theorem required_turn (value : Json) (read : Option TimerValue) :
    NameTurn .timer value (required read) (readRequired read) := by
  cases read with
  | none => exact .ends
  | some read => exact .takes .timer (some read)

theorem number_of (value : Json) : jsonIoTgoGetNumber [.pair, value.head] = numberOf value := by
  cases value with
  | scalar first later => cases first <;> rfl
  | _ => rfl

theorem string_of (value : Json) (len : Nat) :
    jsonIoTgoGetString [.pair, value.head] len = (stringOf value).map fun text =>
      text.take (len - 1) := by
  cases value with
  | scalar first later => cases first <;> rfl
  | _ => rfl

theorem timer_name_turn (name : List UInt8) (value : Json) :
    NameTurn .timer value (timerTurn (.pairName name) [.pair, value.head])
      (readTimerName name value) := by
  dsimp only [timerTurn, readTimerName]
  rw [number_of, string_of, string_of, Option.map_map, Option.map_map]
  split
  · exact required_turn value _
  · split
    · exact required_turn value _
    · split
      · exact required_turn value _
      · cases actionLoop name with
        | none => exact .passes
        | some loop =>
            cases value with
            | object members => exact .takes loop none
            | scalar first later => cases first <;> exact .takes .timer none
            | _ => exact .takes .timer none

theorem action_name_turn (loop : ScanLoop) (name : List UInt8) (value : Json) :
    NameTurn loop value (actionTurn loop (.pairName name) [.pair, value.head])
      (readActionName loop name value) := by
  dsimp only [actionTurn, readActionName]
  rw [string_of]
  split
  · cases stringOf value with
    | none => exact .takes .timer none
    | some text => exact .takes loop (some _)
  · exact .passes

theorem name_turn (loop : ScanLoop) (name : List UInt8) (value : Json) :
    NameTurn loop value (scanTurn loop (.pairName name) [.pair, value.head])
      (readName loop name value) := by
  cases loop with
  | timer => exact timer_name_turn name value
  | _ => exact action_name_turn _ name value

/-- A name with the beginning of its value. -/
theorem reads_name (loop : ScanLoop) (name : List UInt8) (value : Json) :
    Reads loop [.pairName name, .pair, value.head] (readName loop name value) := by
  have turned := name_turn loop name value
  have seen := scan_turn_sees loop name value.head
  generalize readName loop name value = reading at turned
  generalize scanTurn loop (.pairName name) [.pair, value.head] = turn at turned seen
  cases turned with
  | ends =>
      apply reads_cut
      intro rest
      exact ⟨_, by rw [List.cons_append, scanOffers, List.cons_append, List.singleton_append, seen]; rfl⟩
  | takes next read =>
      apply reads_along read
      · intro rest
        rw [List.cons_append, scanOffers, List.cons_append, List.singleton_append, seen]
        cases read <;> rfl
      · intro fields rest missing
        rw [List.cons_append, List.cons_append, List.singleton_append,
          consumed_turn missing (seen rest)]
        change scanConsumed next 0 _ rest + 1 + 1 + 1 = 3 + _
        omega
  | passes =>
      have colon := @reads_token .pair (fun _ => JsonToken.noConfusion) loop
      have head := @reads_append loop [.pair] [value.head] _ (fun next => readHead next value) colon
        fun next _ => reads_head next value
      exact reads_behind seen head

theorem reads_pair (name : List UInt8) {value : Json}
    (nested : ∀ loop, Reads loop value.tokens.tail (readTail value loop)) (loop : ScanLoop) :
    Reads loop (pairTokens (name, value)) (readPair (name, value) loop) := by
  have tokens : pairTokens (name, value) =
      [.pairName name, .pair, value.head] ++ value.tokens.tail := by
    rw [pairTokens, tokens_tail]
    rfl
  rw [tokens, readPair]
  exact reads_append (reads_name loop name value) fun next _ => nested next

theorem reads_pieces (pieces : List Piece) (loop : ScanLoop) :
    Reads loop (pieces.map Piece.token) (readPieces loop pieces) := by
  induction pieces generalizing loop with
  | nil => exact reads_nil loop
  | cons piece pieces ih =>
      have first : Reads loop [piece.token] (readPiece loop piece) := by
        cases piece with
        | number value => exact reads_token (fun _ => JsonToken.noConfusion) loop
        | other => exact reads_token (fun _ => JsonToken.noConfusion) loop
      exact reads_append first fun next _ => ih next

theorem reads_comma {later : ScanLoop → Reading} {first : Reading}
    (begins : Reads loop front first)
    (goes : ∀ next ∈ first.loop, Reads next back (later next))
    (stays : back = [] → ∀ next, later next = .along next) :
    Reads loop (front ++ behindComma .comma back) (first.andThen later) := by
  refine reads_append begins fun next same => ?_
  cases back with
  | nil =>
      rw [stays rfl next]
      exact reads_nil next
  | cons token back =>
      have comma := @reads_token .comma (fun _ => JsonToken.noConfusion) next
      exact reads_append comma fun behind along => by
        cases along
        exact goes next same

theorem reads_member {member : List UInt8 × Json} {members : Members}
    (first : ∀ loop, Reads loop (pairTokens member) (readPair member loop))
    (later : ∀ loop, Reads loop (memberTokens members) (readMembers members loop))
    (loop : ScanLoop) :
    Reads loop (memberTokens (member :: members)) (readMembers (member :: members) loop) := by
  rw [memberTokens, readMembers]
  apply reads_comma (first loop) fun next _ => later next
  intro empty next
  cases members with
  | nil => rfl
  | cons other members =>
      obtain ⟨name, value⟩ := other
      cases empty

/-- Everything is read as it stands. -/
theorem reads_tail (value : Json) (loop : ScanLoop) :
    Reads loop value.tokens.tail (readTail value loop) := by
  revert loop
  apply @Json.rec (fun value => ∀ loop, Reads loop value.tokens.tail (readTail value loop))
    (fun items => ∀ loop, Reads loop (itemTokens items) (readItems items loop))
    (fun members => ∀ loop, Reads loop (memberTokens members) (readMembers members loop))
    (fun member => ∀ loop, Reads loop (pairTokens member) (readPair member loop))
  · exact fun first later => reads_pieces later
  · exact fun text => reads_nil
  · intro items nested loop
    exact reads_append (nested loop) fun next _ =>
      @reads_token .arrayEnd (fun _ => JsonToken.noConfusion) next
  · intro members nested loop
    exact reads_append (nested loop) fun next _ =>
      @reads_token .objectEnd (fun _ => JsonToken.noConfusion) next
  · exact reads_nil
  · intro item items first later loop
    rw [itemTokens, readItems, tokens_tail, ← List.singleton_append, List.append_assoc]
    refine reads_append (reads_head loop item) fun inside _ => ?_
    apply reads_comma (first inside) fun next _ => later next
    intro empty next
    cases items with
    | nil => rfl
    | cons other items =>
        obtain ⟨rest, begins⟩ := tokens_head other
        rw [itemTokens, begins] at empty
        cases empty
  · exact reads_nil
  · exact fun member members => reads_member
  · exact fun name value => reads_pair name

/-- A timer behind its `{`. -/
def ownTokens (members : Members) : List JsonToken :=
  memberTokens members ++ [.objectEnd]

/-- The rest of an array behind a timer, to its `]`. -/
def arrayTail (others : List Members) : List JsonToken :=
  behindComma .comma (itemTokens (others.map .object)) ++ [.arrayEnd]

theorem reads_members (members : Members) (loop : ScanLoop) :
    Reads loop (memberTokens members) (readMembers members loop) := by
  induction members generalizing loop with
  | nil => exact reads_nil loop
  | cons member members ih =>
      obtain ⟨name, value⟩ := member
      exact reads_member (reads_pair name (reads_tail value)) ih loop

theorem reads_own (members : Members) : Reads .timer (ownTokens members) (readTimer members) :=
  reads_append (reads_members members .timer) fun next _ =>
    @reads_token .objectEnd (fun _ => JsonToken.noConfusion) next

theorem timer_loop {members : Members} {next : ScanLoop}
    (goesOn : next ∈ (readTimer members).loop) : next = .timer := by
  unfold readTimer Reading.andThen at goesOn
  cases behind : (readMembers members .timer).loop with
  | none =>
      rw [behind] at goesOn
      cases behind.symm.trans goesOn
  | some loop =>
      rw [behind] at goesOn
      cases goesOn
      rfl

theorem reads_array_tail (others : List Members) :
    Reads .timer (arrayTail others) (readTimers others) := by
  induction others with
  | nil => exact @reads_token .arrayEnd (fun _ => JsonToken.noConfusion) .timer
  | cons members others ih =>
      have tokens : arrayTail (members :: others) =
          [.comma] ++ ([.object] ++ (ownTokens members ++ arrayTail others)) := by
        simp [arrayTail, ownTokens, itemTokens, Json.tokens, behindComma]
      have comma := @reads_token .comma (fun _ => JsonToken.noConfusion) .timer
      have brace := @reads_token .object (fun _ => JsonToken.noConfusion) .timer
      have behind : ∀ next ∈ (readTimer members).loop, Reads next (arrayTail others)
          (readTimers others) := by
        intro next same
        obtain rfl := timer_loop same
        exact ih
      have timers : Reads .timer (ownTokens members ++ arrayTail others)
          (readTimers (members :: others)) := reads_append (reads_own members) behind
      rw [tokens]
      refine @reads_append .timer _ _ _ (fun _ => readTimers (members :: others)) comma ?_
      rintro next ⟨⟩
      refine @reads_append .timer _ _ _ (fun _ => readTimers (members :: others)) brace ?_
      rintro next ⟨⟩
      exact timers

/-- The `]` of the array ends the reading, if nothing did before. -/
theorem timers_end (others : List Members) : (readTimers others).loop = none := by
  induction others with
  | nil => rfl
  | cons members others ih =>
      rw [readTimers, Reading.andThen]
      cases behind : (readTimer members).loop with
      | none => exact behind
      | some next => exact ih

theorem scan_nil (loop : ScanLoop) : scanOffers loop 0 [] = [] := by
  cases loop <;> rfl

end Elements

end IotgoFirmware.Timers.TimerReadings
