import IotgoFirmware.Receive.HttpHeaders
import IotgoFirmware.Receive.WebsocketOverflow

/-!
# Progress of the HTTP loop

The length of a package is read off the text in the buffer: the end of the
header, and the number after `Content-Length: `. As long as every header is
sound, each pass takes a package off and the loop is left. A number that is
negative or does not fit 16 bits breaks this.
-/

namespace IotgoFirmware.Receive.HttpProgress

open IotgoFirmware.Library.ByteRegions
open IotgoFirmware.Library.CIntegers
open IotgoFirmware.Library.CStrings
open IotgoFirmware.Library.LoopRules
open IotgoFirmware.Library.StepRuns
open IotgoFirmware.Receive.HttpHeaders
open IotgoFirmware.Receive.SproObject
open IotgoFirmware.Receive.SproWebsocket
open IotgoFirmware.Receive.SproHttp
open IotgoFirmware.Receive.SproEvents
open IotgoFirmware.Receive.WebsocketOverflow

set_option autoImplicit false

variable {size : UInt16}

/-- The packages announced by the text, one after the other, lie within the
buffered bytes; what is left behind each of them is as `remainder` says, given
the decision on it and its length. -/
inductive Announces (remainder : HttpVerdict → Nat → Prop) : List UInt8 → Nat → Prop where
  | noTerminator {memory : List UInt8} {available : Nat}
      (verdict : httpHead memory available = .noTerminator) :
      Announces remainder memory available
  | incomplete {memory : List UInt8} {available : Nat}
      (verdict : httpHead memory available = .incomplete) : Announces remainder memory available
  | package {memory : List UInt8} {available : Nat} {announced : Int}
      (verdict : httpHead memory available = .package announced)
      (positive : 0 < uint16 announced) (bounded : uint16 announced ≤ available)
      (left : remainder
        (httpHead ((memory.take available).drop (uint16 announced))
          (available - uint16 announced))
        (available - uint16 announced))
      (rest : Announces remainder ((memory.take available).drop (uint16 announced))
        (available - uint16 announced)) : Announces remainder memory available

abbrev PackagesInside := Announces fun _ _ => True

section Announced

variable {remainder : HttpVerdict → Nat → Prop}

theorem announces_congr {left right : List UInt8} {available : Nat}
    (text : cString left = cString right) (front : left.take available = right.take available)
    (announces : Announces remainder left available) : Announces remainder right available := by
  have same := (http_head_congr text available).symm
  cases announces with
  | noTerminator verdict => exact .noTerminator (same.trans verdict)
  | incomplete verdict => exact .incomplete (same.trans verdict)
  | package verdict positive bounded behind rest =>
      rw [front] at behind rest
      exact .package (same.trans verdict) positive bounded behind rest

theorem announces_first {memory : List UInt8} {available : Nat} {announced : Int}
    (announces : Announces remainder memory available)
    (verdict : httpHead memory available = .package announced) :
    0 < uint16 announced ∧ uint16 announced ≤ available ∧
      remainder
        (httpHead ((memory.take available).drop (uint16 announced)) (available - uint16 announced))
        (available - uint16 announced) ∧
      Announces remainder ((memory.take available).drop (uint16 announced))
        (available - uint16 announced) := by
  cases announces with
  | noTerminator other =>
      rw [verdict] at other
      cases other
  | incomplete other =>
      rw [verdict] at other
      cases other
  | package same positive bounded left rest =>
      rw [verdict] at same
      cases same
      exact ⟨positive, bounded, left, rest⟩

end Announced

section Headers

theorem packages_inside_iff {memory : List UInt8} {available : Nat} (small : available < 65536) :
    PackagesInside memory available ↔ SoundHeaders memory available := by
  constructor
  · intro inside
    induction inside with
    | @noTerminator memory available verdict =>
        refine .headless fun position ends => ?_
        rw [http_no_terminator_iff, index_of_some ends.1] at verdict
        exact ends.2 verdict
    | @incomplete memory available verdict =>
        by_cases headless : ∀ position, ¬HeaderEnds memory position
        · exact .headless headless
        · obtain ⟨position, ends⟩ := not_forall_not.1 headless
          by_cases numbered : Numbered memory position
          · rw [head_numbered ends numbered] at verdict
            split_ifs at verdict with complete
            exact .waiting ends numbered (Int.not_le.1 complete)
          · rw [head_plain ends numbered] at verdict
            cases verdict
    | @package memory available announced verdict positive bounded _ _ ih =>
        have rest := ih (by omega)
        obtain ⟨position, ends⟩ : ∃ position, HeaderEnds memory position := by
          by_contra headless
          rw [head_headless (not_exists.1 headless)] at verdict
          cases verdict
        by_cases numbered : Numbered memory position
        · rw [head_numbered ends numbered] at verdict
          split_ifs at verdict with complete
          cases verdict
          rw [uint16_of_low] at positive bounded rest
          exact .whole ends numbered complete ((sound_iff small complete).1 ⟨positive, bounded⟩) rest
        · rw [head_plain ends numbered] at verdict
          cases verdict
          rw [uint16_of_position] at positive bounded rest
          exact .plain ends numbered positive bounded rest
  · intro sound
    induction sound with
    | headless none => exact .noTerminator (head_headless none)
    | plain ends unnumbered positive inside _ ih =>
        have rest := ih (by omega)
        rw [← uint16_of_position] at positive inside rest
        exact .package (head_plain ends unnumbered) positive inside trivial rest
    | waiting ends numbered short =>
        refine .incomplete ?_
        rw [head_numbered ends numbered, if_neg (Int.not_le.2 short)]
    | whole ends numbered complete sound _ ih =>
        have rest := ih (by omega)
        obtain ⟨positive, inside⟩ := (sound_iff small complete).2 sound
        rw [← uint16_of_low] at positive inside rest
        refine .package ?_ positive inside trivial rest
        rw [head_numbered ends numbered, if_pos complete]

end Headers

section Pass

variable (env : Ambient) (arg : Nat) {head : Session size} {live : List UInt8} {announced : Int}

theorem http_deliver_buffer :
    (httpDeliver env arg announced head).buffer =
      (takePackage env arg (uint16 announced) head).buffer := by
  simp only [httpDeliver]
  split <;> rfl

theorem http_deliver_index :
    (httpDeliver env arg announced head).bufferIndex =
      (takePackage env arg (uint16 announced) head).bufferIndex := by
  simp only [httpDeliver]
  split <;> rfl

theorem http_deliver_calls (registered : head.pkgProcCb = true) :
    (httpDeliver env arg announced head).calls =
      head.calls ++ [⟨arg, head.buffer.seen env.beyond, uint16 announced, true,
        head.bufferIndex⟩] := by
  have passed : (takePackage env arg (uint16 announced) head).calls =
      head.calls ++ [⟨arg, head.buffer.seen env.beyond, uint16 announced, true,
        head.bufferIndex⟩] := by
    simp only [takePackage, callPkgProcCb]
    rw [if_pos registered]
  simp only [httpDeliver]
  split
  · exact passed
  · exact passed

theorem http_deliver_holds (holds : Holds head.toSpro live) (positive : 0 < uint16 announced)
    (bounded : uint16 announced ≤ live.length) :
    Holds (httpDeliver env arg announced head).toSpro (live.drop (uint16 announced)) := by
  have taken := take_package_holds env arg holds positive bounded
  constructor
  · rw [http_deliver_index]
    exact taken.index
  · rw [http_deliver_buffer]
    exact taken.front

theorem http_deliver_text (holds : Holds head.toSpro live) (positive : 0 < uint16 announced)
    (bounded : uint16 announced ≤ live.length) (later : List UInt8) :
    cString ((httpDeliver env arg announced head).buffer.seen later) =
      cString (live.drop (uint16 announced)) := by
  rw [http_deliver_buffer]
  exact take_package_text env arg holds positive bounded later

theorem http_deliver_shortens (room : head.bufferIndex ≤ size.toNat)
    (shorter : (httpDeliver env arg announced head).bufferIndex < head.bufferIndex) :
    0 < uint16 announced ∧ uint16 announced ≤ head.bufferIndex := by
  have small := uint16_lt announced
  rw [http_deliver_index, take_package_spro] at shorter
  by_cases past : head.bufferIndex < uint16 announced
  · rw [read_index_wraps env.beyond past small] at shorter
    simp only at shorter
    omega
  · have narrow := size_lt size
    rw [read_index env.beyond (Nat.le_of_not_lt past) (by simp only; omega)] at shorter
    simp only at shorter
    omega

theorem http_deliver_head (holds : Holds head.toSpro live) (positive : 0 < uint16 announced)
    (bounded : uint16 announced ≤ live.length) :
    httpHead ((httpDeliver env arg announced head).buffer.seen env.beyond)
        (httpDeliver env arg announced head).bufferIndex =
      httpHead (((head.buffer.seen env.beyond).take head.bufferIndex).drop (uint16 announced))
        (head.bufferIndex - uint16 announced) := by
  have rest := http_deliver_holds env arg holds positive bounded
  have text := http_deliver_text env arg holds positive bounded env.beyond
  rw [seen_take holds, rest.index, List.length_drop, ← holds.index]
  exact http_head_congr text _

theorem announces_next {remainder : HttpVerdict → Nat → Prop} (holds : Holds head.toSpro live)
    (positive : 0 < uint16 announced) (bounded : uint16 announced ≤ live.length) :
    Announces remainder ((httpDeliver env arg announced head).buffer.seen env.beyond)
        (httpDeliver env arg announced head).bufferIndex ↔
      Announces remainder (((head.buffer.seen env.beyond).take head.bufferIndex).drop
        (uint16 announced)) (head.bufferIndex - uint16 announced) := by
  have rest := http_deliver_holds env arg holds positive bounded
  have text := http_deliver_text env arg holds positive bounded env.beyond
  have front := seen_take rest env.beyond
  have count : (live.drop (uint16 announced)).length = head.bufferIndex - uint16 announced := by
    rw [List.length_drop, holds.index]
  rw [seen_take holds, ← count]
  rw [rest.index] at front ⊢
  have all : (live.drop (uint16 announced)).take (live.drop (uint16 announced)).length =
      live.drop (uint16 announced) := List.take_length
  constructor
  · exact announces_congr text (front.trans all.symm)
  · exact announces_congr text.symm (all.trans front.symm)

end Pass

section Loop

variable {env : Ambient} {arg : Nat} {head next : Session size}

theorem http_continues (continues : httpBody env arg head = .again next) :
    ∃ announced,
      httpHead (head.buffer.seen env.beyond) head.bufferIndex = .package announced ∧
      next = httpDeliver env arg announced head := by
  rcases http_body_cases env arg head with ⟨-, pass⟩ | ⟨-, pass⟩ | ⟨announced, verdict, pass⟩
  · rw [pass] at continues
    cases continues
  · rw [pass] at continues
    cases continues
  · rw [pass] at continues
    cases continues
    exact ⟨announced, verdict, rfl⟩

theorem http_leaves {final : Session size} (leaves : httpBody env arg head = .exit final) :
    final.buffer = head.buffer ∧ final.bufferIndex = head.bufferIndex ∧
      final.calls = head.calls := by
  rcases http_body_cases env arg head with ⟨-, pass⟩ | ⟨-, pass⟩ | ⟨announced, -, pass⟩
  · rw [pass] at leaves
    cases leaves
    exact ⟨rfl, rfl, rfl⟩
  · rw [pass] at leaves
    cases leaves
    simp
  · rw [pass] at leaves
    cases leaves

theorem inside_pass (arg : Nat) (room : head.bufferIndex ≤ size.toNat)
    (inside : PackagesInside (head.buffer.seen env.beyond) head.bufferIndex) {announced : Int}
    (verdict : httpHead (head.buffer.seen env.beyond) head.bufferIndex = .package announced) :
    (0 < uint16 announced ∧ uint16 announced ≤ head.bufferIndex) ∧
      (httpDeliver env arg announced head).bufferIndex < head.bufferIndex ∧
      PackagesInside ((httpDeliver env arg announced head).buffer.seen env.beyond)
        (httpDeliver env arg announced head).bufferIndex := by
  have holds := holds_inside room
  rcases announces_first inside verdict with ⟨positive, bounded, -, rest⟩
  have within : uint16 announced ≤ (head.buffer.bytes.take head.bufferIndex).length := by
    rw [← holds.index]
    exact bounded
  have index := (http_deliver_holds env arg holds positive within).index
  rw [List.length_drop, ← holds.index] at index
  constructor
  · exact ⟨positive, bounded⟩
  · constructor
    · omega
    · exact (announces_next env arg holds positive within).2 rest

theorem inside_exits (room : head.bufferIndex ≤ size.toNat)
    (inside : PackagesInside (head.buffer.seen env.beyond) head.bufferIndex) :
    ∃ final, Exits (httpBody env arg) head final := by
  apply exits_of_measure (fun head : Session size => head.bufferIndex ≤ size.toNat ∧
    PackagesInside (head.buffer.seen env.beyond) head.bufferIndex)
    (fun head => head.bufferIndex) _ ⟨room, inside⟩
  intro head next kept continues
  rcases http_continues continues with ⟨announced, verdict, rfl⟩
  rcases inside_pass arg kept.1 kept.2 verdict with ⟨-, shorter, rest⟩
  exact ⟨⟨by omega, rest⟩, shorter⟩

theorem inside_visits (room : head.bufferIndex ≤ size.toNat)
    (inside : PackagesInside (head.buffer.seen env.beyond) head.bufferIndex)
    {reached : Session size} (visited : Visits (httpBody env arg) head reached) :
    reached.bufferIndex ≤ size.toNat ∧
      PackagesInside (reached.buffer.seen env.beyond) reached.bufferIndex := by
  apply visits_keeps (fun head : Session size => head.bufferIndex ≤ size.toNat ∧
    PackagesInside (head.buffer.seen env.beyond) head.bufferIndex) _ ⟨room, inside⟩ visited
  intro head next kept continues
  rcases http_continues continues with ⟨announced, verdict, rfl⟩
  rcases inside_pass arg kept.1 kept.2 verdict with ⟨-, shorter, rest⟩
  exact ⟨by omega, rest⟩

/-- Conversely, a loop that never takes more or less than it should has read off
nothing else. -/
theorem inside_of_bounded (env : Ambient) (arg : Nat) (room : head.bufferIndex ≤ size.toNat)
    (bounded : ∀ reached announced, Visits (httpBody env arg) head reached →
      reached.bufferIndex ≤ size.toNat →
      httpHead (reached.buffer.seen env.beyond) reached.bufferIndex = .package announced →
      0 < uint16 announced ∧ uint16 announced ≤ reached.bufferIndex) :
    PackagesInside (head.buffer.seen env.beyond) head.bufferIndex := by
  induction count : head.bufferIndex using Nat.strongRecOn generalizing head with
  | ind count ih =>
      subst count
      cases verdict : httpHead (head.buffer.seen env.beyond) head.bufferIndex with
      | noTerminator => exact .noTerminator verdict
      | incomplete => exact .incomplete verdict
      | package announced =>
          rcases bounded head announced .here room verdict with ⟨positive, within⟩
          have holds := holds_inside room
          have fits : uint16 announced ≤ (head.buffer.bytes.take head.bufferIndex).length := by
            rw [← holds.index]
            exact within
          have index := (http_deliver_holds env arg holds positive fits).index
          rw [List.length_drop, ← holds.index] at index
          have continues : httpBody env arg head = .again (httpDeliver env arg announced head) := by
            rw [httpBody, verdict]
          have rest := ih (httpDeliver env arg announced head).bufferIndex (by omega) (by omega)
            (fun reached other visited => bounded reached other (.later continues visited)) rfl
          exact .package verdict positive within trivial
            ((announces_next env arg holds positive fits).1 rest)

end Loop

section Call

variable {session : Session size} {segment : Segment}

theorem http_enter_buffer (env : Ambient) (pdata : List UInt8) (session : Session size) :
    (httpEnter env pdata session).buffer = (serverRxWrite session.toSpro pdata).buffer := by
  simp only [httpEnter]
  split
  · split <;> rfl
  · rfl

theorem http_enter_index (env : Ambient) (pdata : List UInt8) (session : Session size) :
    (httpEnter env pdata session).bufferIndex =
      (serverRxWrite session.toSpro pdata).bufferIndex := by
  simp only [httpEnter]
  split
  · split <;> rfl
  · rfl

theorem http_enter_calls (env : Ambient) (pdata : List UInt8) (session : Session size) :
    (httpEnter env pdata session).calls = session.calls := by
  simp only [httpEnter]
  split
  · split <;> rfl
  · rfl

/-- The packages the buffer announces after the append lie within it. -/
def AnnouncedInside (segment : Segment) (session : Session size) : Prop :=
  PackagesInside ((appended segment session).buffer.seen segment.env.beyond)
    (appended segment session).bufferIndex

/-- The headers of the packages in the buffer after the append are sound. -/
def HeadersSound (segment : Segment) (session : Session size) : Prop :=
  SoundHeaders ((appended segment session).buffer.seen segment.env.beyond)
    (appended segment session).bufferIndex

theorem announced_inside_enters :
    AnnouncedInside segment session ↔
      PackagesInside
        ((httpEnter segment.env segment.bytes { session with arg := segment.arg }).buffer.seen
          segment.env.beyond)
        (httpEnter segment.env segment.bytes { session with arg := segment.arg }).bufferIndex := by
  rw [http_enter_buffer, http_enter_index]
  rfl

theorem enter_inside (inside : session.bufferIndex ≤ size.toNat ∨ segment.bytes ≠ []) :
    (httpEnter segment.env segment.bytes { session with arg := segment.arg }).bufferIndex ≤
      size.toNat := by
  rw [http_enter_index]
  exact write_inside inside

theorem announced_inside_iff (inside : session.bufferIndex ≤ size.toNat ∨ segment.bytes ≠ []) :
    AnnouncedInside segment session ↔ HeadersSound segment session := by
  have room : (appended segment session).bufferIndex ≤ size.toNat := write_inside inside
  have narrow := size_lt size
  exact packages_inside_iff (by omega)

/-- The loop is left, and every pass that does not leave it takes bytes off,
exactly if the headers are sound. -/
theorem http_loop_progresses (http : usesHttp session.pkgType = true)
    (inside : session.bufferIndex ≤ size.toNat ∨ segment.bytes ≠ []) :
    ((∃ next, Received segment session next) ∧
        ∀ head next, PassesHead segment session head →
          httpBody segment.env segment.arg head = .again next →
          next.bufferIndex < head.bufferIndex) ↔
      HeadersSound segment session := by
  have room := enter_inside inside
  rw [← announced_inside_iff inside]
  simp only [received_http http, passes_http http, announced_inside_enters]
  constructor
  · intro ⟨_, progress⟩
    apply inside_of_bounded segment.env segment.arg room
    intro reached announced visited within verdict
    apply http_deliver_shortens segment.env segment.arg within
    apply progress reached _ visited
    rw [httpBody, verdict]
  · intro announced
    constructor
    · exact inside_exits room announced
    · intro head next visited continues
      rcases inside_visits room announced visited with ⟨within, rest⟩
      rcases http_continues continues with ⟨number, verdict, rfl⟩
      exact (inside_pass segment.arg within rest verdict).2.1

theorem http_loop_progresses_whole :
    ((∃ next, Received ⟨⟨0, []⟩, 7, crlfcrlf⟩ (spCreateObject 8 .http11 true) next) ∧
        ∀ head next, PassesHead ⟨⟨0, []⟩, 7, crlfcrlf⟩ (spCreateObject 8 .http11 true) head →
          httpBody ⟨0, []⟩ 7 head = .again next → next.bufferIndex < head.bufferIndex) ↔
      HeadersSound ⟨⟨0, []⟩, 7, crlfcrlf⟩ (spCreateObject 8 .http11 true) :=
  http_loop_progresses (by decide) (.inl (by decide))

/-- A negative number that outweighs its own header: the package has length 0. -/
theorem http_loop_stalls :
    ¬ ∀ (size : UInt16) (session : Session size) (segment : Segment),
      usesHttp session.pkgType = true → session.bufferIndex ≤ size.toNat →
      ∃ next, Received segment session next := by
  intro claimed
  let segment : Segment := ⟨⟨0, []⟩, 7, asciiBytes "Content-Length: -23" ++ crlfcrlf⟩
  let fresh := spCreateObject 32 .http11 true
  rcases claimed 32 fresh segment (by decide) (by decide) with ⟨next, received⟩
  have exits := (received_http (by decide)).1 received
  let entered := httpEnter segment.env segment.bytes { fresh with arg := segment.arg }
  have stalls : ∀ head : Session 32,
      head.buffer = entered.buffer ∧ head.bufferIndex = entered.bufferIndex →
      ∃ next, httpBody segment.env segment.arg head = .again next ∧
        next.buffer = entered.buffer ∧ next.bufferIndex = entered.bufferIndex := by
    intro head ⟨buffer, index⟩
    have verdict : httpHead (entered.buffer.seen segment.env.beyond) entered.bufferIndex =
        .package 0 := by decide
    refine ⟨httpDeliver segment.env segment.arg 0 head, ?_, ?_, ?_⟩
    · rw [httpBody, buffer, index, verdict]
    · rw [http_deliver_buffer, take_package_spro]
      exact buffer
    · rw [http_deliver_index, take_package_spro]
      exact index
  exact not_exits_of_invariant _ stalls ⟨rfl, rfl⟩ exits

end Call

section Bounds

variable {session next : Session size} {segment : Segment}

/-- The package passed is not empty and lies within what is buffered, so that
taking it off does not wrap `_buffer_index` around. -/
def Bounded (call : PkgCall) : Prop :=
  0 < call.pkgLen ∧ call.pkgLen ≤ call.buffered

/-- Whatever has been passed by the time the loop is at this head is bounded. -/
def CallsBounded (session head : Session size) : Prop :=
  ∃ calls, head.calls = session.calls ++ calls ∧ ∀ call ∈ calls, Bounded call

theorem calls_bounded_passes (env : Ambient) (arg : Nat) {head : Session size} {announced : Int}
    (registered : head.pkgProcCb = true) (before : CallsBounded session head)
    (bounded : 0 < uint16 announced ∧ uint16 announced ≤ head.bufferIndex) :
    CallsBounded session (httpDeliver env arg announced head) := by
  rcases before with ⟨calls, callsEq, all⟩
  refine ⟨calls ++ [⟨arg, head.buffer.seen env.beyond, uint16 announced, true,
    head.bufferIndex⟩], ?_, ?_⟩
  · rw [http_deliver_calls env arg registered, callsEq, List.append_assoc]
  · intro call member
    rcases List.mem_append.1 member with old | new
    · exact all call old
    · rw [List.mem_singleton.1 new]
      exact bounded

theorem bounded_of_calls (env : Ambient) (arg : Nat) {head : Session size} {announced : Int}
    (registered : head.pkgProcCb = true) (before : CallsBounded session head)
    (after : CallsBounded session (httpDeliver env arg announced head)) :
    0 < uint16 announced ∧ uint16 announced ≤ head.bufferIndex := by
  rcases before with ⟨calls, callsEq, -⟩
  rcases after with ⟨more, moreEq, all⟩
  rw [http_deliver_calls env arg registered, callsEq, List.append_assoc] at moreEq
  have same := List.append_cancel_left moreEq
  exact all _ (by rw [← same]; exact List.mem_append_right calls List.mem_cons_self)

theorem http_calls_bounded (http : usesHttp session.pkgType = true)
    (inside : session.bufferIndex ≤ size.toNat) (registered : session.pkgProcCb = true) :
    (∀ head, PassesHead segment session head → CallsBounded session head) ↔
      AnnouncedInside segment session := by
  let entered := httpEnter segment.env segment.bytes { session with arg := segment.arg }
  have room : entered.bufferIndex ≤ size.toNat := enter_inside (.inl inside)
  have callable : ∀ head, Visits (httpBody segment.env segment.arg) entered head →
      head.pkgProcCb = true := by
    intro head visited
    apply visits_keeps (fun head : Session size => head.pkgProcCb = true) _ _ visited
    · intro head next kept continues
      rcases http_continues continues with ⟨announced, -, rfl⟩
      exact (setup_registered
        (http_deliver_setup segment.env segment.arg head announced)).trans kept
    · exact (setup_registered (http_enter_setup segment.env _ segment.bytes)).trans registered
  simp only [passes_http http, announced_inside_enters]
  constructor
  · intro bounded
    apply inside_of_bounded segment.env segment.arg room
    intro reached announced visited within verdict
    apply bounded_of_calls segment.env segment.arg (callable reached visited)
      (bounded reached visited)
    apply bounded
    apply visits_trans visited
    exact .later (by rw [httpBody, verdict]) .here
  · intro announced head visited
    have kept : (Visits (httpBody segment.env segment.arg) entered head ∧
        CallsBounded session head) := by
      apply visits_keeps (fun head : Session size =>
        Visits (httpBody segment.env segment.arg) entered head ∧ CallsBounded session head)
        _ _ visited
      · intro head next ⟨reached, before⟩ continues
        rcases inside_visits room announced reached with ⟨within, rest⟩
        constructor
        · exact visits_trans reached (.later continues .here)
        · rcases http_continues continues with ⟨number, verdict, rfl⟩
          exact calls_bounded_passes segment.env segment.arg (callable head reached) before
            (inside_pass segment.arg within rest verdict).1
      · constructor
        · exact .here
        · refine ⟨[], ?_, ?_⟩
          · rw [http_enter_calls, List.append_nil]
          · intro call member
            cases member
    exact kept.2

end Bounds

section Runs

/-- `processHTTPPackage` passes bounded packages only. -/
def PassesBounded (session : Session size) : SproEvent → Prop
  | .recv segment =>
      usesHttp session.pkgType = true →
        ∀ head, PassesHead segment session head → CallsBounded session head
  | _ => True

def ReceivesSound (session : Session size) : SproEvent → Prop
  | .recv segment => usesHttp session.pkgType = true → HeadersSound segment session
  | _ => True

theorem received_inside {session next : Session size} {segment : Segment}
    (inside : session.bufferIndex ≤ size.toNat)
    (sound : ReceivesSound session (.recv segment))
    (received : Received segment session next) : next.bufferIndex ≤ size.toNat := by
  by_cases http : usesHttp session.pkgType = true
  · have room : (httpEnter segment.env segment.bytes
        { session with arg := segment.arg }).bufferIndex ≤ size.toNat := enter_inside (.inl inside)
    rcases exits_last_head ((received_http http).1 received) with ⟨last, visited, leaves⟩
    rw [(http_leaves leaves).2.1]
    have announced := (announced_inside_iff (.inl inside)).2 (sound http)
    exact (inside_visits room (announced_inside_enters.1 announced) visited).1
  · cases kind : session.pkgType with
    | null =>
        rw [(received_null kind).1 received, passSegment]
        split
        · exact inside
        · exact inside
    | websocket13 => exact (received_account kind inside received).2
    | http11 => simp [usesHttp, kind] at http
    | iotUpgrade => simp [usesHttp, kind] at http

theorem tick_index (env : Ambient) (session : Session size) :
    (clockTick env session).bufferIndex ≤ session.bufferIndex := by
  unfold clockTick
  split
  · split
    · exact Nat.zero_le _
    · exact Nat.le_refl _
  · exact Nat.le_refl _

theorem tick_setup (env : Ambient) (session : Session size) :
    (clockTick env session).setup = session.setup := by
  unfold clockTick
  split
  · split
    · exact call_setup env session.arg session.bufferIndex session
    · rfl
  · rfl

/-- Over a whole run, of any bytes in any segments, every package passed is
bounded exactly if every header was sound. -/
theorem http_run_bounded (size : UInt16) (pkgType : SproPkgType) (events : List SproEvent) :
    Meets SproStep PassesBounded (spCreateObject size pkgType true) events ↔
      Meets SproStep ReceivesSound (spCreateObject size pkgType true) events := by
  symm
  apply meets_congr fun session : Session size =>
    session.bufferIndex ≤ size.toNat ∧ session.pkgProcCb = true
  · intro session event ⟨inside, registered⟩
    cases event with
    | recv segment =>
        constructor
        · intro sound http
          exact (http_calls_bounded http inside registered).2
            ((announced_inside_iff (.inl inside)).2 (sound http))
        · intro bounded http
          exact (announced_inside_iff (.inl inside)).1
            ((http_calls_bounded http inside registered).1 (bounded http))
    | tick env => exact Iff.rfl
    | setPkgType pkgType => exact Iff.rfl
  · intro session event next ⟨inside, registered⟩ sound taken
    cases event with
    | recv segment =>
        constructor
        · exact received_inside inside sound taken
        · exact (setup_registered (received_setup taken)).trans registered
    | tick env =>
        rw [taken]
        constructor
        · exact (tick_index env session).trans inside
        · exact (setup_registered (tick_setup env session)).trans registered
    | setPkgType pkgType =>
        rw [taken]
        exact ⟨inside, registered⟩
  · exact ⟨Nat.zero_le _, rfl⟩

/-- A negative number that outweighs its header by seven: the length wraps to
65529, of 23 buffered bytes. -/
theorem http_run_unbounded :
    ¬ ∀ (size : UInt16) (events : List SproEvent),
      Meets SproStep PassesBounded (spCreateObject size .http11 true) events := by
  intro claimed
  let segment : Segment := ⟨⟨0, []⟩, 7, asciiBytes "Content-Length: -30" ++ crlfcrlf⟩
  let fresh := spCreateObject 32 .http11 true
  have bounded := (claimed 32 [.recv segment]).1 (by decide)
  have announced : AnnouncedInside segment fresh :=
    (http_calls_bounded (by decide) (by decide) rfl).1 bounded
  have verdict : httpHead ((appended segment fresh).buffer.seen segment.env.beyond)
      (appended segment fresh).bufferIndex = .package (-7) := by decide
  exact absurd (announces_first announced verdict).2.1 (by decide)

end Runs

end IotgoFirmware.Receive.HttpProgress
