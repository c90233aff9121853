import IotgoFirmware.Receive.HttpProgress

/-!
# The timer of an incomplete package

The 10 s timer should run, and `_timer_opened_flag` be up, exactly while the
front of a package waits in the buffer. Two branches break this: a remainder
behind an HTTP package starts the timer without raising the flag, and a WebSocket
header that is rejected inside the loop flushes the buffer without stopping it.
-/

namespace IotgoFirmware.Receive.PackageTimer

open IotgoFirmware.Library.ByteRegions
open IotgoFirmware.Library.CIntegers
open IotgoFirmware.Library.CStrings
open IotgoFirmware.Library.LoopRules
open IotgoFirmware.Library.StepRuns
open IotgoFirmware.Library.StreamFraming
open IotgoFirmware.Receive.SproObject
open IotgoFirmware.Receive.SproWebsocket
open IotgoFirmware.Receive.SproHttp
open IotgoFirmware.Receive.SproEvents
open IotgoFirmware.Receive.WebsocketReassembly
open IotgoFirmware.Receive.HttpProgress

set_option autoImplicit false

variable {size : UInt16}

/-- The buffer holds the front of a package, and the scanner waits for the
rest. -/
def Incomplete (session : Session size) : Prop :=
  session.bufferIndex ≠ 0 ∧ ∃ beyond,
    if usesHttp session.pkgType then
      ∀ announced,
        httpHead (session.buffer.seen beyond) session.bufferIndex ≠ .package announced
    else websocketHead (session.buffer.seen beyond) session.bufferIndex = .wait

/-- How a call leaves the object: with an empty buffer and no timer, with an
incomplete package and a timer started in this call, or with the incomplete
package and the timer it had. -/
inductive Settled (now index : Nat) (timer : Option Nat) (final : Session size) : Prop where
  | emptied (empty : final.bufferIndex = 0) (stopped : final.timer = none)
      (flag : final.timerOpenedFlag = false)
  | started (held : Incomplete final) (kept : final.bufferIndex ≤ index)
      (started : final.timer = some (now + 10000)) (flag : final.timerOpenedFlag = true)
  | running (held : Incomplete final) (kept : final.bufferIndex = index)
      (running : final.timer = timer) (runs : timer.isSome = true)
      (flag : final.timerOpenedFlag = true)

section Http

/-- Behind a package stands nothing, or a header that has its end. -/
abbrev HttpSettles :=
  Announces fun verdict available => verdict = .noTerminator → available = 0

variable {env : Ambient} {arg : Nat} {head final : Session size}

theorem http_deliver_flag (announced : Int) :
    (httpDeliver env arg announced head).timerOpenedFlag = false := by
  simp only [httpDeliver]
  split
  · exact take_package_timer_opened_flag env arg
  · exact take_package_timer_opened_flag env arg

theorem http_deliver_stops {announced : Int}
    (empty : (httpDeliver env arg announced head).bufferIndex = 0) :
    (httpDeliver env arg announced head).timer = none := by
  rw [http_deliver_index] at empty
  simp only [httpDeliver]
  rw [if_neg (by omega)]
  exact take_package_timer env arg

theorem http_waits (http : usesHttp head.pkgType = true) (some : head.bufferIndex ≠ 0)
    (waits : ∀ announced,
      httpHead (head.buffer.seen env.beyond) head.bufferIndex ≠ .package announced) :
    Incomplete head := by
  refine ⟨some, env.beyond, ?_⟩
  rw [if_pos http]
  exact waits

theorem http_waits_open (http : usesHttp head.pkgType = true) (some : head.bufferIndex ≠ 0)
    (verdict : httpHead (head.buffer.seen env.beyond) head.bufferIndex = .incomplete) :
    Incomplete (openTimer env { head with pkgOneFlag := false }) := by
  have waits : Incomplete head := by
    apply http_waits http some
    intro announced other
    have clash := verdict.symm.trans other
    cases clash
  simpa [Incomplete] using waits

/-- The head behind a package: nothing is left exactly if the scanner finds no
end of a header. -/
theorem http_delivered {announced : Int} (arg : Nat) (room : head.bufferIndex ≤ size.toNat)
    (settles : HttpSettles (head.buffer.seen env.beyond) head.bufferIndex)
    (verdict : httpHead (head.buffer.seen env.beyond) head.bufferIndex = .package announced) :
    let next := httpDeliver env arg announced head
    next.bufferIndex < head.bufferIndex ∧
      HttpSettles (next.buffer.seen env.beyond) next.bufferIndex ∧
      (httpHead (next.buffer.seen env.beyond) next.bufferIndex = .noTerminator ↔
        next.bufferIndex = 0) := by
  intro next
  rcases announces_first settles verdict with ⟨positive, bounded, closes, behind⟩
  have holds := holds_inside room
  have within : uint16 announced ≤ (head.buffer.bytes.take head.bufferIndex).length := by
    rw [← holds.index]
    exact bounded
  have index := (http_deliver_holds env arg holds positive within).index
  rw [List.length_drop, ← holds.index] at index
  have decision := http_deliver_head env arg holds positive within
  have text := http_deliver_text env arg holds positive within env.beyond
  constructor
  · change (httpDeliver env arg announced head).bufferIndex < _
    omega
  · constructor
    · exact (announces_next env arg holds positive within).2 behind
    · constructor
      · change httpHead ((httpDeliver env arg announced head).buffer.seen env.beyond)
          (httpDeliver env arg announced head).bufferIndex = _ → _
        rw [decision, show next.bufferIndex = head.bufferIndex - uint16 announced from index]
        exact closes
      · intro empty
        have gone : (head.buffer.bytes.take head.bufferIndex).drop (uint16 announced) = [] := by
          apply List.eq_nil_of_length_eq_zero
          rw [List.length_drop, ← holds.index, ← index]
          exact empty
        rw [http_head_c_string, text, gone]
        rfl

/-- The loop after a package: the flag is down, so a header that waits starts
the timer. -/
theorem http_rest_settles (room : head.bufferIndex ≤ size.toNat)
    (http : usesHttp head.pkgType = true)
    (settles : HttpSettles (head.buffer.seen env.beyond) head.bufferIndex)
    (closed : httpHead (head.buffer.seen env.beyond) head.bufferIndex = .noTerminator ↔
      head.bufferIndex = 0)
    (flag : head.timerOpenedFlag = false) (stopped : head.bufferIndex = 0 → head.timer = none)
    (exits : Exits (httpBody env arg) head final) {index : Nat} (kept : head.bufferIndex ≤ index)
    (timer : Option Nat) : Settled env.now index timer final := by
  induction count : head.bufferIndex using Nat.strongRecOn generalizing head with
  | ind count ih =>
      subst count
      rcases http_body_cases env arg head with ⟨verdict, pass⟩ | ⟨verdict, pass⟩ |
        ⟨announced, verdict, pass⟩
      · have empty := closed.1 verdict
        rw [exits_exit pass exits]
        exact .emptied empty (stopped empty) flag
      · have some : head.bufferIndex ≠ 0 := by
          intro empty
          rw [closed.2 empty] at verdict
          cases verdict
        let lowered : Session size := { head with pkgOneFlag := false }
        have same : final = openTimer env lowered := exits_exit pass exits
        rcases open_timer_started env lowered flag with ⟨started, raised⟩
        rw [same]
        apply Settled.started _ _ started raised
        · exact http_waits_open http some verdict
        · rw [open_timer_index]
          exact kept
      · rcases http_delivered arg room settles verdict with ⟨shorter, behind, ends⟩
        apply ih (httpDeliver env arg announced head).bufferIndex shorter (by omega) _ behind ends
          (http_deliver_flag announced) http_deliver_stops (exits_again pass exits) (by omega) rfl
        rw [setup_kind (http_deliver_setup env arg head announced)]
        exact http

theorem http_enter_timer (env : Ambient) (pdata : List UInt8) (session : Session size) :
    ((httpEnter env pdata session).timer = session.timer ∧
      (httpEnter env pdata session).timerOpenedFlag = session.timerOpenedFlag ∧
      (session.timerOpenedFlag = false →
        httpHead ((httpEnter env pdata session).buffer.seen env.beyond)
          (httpEnter env pdata session).bufferIndex ≠ .noTerminator)) ∨
    ((httpEnter env pdata session).timer = some (env.now + 10000) ∧
      (httpEnter env pdata session).timerOpenedFlag = true ∧ session.timerOpenedFlag = false ∧
      httpHead ((httpEnter env pdata session).buffer.seen env.beyond)
        (httpEnter env pdata session).bufferIndex = .noTerminator) := by
  have buffer := http_enter_buffer env pdata session
  rw [http_no_terminator_iff, Ne, http_no_terminator_iff, buffer]
  simp only [httpEnter, write_timer_opened_flag]
  by_cases absent : sint16 (indexOf ((serverRxWrite session.toSpro pdata).buffer.seen env.beyond)
      crlfcrlf) = -1
  · cases flag : session.timerOpenedFlag with
    | true =>
        rw [if_pos absent, if_pos rfl]
        exact .inl ⟨write_timer _ _, (write_timer_opened_flag _ _).trans flag, by simp⟩
    | false =>
        rw [if_pos absent, if_neg (by decide)]
        exact .inr ⟨rfl, rfl, rfl, absent⟩
  · rw [if_neg absent]
    exact .inl ⟨write_timer _ _, write_timer_opened_flag _ _, fun _ => absent⟩

theorem http_call_settles {session next : Session size} {segment : Segment}
    (http : usesHttp session.pkgType = true) (inside : session.bufferIndex ≤ size.toNat)
    (agree : session.timer.isSome = session.timerOpenedFlag)
    (some : (appended segment session).bufferIndex ≠ 0)
    (settles : HttpSettles ((appended segment session).buffer.seen segment.env.beyond)
      (appended segment session).bufferIndex)
    (received : Received segment session next) :
    Settled segment.env.now (appended segment session).bufferIndex session.timer next := by
  let entered := httpEnter segment.env segment.bytes { session with arg := segment.arg }
  have buffer : entered.buffer = (appended segment session).buffer := http_enter_buffer _ _ _
  have index : entered.bufferIndex = (appended segment session).bufferIndex :=
    http_enter_index _ _ _
  have kind : usesHttp entered.pkgType = true := by
    rw [setup_kind (http_enter_setup segment.env _ segment.bytes)]
    exact http
  have room : entered.bufferIndex ≤ size.toNat := enter_inside (.inl inside)
  have exits : Exits (httpBody segment.env segment.arg) entered next :=
    (received_http http).1 received
  have timers := http_enter_timer segment.env segment.bytes { session with arg := segment.arg }
  change (entered.timer = session.timer ∧ entered.timerOpenedFlag = session.timerOpenedFlag ∧
    (session.timerOpenedFlag = false → httpHead (entered.buffer.seen segment.env.beyond)
      entered.bufferIndex ≠ .noTerminator)) ∨ (entered.timer = Option.some _ ∧
    entered.timerOpenedFlag = true ∧ session.timerOpenedFlag = false ∧
    httpHead (entered.buffer.seen segment.env.beyond) entered.bufferIndex = .noTerminator) at timers
  rw [← buffer, ← index] at settles
  rw [← index] at some ⊢
  rcases http_body_cases segment.env segment.arg entered with ⟨verdict, pass⟩ | ⟨verdict, pass⟩ |
    ⟨announced, verdict, pass⟩
  · have waits : Incomplete entered := by
      apply http_waits kind some
      intro announced other
      have clash := verdict.symm.trans other
      cases clash
    rw [exits_exit pass exits]
    rcases timers with ⟨same, flag, terminated⟩ | ⟨started, flag, -, -⟩
    · cases raised : session.timerOpenedFlag with
      | true => exact .running waits rfl same (agree.trans raised) (flag.trans raised)
      | false => exact absurd verdict (terminated raised)
    · exact .started waits (Nat.le_refl _) started flag
  · let lowered : Session size := { entered with pkgOneFlag := false }
    have waits : Incomplete (openTimer segment.env lowered) := http_waits_open kind some verdict
    have same : next = openTimer segment.env lowered := exits_exit pass exits
    rw [same]
    rcases timers with ⟨timer, flag, -⟩ | ⟨-, -, -, absent⟩
    · cases raised : session.timerOpenedFlag with
      | true =>
          have running : openTimer segment.env lowered = lowered :=
            open_timer_running segment.env lowered (flag.trans raised)
          rw [running] at waits ⊢
          exact .running waits rfl timer (agree.trans raised) (flag.trans raised)
      | false =>
          rcases open_timer_started segment.env lowered (flag.trans raised) with ⟨started, up⟩
          exact .started waits (open_timer_index _ _).le started up
    · rw [verdict] at absent
      cases absent
  · rcases http_delivered segment.arg room settles verdict with ⟨shorter, behind, ends⟩
    apply http_rest_settles (by omega) _ behind ends (http_deliver_flag announced)
      http_deliver_stops (exits_again pass exits) (by omega)
    rw [setup_kind (http_deliver_setup _ _ _ _)]
    exact kind

end Http

section Websocket

/-- What the loop makes of the buffered bytes without rejecting a header while
the timer runs; `armed` is whether it does. -/
inductive WebsocketSettles : Bool → List UInt8 → Prop where
  | waits {armed : Bool} {live : List UInt8} (verdict : websocketFraming live = .wait) :
      WebsocketSettles armed live
  | foreign {armed : Bool} {live : List UInt8}
      (start : websocketStart (live.getD 0 0) = false) : WebsocketSettles armed live
  | invalid {live : List UInt8} (verdict : websocketFraming live = .invalid) :
      WebsocketSettles false live
  | package {armed : Bool} {live : List UInt8} {length : Nat}
      (verdict : websocketFraming live = .package length)
      (rest : WebsocketSettles true (live.drop length)) : WebsocketSettles armed live

variable {env : Ambient} {arg : Nat} {head final : Session size} {live : List UInt8}

theorem websocket_waits (websocket : head.pkgType = .websocket13) (some : head.bufferIndex ≠ 0)
    (verdict : websocketHead (head.buffer.seen env.beyond) head.bufferIndex = .wait) :
    Incomplete (openTimer env { head with pkgOneFlag := false }) := by
  have waits : Incomplete head := by
    refine ⟨some, env.beyond, ?_⟩
    rw [websocket, if_neg (by decide)]
    exact verdict
  simpa [Incomplete] using waits

theorem websocket_loop_settles {armed : Bool} (settles : WebsocketSettles armed live)
    (holds : Holds head.toSpro live) (websocket : head.pkgType = .websocket13)
    (nonempty : live ≠ []) (start : websocketStart (live.getD 0 0) = true)
    (one : head.pkgOneFlag = true) (flag : head.timerOpenedFlag = armed)
    (agree : head.timer.isSome = armed) (exits : Exits (websocketBody env arg) head final) :
    Settled env.now head.bufferIndex head.timer final := by
  induction settles generalizing head with
  | @waits armed live verdict =>
      let waiting := openTimer env { head with pkgOneFlag := false }
      have decision := holds_websocket_head holds env.beyond nonempty
      have pass : websocketBody env arg head = .again waiting := by
        rw [websocketBody, if_pos one, decision, verdict]
      have leaves : websocketBody env arg waiting = .exit waiting := by
        simp [websocketBody, waiting]
      have some : head.bufferIndex ≠ 0 := by
        rw [holds.index]
        exact Nat.ne_of_gt (List.length_pos_of_ne_nil nonempty)
      have held : Incomplete waiting := websocket_waits websocket some (decision.trans verdict)
      rw [exits_exit leaves (exits_again pass exits)]
      cases armed with
      | true =>
          have running : waiting = { head with pkgOneFlag := false } :=
            open_timer_running env _ flag
          rw [running] at held ⊢
          exact .running held rfl rfl agree flag
      | false =>
          rcases open_timer_started env { head with pkgOneFlag := false } flag with ⟨started, raised⟩
          exact .started held (open_timer_index _ _).le started raised
  | foreign other =>
      rw [start] at other
      cases other
  | invalid verdict =>
      have pass : websocketBody env arg head = .exit (rejectBuffer env arg head) := by
        rw [websocketBody, if_pos one, holds_websocket_head holds env.beyond nonempty, verdict]
      rw [exits_exit pass exits]
      apply Settled.emptied (reject_index env arg head)
      · rw [reject_timer]
        exact Option.isNone_iff_eq_none.1 (Option.isSome_eq_false_iff.1 agree)
      · rw [reject_timer_opened_flag]
        exact flag
  | @package armed live length verdict rest ih =>
      have bounds : 2 ≤ length ∧ length ≤ live.length := by
        rw [websocketFraming, if_neg nonempty] at verdict
        exact websocket_head_package verdict
      have positive : 0 < length := by omega
      let taken := takePackage env arg length head
      have pass : websocketBody env arg head = .again (websocketDeliver env arg length head) := by
        rw [websocketBody, if_pos one, holds_websocket_head holds env.beyond nonempty, verdict]
      have later := exits_again pass exits
      have left := take_package_holds env arg holds positive bounds.2
      have shorter : taken.bufferIndex ≤ head.bufferIndex := by
        rw [left.index, List.length_drop, holds.index]
        omega
      have stopped : taken.timer = none := take_package_timer env arg
      have lowered : taken.timerOpenedFlag = false := take_package_timer_opened_flag env arg
      rcases websocket_deliver_cases env arg holds positive bounds.2 with ⟨empty, next⟩ |
        ⟨-, -, next⟩ | ⟨more, first, next⟩
      · have leaves : websocketBody env arg { taken with pkgOneFlag := false } =
            .exit { taken with pkgOneFlag := false } := rfl
        rw [next] at later
        have none : taken.bufferIndex = 0 := by
          rw [left.index, empty]
          rfl
        rw [exits_exit leaves later]
        exact .emptied none stopped lowered
      · rw [next] at later
        rw [exits_exit (reject_leaves env arg taken) later]
        apply Settled.emptied (reject_index env arg taken)
        · rw [reject_timer]
          exact stopped
        · rw [reject_timer_opened_flag]
          exact lowered
      · let raised : Session size := { taken with pkgOneFlag := true }
        rcases open_timer_started env raised lowered with ⟨started, up⟩
        have rest : Holds (openTimer env raised).toSpro (live.drop length) := by
          constructor
          · rw [open_timer_index]
            exact left.index
          · rw [open_timer_buffer]
            exact left.front
        have kind : (openTimer env raised).pkgType = .websocket13 :=
          (setup_kind ((open_timer_setup env raised).trans
            (take_setup env arg length head))).trans websocket
        have runs : (openTimer env raised).timer.isSome = true := by
          rw [started]
          rfl
        rw [next] at later
        have settled := ih rest kind more first (open_timer_pkg_one_flag env raised) up runs later
        cases settled with
        | emptied empty stopped flag => exact .emptied empty stopped flag
        | started held kept begun flag =>
            rw [open_timer_index] at kept
            exact .started held (kept.trans shorter) begun flag
        | running held kept same _ flag =>
            rw [open_timer_index] at kept
            exact .started held (kept.le.trans shorter) (same.trans started) flag

theorem websocket_call_settles {session next : Session size} {segment : Segment}
    (websocket : session.pkgType = .websocket13) (inside : session.bufferIndex ≤ size.toNat)
    (agree : session.timer.isSome = session.timerOpenedFlag)
    (held : session.timerOpenedFlag = true → Incomplete session)
    (idle : session.timerOpenedFlag = false → session.bufferIndex = 0)
    (quiet : (appended segment session).bufferIndex = 0 →
      websocketStart ((appended segment session).buffer.read segment.env.beyond 0) = false)
    (settles : WebsocketSettles (decide (session.bufferIndex ≠ 0))
      ((appended segment session).buffer.bytes.take (appended segment session).bufferIndex))
    (received : Received segment session next) :
    Settled segment.env.now (appended segment session).bufferIndex session.timer next := by
  let written : Session size :=
    { session with toSpro := appended segment session }
  have room : (appended segment session).bufferIndex ≤ size.toNat := write_inside (.inl inside)
  have holds := holds_inside room
  have exits := (received_websocket websocket).1 received
  have armed : decide (session.bufferIndex ≠ 0) = session.timerOpenedFlag := by
    cases flag : session.timerOpenedFlag with
    | true => exact decide_eq_true (held flag).1
    | false => exact decide_eq_false (by simpa using idle flag)
  have timer : (appended segment session).timer = session.timer := write_timer _ _
  have flag : (appended segment session).timerOpenedFlag = session.timerOpenedFlag :=
    write_timer_opened_flag _ _
  cases start : websocketStart ((appended segment session).buffer.read segment.env.beyond 0) with
  | true =>
      let entered : Session size := { written with pkgOneFlag := true }
      have enters : websocketEnter segment.env segment.arg segment.bytes
          { session with arg := segment.arg } = entered := by
        simp only [websocketEnter]
        exact if_pos start
      have some : (appended segment session).bufferIndex ≠ 0 := by
        intro empty
        rw [quiet empty] at start
        cases start
      have nonempty : (appended segment session).buffer.bytes.take
          (appended segment session).bufferIndex ≠ [] := by
        intro empty
        have index := holds.index
        rw [empty] at index
        exact some index
      have first : websocketStart (((appended segment session).buffer.bytes.take
          (appended segment session).bufferIndex).getD 0 0) = true := by
        rw [← holds_read_byte holds segment.env.beyond (List.length_pos_of_ne_nil nonempty)]
        exact start
      have entering : Holds entered.toSpro ((appended segment session).buffer.bytes.take
          (appended segment session).bufferIndex) := ⟨holds.index, holds.front⟩
      have kind : entered.pkgType = .websocket13 := (write_pkg_type _ _).trans websocket
      rw [enters] at exits
      have settled := websocket_loop_settles settles entering kind nonempty first rfl
        (flag.trans armed.symm) ((congrArg Option.isSome timer).trans (agree.trans armed.symm)) exits
      rw [← timer]
      exact settled
  | false =>
      have enters : websocketEnter segment.env segment.arg segment.bytes
          { session with arg := segment.arg } =
            rejectBuffer segment.env segment.arg written := by
        simp only [websocketEnter]
        exact if_neg (by
          rw [show (serverRxWrite _ segment.bytes).buffer.read segment.env.beyond 0 =
            (appended segment session).buffer.read segment.env.beyond 0 from rfl, start]
          decide)
      have down : session.timerOpenedFlag = false := by
        by_contra up
        rcases held (by simpa using up) with ⟨some, beyond, waits⟩
        rw [websocket, if_neg (by decide)] at waits
        have front : websocketStart (session.buffer.read beyond 0) = true := by
          apply websocket_head_start
          rw [waits]
          decide
        have same : (appended segment session).buffer.read segment.env.beyond 0 =
            session.buffer.read beyond 0 := appended_first inside some _ _
        rw [same, front] at start
        cases start
      rw [enters] at exits
      rw [exits_exit (reject_leaves segment.env segment.arg written) exits]
      apply Settled.emptied (reject_index segment.env segment.arg written)
      · rw [reject_timer]
        change (appended segment session).timer = none
        rw [timer]
        rw [down] at agree
        exact Option.isNone_iff_eq_none.1 (Option.isSome_eq_false_iff.1 agree)
      · rw [reject_timer_opened_flag]
        exact flag.trans down

end Websocket

section Runs

/-- The last `count` of a list. -/
def keepLast (count : Nat) (arrivals : List Nat) : List Nat :=
  arrivals.drop (arrivals.length - count)

/-- The object, the time at which each of the buffered bytes arrived, and the
time of the last event. -/
structure Watched (size : UInt16) where
  session : Session size
  arrivals : List Nat
  clock : Nat

/-- Bytes are taken off the front, so those that are left are the last ones. The
clock does not run backwards. -/
inductive TimedStep : Watched size → SproEvent → Watched size → Prop where
  | recv {watched : Watched size} {segment : Segment} {next : Session size}
      (later : watched.clock ≤ segment.env.now)
      (received : Received segment watched.session next) :
      TimedStep watched (.recv segment)
        { session := next
          arrivals := keepLast next.bufferIndex
            (watched.arrivals ++ List.replicate
              ((appended segment watched.session).bufferIndex - watched.session.bufferIndex)
              segment.env.now)
          clock := segment.env.now }
  | tick {watched : Watched size} {env : Ambient} (later : watched.clock ≤ env.now) :
      TimedStep watched (.tick env)
        { session := clockTick env watched.session
          arrivals := keepLast (clockTick env watched.session).bufferIndex watched.arrivals
          clock := env.now }

def Expires (env : Ambient) (session : Session size) : Prop :=
  ∃ due, session.timer = some due ∧ due ≤ env.now

/-- The timer runs exactly while its flag is up, and exactly while an incomplete
package is held; it does not run out before the first byte of that package has
been there for ten seconds. -/
structure TimerSound (watched : Watched size) : Prop where
  armed : watched.session.timer.isSome = true ↔ watched.session.timerOpenedFlag = true
  flag : watched.session.timerOpenedFlag = true ↔ Incomplete watched.session
  late : ∀ env, Expires env watched.session → ∀ first, watched.arrivals.head? = some first →
    first + 10000 ≤ env.now

/-- No call ends on one of the two branches that forget the flag or the timer. -/
def SettlesStep (watched : Watched size) : SproEvent → Prop
  | .recv segment =>
      let spro := appended segment watched.session
      if usesHttp watched.session.pkgType then
        spro.bufferIndex ≠ 0 ∧
          HttpSettles (spro.buffer.seen segment.env.beyond) spro.bufferIndex
      else
        (spro.bufferIndex = 0 →
          websocketStart (spro.buffer.read segment.env.beyond 0) = false) ∧
          WebsocketSettles (decide (watched.session.bufferIndex ≠ 0))
            (spro.buffer.bytes.take spro.bufferIndex)
  | _ => True

structure Watches (watched : Watched size) : Prop where
  inside : watched.session.bufferIndex ≤ size.toNat
  typed : usesHttp watched.session.pkgType = true ∨ watched.session.pkgType = .websocket13
  counted : watched.arrivals.length = watched.session.bufferIndex
  past : ∀ arrival ∈ watched.arrivals, arrival ≤ watched.clock
  agree : watched.session.timer.isSome = watched.session.timerOpenedFlag
  held : watched.session.timerOpenedFlag = true → Incomplete watched.session
  idle : watched.session.timerOpenedFlag = false → watched.session.bufferIndex = 0
  due : ∀ due first, watched.session.timer = some due → watched.arrivals.head? = some first →
    first + 10000 ≤ due

theorem watches_sound {watched : Watched size} (watches : Watches watched) :
    TimerSound watched := by
  constructor
  · rw [watches.agree]
  · constructor
    · exact watches.held
    · intro incomplete
      by_contra down
      exact incomplete.1 (watches.idle (by simpa using down))
  · intro env ⟨due, timer, passed⟩ first front
    exact (watches.due due first timer front).trans passed

theorem keep_last_length {count : Nat} {arrivals : List Nat} (enough : count ≤ arrivals.length) :
    (keepLast count arrivals).length = count := by
  rw [keepLast, List.length_drop]
  omega

theorem keep_last_all {count : Nat} {arrivals : List Nat} (all : count = arrivals.length) :
    keepLast count arrivals = arrivals := by
  rw [keepLast, all, Nat.sub_self, List.drop_zero]

theorem keep_last_mem {count arrival : Nat} {arrivals : List Nat}
    (member : arrival ∈ keepLast count arrivals) : arrival ∈ arrivals :=
  List.mem_of_mem_drop member

theorem settled_watches {watched : Watched size} {segment : Segment} {next : Session size}
    (watches : Watches watched) (later : watched.clock ≤ segment.env.now)
    (setup : next.setup = watched.session.setup)
    (settled : Settled segment.env.now (appended segment watched.session).bufferIndex
      watched.session.timer next) :
    Watches
      { session := next
        arrivals := keepLast next.bufferIndex
          (watched.arrivals ++ List.replicate
            ((appended segment watched.session).bufferIndex - watched.session.bufferIndex)
            segment.env.now)
        clock := segment.env.now } := by
  let index := (appended segment watched.session).bufferIndex
  have written : index = min (watched.session.bufferIndex + segment.bytes.length) size.toNat :=
    appended_index watches.inside
  have inside := watches.inside
  have counted := watches.counted
  let arrivals := watched.arrivals ++
    List.replicate (index - watched.session.bufferIndex) segment.env.now
  have total : arrivals.length = index := by
    rw [List.length_append, List.length_replicate]
    omega
  have past : ∀ arrival ∈ arrivals, arrival ≤ segment.env.now := by
    intro arrival member
    rcases List.mem_append.1 member with old | new
    · exact (watches.past arrival old).trans later
    · exact (List.mem_replicate.1 new).2.le
  have typed : usesHttp next.pkgType = true ∨ next.pkgType = .websocket13 := by
    rw [setup_kind setup]
    exact watches.typed
  have kept : next.bufferIndex ≤ index := by
    cases settled with
    | emptied empty => omega
    | started _ kept => exact kept
    | running _ kept => exact kept.le
  constructor
  · exact kept.trans (by omega)
  · exact typed
  · apply keep_last_length
    change next.bufferIndex ≤ arrivals.length
    omega
  · intro arrival member
    exact past arrival (keep_last_mem member)
  · cases settled with
    | emptied _ stopped flag =>
        rw [stopped, flag]
        rfl
    | started _ _ started flag =>
        rw [started, flag]
        rfl
    | running _ _ running runs flag =>
        rw [running, runs, flag]
  · cases settled with
    | emptied _ _ flag =>
        intro up
        rw [flag] at up
        cases up
    | started held => exact fun _ => held
    | running held => exact fun _ => held
  · cases settled with
    | emptied empty => exact fun _ => empty
    | started _ _ _ flag =>
        intro down
        rw [flag] at down
        cases down
    | running _ _ _ _ flag =>
        intro down
        rw [flag] at down
        cases down
  · intro due first timer front
    cases settled with
    | emptied _ stopped =>
        rw [stopped] at timer
        cases timer
    | started _ _ started =>
        rw [started, Option.some.injEq] at timer
        have arrived := past first (keep_last_mem (List.mem_of_head? front))
        omega
    | running _ kept running runs =>
        have some : watched.arrivals ≠ [] := by
          intro empty
          rw [empty] at counted
          rw [watches.agree] at runs
          exact (watches.held runs).1 counted.symm
        have all : keepLast next.bufferIndex arrivals = arrivals :=
          keep_last_all (kept.trans total.symm)
        rw [running] at timer
        apply watches.due due first timer
        rw [← List.head?_append_of_ne_nil _ some, ← front]
        exact congrArg List.head? all.symm

theorem received_settles {watched : Watched size} {segment : Segment} {next : Session size}
    (watches : Watches watched) (settles : SettlesStep watched (.recv segment))
    (received : Received segment watched.session next) :
    Settled segment.env.now (appended segment watched.session).bufferIndex watched.session.timer
      next := by
  simp only [SettlesStep] at settles
  rcases watches.typed with http | websocket
  · rw [if_pos http] at settles
    exact http_call_settles http watches.inside watches.agree settles.1 settles.2 received
  · rw [websocket, if_neg (by decide)] at settles
    exact websocket_call_settles websocket watches.inside watches.agree watches.held watches.idle
      settles.1 settles.2 received

theorem tick_watches {watched : Watched size} (watches : Watches watched) {env : Ambient}
    (later : watched.clock ≤ env.now) :
    Watches
      { session := clockTick env watched.session
        arrivals := keepLast (clockTick env watched.session).bufferIndex watched.arrivals
        clock := env.now } := by
  have past : ∀ arrival ∈ watched.arrivals, arrival ≤ env.now := by
    intro arrival member
    exact (watches.past arrival member).trans later
  have typed : usesHttp (clockTick env watched.session).pkgType = true ∨
      (clockTick env watched.session).pkgType = .websocket13 := by
    rw [setup_kind (tick_setup env watched.session)]
    exact watches.typed
  by_cases expires : Expires env watched.session
  · rcases expires with ⟨due, timer, passed⟩
    have fired : clockTick env watched.session = spro10sTimerCallback env watched.session := by
      rw [clockTick, timer]
      exact if_pos passed
    have emptied : keepLast (clockTick env watched.session).bufferIndex watched.arrivals = [] := by
      rw [fired]
      exact List.drop_length
    rw [emptied]
    rw [fired] at typed ⊢
    constructor
    · exact Nat.zero_le _
    · exact typed
    · rfl
    · intro arrival member
      cases member
    · rfl
    · intro up
      cases up
    · intro _
      rfl
    · intro due first timer
      cases timer
  · have quiet : clockTick env watched.session = watched.session := by
      unfold clockTick
      split
      · rename_i due timer
        exact if_neg fun passed => expires ⟨due, timer, passed⟩
      · rfl
    have kept : keepLast watched.session.bufferIndex watched.arrivals = watched.arrivals :=
      keep_last_all watches.counted.symm
    rw [quiet] at typed ⊢
    rw [kept]
    exact ⟨watches.inside, typed, watches.counted, past, watches.agree, watches.held, watches.idle,
      watches.due⟩

def freshWatch (size : UInt16) (pkgType : SproPkgType) (pkgProcCb : Bool) : Watched size where
  session := spCreateObject size pkgType pkgProcCb
  arrivals := []
  clock := 0

theorem fresh_watches (pkgProcCb : Bool) {pkgType : SproPkgType}
    (typed : usesHttp pkgType = true ∨ pkgType = .websocket13) :
    Watches (freshWatch size pkgType pkgProcCb) where
  inside := Nat.zero_le _
  typed := typed
  counted := rfl
  past arrival member := by cases member
  agree := rfl
  held up := by cases up
  idle _ := rfl
  due due first timer := by cases timer

/-- In every run that keeps off the two faulty branches the timer is sound in
every state between calls. -/
theorem package_timer_sound (size : UInt16) (pkgType : SproPkgType) (pkgProcCb : Bool)
    (typed : usesHttp pkgType = true ∨ pkgType = .websocket13) (events : List SproEvent)
    (settles : Meets TimedStep SettlesStep (freshWatch size pkgType pkgProcCb) events) :
    Keeps TimedStep TimerSound (freshWatch size pkgType pkgProcCb) events := by
  have kept : Keeps TimedStep Watches (freshWatch size pkgType pkgProcCb) events := by
    apply keeps_of_meets Watches _ (fresh_watches pkgProcCb typed) settles
    intro watched event next watches settles taken
    cases taken with
    | @recv segment next later received =>
        exact settled_watches watches later (received_setup received)
          (received_settles watches settles received)
    | tick later => exact tick_watches watches later
  exact keeps_mono (fun _ => watches_sound) kept

theorem package_timer_sound_front :
    Keeps TimedStep TimerSound (freshWatch 8 .http11 true)
      [.recv ⟨⟨3, []⟩, 7, [72, 84]⟩, .tick ⟨10003, []⟩] := by
  apply package_timer_sound 8 .http11 true (.inl rfl)
  constructor
  · exact ⟨by decide, .noTerminator (by decide)⟩
  · intro next _
    exact ⟨trivial, fun _ _ => trivial⟩

/-- One byte behind an HTTP package starts the timer and leaves the flag down. -/
theorem package_timer_unflagged :
    ¬ ∀ (size : UInt16) (pkgType : SproPkgType),
      (pkgType = .http11 ∨ pkgType = .websocket13) → ∀ events : List SproEvent,
      Keeps TimedStep TimerSound (freshWatch size pkgType true) events := by
  intro claimed
  let segment : Segment := ⟨⟨3, []⟩, 7, crlfcrlf ++ [72]⟩
  have kept := claimed 8 .http11 (.inl rfl) [.recv segment]
  have arrives : ((sproExec 4 (spCreateObject 8 .http11 true) (.recv segment)).any fun next =>
      next.timer.isSome && !next.timerOpenedFlag) = true := by decide
  rcases (Option.any_eq_true _ _).1 arrives with ⟨next, computed, unflagged⟩
  have received : Received segment (spCreateObject 8 .http11 true) next :=
    spro_exec_sound 4 _ (.recv segment) _ computed
  rw [Bool.and_eq_true, Bool.not_eq_true'] at unflagged
  have sound := kept.2 _ (TimedStep.recv (Nat.zero_le 3) received)
  have up := sound.armed.1 unflagged.1
  rw [show next.timerOpenedFlag = false from unflagged.2] at up
  cases up

end Runs

end IotgoFirmware.Receive.PackageTimer
