import IotgoFirmware.Receive.WebsocketReassembly

/-!
# What a full buffer costs

`serverRxWrite` drops the bytes that find no room. Bytes handed out with the
flag up came in with a segment and are handed out once, so a stream that lost
one of its bytes cannot have all its frames delivered.
-/

namespace IotgoFirmware.Receive.WebsocketOverflow

open IotgoFirmware.Library.ByteRegions
open IotgoFirmware.Library.CIntegers
open IotgoFirmware.Library.LoopRules
open IotgoFirmware.Library.StepRuns
open IotgoFirmware.Library.StreamFraming
open IotgoFirmware.Receive.SproObject
open IotgoFirmware.Receive.SproWebsocket
open IotgoFirmware.Receive.SproEvents
open IotgoFirmware.Receive.WebsocketReassembly

set_option autoImplicit false

variable {size : UInt16}

def deliveredBytes (calls : List PkgCall) : Nat :=
  ((calls.filter PkgCall.flag).map PkgCall.pkgLen).sum

def accounted (session : Session size) : Nat :=
  deliveredBytes session.calls + session.bufferIndex

theorem delivered_bytes_append (calls more : List PkgCall) :
    deliveredBytes (calls ++ more) = deliveredBytes calls + deliveredBytes more := by
  simp [deliveredBytes]

theorem delivered_bytes_cons (call : PkgCall) (calls : List PkgCall) :
    deliveredBytes (call :: calls) = deliveredBytes [call] + deliveredBytes calls := by
  rw [← delivered_bytes_append, List.singleton_append]

theorem delivered_bytes_sublist {some all : List PkgCall} (within : some.Sublist all) :
    deliveredBytes some ≤ deliveredBytes all := by
  induction within with
  | slnil => exact Nat.le_refl _
  | @cons some all call _ ih =>
      rw [delivered_bytes_cons call all]
      omega
  | @cons_cons some all call _ ih =>
      rw [delivered_bytes_cons call some, delivered_bytes_cons call all]
      omega

theorem delivered_bytes_of_delivers {calls : List PkgCall} {packages : List (List UInt8)}
    (delivers : List.Forall₂ PkgCall.Delivers calls packages) :
    deliveredBytes calls = packages.flatten.length := by
  induction delivers with
  | nil => rfl
  | @cons call package calls packages first _ ih =>
      rcases first with ⟨flag, length, -⟩
      have front : deliveredBytes [call] = package.length := by
        simp [deliveredBytes, flag, length]
      rw [delivered_bytes_cons, front, ih, List.flatten_cons, List.length_append]

theorem call_delivered_bytes (env : Ambient) (arg len : Nat) (session : Session size) :
    deliveredBytes (callPkgProcCb env arg len session).calls ≤
      deliveredBytes session.calls + if session.pkgOneFlag then len else 0 := by
  unfold callPkgProcCb
  split
  · rw [delivered_bytes_append]
    cases session.pkgOneFlag <;> simp [deliveredBytes]
  · exact Nat.le_add_right _ _

section Accounts

variable (env : Ambient) (arg : Nat) (session : Session size)

theorem accounted_open_timer : accounted (openTimer env session) = accounted session := by
  simp [accounted]

theorem accounted_reject : accounted (rejectBuffer env arg session) ≤ accounted session := by
  have passed := call_delivered_bytes env arg session.bufferIndex
    { session with pkgOneFlag := false }
  have kept : accounted (rejectBuffer env arg session) =
      deliveredBytes (callPkgProcCb env arg session.bufferIndex
        { session with pkgOneFlag := false }).calls := rfl
  rw [kept, accounted]
  simp only [Bool.false_eq_true, if_false, Nat.add_zero] at passed
  omega

theorem accounted_take {length : Nat} (bounded : length ≤ session.bufferIndex)
    (small : session.bufferIndex < 65536) :
    accounted (takePackage env arg length session) ≤ accounted session ∧
      (takePackage env arg length session).bufferIndex = session.bufferIndex - length := by
  have index : (takePackage env arg length session).bufferIndex = session.bufferIndex - length := by
    rw [take_package_spro]
    exact read_index env.beyond bounded small
  have passed := call_delivered_bytes env arg length
    { session with
      pkgOneFlag := true
      pkgLen := length
      timer := none
      timerOpenedFlag := false }
  have kept : deliveredBytes (takePackage env arg length session).calls ≤
      deliveredBytes session.calls + length := passed
  constructor
  · rw [accounted, accounted, index]
    omega
  · exact index

theorem accounted_deliver {length : Nat} (positive : 2 ≤ length)
    (bounded : length ≤ session.bufferIndex) (small : session.bufferIndex < 65536) :
    accounted (websocketDeliver env arg length session) ≤ accounted session ∧
      (websocketDeliver env arg length session).bufferIndex + 2 ≤ session.bufferIndex := by
  rcases accounted_take env arg session bounded small with ⟨taken, index⟩
  rw [websocketDeliver, uint16_natCast (by omega)]
  split
  · split
    · rw [accounted_open_timer, open_timer_index]
      constructor
      · exact taken
      · change (takePackage env arg length session).bufferIndex + 2 ≤ _
        omega
    · rw [reject_index]
      constructor
      · exact (accounted_reject env arg _).trans taken
      · omega
  · constructor
    · exact taken
    · change (takePackage env arg length session).bufferIndex + 2 ≤ _
      omega

theorem accounted_enter (pdata : List UInt8) (inside : session.bufferIndex ≤ size.toNat) :
    accounted (websocketEnter env arg pdata session) ≤
        deliveredBytes session.calls + min (session.bufferIndex + pdata.length) size.toNat ∧
      (websocketEnter env arg pdata session).bufferIndex ≤ size.toNat := by
  let written : Session size := { session with toSpro := serverRxWrite session.toSpro pdata }
  have index : written.bufferIndex = min (session.bufferIndex + pdata.length) size.toNat :=
    write_index inside pdata
  have account : accounted written =
      deliveredBytes session.calls + min (session.bufferIndex + pdata.length) size.toNat := by
    rw [accounted, index]
  simp only [websocketEnter]
  split
  · constructor
    · exact account.le
    · change written.bufferIndex ≤ size.toNat
      omega
  · constructor
    · exact (accounted_reject env arg written).trans account.le
    · rw [reject_index]
      exact Nat.zero_le _

end Accounts

section Steps

variable {session next : Session size} {segment : Segment}

/-- Every pass of the loop gives its account, and the loop is left: a frame takes
bytes off, and waiting lowers the flag. -/
theorem websocket_pass {env : Ambient} {arg : Nat} {head : Session size}
    (small : head.bufferIndex < 65536) (continues : websocketBody env arg head = .again next) :
    (accounted next ≤ accounted head ∧ next.bufferIndex ≤ head.bufferIndex) ∧
      2 * next.bufferIndex + next.pkgOneFlag.toNat < 2 * head.bufferIndex + head.pkgOneFlag.toNat := by
  rcases websocket_body_cases env arg head with ⟨-, leaves⟩ | ⟨flag, -, waits⟩ |
    ⟨length, flag, verdict, delivers⟩ | ⟨-, -, rejects⟩
  · rw [leaves] at continues
    cases continues
  · rw [waits] at continues
    cases continues
    rw [accounted_open_timer, open_timer_index, open_timer_pkg_one_flag]
    simp [accounted, flag]
  · rw [delivers] at continues
    cases continues
    rcases websocket_head_package verdict with ⟨positive, bounded⟩
    rcases accounted_deliver env arg head positive bounded small with ⟨account, shorter⟩
    have lowest := Bool.toNat_le (websocketDeliver env arg length head).pkgOneFlag
    constructor
    · exact ⟨account, by omega⟩
    · omega
  · rw [rejects] at continues
    cases continues

theorem websocket_leave {env : Ambient} {arg : Nat} {head final : Session size}
    (leaves : websocketBody env arg head = .exit final) :
    accounted final ≤ accounted head ∧ final.bufferIndex ≤ head.bufferIndex := by
  rcases websocket_body_cases env arg head with ⟨-, stops⟩ | ⟨-, -, waits⟩ |
    ⟨length, -, -, delivers⟩ | ⟨-, -, rejects⟩
  · rw [stops] at leaves
    cases leaves
    exact ⟨Nat.le_refl _, Nat.le_refl _⟩
  · rw [waits] at leaves
    cases leaves
  · rw [delivers] at leaves
    cases leaves
  · rw [rejects] at leaves
    cases leaves
    constructor
    · exact accounted_reject env arg head
    · rw [reject_index]
      exact Nat.zero_le _

/-- A WebSocket receiver returns from every call. -/
theorem websocket_returns (websocket : session.pkgType = .websocket13)
    (inside : session.bufferIndex ≤ size.toNat) (segment : Segment) :
    ∃ next, Received segment session next := by
  have small := size_lt size
  have entered := (accounted_enter segment.env segment.arg { session with arg := segment.arg }
    segment.bytes inside).2
  have leaves : ∃ final, Exits (websocketBody segment.env segment.arg)
      (websocketEnter segment.env segment.arg segment.bytes { session with arg := segment.arg })
      final := by
    apply exits_of_measure (fun head : Session size => head.bufferIndex ≤ size.toNat)
      (fun head => 2 * head.bufferIndex + head.pkgOneFlag.toNat) _ entered
    intro head next room continues
    rcases websocket_pass (Nat.lt_of_le_of_lt room small) continues with ⟨kept, less⟩
    exact ⟨kept.2.trans room, less⟩
  rcases leaves with ⟨final, exits⟩
  exact ⟨final, (received_websocket websocket).2 exits⟩

/-- What one call hands out and keeps is at most what was buffered before and
what found room. -/
theorem received_account (websocket : session.pkgType = .websocket13)
    (inside : session.bufferIndex ≤ size.toNat) (received : Received segment session next) :
    accounted next ≤ deliveredBytes session.calls +
        min (session.bufferIndex + segment.bytes.length) size.toNat ∧
      next.bufferIndex ≤ size.toNat := by
  have small := size_lt size
  let bound := deliveredBytes session.calls +
    min (session.bufferIndex + segment.bytes.length) size.toNat
  have entered := accounted_enter segment.env segment.arg { session with arg := segment.arg }
    segment.bytes inside
  have exits := (received_websocket websocket).1 received
  apply exits_keeps (fun head : Session size =>
    accounted head ≤ bound ∧ head.bufferIndex ≤ size.toNat) _ _ entered exits
  · intro head next kept continues
    rcases websocket_pass (Nat.lt_of_le_of_lt kept.2 small) continues with ⟨pass, -⟩
    exact ⟨pass.1.trans kept.1, pass.2.trans kept.2⟩
  · intro head final kept leaves
    rcases websocket_leave leaves with ⟨account, index⟩
    exact ⟨account.trans kept.1, index.trans kept.2⟩

end Steps

section Runs

variable {session final : Session size} {segments : List Segment}

theorem run_account (websocket : session.pkgType = .websocket13)
    (inside : session.bufferIndex ≤ size.toNat)
    (run : Run (fun session segment => SproStep session (.recv segment)) session segments final) :
    accounted final ≤ accounted session + (segments.map Segment.bytes).flatten.length := by
  induction run with
  | nil => exact Nat.le_add_right _ _
  | @cons session next final segment segments first _ ih =>
      rcases received_account websocket inside first with ⟨account, index⟩
      have later := ih ((received_pkg_type first).trans websocket) index
      simp only [List.map_cons, List.flatten_cons, List.length_append]
      unfold accounted at account later ⊢
      omega

/-- A run that accounts for every byte it received found room for every
segment. -/
theorem lossless_fits (websocket : session.pkgType = .websocket13)
    (inside : session.bufferIndex ≤ size.toNat)
    (run : Run (fun session segment => SproStep session (.recv segment)) session segments final)
    (all : accounted session + (segments.map Segment.bytes).flatten.length ≤ accounted final) :
    Meets (fun session segment => SproStep session (.recv segment))
      (fun session segment => FitsBuffer session (.recv segment)) session segments := by
  induction run with
  | nil => trivial
  | @cons session next final segment segments first later ih =>
      rcases received_account websocket inside first with ⟨account, index⟩
      have kind := (received_pkg_type first).trans websocket
      have rest := run_account kind index later
      simp only [List.map_cons, List.flatten_cons, List.length_append] at all
      unfold accounted at account rest all
      constructor
      · change session.bufferIndex + segment.bytes.length ≤ size.toNat
        omega
      · intro other taken
        rw [received_unique taken first]
        apply ih kind index
        unfold accounted
        omega

theorem websocket_runs (websocket : session.pkgType = .websocket13)
    (inside : session.bufferIndex ≤ size.toNat) (segments : List Segment) :
    ∃ final, Run (fun session segment => SproStep session (.recv segment)) session segments
      final := by
  induction segments generalizing session with
  | nil => exact ⟨session, .nil⟩
  | cons segment segments ih =>
      rcases websocket_returns websocket inside segment with ⟨next, received⟩
      have index := (received_account websocket inside received).2
      rcases ih ((received_pkg_type received).trans websocket) index with ⟨final, run⟩
      exact ⟨final, .cons received run⟩

end Runs

section Delivery

variable {session : Session size} {segment : Segment}

/-- The complete packages among the calls made from one state to a later one. -/
def Passes (session later : Session size) (packages : List (List UInt8)) : Prop :=
  ∃ calls, later.calls = session.calls ++ calls ∧
    List.Forall₂ PkgCall.Delivers (calls.filter PkgCall.flag) packages

theorem passes_nil {session later : Session size} (same : later.calls = session.calls) :
    Passes session later [] :=
  ⟨[], by simpa using same, .nil⟩

theorem passes_append {session middle later : Session size} {front back : List (List UInt8)}
    (first : Passes session middle front) (second : Passes middle later back) :
    Passes session later (front ++ back) := by
  rcases first with ⟨calls, callsEq, delivers⟩
  rcases second with ⟨more, moreEq, deliversMore⟩
  refine ⟨calls ++ more, ?_, ?_⟩
  · rw [moreEq, callsEq, List.append_assoc]
  · rw [List.filter_append]
    exact List.rel_append delivers deliversMore

theorem delivers_filter {calls : List PkgCall} {packages : List (List UInt8)}
    (delivers : List.Forall₂ PkgCall.Delivers calls packages) :
    calls.filter PkgCall.flag = calls := by
  induction delivers with
  | nil => rfl
  | cons first _ ih => rw [List.filter_cons_of_pos first.1, ih]

theorem passes_of_emits {later : Session size} {packages : List (List UInt8)}
    (emits : Emits session later packages) : Passes session later packages := by
  rcases emits with ⟨calls, callsEq, delivers⟩
  exact ⟨calls, callsEq, by rwa [delivers_filter delivers]⟩

theorem websocket_head_empty {memory : List UInt8}
    (start : websocketStart (memory.getD 0 0) = true) : websocketHead memory 0 = .wait := by
  simp only [websocketStart, Bool.or_eq_true, decide_eq_true_eq] at start
  unfold websocketHead
  split_ifs with data two few control <;> first | rfl | omega | skip
  simp_all

/-- A call without bytes and with nothing buffered completes no package. -/
theorem websocket_receives_nothing (receiving : Receiving .websocket13 session [])
    (nothing : segment.bytes = []) :
    ∃ next, Received segment session next ∧ Receiving .websocket13 next [] ∧
      Passes session next [] := by
  have kind := receiving.kind
  have registered := receiving.registered
  let session' : Session size := { session with arg := segment.arg }
  have index : session'.bufferIndex = 0 := receiving.holds.index
  by_cases start : websocketStart (session'.buffer.read segment.env.beyond 0) = true
  · let raised : Session size := { session' with pkgOneFlag := true }
    let waiting := openTimer segment.env { session' with pkgOneFlag := false }
    have enters : websocketEnter segment.env segment.arg segment.bytes session' = raised := by
      rw [nothing, websocketEnter]
      exact if_pos start
    have head : websocketHead (raised.buffer.seen segment.env.beyond) raised.bufferIndex = .wait := by
      change websocketHead (session'.buffer.seen segment.env.beyond) session'.bufferIndex = .wait
      rw [index]
      exact websocket_head_empty start
    have waits : websocketBody segment.env segment.arg raised = .again waiting := by
      rw [websocketBody, if_pos rfl, head]
    have leaves : websocketBody segment.env segment.arg waiting = .exit waiting := by
      simp [websocketBody, waiting]
    have exits : Exits (websocketBody segment.env segment.arg)
        (websocketEnter segment.env segment.arg segment.bytes session') waiting := by
      rw [enters]
      exact .later waits (.now leaves)
    have lowered : Receiving .websocket13 { session' with pkgOneFlag := false } [] :=
      ⟨⟨index, List.nil_prefix⟩, kind, registered⟩
    exact ⟨waiting, (received_websocket kind).2 exits, receiving_open_timer segment.env _ lowered,
      passes_nil (by simp [waiting, session'])⟩
  · let rejected := rejectBuffer segment.env segment.arg session'
    have enters : websocketEnter segment.env segment.arg segment.bytes session' = rejected := by
      rw [nothing, websocketEnter]
      exact if_neg start
    have setup := reject_setup segment.env segment.arg session'
    have exits : Exits (websocketBody segment.env segment.arg)
        (websocketEnter segment.env segment.arg segment.bytes session') rejected := by
      rw [enters]
      exact .now (reject_leaves segment.env segment.arg session')
    refine ⟨rejected, (received_websocket kind).2 exits, ?_, ?_⟩
    · constructor
      · exact holds_flush _
      · exact (setup_kind setup).trans kind
      · exact (setup_registered setup).trans registered
    · refine ⟨_, by
        change (callPkgProcCb _ _ _ _).calls = _
        rw [callPkgProcCb, if_pos registered], ?_⟩
      simp

theorem websocket_passes (session : Session size) (segment : Segment) (held : List UInt8)
    (done rest : List (List UInt8)) (front : List UInt8)
    (receiving : Receiving .websocket13 session held) (room : FitsBuffer session (.recv segment))
    (split : held ++ segment.bytes = done.flatten ++ front) (unfinished : Unfinished front rest)
    (well : ∀ item ∈ done ++ rest, Recognised websocketFraming anyBytes item) :
    ∃ next, SproStep session (.recv segment) next ∧ Receiving .websocket13 next front ∧
      Passes session next done := by
  have drains := split_drains (fun _ _ any => any) websocket_framing_nil well trivial split
    unfinished
  by_cases nothing : held ++ segment.bytes = []
  · rcases List.append_eq_nil_iff.1 nothing with ⟨rfl, bytes⟩
    rw [nothing] at drains
    cases drains with
    | waits => exact websocket_receives_nothing receiving bytes
    | delivers verdict => simp at verdict
  · rcases websocket_receives receiving nothing room drains with ⟨next, received, last, emitted⟩
    exact ⟨next, received, last, passes_of_emits emitted⟩

end Delivery

/-- Every frame of a stream is passed whole and in order exactly if every segment
found room behind what was still buffered. -/
theorem websocket_stream_survives (size : UInt16) (frames : List ServerFrame)
    (segments : List Segment)
    (cut : (segments.map Segment.bytes).flatten = (frames.map ServerFrame.bytes).flatten) :
    ∃ final, Run SproStep (spCreateObject size .websocket13 true) (segments.map SproEvent.recv)
        final ∧
      ((∃ passed, passed.Sublist final.calls ∧
          List.Forall₂ PkgCall.Delivers passed (frames.map ServerFrame.bytes)) ↔
        Meets SproStep FitsBuffer (spCreateObject size .websocket13 true)
          (segments.map SproEvent.recv)) := by
  have start := fresh_receiving size .websocket13
  have inside : (spCreateObject size .websocket13 true).bufferIndex ≤ size.toNat := Nat.zero_le _
  rcases websocket_runs start.kind inside segments with ⟨final, run⟩
  refine ⟨final, run_map run, ?_⟩
  constructor
  · intro ⟨passed, within, delivers⟩
    have some := delivered_bytes_sublist within
    rw [delivered_bytes_of_delivers delivers, ← cut] at some
    apply meets_map.2
    apply lossless_fits start.kind inside run
    simp only [accounted, spCreateObject, deliveredBytes, List.filter_nil, List.map_nil,
      List.sum_nil]
    unfold deliveredBytes at some
    omega
  · intro fits
    have nothing : ∀ session : Session size, Passes session session [] := fun _ => passes_nil rfl
    have filled : ∀ item, Recognised websocketFraming anyBytes item → item ≠ [] :=
      fun _ item => item.nonempty
    rcases delivers_every_cut nothing (fun _ _ _ _ _ => passes_append) filled websocket_passes start
      (frames_unfinished frames) (frames_recognised frames) cut (meets_map.1 fits) with
      ⟨last, run', -, calls, callsEq, delivers⟩
    have same : final = last :=
      run_unique (fun session segment => spro_step_unique session (.recv segment)) run run'
    subst same
    refine ⟨_, ?_, delivers⟩
    rw [callsEq]
    exact List.filter_sublist

theorem websocket_stream_survives_whole :
    ∃ final, Run SproStep (spCreateObject 4 .websocket13 true)
        ([⟨⟨0, []⟩, 7, [0x81, 2, 65]⟩, ⟨⟨1, []⟩, 7, [66]⟩].map SproEvent.recv) final ∧
      ((∃ passed, passed.Sublist final.calls ∧
          List.Forall₂ PkgCall.Delivers passed [[0x81, 2, 65, 66]]) ↔
        Meets SproStep FitsBuffer (spCreateObject 4 .websocket13 true)
          ([⟨⟨0, []⟩, 7, [0x81, 2, 65]⟩, ⟨⟨1, []⟩, 7, [66]⟩].map SproEvent.recv)) :=
  websocket_stream_survives 4 [.short false [65, 66] (by decide)] _ rfl

/-- Two frames of four bytes each in a buffer of six: the second segment has
five bytes and finds three. -/
theorem websocket_stream_truncated :
    ¬ ∀ (size : UInt16) (frames : List ServerFrame) (segments : List Segment),
      (∀ frame ∈ frames, frame.bytes.length ≤ size.toNat) →
      (∀ segment ∈ segments, segment.bytes.length ≤ size.toNat) →
      (segments.map Segment.bytes).flatten = (frames.map ServerFrame.bytes).flatten →
      ∀ final, Run SproStep (spCreateObject size .websocket13 true)
          (segments.map SproEvent.recv) final →
        ∃ passed, passed.Sublist final.calls ∧
          List.Forall₂ PkgCall.Delivers passed (frames.map ServerFrame.bytes) := by
  intro claimed
  let frames : List ServerFrame := [.short false [65, 66] (by decide), .short true [67, 68] (by decide)]
  let segments : List Segment :=
    [⟨⟨0, []⟩, 7, [0x81, 2, 65]⟩, ⟨⟨1, []⟩, 7, [66, 0x82, 2, 67, 68]⟩]
  have cuts : (execRun (sproExec 8) (spCreateObject 6 .websocket13 true)
      (segments.map SproEvent.recv)).any (fun final => final.calls.length = 1) = true := by decide
  rcases exists_run_of_exec (spro_exec_sound 8) cuts with ⟨final, run, one⟩
  rcases claimed 6 frames segments (by decide) (by decide) rfl final run with
    ⟨passed, within, delivers⟩
  have few := within.length_le
  rw [delivers.length_eq, of_decide_eq_true one] at few
  exact absurd few (by decide)

end IotgoFirmware.Receive.WebsocketOverflow
