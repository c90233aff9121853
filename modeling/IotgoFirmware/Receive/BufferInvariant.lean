import IotgoFirmware.Receive.HttpProgress

/-!
# The unused part of the receive buffer

The string functions see the whole buffer, so the bytes behind `_buffer_index`
should be zero, and no write should leave the buffer. Appending and flushing
keep this. Shifting a remainder down keeps it exactly when the `memset` behind
the shift, which clears as many bytes as are left, ends within the buffer and
reaches every byte that was moved.
-/

namespace IotgoFirmware.Receive.BufferInvariant

open IotgoFirmware.Library.ByteRegions
open IotgoFirmware.Library.CIntegers
open IotgoFirmware.Library.LoopRules
open IotgoFirmware.Library.StepRuns
open IotgoFirmware.Library.StreamFraming
open IotgoFirmware.Receive.SproObject
open IotgoFirmware.Receive.SproWebsocket
open IotgoFirmware.Receive.SproHttp
open IotgoFirmware.Receive.SproEvents
open IotgoFirmware.Receive.HttpProgress

set_option autoImplicit false

variable {size : UInt16}

structure RxClean (spro : Spro size) : Prop where
  inside : spro.bufferIndex ≤ size.toNat
  tail : ∀ index, spro.bufferIndex ≤ index → index < size.toNat →
    spro.buffer.bytes[index]? = some 0
  kept : spro.buffer.stray = false

/-- What `serverRxRead` must find to leave the buffer clean when it takes
`pkgLen` bytes. -/
def TidyRead (spro : Spro size) (pkgLen : Nat) : Prop :=
  pkgLen = 0 ∨ pkgLen = spro.bufferIndex ∨
  (pkgLen < spro.bufferIndex ∧ 2 * (spro.bufferIndex - pkgLen) ≤ size.toNat ∧
    ∀ index, 2 * (spro.bufferIndex - pkgLen) ≤ index → index < spro.bufferIndex →
      spro.buffer.bytes[index]? = some 0) ∨
  (spro.bufferIndex < pkgLen ∧ 2 * (65536 + spro.bufferIndex - pkgLen) ≤ size.toNat)

section Operations

variable {spro other : Spro size}

theorem clean_of_same (clean : RxClean spro) (buffer : other.buffer = spro.buffer)
    (index : other.bufferIndex = spro.bufferIndex) : RxClean other := by
  constructor
  · rw [index]
    exact clean.inside
  · rw [index, buffer]
    exact clean.tail
  · rw [buffer]
    exact clean.kept

theorem flush_clean (kept : spro.buffer.stray = false) : RxClean (serverRxFlush spro) := by
  constructor
  · exact Nat.zero_le _
  · intro index _ bound
    rw [flush_bytes, List.getElem?_replicate, if_pos bound]
  · rw [flush_stray]
    exact kept

theorem write_clean (clean : RxClean spro) (pdata : List UInt8) :
    RxClean (serverRxWrite spro pdata) := by
  have index := write_index clean.inside pdata
  constructor
  · omega
  · intro position lower upper
    rw [write_get clean.inside, if_neg (by omega)]
    exact clean.tail position (by omega) upper
  · rw [write_stray]
    exact clean.kept

theorem read_stray (beyond : List UInt8) (positive : 0 < spro.pkgLen)
    (part : spro.pkgLen < spro.bufferIndex) (inside : spro.bufferIndex ≤ size.toNat) :
    (serverRxRead beyond spro).buffer.stray =
      (spro.buffer.stray || decide (size.toNat < 2 * (spro.bufferIndex - spro.pkgLen))) := by
  have small := size_lt size
  have left : uint16 ((spro.bufferIndex : Int) - spro.pkgLen) = spro.bufferIndex - spro.pkgLen := by
    rw [uint16_of_lt (by omega) (by omega)]
    omega
  unfold serverRxRead
  rw [if_neg (by omega), if_neg (by omega)]
  simp only [left]
  rw [Region.fill_stray, Region.copy_forward_stray _ _ _ _ _ (by omega)]
  congr 1
  apply decide_eq_decide.2
  omega

/-- Past the end nothing is moved; only the clearing takes place. -/
theorem read_past_buffer (beyond : List UInt8) (past : spro.bufferIndex < spro.pkgLen)
    (small : spro.pkgLen < 65536) :
    (serverRxRead beyond spro).buffer =
      spro.buffer.fill (65536 + spro.bufferIndex - spro.pkgLen)
        (65536 + spro.bufferIndex - spro.pkgLen) 0 := by
  have wrapped : uint16 ((spro.bufferIndex : Int) - spro.pkgLen) =
      65536 + spro.bufferIndex - spro.pkgLen := by
    unfold uint16
    omega
  have none : spro.bufferIndex - spro.pkgLen = 0 := by omega
  unfold serverRxRead
  rw [if_neg (by omega), if_neg (by omega)]
  simp only [wrapped, none]
  rfl

theorem read_part_clean (clean : RxClean spro) (beyond : List UInt8) (positive : 0 < spro.pkgLen)
    (part : spro.pkgLen < spro.bufferIndex) :
    RxClean (serverRxRead beyond spro) ↔
      2 * (spro.bufferIndex - spro.pkgLen) ≤ size.toNat ∧
        ∀ index, 2 * (spro.bufferIndex - spro.pkgLen) ≤ index → index < spro.bufferIndex →
          spro.buffer.bytes[index]? = some 0 := by
  have inside := clean.inside
  have small := size_lt size
  have index := read_index beyond (Nat.le_of_lt part) (by omega)
  have get := read_get beyond positive part inside
  have stray := read_stray beyond positive part inside
  constructor
  · intro after
    constructor
    · have kept := after.kept
      rw [stray, Bool.or_eq_false_iff, decide_eq_false_iff_not] at kept
      omega
    · intro position lower upper
      have zero := after.tail position (by omega) (by omega)
      rw [get, if_neg (by omega), if_neg (by omega)] at zero
      exact zero
  · intro ⟨room, moved⟩
    constructor
    · omega
    · intro position lower upper
      rw [get, if_neg (by omega)]
      split
      · rw [List.getElem?_eq_getElem (by simpa using upper)]
        rfl
      · by_cases old : position < spro.bufferIndex
        · exact moved position (by omega) old
        · exact clean.tail position (by omega) upper
    · rw [stray, clean.kept, Bool.false_or, decide_eq_false_iff_not]
      omega

theorem read_past_clean (clean : RxClean spro) (beyond : List UInt8)
    (past : spro.bufferIndex < spro.pkgLen) (small : spro.pkgLen < 65536) :
    RxClean (serverRxRead beyond spro) ↔
      2 * (65536 + spro.bufferIndex - spro.pkgLen) ≤ size.toNat := by
  have index := read_index_wraps beyond past small
  have buffer := read_past_buffer beyond past small
  constructor
  · intro after
    have kept := after.kept
    rw [buffer, Region.fill_stray, Bool.or_eq_false_iff, decide_eq_false_iff_not] at kept
    omega
  · intro room
    constructor
    · omega
    · intro position lower upper
      rw [buffer, Region.fill_get, clean.tail position (by omega) upper]
      simp
    · rw [buffer, Region.fill_stray, clean.kept, Bool.false_or, decide_eq_false_iff_not]
      omega

theorem read_clean_iff (clean : RxClean spro) (beyond : List UInt8) (small : spro.pkgLen < 65536) :
    RxClean (serverRxRead beyond spro) ↔ TidyRead spro spro.pkgLen := by
  unfold TidyRead
  rcases Nat.eq_zero_or_pos spro.pkgLen with none | positive
  · have same : serverRxRead beyond spro = spro := by
      unfold serverRxRead
      rw [if_pos none]
    rw [same]
    exact ⟨fun _ => .inl none, fun _ => clean⟩
  · rcases Nat.lt_trichotomy spro.pkgLen spro.bufferIndex with part | all | past
    · rw [read_part_clean clean beyond positive part]
      constructor
      · intro tidy
        exact .inr (.inr (.inl ⟨part, tidy⟩))
      · rintro (none | all | ⟨-, tidy⟩ | ⟨past, -⟩)
        · omega
        · omega
        · exact tidy
        · omega
    · have flushed : serverRxRead beyond spro = serverRxFlush spro := by
        unfold serverRxRead
        rw [if_neg (by omega), if_pos all]
      rw [flushed]
      exact ⟨fun _ => .inr (.inl all), fun _ => flush_clean clean.kept⟩
    · rw [read_past_clean clean beyond past small]
      constructor
      · intro room
        exact .inr (.inr (.inr ⟨past, room⟩))
      · rintro (none | all | ⟨part, -⟩ | ⟨-, room⟩)
        · omega
        · omega
        · omega
        · exact room

theorem take_clean_iff {session : Session size} (clean : RxClean session.toSpro) (env : Ambient)
    (arg : Nat) {pkgLen : Nat} (small : pkgLen < 65536) :
    RxClean (takePackage env arg pkgLen session).toSpro ↔ TidyRead session.toSpro pkgLen := by
  let ready : Spro size :=
    { session.toSpro with
      pkgOneFlag := true
      pkgLen := pkgLen
      timer := none
      timerOpenedFlag := false }
  have before : RxClean ready := clean_of_same clean rfl rfl
  rw [take_package_spro]
  exact read_clean_iff before env.beyond small

theorem reject_clean {session : Session size} (env : Ambient) (arg : Nat)
    (kept : session.buffer.stray = false) : RxClean (rejectBuffer env arg session).toSpro := by
  have passed := call_pkg_proc_cb_spro env arg session.bufferIndex
    { session with pkgOneFlag := false }
  apply flush_clean
  rw [passed]
  exact kept

end Operations

section Calls

variable {session next : Session size} {segment : Segment}

/-- The length the loop takes off at this head, if it takes a package. -/
def packageTaken (segment : Segment) (head : Session size) : Option Nat :=
  if usesHttp head.pkgType then
    match httpHead (head.buffer.seen segment.env.beyond) head.bufferIndex with
    | .package announced => some (uint16 announced)
    | _ => none
  else if head.pkgOneFlag then
    match websocketHead (head.buffer.seen segment.env.beyond) head.bufferIndex with
    | .package length => some (uint16 length)
    | _ => none
  else none

/-- Clean at every head the call passes and right after every package taken
off. -/
def HeadsClean (segment : Segment) (session : Session size) : Prop :=
  ∀ head, PassesHead segment session head →
    RxClean head.toSpro ∧
      ∀ pkgLen, packageTaken segment head = some pkgLen →
        RxClean (takePackage segment.env segment.arg pkgLen head).toSpro

def ReadsTidy (segment : Segment) (session : Session size) : Prop :=
  ∀ head pkgLen, PassesHead segment session head → packageTaken segment head = some pkgLen →
    TidyRead head.toSpro pkgLen

theorem package_taken_lt {head : Session size} {pkgLen : Nat}
    (taken : packageTaken segment head = some pkgLen) : pkgLen < 65536 := by
  unfold packageTaken at taken
  split at taken
  · split at taken
    · cases taken
      exact uint16_lt _
    · cases taken
  · split at taken
    · split at taken
      · cases taken
        exact uint16_lt _
      · cases taken
    · cases taken

theorem http_deliver_clean {env : Ambient} {arg : Nat} {announced : Int}
    (taken : RxClean (takePackage env arg (uint16 announced) session).toSpro) :
    RxClean (httpDeliver env arg announced session).toSpro := by
  apply clean_of_same taken
  · rw [http_deliver_buffer]
  · rw [http_deliver_index]

theorem websocket_deliver_clean {env : Ambient} {arg length : Nat}
    (taken : RxClean (takePackage env arg (uint16 length) session).toSpro) :
    RxClean (websocketDeliver env arg length session).toSpro := by
  simp only [websocketDeliver]
  split
  · split
    · apply clean_of_same taken
      · rw [open_timer_buffer]
      · rw [open_timer_index]
    · exact reject_clean env arg taken.kept
  · exact clean_of_same taken rfl rfl

theorem websocket_enter_clean (clean : RxClean session.toSpro) (env : Ambient) (arg : Nat)
    (pdata : List UInt8) : RxClean (websocketEnter env arg pdata session).toSpro := by
  have written := write_clean clean pdata
  simp only [websocketEnter]
  split
  · exact clean_of_same written rfl rfl
  · exact reject_clean env arg written.kept

theorem http_enter_clean (clean : RxClean session.toSpro) (env : Ambient) (pdata : List UInt8) :
    RxClean (httpEnter env pdata session).toSpro := by
  apply clean_of_same (write_clean clean pdata)
  · rw [http_enter_buffer]
  · rw [http_enter_index]

section Http

variable (http : usesHttp session.pkgType = true)

include http

theorem http_passes_type {head : Session size} (passes : PassesHead segment session head) :
    usesHttp head.pkgType = true := by
  have visited := (passes_http http).1 passes
  apply visits_keeps (fun head : Session size => usesHttp head.pkgType = true) _ _ visited
  · intro head next kept continues
    rcases http_continues continues with ⟨announced, -, rfl⟩
    have setup := http_deliver_setup segment.env segment.arg head announced
    rw [setup_kind setup]
    exact kept
  · have setup := http_enter_setup segment.env { session with arg := segment.arg } segment.bytes
    rw [setup_kind setup]
    exact http

theorem http_package_taken {head : Session size} {announced : Int}
    (passes : PassesHead segment session head)
    (verdict : httpHead (head.buffer.seen segment.env.beyond) head.bufferIndex =
      .package announced) : packageTaken segment head = some (uint16 announced) := by
  unfold packageTaken
  rw [if_pos (http_passes_type http passes), verdict]

theorem http_heads_clean (clean : RxClean session.toSpro) (tidy : ReadsTidy segment session)
    {head : Session size} (passes : PassesHead segment session head) : RxClean head.toSpro := by
  have visited := (passes_http http).1 passes
  have kept : PassesHead segment session head ∧ RxClean head.toSpro := by
    apply visits_keeps (fun head : Session size =>
      PassesHead segment session head ∧ RxClean head.toSpro) _ _ visited
    · intro head next ⟨reached, before⟩ continues
      have further : PassesHead segment session next :=
        (passes_http http).2 (visits_trans ((passes_http http).1 reached) (.later continues .here))
      rcases http_continues continues with ⟨announced, verdict, rfl⟩
      have taken := tidy head _ reached (http_package_taken http reached verdict)
      exact ⟨further, http_deliver_clean
        ((take_clean_iff before segment.env segment.arg (uint16_lt announced)).2 taken)⟩
    · constructor
      · exact (passes_http http).2 .here
      · apply http_enter_clean
        exact clean_of_same clean rfl rfl
  exact kept.2

theorem http_final_clean (clean : RxClean session.toSpro) (tidy : ReadsTidy segment session)
    (received : Received segment session next) : RxClean next.toSpro := by
  rcases exits_last_head ((received_http http).1 received) with ⟨last, visited, leaves⟩
  have before := http_heads_clean http clean tidy ((passes_http http).2 visited)
  rcases http_leaves leaves with ⟨buffer, index, -⟩
  exact clean_of_same before buffer index

end Http

section Websocket

variable (websocket : session.pkgType = .websocket13)

include websocket

theorem websocket_passes_type {head : Session size} (passes : PassesHead segment session head) :
    head.pkgType = .websocket13 := by
  have visited := (passes_websocket websocket).1 passes
  apply visits_keeps (fun head : Session size => head.pkgType = .websocket13) _ _ visited
  · intro head next kept continues
    rcases websocket_body_cases segment.env segment.arg head with ⟨-, pass⟩ | ⟨-, -, pass⟩ |
      ⟨length, -, -, pass⟩ | ⟨-, -, pass⟩
    all_goals
      rw [pass] at continues
      cases continues
    · exact (setup_kind
        (open_timer_setup segment.env { head with pkgOneFlag := false })).trans kept
    · exact (setup_kind
        (websocket_deliver_setup segment.env segment.arg head length)).trans kept
  · exact (setup_kind (websocket_enter_setup segment.env segment.arg
      { session with arg := segment.arg } segment.bytes)).trans websocket

theorem websocket_package_taken {head : Session size} {length : Nat}
    (passes : PassesHead segment session head) (flag : head.pkgOneFlag = true)
    (verdict : websocketHead (head.buffer.seen segment.env.beyond) head.bufferIndex =
      .package length) : packageTaken segment head = some (uint16 length) := by
  unfold packageTaken
  rw [websocket_passes_type websocket passes, if_neg (by decide), if_pos flag, verdict]

theorem websocket_heads_clean (clean : RxClean session.toSpro) (tidy : ReadsTidy segment session)
    {head : Session size} (passes : PassesHead segment session head) : RxClean head.toSpro := by
  have visited := (passes_websocket websocket).1 passes
  have kept : PassesHead segment session head ∧ RxClean head.toSpro := by
    apply visits_keeps (fun head : Session size =>
      PassesHead segment session head ∧ RxClean head.toSpro) _ _ visited
    · intro head next ⟨reached, before⟩ continues
      have further : PassesHead segment session next :=
        (passes_websocket websocket).2
          (visits_trans ((passes_websocket websocket).1 reached) (.later continues .here))
      rcases websocket_body_cases segment.env segment.arg head with ⟨-, pass⟩ | ⟨-, -, pass⟩ |
        ⟨length, flag, verdict, pass⟩ | ⟨-, -, pass⟩
      all_goals
        rw [pass] at continues
        cases continues
      · apply And.intro further
        apply clean_of_same before
        · rw [open_timer_buffer]
        · rw [open_timer_index]
      · have taken := tidy head _ reached (websocket_package_taken websocket reached flag verdict)
        exact ⟨further, websocket_deliver_clean
          ((take_clean_iff before segment.env segment.arg (uint16_lt length)).2 taken)⟩
    · constructor
      · exact (passes_websocket websocket).2 .here
      · apply websocket_enter_clean
        exact clean_of_same clean rfl rfl
  exact kept.2

theorem websocket_final_clean (clean : RxClean session.toSpro) (tidy : ReadsTidy segment session)
    (received : Received segment session next) : RxClean next.toSpro := by
  rcases exits_last_head ((received_websocket websocket).1 received) with ⟨last, visited, leaves⟩
  have before := websocket_heads_clean websocket clean tidy ((passes_websocket websocket).2 visited)
  rcases websocket_body_cases segment.env segment.arg last with ⟨-, pass⟩ | ⟨-, -, pass⟩ |
    ⟨length, -, -, pass⟩ | ⟨-, -, pass⟩
  all_goals
    rw [pass] at leaves
    cases leaves
  · exact before
  · exact reject_clean segment.env segment.arg before.kept

end Websocket

/-- A call keeps the buffer clean throughout exactly if it takes packages off
tidily. -/
theorem call_clean_iff (clean : RxClean session.toSpro) :
    (HeadsClean segment session ∧ ∀ next, Received segment session next → RxClean next.toSpro) ↔
      ReadsTidy segment session := by
  constructor
  · intro ⟨heads, _⟩ head pkgLen passes taken
    rcases heads head passes with ⟨before, after⟩
    exact (take_clean_iff before segment.env segment.arg (package_taken_lt taken)).1
      (after pkgLen taken)
  · intro tidy
    have cleanAt : ∀ head, PassesHead segment session head → RxClean head.toSpro := by
      intro head passes
      by_cases http : usesHttp session.pkgType = true
      · exact http_heads_clean http clean tidy passes
      · cases kind : session.pkgType with
        | null => exact absurd passes (not_passes_null kind)
        | websocket13 => exact websocket_heads_clean kind clean tidy passes
        | http11 => simp [usesHttp, kind] at http
        | iotUpgrade => simp [usesHttp, kind] at http
    constructor
    · intro head passes
      constructor
      · exact cleanAt head passes
      · intro pkgLen taken
        exact (take_clean_iff (cleanAt head passes) segment.env segment.arg
          (package_taken_lt taken)).2 (tidy head pkgLen passes taken)
    · intro next received
      by_cases http : usesHttp session.pkgType = true
      · exact http_final_clean http clean tidy received
      · cases kind : session.pkgType with
        | null =>
            rw [(received_null kind).1 received, passSegment]
            split
            · exact clean_of_same clean rfl rfl
            · exact clean_of_same clean rfl rfl
        | websocket13 => exact websocket_final_clean kind clean tidy received
        | http11 => simp [usesHttp, kind] at http
        | iotUpgrade => simp [usesHttp, kind] at http

end Calls

section Runs

/-- The step keeps the buffer clean, at every head of its loop and when it is
done. -/
def StepsClean (session : Session size) : SproEvent → Prop
  | .recv segment =>
      HeadsClean segment session ∧ ∀ next, Received segment session next → RxClean next.toSpro
  | .tick env => RxClean (clockTick env session).toSpro
  | .setPkgType pkgType => RxClean (spSetPkgType session pkgType).toSpro

/-- Every package the step takes off is taken off tidily. -/
def StepsTidy (session : Session size) : SproEvent → Prop
  | .recv segment => ReadsTidy segment session
  | _ => True

theorem fresh_clean (size : UInt16) (pkgType : SproPkgType) (pkgProcCb : Bool) :
    RxClean (spCreateObject size pkgType pkgProcCb).toSpro := by
  constructor
  · exact Nat.zero_le _
  · intro index _ bound
    change (List.replicate size.toNat (0 : UInt8))[index]? = some 0
    rw [List.getElem?_replicate, if_pos bound]
  · rfl

theorem tick_clean {session : Session size} (clean : RxClean session.toSpro) (env : Ambient) :
    RxClean (clockTick env session).toSpro := by
  unfold clockTick
  split
  · split
    · have flushed : RxClean
          (serverRxFlush (callPkgProcCb env session.arg session.bufferIndex session).toSpro) := by
        apply flush_clean
        rw [call_pkg_proc_cb_spro]
        exact clean.kept
      exact clean_of_same flushed rfl rfl
    · exact clean
  · exact clean

/-- In every run, of any bytes, lengths, types and timer expiries, the buffer
stays clean exactly if every shift of a remainder found it tidy. -/
theorem buffer_stays_clean (size : UInt16) (pkgType : SproPkgType) (pkgProcCb : Bool)
    (events : List SproEvent) :
    Meets SproStep StepsClean (spCreateObject size pkgType pkgProcCb) events ↔
      Meets SproStep StepsTidy (spCreateObject size pkgType pkgProcCb) events := by
  apply meets_congr fun session : Session size => RxClean session.toSpro
  · intro session event clean
    cases event with
    | recv segment => exact call_clean_iff clean
    | tick env => exact ⟨fun _ => trivial, fun _ => tick_clean clean env⟩
    | setPkgType pkgType => exact ⟨fun _ => trivial, fun _ => clean_of_same clean rfl rfl⟩
  · intro session event next _ stays taken
    cases event with
    | recv segment => exact stays.2 next taken
    | tick env =>
        rw [taken]
        exact stays
    | setPkgType pkgType =>
        rw [taken]
        exact stays
  · exact fresh_clean size pkgType pkgProcCb

/-- A ping with eight bytes behind it in a buffer of ten: eight bytes are cleared
from the eighth on. -/
theorem buffer_overrun :
    ¬ ∀ (size : UInt16) (pkgType : SproPkgType) (events : List SproEvent) (final : Session size),
      Run SproStep (spCreateObject size pkgType true) events final → RxClean final.toSpro := by
  intro claimed
  let segment : Segment := ⟨⟨0, []⟩, 7, [0x89, 0, 0x81, 20, 65, 65, 65, 65, 65, 65]⟩
  have overruns : (execRun (sproExec 8) (spCreateObject 10 .websocket13 true) [.recv segment]).any
      (fun final => final.buffer.stray) = true := by decide
  rcases exists_run_of_exec (spro_exec_sound 8) overruns with ⟨final, run, stray⟩
  have kept := (claimed 10 .websocket13 [.recv segment] final run).kept
  rw [stray] at kept
  cases kept

end Runs

end IotgoFirmware.Receive.BufferInvariant
