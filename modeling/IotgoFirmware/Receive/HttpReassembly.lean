import IotgoFirmware.Receive.HttpProgress

/-!
# HTTP messages arrive whole

A message is a header block with or without a `Content-Length: N` line, followed
by the `N` bytes of its body. When nothing but the buffered bytes is visible to
the string functions, and no position is too large for a `sint16`, a message is
recognised from its last byte on and waited for before that, so the messages of a
stream are delivered wherever it is cut.
-/

namespace IotgoFirmware.Receive.HttpReassembly

open IotgoFirmware.Library.ByteRegions
open IotgoFirmware.Library.CIntegers
open IotgoFirmware.Library.CStrings
open IotgoFirmware.Library.LoopRules
open IotgoFirmware.Library.StepRuns
open IotgoFirmware.Library.StreamFraming
open IotgoFirmware.Receive.SproObject
open IotgoFirmware.Receive.SproWebsocket
open IotgoFirmware.Receive.SproHttp
open IotgoFirmware.Receive.SproEvents
open IotgoFirmware.Receive.HttpProgress
open IotgoFirmware.Receive.WebsocketReassembly

set_option autoImplicit false

variable {size : UInt16}

/-- A header block: no NUL, and the first empty line ends it. -/
structure HeaderBlock (header : List UInt8) : Prop where
  nulFree : (0 : UInt8) ∉ header
  ends : findText crlfcrlf header = some (header.length - 4)

def sizedHeader (before after : List UInt8) (number : Nat) : List UInt8 :=
  before ++ (contentLengthIs ++ (decimalText number ++ (crlf ++ after)))

inductive HttpMessage where
  | plain (header : List UInt8) (block : HeaderBlock header)
      (unsized : findText contentLength header = none)
  | sized (before after body : List UInt8) (line : before = [] ∨ crlf <:+ before)
      (block : HeaderBlock (sizedHeader before after body.length)) (nulFree : (0 : UInt8) ∉ body)

def HttpMessage.bytes : HttpMessage → List UInt8
  | .plain header _ _ => header
  | .sized before after body _ _ _ => sizedHeader before after body.length ++ body

/-- Short enough for a `sint16`, and the first `Content-Length: ` is the one of
the line. -/
def HttpMessage.Legible : HttpMessage → Prop
  | .plain header _ _ => header.length ≤ 32767
  | .sized before after body _ _ _ =>
      (sizedHeader before after body.length ++ body).length ≤ 32767 ∧
        findText contentLengthIs (sizedHeader before after body.length) = some before.length

/-- What the scanner may find in the buffer. -/
def plainText (text : List UInt8) : Prop :=
  (0 : UInt8) ∉ text ∧ text.length ≤ 32767

def httpFraming : Framing UInt8 := fun held =>
  match httpHead held held.length with
  | .package announced => .package (uint16 announced)
  | _ => .wait

@[simp] theorem http_framing_nil : httpFraming [] = .wait := rfl

section Header

variable {header more : List UInt8}

theorem block_length (block : HeaderBlock header) : 4 ≤ header.length := by
  have room := find_text_bound block.ends
  have width : crlfcrlf.length = 4 := rfl
  omega

theorem strstr_text {text : List UInt8} (nulFree : (0 : UInt8) ∉ text) (pattern : List UInt8) :
    strstr text pattern = findText pattern text := by
  rw [strstr, c_string_of_nul_free nulFree]

theorem index_of_text {text pattern : List UInt8} {index : Nat} (nulFree : (0 : UInt8) ∉ text)
    (found : findText pattern text = some index) : indexOf text pattern = index := by
  apply index_of_some
  rw [strstr_text nulFree, found]

theorem block_index (block : HeaderBlock header) (nulFree : (0 : UInt8) ∉ header ++ more) :
    indexOf (header ++ more) crlfcrlf = ((header.length - 4 : Nat) : Int) :=
  index_of_text nulFree (find_text_append more block.ends)

theorem block_last (block : HeaderBlock header) : header.getLast? = some 10 := by
  have length := block_length block
  rcases find_text_some_iff.1 block.ends with ⟨-, here, -⟩
  have byte := here.getElem (show 3 < crlfcrlf.length by decide)
  have position : header.length - 4 + 3 = header.length - 1 := by omega
  rw [List.getLast?_eq_getElem?, List.getElem?_eq_getElem (by omega)]
  simp only [List.getElem_drop, position] at byte
  rw [← byte]
  rfl

/-- A header without a length is a package of its own, whatever follows. -/
theorem plain_head (block : HeaderBlock header) (unsized : findText contentLength header = none)
    (text : plainText (header ++ more)) (available : Nat) :
    httpHead (header ++ more) available = .package header.length := by
  rcases text with ⟨nulFree, short⟩
  have length := block_length block
  rw [List.length_append] at short
  have headerEnd := block_index block nulFree
  have temp2 : sint16 ((header.length - 4 : Nat) : Int) = ((header.length - 4 : Nat) : Int) :=
    sint16_of_small (by omega) (by omega)
  have total : ((header.length - 4 : Nat) : Int) + 4 = header.length := by omega
  simp only [httpHead, headerEnd, temp2, total]
  rw [if_neg (by omega)]
  cases found : findText contentLength (header ++ more) with
  | none =>
      rw [index_of_none ((strstr_text nulFree _).trans found)]
      rfl
  | some field =>
      rw [index_of_text nulFree found]
      have behind := find_text_behind (block_last block) (by decide) unsized found
      have bound := find_text_bound found
      rw [List.length_append] at bound
      have temp4 : sint16 (field : Int) = field := sint16_of_small (by omega) (by omega)
      simp only [temp4]
      rw [if_pos (by omega), if_pos (by omega)]

end Header

section Sized

variable {before after more : List UInt8} {number : Nat}

theorem decimal_no_cr (number : Nat) : (13 : UInt8) ∉ decimalText number := by
  intro member
  exact absurd (decimal_text_digits number 13 member) (by decide)

theorem sized_length (before after : List UInt8) (number : Nat) :
    (sizedHeader before after number).length =
      before.length + 16 + (decimalText number).length + 2 + after.length := by
  have width : contentLengthIs.length = 16 := by decide
  have two : crlf.length = 2 := rfl
  simp only [sizedHeader, List.length_append, width, two]
  omega

/-- The number on the line is read back. -/
theorem char_to_num_sized (small : number ≤ 32767)
    (first : findText contentLengthIs (sizedHeader before after number) = some before.length)
    (nulFree : (0 : UInt8) ∉ sizedHeader before after number ++ more) :
    charToNum (sizedHeader before after number ++ more) contentLengthIs crlf = number := by
  have width : contentLengthIs.length = 16 := by decide
  have digits : (decimalText number).length ≤ 10 := decimal_text_length (by decide) (by omega)
  have length := sized_length before after number
  let text := sizedHeader before after number ++ more
  have behind : text.drop (before.length + 16) =
      decimalText number ++ (crlf ++ (after ++ more)) := by
    have split : text = (before ++ contentLengthIs) ++
        (decimalText number ++ (crlf ++ (after ++ more))) := by
      simp [text, sizedHeader]
    have offset : (before ++ contentLengthIs).length = before.length + 16 := by
      rw [List.length_append, width]
    rw [split, ← offset, List.drop_left]
  have index1 : indexOf text contentLengthIs + contentLengthIs.length =
      ((before.length + 16 : Nat) : Int) := by
    rw [index_of_text nulFree (find_text_append more first), width]
    omega
  have free : (0 : UInt8) ∉ decimalText number ++ (crlf ++ (after ++ more)) := by
    rw [← behind]
    intro member
    exact nulFree (List.mem_of_mem_drop member)
  have index2 : indexOf (decimalText number ++ (crlf ++ (after ++ more))) crlf =
      ((decimalText number).length : Int) := by
    exact index_of_text free (find_text_first [10] (after ++ more) (decimal_no_cr number))
  have whole : strlen text = text.length := by
    rw [strlen, c_string_of_nul_free nulFree]
  have room : before.length + 16 + (decimalText number).length ≤ text.length := by
    rw [List.length_append]
    omega
  have copied : ∃ tail, subString (List.replicate 30 0) text ((before.length + 16 : Nat) : Int)
      ((decimalText number).length + ((before.length + 16 : Nat) : Int)) =
        decimalText number ++ 0 :: tail := by
    refine ⟨(List.replicate 30 0).drop ((decimalText number).length + 1), ?_⟩
    unfold subString
    rw [if_neg (by omega), min_eq_left (by omega), Int.toNat_natCast, behind]
    have count : (((decimalText number).length : Int) + ((before.length + 16 : Nat) : Int) -
        ((before.length + 16 : Nat) : Int)).toNat = (decimalText number).length := by
      omega
    simp only [count, List.take_left]
  rcases copied with ⟨tail, copied⟩
  change charToNum text contentLengthIs crlf = number
  unfold charToNum
  simp only [index1, Int.toNat_natCast, behind, index2]
  rw [if_neg (by omega), copied, atoi_decimal_text tail (by omega)]

/-- A header with a length waits for its body. -/
theorem sized_head (block : HeaderBlock (sizedHeader before after number))
    (first : findText contentLengthIs (sizedHeader before after number) = some before.length)
    (small : number ≤ 32767) (text : plainText (sizedHeader before after number ++ more))
    (available : Nat) :
    httpHead (sizedHeader before after number ++ more) available =
      if number + (sizedHeader before after number).length ≤ available then
        .package ((number + (sizedHeader before after number).length : Nat) : Int)
      else .incomplete := by
  rcases text with ⟨nulFree, short⟩
  have length := block_length block
  have parts := sized_length before after number
  rw [List.length_append] at short
  have headerEnd := block_index block nulFree
  have headerSmall : (sizedHeader before after number).length - 4 < 32768 := by omega
  have numberSmall : number < 32768 := by omega
  have named : ∃ field, field ≤ before.length ∧
      findText contentLength (sizedHeader before after number ++ more) = some field := by
    rcases find_text_some_iff.1 (find_text_append more first) with ⟨bound, here, -⟩
    have shorter : contentLength <+: contentLengthIs := ⟨[58, 32], by decide⟩
    cases found : findText contentLength (sizedHeader before after number ++ more) with
    | none => exact absurd (shorter.trans here) (find_text_none_iff.1 found _ bound)
    | some field =>
        rcases find_text_some_iff.1 found with ⟨-, -, earlier⟩
        refine ⟨field, ?_, rfl⟩
        by_contra later
        exact earlier before.length (by omega) (shorter.trans here)
  rcases named with ⟨field, early, found⟩
  have fieldSmall : field < 32768 := by omega
  simp only [httpHead, headerEnd, sint16_natCast headerSmall]
  rw [index_of_text nulFree found, sint16_natCast fieldSmall,
    char_to_num_sized small first nulFree, sint16_natCast numberSmall,
    if_neg (by omega), if_pos (by omega), if_neg (by omega)]
  by_cases whole : number + (sizedHeader before after number).length ≤ available
  · rw [if_pos whole, if_pos (by omega)]
    exact congrArg HttpVerdict.package (by omega)
  · rw [if_neg whole, if_neg (by omega)]

end Sized

section Messages

theorem plain_text_suffix (front back : List UInt8) (text : plainText (front ++ back)) :
    plainText back := by
  rcases text with ⟨nulFree, short⟩
  rw [List.length_append] at short
  constructor
  · intro member
    exact nulFree (List.mem_append_right front member)
  · omega

theorem block_nonempty {header : List UInt8} (block : HeaderBlock header) : header ≠ [] := by
  have length := block_length block
  rintro rfl
  exact absurd length (by decide)

theorem message_nonempty (message : HttpMessage) : message.bytes ≠ [] := by
  cases message with
  | plain header block unsized => exact block_nonempty block
  | sized before after body line block nulFree =>
      intro empty
      exact block_nonempty block (List.append_eq_nil_iff.1 empty).1

theorem message_nul_free (message : HttpMessage) : (0 : UInt8) ∉ message.bytes := by
  cases message with
  | plain header block unsized => exact block.nulFree
  | sized before after body line block nulFree =>
      intro member
      rcases List.mem_append.1 member with header | body
      · exact block.nulFree header
      · exact nulFree body

theorem message_complete (message : HttpMessage) (legible : message.Legible) (rest : List UInt8)
    (text : plainText (message.bytes ++ rest)) :
    httpFraming (message.bytes ++ rest) = .package message.bytes.length := by
  have short := text.2
  rw [List.length_append] at short
  cases message with
  | plain header block unsized =>
      change header.length + rest.length ≤ 32767 at short
      simp only [HttpMessage.bytes] at text ⊢
      rw [httpFraming, plain_head block unsized text]
      simp only [uint16_natCast (show header.length < 65536 by omega)]
  | sized before after body line block nulFree =>
      rcases legible with ⟨whole, first⟩
      simp only [HttpMessage.bytes, List.append_assoc, List.length_append] at text whole short ⊢
      have small : body.length ≤ 32767 := by omega
      rw [httpFraming, sized_head block first small text, if_pos (by simp; omega)]
      have total : body.length + (sizedHeader before after body.length).length < 65536 := by omega
      simp only [uint16_natCast total, Nat.add_comm]

/-- Before its empty line a header shows none. -/
theorem unfinished_header {header front back : List UInt8} (block : HeaderBlock header)
    (split : header = front ++ back) (more : back ≠ []) : httpFraming front = .wait := by
  have missing := List.length_pos_of_ne_nil more
  have length := block_length block
  have lengths := congrArg List.length split
  rw [List.length_append] at lengths
  have nulFree : (0 : UInt8) ∉ front := by
    intro member
    exact block.nulFree (split ▸ List.mem_append_left back member)
  have absent : findText crlfcrlf front = none := by
    cases found : findText crlfcrlf front with
    | none => rfl
    | some index =>
        have ends := block.ends
        have bound := find_text_bound found
        have width : crlfcrlf.length = 4 := rfl
        rw [split, find_text_append back found, Option.some.injEq, List.length_append] at ends
        omega
  have verdict : httpHead front front.length = .noTerminator := by
    rw [httpHead, index_of_none ((strstr_text nulFree _).trans absent)]
    rfl
  rw [httpFraming, verdict]

theorem message_waits (message : HttpMessage) (legible : message.Legible)
    (front back : List UInt8) (split : message.bytes = front ++ back) (more : back ≠ []) :
    httpFraming front = .wait := by
  cases message with
  | plain header block unsized => exact unfinished_header block split more
  | sized before after body line block nulFree =>
      rcases legible with ⟨whole, first⟩
      simp only [HttpMessage.bytes] at split
      rcases List.append_eq_append_iff.1 split with ⟨part, front_eq, body_eq⟩ |
        ⟨part, header_eq, back_eq⟩
      · have missing := List.length_pos_of_ne_nil more
        have lengths := congrArg List.length body_eq
        rw [List.length_append] at lengths whole
        have text : plainText (sizedHeader before after body.length ++ part) := by
          constructor
          · intro member
            rcases List.mem_append.1 member with header | tail
            · exact block.nulFree header
            · exact nulFree (body_eq ▸ List.mem_append_left back tail)
          · rw [List.length_append]
            omega
        have verdict : httpHead front front.length = .incomplete := by
          rw [front_eq, sized_head block first (by omega) text, if_neg]
          rw [List.length_append]
          omega
        rw [httpFraming, verdict]
      · by_cases none : part = []
        · subst none
          rw [List.append_nil] at header_eq
          rw [List.nil_append] at back_eq
          subst header_eq
          rw [back_eq] at more
          have positive := List.length_pos_of_ne_nil more
          rw [List.length_append] at whole
          have text : plainText (sizedHeader before after body.length ++ []) := by
            rw [List.append_nil]
            exact ⟨block.nulFree, by omega⟩
          have verdict := sized_head block first (by omega) text
            (sizedHeader before after body.length).length
          rw [List.append_nil, if_neg (by omega)] at verdict
          rw [httpFraming, verdict]
        · exact unfinished_header block header_eq none

theorem message_recognised (message : HttpMessage) (legible : message.Legible) :
    Recognised httpFraming plainText message.bytes where
  nonempty := message_nonempty message
  complete := message_complete message legible
  waits := message_waits message legible

end Messages

section Loop

variable {session : Session size} {live : List UInt8}

theorem http_deliver_receiving (receiving : Receiving .http11 session live) (env : Ambient)
    (arg : Nat) {announced : Int} (positive : 0 < uint16 announced)
    (bounded : uint16 announced ≤ live.length) :
    Receiving .http11 (httpDeliver env arg announced session) (live.drop (uint16 announced)) ∧
      Emits session (httpDeliver env arg announced session) [live.take (uint16 announced)] := by
  have setup := http_deliver_setup env arg session announced
  constructor
  · constructor
    · exact http_deliver_holds env arg receiving.holds positive bounded
    · exact (setup_kind setup).trans receiving.kind
    · exact (setup_registered setup).trans receiving.registered
  · refine ⟨_, http_deliver_calls env arg receiving.registered, .cons ⟨rfl, ?_, ?_⟩ .nil⟩
    · rw [List.length_take, Nat.min_eq_left bounded]
    · exact holds_take receiving.holds env.beyond bounded

theorem http_framing_package {held : List UInt8} {length : Nat}
    (verdict : httpFraming held = .package length) :
    ∃ announced, httpHead held held.length = .package announced ∧ uint16 announced = length := by
  unfold httpFraming at verdict
  split at verdict
  · rename_i announced head
    cases verdict
    exact ⟨announced, head, rfl⟩
  · cases verdict

theorem text_head (receiving : Receiving .http11 session live) {env : Ambient}
    (text : cString (session.buffer.seen env.beyond) = live) :
    httpHead (session.buffer.seen env.beyond) session.bufferIndex = httpHead live live.length := by
  rw [http_head_c_string, text, receiving.holds.index]

/-- The loop drains the buffer as the framing says, as long as the first decision
is that on the buffered text. -/
theorem http_loop_drains {left : List UInt8} {packages : List (List UInt8)}
    (drains : Drains httpFraming live packages left) (nulFree : (0 : UInt8) ∉ live)
    (receiving : Receiving .http11 session live) (env : Ambient)
    (head : httpHead (session.buffer.seen env.beyond) session.bufferIndex =
      httpHead live live.length) (arg : Nat) :
    ∃ final, Exits (httpBody env arg) session final ∧ Receiving .http11 final left ∧
      Emits session final packages := by
  induction drains generalizing session with
  | @waits held verdict =>
      rcases http_body_cases env arg session with ⟨-, pass⟩ | ⟨-, pass⟩ | ⟨announced, package, pass⟩
      · exact ⟨session, .now pass, receiving, emits_nil rfl⟩
      · have lowered : Receiving .http11 { session with pkgOneFlag := false } held :=
          ⟨⟨receiving.holds.index, receiving.holds.front⟩, receiving.kind, receiving.registered⟩
        exact ⟨_, .now pass, receiving_open_timer env _ lowered, emits_nil (by simp)⟩
      · rw [httpFraming, ← head, package] at verdict
        cases verdict
  | @delivers held left packages length verdict positive bounded rest ih =>
      rcases http_framing_package verdict with ⟨announced, package, rfl⟩
      have passes : httpBody env arg session = .again (httpDeliver env arg announced session) := by
        rw [httpBody, head, package]
      rcases http_deliver_receiving receiving env arg positive bounded with ⟨still, emitted⟩
      have free : (0 : UInt8) ∉ held.drop (uint16 announced) := by
        intro member
        exact nulFree (List.mem_of_mem_drop member)
      have text := http_deliver_text env arg receiving.holds positive bounded env.beyond
      rw [c_string_of_nul_free free] at text
      rcases ih free still (text_head still text) with ⟨final, exits, last, later⟩
      exact ⟨final, .later passes exits, last, emits_append emitted later⟩

end Loop

section Calls

variable {session : Session size} {segment : Segment}

/-- The segment finds room, what is buffered then stays within the range of a
`sint16`, and what stands behind it in memory does not change the decision on
it. -/
def ScansText (session : Session size) : SproEvent → Prop
  | .recv segment =>
      session.bufferIndex + segment.bytes.length ≤ size.toNat ∧
        session.bufferIndex + segment.bytes.length ≤ 32767 ∧
        httpHead ((appended segment session).buffer.seen segment.env.beyond)
            (appended segment session).bufferIndex =
          httpHead
            ((appended segment session).buffer.bytes.take (appended segment session).bufferIndex)
            (appended segment session).bufferIndex
  | _ => True

instance (session : Session size) : (event : SproEvent) → Decidable (ScansText session event)
  | .recv _ => inferInstanceAs (Decidable (_ ∧ _ ∧ _))
  | .tick _ => .isTrue trivial
  | .setPkgType _ => .isTrue trivial

theorem http_completes (session : Session size) (segment : Segment) (held : List UInt8)
    (done rest : List (List UInt8)) (front : List UInt8)
    (receiving : Receiving .http11 session held) (scans : ScansText session (.recv segment))
    (split : held ++ segment.bytes = done.flatten ++ front) (unfinished : Unfinished front rest)
    (well : ∀ item ∈ done ++ rest, Recognised httpFraming plainText item ∧ (0 : UInt8) ∉ item) :
    ∃ next, SproStep session (.recv segment) next ∧ Receiving .http11 next front ∧
      Emits session next done := by
  rcases scans with ⟨fits, short, decision⟩
  have index := receiving.holds.index
  have nulFree : (0 : UInt8) ∉ held ++ segment.bytes := by
    rw [split]
    intro member
    rcases List.mem_append.1 member with whole | part
    · rcases List.mem_flatten.1 whole with ⟨item, listed, inside⟩
      exact (well item (List.mem_append_left rest listed)).2 inside
    · rcases unfinished with ⟨-, rfl⟩ | ⟨item, more, back, rfl, rfl, -⟩
      · cases part
      · exact (well (front ++ back) (List.mem_append_right done List.mem_cons_self)).2
          (List.mem_append_left back part)
  have admissible : plainText (held ++ segment.bytes) := by
    constructor
    · exact nulFree
    · rw [List.length_append]
      omega
  have drains := split_drains plain_text_suffix http_framing_nil
    (fun item member => (well item member).1) admissible split unfinished
  have before : Holds { session.toSpro with arg := segment.arg } held :=
    ⟨receiving.holds.index, receiving.holds.front⟩
  have written : Holds (appended segment session) (held ++ segment.bytes) :=
    holds_write before fits
  let entered := httpEnter segment.env segment.bytes { session with arg := segment.arg }
  have buffer : entered.buffer = (appended segment session).buffer := http_enter_buffer _ _ _
  have setup := http_enter_setup segment.env { session with arg := segment.arg } segment.bytes
  have entering : Receiving .http11 entered (held ++ segment.bytes) := by
    constructor
    · constructor
      · exact (http_enter_index _ _ _).trans written.index
      · rw [buffer]
        exact written.front
    · exact (setup_kind setup).trans receiving.kind
    · exact (setup_registered setup).trans receiving.registered
  have head : httpHead (entered.buffer.seen segment.env.beyond) entered.bufferIndex =
      httpHead (held ++ segment.bytes) (held ++ segment.bytes).length := by
    have text : (appended segment session).buffer.bytes.take (appended segment session).bufferIndex =
        held ++ segment.bytes := by
      rw [written.index]
      exact (List.prefix_iff_eq_take.1 written.front).symm
    rw [text] at decision
    rw [buffer, entering.holds.index, ← written.index, decision]
  rcases http_loop_drains drains nulFree entering segment.env head segment.arg with
    ⟨final, exits, last, emitted⟩
  have http : usesHttp session.pkgType = true := by
    rw [receiving.kind]
    rfl
  rcases emitted with ⟨calls, callsEq, delivers⟩
  rw [http_enter_calls] at callsEq
  exact ⟨final, (received_http http).2 exits, last, calls, callsEq, delivers⟩

end Calls

theorem messages_unfinished (messages : List HttpMessage) :
    Unfinished [] (messages.map HttpMessage.bytes) := by
  apply unfinished_nil
  intro item member
  rcases List.mem_map.1 member with ⟨message, -, rfl⟩
  exact message_nonempty message

/-- Every message of a stream is passed exactly once, in order and whole,
wherever the stream is cut, as long as the scanner decides on the buffered
bytes. -/
theorem http_stream_reassembled (size : UInt16) (messages : List HttpMessage)
    (segments : List Segment) (legible : ∀ message ∈ messages, message.Legible)
    (cut : (segments.map Segment.bytes).flatten = (messages.map HttpMessage.bytes).flatten)
    (scans : Meets SproStep ScansText (spCreateObject size .http11 true)
      (segments.map SproEvent.recv)) :
    ∃ final, Run SproStep (spCreateObject size .http11 true) (segments.map SproEvent.recv) final ∧
      List.Forall₂ PkgCall.Delivers final.calls (messages.map HttpMessage.bytes) := by
  have recognised : ∀ item ∈ messages.map HttpMessage.bytes,
      Recognised httpFraming plainText item ∧ (0 : UInt8) ∉ item := by
    intro item member
    rcases List.mem_map.1 member with ⟨message, listed, rfl⟩
    exact ⟨message_recognised message (legible message listed), message_nul_free message⟩
  have nothing : ∀ session : Session size, Emits session session [] := fun _ => emits_nil rfl
  have filled : ∀ item, Recognised httpFraming plainText item ∧ (0 : UInt8) ∉ item → item ≠ [] :=
    fun _ item => item.1.nonempty
  rcases delivers_every_cut nothing (fun _ _ _ _ _ => emits_append) filled http_completes
    (fresh_receiving size .http11) (messages_unfinished messages) recognised cut
    (meets_map.1 scans) with ⟨final, run, -, calls, callsEq, delivers⟩
  refine ⟨final, run_map run, ?_⟩
  rw [callsEq]
  exact delivers

theorem http_stream_reassembled_coalesced :
    ∃ final, Run SproStep (spCreateObject 64 .http11 true)
        ([⟨⟨0, []⟩, 7, asciiBytes "OK" ++ crlfcrlf ++ asciiBytes "Con"⟩,
          ⟨⟨1, []⟩, 7, asciiBytes "tent-Length: 2" ++ crlfcrlf⟩,
          ⟨⟨2, []⟩, 7, asciiBytes "hi"⟩].map SproEvent.recv) final ∧
      List.Forall₂ PkgCall.Delivers final.calls
        [asciiBytes "OK" ++ crlfcrlf,
          asciiBytes "Content-Length: 2" ++ crlfcrlf ++ asciiBytes "hi"] := by
  have two : decimalText 2 = [50] := by
    rw [decimalText]
    rfl
  have header : sizedHeader [] crlf 2 = asciiBytes "Content-Length: 2" ++ crlfcrlf := by
    rw [sizedHeader, two]
    decide
  have block : HeaderBlock (sizedHeader [] crlf 2) := by
    rw [header]
    exact ⟨by decide, by decide⟩
  have first : findText contentLengthIs (sizedHeader [] crlf 2) = some 0 := by
    rw [header]
    decide
  let plain : HttpMessage := .plain (asciiBytes "OK" ++ crlfcrlf) ⟨by decide, by decide⟩ (by decide)
  let sized : HttpMessage := .sized [] crlf (asciiBytes "hi") (.inl rfl) block (by decide)
  have texts : [plain, sized].map HttpMessage.bytes =
      [asciiBytes "OK" ++ crlfcrlf,
        asciiBytes "Content-Length: 2" ++ crlfcrlf ++ asciiBytes "hi"] := by
    change [_, sizedHeader [] crlf 2 ++ asciiBytes "hi"] = _
    rw [header]
    rfl
  rw [← texts]
  apply http_stream_reassembled 64 [plain, sized]
  · intro message member
    rcases List.mem_cons.1 member with rfl | later
    · exact (by decide : (asciiBytes "OK" ++ crlfcrlf).length ≤ 32767)
    · rw [List.mem_singleton.1 later]
      constructor
      · change (sizedHeader [] crlf 2 ++ asciiBytes "hi").length ≤ 32767
        rw [header]
        decide
      · exact first
  · rw [texts]
    decide
  · exact meets_of_exec spro_step_unique (spro_exec_sound 8) (by decide +kernel)

section Calls

variable {session next : Session size} {segment : Segment}

theorem http_visits_grow {env : Ambient} {arg : Nat} {head reached : Session size}
    (registered : head.pkgProcCb = true) (visited : Visits (httpBody env arg) head reached) :
    head.calls <+: reached.calls := by
  have kept : head.calls <+: reached.calls ∧ reached.pkgProcCb = true := by
    apply visits_keeps (fun reached : Session size =>
      head.calls <+: reached.calls ∧ reached.pkgProcCb = true) _ _ visited
    · intro reached next ⟨grown, callable⟩ continues
      rcases http_continues continues with ⟨announced, -, rfl⟩
      constructor
      · rw [http_deliver_calls env arg callable]
        exact grown.trans (List.prefix_append _ _)
      · exact (setup_registered (http_deliver_setup env arg reached announced)).trans callable
    · exact ⟨List.prefix_rfl, registered⟩
  exact kept.1

theorem http_exits_grow {env : Ambient} {arg : Nat} {head final : Session size}
    (registered : head.pkgProcCb = true) (exits : Exits (httpBody env arg) head final) :
    head.calls <+: final.calls := by
  rcases exits_last_head exits with ⟨last, visited, leaves⟩
  rw [(http_leaves leaves).2.2]
  exact http_visits_grow registered visited

/-- The first package a call passes is among its calls for good. -/
theorem http_received_passes (http : usesHttp session.pkgType = true)
    (registered : session.pkgProcCb = true) {announced : Int}
    (verdict : httpHead ((appended segment session).buffer.seen segment.env.beyond)
      (appended segment session).bufferIndex = .package announced)
    (received : Received segment session next) :
    ∃ call : PkgCall, call.pkgLen = uint16 announced ∧
      session.calls ++ [call] <+: next.calls := by
  let entered := httpEnter segment.env segment.bytes { session with arg := segment.arg }
  have buffer : entered.buffer = (appended segment session).buffer := http_enter_buffer _ _ _
  have index : entered.bufferIndex = (appended segment session).bufferIndex :=
    http_enter_index _ _ _
  have callable : entered.pkgProcCb = true :=
    (setup_registered (http_enter_setup _ _ _)).trans registered
  have passes : httpBody segment.env segment.arg entered =
      .again (httpDeliver segment.env segment.arg announced entered) := by
    rw [httpBody, buffer, index, verdict]
  have exits := (received_http http).1 received
  have rest := exits_from_visited (.later passes .here) exits
  have grown := http_exits_grow ((setup_registered
    (http_deliver_setup segment.env segment.arg entered announced)).trans callable) rest
  rw [http_deliver_calls segment.env segment.arg callable, http_enter_calls] at grown
  exact ⟨_, rfl, grown⟩

theorem http_received_grow (http : usesHttp session.pkgType = true)
    (registered : session.pkgProcCb = true) (received : Received segment session next) :
    session.calls <+: next.calls := by
  have callable : (httpEnter segment.env segment.bytes
      { session with arg := segment.arg }).pkgProcCb = true :=
    (setup_registered (http_enter_setup _ _ _)).trans registered
  have grown := http_exits_grow callable ((received_http http).1 received)
  rw [http_enter_calls] at grown
  exact grown

theorem http_run_grow {segments : List Segment} {final : Session size}
    (http : usesHttp session.pkgType = true) (registered : session.pkgProcCb = true)
    (run : Run SproStep session (segments.map SproEvent.recv) final) :
    session.calls <+: final.calls := by
  induction segments generalizing session with
  | nil =>
      cases run
      exact List.prefix_rfl
  | cons segment segments ih =>
      cases run with
      | @cons _ next _ _ _ first later =>
          have setup := received_setup first
          have kind : next.pkgType = session.pkgType := setup_kind setup
          apply (http_received_grow http registered first).trans
          apply ih _ ((setup_registered setup).trans registered) later
          rw [kind]
          exact http

end Calls

section Overflow

/-- Nothing buffered in 32 bytes of zeros. -/
structure Idle (session : Session 32) : Prop where
  buffer : session.buffer = Region.zeros 32
  index : session.bufferIndex = 0
  kind : session.pkgType = .http11
  registered : session.pkgProcCb = true

def emptyLine : Segment := ⟨⟨0, []⟩, 7, crlfcrlf⟩

theorem idle_empty_line {session : Session 32} (idle : Idle session) :
    ∃ next, Received emptyLine session next ∧ Idle next := by
  let fresh := spCreateObject 32 .http11 true
  let entered := httpEnter emptyLine.env emptyLine.bytes { session with arg := emptyLine.arg }
  let next := httpDeliver emptyLine.env emptyLine.arg 4 entered
  have written := @write_congr 32 { session.toSpro with arg := emptyLine.arg } fresh.toSpro
    (congrArg Region.bytes idle.buffer) idle.index crlfcrlf
  have buffer : entered.buffer = (serverRxWrite fresh.toSpro crlfcrlf).buffer := by
    apply (http_enter_buffer _ _ _).trans
    apply Region.ext_bytes written.1
    rw [write_stray, write_stray]
    exact congrArg Region.stray idle.buffer
  have index : entered.bufferIndex = 4 := (http_enter_index _ _ _).trans written.2
  have verdict : httpHead ((serverRxWrite fresh.toSpro crlfcrlf).buffer.seen
      emptyLine.env.beyond) 4 = .package 4 := by decide +kernel
  have passes : httpBody emptyLine.env emptyLine.arg entered = .again next := by
    rw [httpBody, buffer, index, verdict]
  have flushed : (takePackage emptyLine.env emptyLine.arg 4 entered).toSpro =
      serverRxFlush { entered.toSpro with
        pkgOneFlag := true
        pkgLen := 4
        timer := none
        timerOpenedFlag := false } := by
    rw [take_package_spro, read_all _ (Nat.zero_lt_succ 3) index.symm]
  have zeros : next.buffer = Region.zeros 32 := by
    rw [http_deliver_buffer]
    change (takePackage emptyLine.env emptyLine.arg 4 entered).buffer = _
    rw [flushed]
    change entered.buffer.fill 0 32 0 = _
    rw [buffer]
    decide +kernel
  have none : next.bufferIndex = 0 := by
    rw [http_deliver_index]
    change (takePackage emptyLine.env emptyLine.arg 4 entered).bufferIndex = _
    rw [flushed]
    rfl
  have setup : next.setup = session.setup :=
    (http_deliver_setup _ _ _ _).trans (http_enter_setup _ _ _)
  have quiet : httpHead ((Region.zeros 32).seen emptyLine.env.beyond) 0 = .noTerminator := by decide
  have leaves : httpBody emptyLine.env emptyLine.arg next = .exit next := by
    simp only [httpBody, zeros, none, quiet]
  have http : usesHttp session.pkgType = true := by
    rw [idle.kind]
    rfl
  exact ⟨next, (received_http http).2 (.later passes (.now leaves)), zeros, none,
    (setup_kind setup).trans idle.kind, (setup_registered setup).trans idle.registered⟩

theorem idle_meets {session : Session 32} (idle : Idle session) (count : Nat) :
    Meets SproStep FitsBuffer session
      ((List.replicate count emptyLine).map SproEvent.recv) := by
  induction count generalizing session with
  | zero => trivial
  | succ count ih =>
      rcases idle_empty_line idle with ⟨next, received, still⟩
      have taken : SproStep session (.recv emptyLine) next := received
      apply meets_of_run spro_step_unique _ taken (ih still)
      change session.bufferIndex + 4 ≤ 32
      rw [idle.index]
      decide

end Overflow

/-- A length of 65536 is 0 in a `sint16`, so the header is passed on its own; the
body consists of empty lines, which are passed one by one. -/
theorem http_stream_split :
    ¬ ∀ (size : UInt16) (messages : List HttpMessage) (segments : List Segment),
      (segments.map Segment.bytes).flatten = (messages.map HttpMessage.bytes).flatten →
      Meets SproStep FitsBuffer (spCreateObject size .http11 true)
        (segments.map SproEvent.recv) →
      ∃ final, Run SproStep (spCreateObject size .http11 true) (segments.map SproEvent.recv)
          final ∧
        List.Forall₂ PkgCall.Delivers final.calls (messages.map HttpMessage.bytes) := by
  intro claimed
  let body := (List.replicate 16384 crlfcrlf).flatten
  let front : Segment := ⟨⟨0, []⟩, 7, asciiBytes "Content-Length: 65536" ++ crlfcrlf⟩
  let fresh := spCreateObject 32 .http11 true
  have count : body.length = 65536 := by
    simp only [body, List.length_flatten, List.map_replicate, List.sum_replicate_nat]
    rfl
  have numeral : decimalText 65536 = asciiBytes "65536" := by
    simp [decimalText]
    decide
  have header : sizedHeader [] crlf 65536 = front.bytes := by
    rw [sizedHeader, numeral]
    decide
  have block : HeaderBlock (sizedHeader [] crlf body.length) := by
    rw [count, header]
    exact ⟨by decide, by decide⟩
  have nulFree : (0 : UInt8) ∉ body := by
    intro member
    rcases List.mem_flatten.1 member with ⟨part, listed, inside⟩
    rw [(List.mem_replicate.1 listed).2] at inside
    exact absurd inside (by decide)
  let message : HttpMessage := .sized [] crlf body (.inl rfl) block nulFree
  let segments := front :: List.replicate 16384 emptyLine
  have cut : (segments.map Segment.bytes).flatten =
      ([message].map HttpMessage.bytes).flatten := by
    change front.bytes ++ ((List.replicate 16384 emptyLine).map Segment.bytes).flatten =
      (sizedHeader [] crlf body.length ++ body) ++ []
    rw [count, header, List.map_replicate, List.append_nil]
    rfl
  have verdict : httpHead ((appended front fresh).buffer.seen front.env.beyond)
      (appended front fresh).bufferIndex = .package 25 := by decide +kernel
  have arrives : ((sproExec 4 fresh (.recv front)).any fun next =>
      next.buffer = Region.zeros 32 ∧ next.bufferIndex = 0 ∧ next.pkgType = .http11 ∧
        next.pkgProcCb = true) = true := by decide +kernel
  rcases (Option.any_eq_true _ _).1 arrives with ⟨held, computed, facts⟩
  rcases of_decide_eq_true facts with ⟨buffer, index, kind, registered⟩
  have received : SproStep fresh (.recv front) held := spro_exec_sound 4 _ _ _ computed
  have fits : Meets SproStep FitsBuffer fresh (segments.map SproEvent.recv) :=
    meets_of_run spro_step_unique (show FitsBuffer fresh (.recv front) by decide) received
      (idle_meets ⟨buffer, index, kind, registered⟩ 16384)
  rcases claimed 32 [message] segments cut fits with ⟨final, run, delivers⟩
  cases run with
  | @cons _ next _ _ _ first later =>
      have setup := received_setup first
      rcases http_received_passes (by decide) rfl verdict first with ⟨call, length, passed⟩
      have http : usesHttp next.pkgType = true := by
        rw [setup_kind setup]
        rfl
      have rest : Run SproStep next ((List.replicate 16384 emptyLine).map SproEvent.recv) final :=
        later
      have whole := passed.trans (http_run_grow http (setup_registered setup) rest)
      generalize final.calls = calls at delivers whole
      cases delivers with
      | @cons only _ _ _ one none =>
          cases none
          have same : call = only := (List.cons_prefix_cons.1 whole).1
          have total : only.pkgLen = (sizedHeader [] crlf body.length ++ body).length := one.2.1
          rw [← same, length, List.length_append, count] at total
          exact absurd total (by
            rw [show uint16 25 = 25 by decide]
            omega)

end IotgoFirmware.Receive.HttpReassembly
