import IotgoFirmware.Library.CStrings
import IotgoFirmware.Receive.SproWebsocket

/-!
# HTTP packages

`processHTTPPackage` looks for the end of a header with `strstr` on the whole
buffer, so it sees whatever stands there up to the first NUL. The length of the
body goes through `atoi` and a `sint16`, the length of the package through a
`uint16`.
-/

namespace IotgoFirmware.Receive.SproHttp

open IotgoFirmware.Library.ByteRegions
open IotgoFirmware.Library.CIntegers
open IotgoFirmware.Library.CStrings
open IotgoFirmware.Library.LoopRules
open IotgoFirmware.Receive.SproObject
open IotgoFirmware.Receive.SproWebsocket

set_option autoImplicit false

variable {size : UInt16}

def crlf : List UInt8 := [13, 10]
def crlfcrlf : List UInt8 := [13, 10, 13, 10]
def contentLength : List UInt8 := asciiBytes "Content-Length"
def contentLengthIs : List UInt8 := asciiBytes "Content-Length: "

def indexOf (memory pattern : List UInt8) : Int :=
  match strstr memory pattern with
  | none => -1
  | some index => index

/-- `dest` after the copy; it is left alone when `start` lies behind the string. -/
def subString (dest src : List UInt8) (start stop : Int) : List UInt8 :=
  if (strlen src : Int) < start then dest
  else
    let stop := min stop (strlen src)
    let copied := (src.drop start.toNat).take (stop - start).toNat
    copied ++ 0 :: dest.drop (copied.length + 1)

def charToNum (memory start stop : List UInt8) : Int :=
  let index1 := indexOf memory start + start.length
  let index2 := indexOf (memory.drop index1.toNat) stop
  if 10 < index2 then 0
  else atoi (subString (List.replicate 30 0) memory index1 (index2 + index1))

inductive HttpVerdict where
  | noTerminator
  | incomplete
  | package (announced : Int)
  deriving DecidableEq

/-- What one pass decides: the loop condition on `temp2`, then whether the
package at the front is complete. The announced length is stored in a `uint16`
afterwards. -/
def httpHead (memory : List UInt8) (available : Nat) : HttpVerdict :=
  let headerEnd := indexOf memory crlfcrlf
  let temp2 := sint16 headerEnd
  if temp2 = -1 then .noTerminator
  else
    let temp4 := sint16 (indexOf memory contentLength)
    if temp4 ≠ -1 then
      if temp2 < temp4 then .package (headerEnd + 4)
      else
        let lengthTemp := sint16 (charToNum memory contentLengthIs crlf)
        if lengthTemp ≤ available - headerEnd - 4 then .package (lengthTemp + headerEnd + 4)
        else .incomplete
    else .package (headerEnd + 4)

/-- The part before the loop. -/
def httpEnter (env : Ambient) (pdata : List UInt8) (session : Session size) : Session size :=
  let written : Session size := { session with toSpro := serverRxWrite session.toSpro pdata }
  if sint16 (indexOf (written.buffer.seen env.beyond) crlfcrlf) = -1 then
    if written.timerOpenedFlag then written
    else startTime env { written with pkgOneFlag := false, timerOpenedFlag := true }
  else written

/-- A complete package. When bytes are left the timer runs again, but
`_timer_opened_flag` stays down. -/
def httpDeliver (env : Ambient) (arg : Nat) (announced : Int) (session : Session size) :
    Session size :=
  let taken := takePackage env arg (uint16 announced) session
  if 0 < taken.bufferIndex then startTime env { taken with pkgOneFlag := false } else taken

def httpBody (env : Ambient) (arg : Nat) (session : Session size) : LoopStep (Session size) :=
  match httpHead (session.buffer.seen env.beyond) session.bufferIndex with
  | .noTerminator => .exit session
  | .incomplete => .exit (openTimer env { session with pkgOneFlag := false })
  | .package announced => .again (httpDeliver env arg announced session)

def processHTTPPackage (fuel : Nat) (env : Ambient) (arg : Nat) (pdata : List UInt8)
    (session : Session size) : LoopStep (Session size) :=
  iterate (httpBody env arg) fuel (httpEnter env pdata session)

/-- What one pass of the loop can do. -/
theorem http_body_cases (env : Ambient) (arg : Nat) (session : Session size) :
    (httpHead (session.buffer.seen env.beyond) session.bufferIndex = .noTerminator ∧
      httpBody env arg session = .exit session) ∨
    (httpHead (session.buffer.seen env.beyond) session.bufferIndex = .incomplete ∧
      httpBody env arg session = .exit (openTimer env { session with pkgOneFlag := false })) ∨
    (∃ announced,
      httpHead (session.buffer.seen env.beyond) session.bufferIndex = .package announced ∧
      httpBody env arg session = .again (httpDeliver env arg announced session)) := by
  unfold httpBody
  cases httpHead (session.buffer.seen env.beyond) session.bufferIndex with
  | noTerminator => exact .inl ⟨rfl, rfl⟩
  | incomplete => exact .inr (.inl ⟨rfl, rfl⟩)
  | package announced => exact .inr (.inr ⟨announced, rfl, rfl⟩)

theorem http_no_terminator_iff (memory : List UInt8) (available : Nat) :
    httpHead memory available = .noTerminator ↔ sint16 (indexOf memory crlfcrlf) = -1 := by
  simp only [httpHead]
  constructor
  · intro verdict
    by_contra ends
    rw [if_neg ends] at verdict
    split_ifs at verdict
  · intro absent
    rw [if_pos absent]

section Setup

variable (env : Ambient) (arg : Nat) (session : Session size)

theorem http_enter_setup (pdata : List UInt8) :
    (httpEnter env pdata session).setup = session.setup := by
  have written : Session.setup { session with toSpro := serverRxWrite session.toSpro pdata } =
      session.setup := by
    simp [Session.setup]
  simp only [httpEnter]
  split
  · split
    · exact written
    · exact written
  · exact written

theorem http_deliver_setup (announced : Int) :
    (httpDeliver env arg announced session).setup = session.setup := by
  have taken := take_setup env arg (uint16 announced) session
  simp only [httpDeliver]
  split
  · exact taken
  · exact taken

end Setup

theorem index_of_none {memory pattern : List UInt8} (absent : strstr memory pattern = none) :
    indexOf memory pattern = -1 := by
  simp [indexOf, absent]

theorem index_of_some {memory pattern : List UInt8} {index : Nat}
    (found : strstr memory pattern = some index) : indexOf memory pattern = index := by
  simp [indexOf, found]

@[simp] theorem index_of_c_string (memory pattern : List UInt8) :
    indexOf (cString memory) pattern = indexOf memory pattern := by
  simp [indexOf]

/-- The two header texts share no byte, so a string with both has room for
either. -/
theorem both_found_length {text : List UInt8} {headerEnd field : Nat}
    (ends : findText crlfcrlf text = some headerEnd)
    (named : findText contentLength text = some field) : 15 ≤ text.length := by
  by_contra short
  have room := find_text_bound named
  have width : contentLength.length = 14 := by decide
  have first : field = 0 := by omega
  obtain ⟨-, here, -⟩ := find_text_some_iff.1 named
  subst first
  have same : contentLength = text :=
    here.eq_of_length (by simp only [List.drop_zero]; omega)
  rw [← same] at ends
  exact absurd ends (by decide +revert)

theorem sub_string_c_string {dest src : List UInt8} {start : Nat} (inside : start ≤ strlen src)
    (stop : Int) : subString dest src start stop = subString dest (cString src) start stop := by
  have copied : ∀ count, count + start ≤ strlen src →
      (src.drop start).take count = ((cString src).drop start).take count := by
    intro count room
    obtain ⟨tail, split⟩ := c_string_front src
    conv_lhs => rw [← split]
    rw [List.drop_append_of_le_length inside, List.take_append_of_le_length]
    simp only [List.length_drop]
    unfold strlen at room
    omega
  unfold subString
  simp only [strlen_c_string, Int.toNat_natCast]
  rw [copied]
  omega

theorem char_to_num_c_string {memory : List UInt8} (long : 15 ≤ strlen memory) :
    charToNum memory contentLengthIs crlf = charToNum (cString memory) contentLengthIs crlf := by
  have width : contentLengthIs.length = 16 := by decide
  obtain ⟨index, start, inside⟩ : ∃ index : Nat,
      indexOf memory contentLengthIs + contentLengthIs.length = index ∧
        index ≤ strlen memory := by
    cases found : strstr memory contentLengthIs with
    | none => exact ⟨15, by rw [index_of_none found, width]; rfl, long⟩
    | some position =>
        have room := find_text_bound found
        refine ⟨position + 16, by rw [index_of_some found, width]; rfl, ?_⟩
        rw [width] at room
        exact room
  have tail : indexOf (memory.drop index) crlf = indexOf ((cString memory).drop index) crlf := by
    rw [← index_of_c_string, c_string_drop inside]
  unfold charToNum
  simp only [index_of_c_string, start, Int.toNat_natCast, tail]
  rw [sub_string_c_string inside]

/-- The decision depends on the string in the buffer and on the number of
buffered bytes, not on what stands behind the first NUL. -/
theorem http_head_c_string (memory : List UInt8) (available : Nat) :
    httpHead memory available = httpHead (cString memory) available := by
  unfold httpHead
  simp only [index_of_c_string]
  cases ends : strstr memory crlfcrlf with
  | none => simp [index_of_none ends, sint16]
  | some headerEnd =>
      cases named : strstr memory contentLength with
      | none => simp [index_of_none named, sint16]
      | some field => rw [char_to_num_c_string (both_found_length ends named)]

theorem http_head_congr {left right : List UInt8} (same : cString left = cString right)
    (available : Nat) : httpHead left available = httpHead right available := by
  rw [http_head_c_string left, http_head_c_string right, same]

@[simp] theorem http_head_nil (available : Nat) : httpHead [] available = .noTerminator := by
  rfl

end IotgoFirmware.Receive.SproHttp
