import IotgoFirmware.Library.CFaults

/-!
# Collecting a line in a buffer

Bytes are put one behind the other into a buffer of a fixed size, and after each
portion the buffer is searched for a carriage return and a line feed. The search is
one of the C library: it ends at a NUL, also at one that was received, and it goes
beyond a buffer without a NUL unless it finds the line end before.
-/

namespace IotgoFirmware.Library.LineBuffers

open IotgoFirmware.Library.CStrings
open IotgoFirmware.Library.CFaults

set_option autoImplicit false

def crlf : List UInt8 := [13, 10]

def findLine (buffer : List UInt8) : Checked (Option Nat) :=
  match strstr buffer crlf with
  | some index => .ok (some index)
  | none => if 0 ∈ buffer then .ok none else .error .outside

def stored (buffer : List UInt8) (count : Nat) (bytes : List UInt8) : List UInt8 :=
  buffer.take count ++ bytes ++ buffer.drop (count + bytes.length)

/-- A buffer with some bytes received; a NUL is its last byte until it is full. -/
structure Collects (size : Nat) (buffer : List UInt8) (count : Nat) : Prop where
  sized : buffer.length = size
  inside : count ≤ size
  ends : count < size → buffer.getLast? = some 0

/-- A line end can still come in behind the bytes. -/
def LineFits (size : Nat) (kept : List UInt8) : Prop :=
  0 ∉ kept ∧ (kept.length + 2 ≤ size ∨ kept.length + 1 = size ∧ kept.getLast? = some 13)

variable {size count : Nat} {buffer bytes : List UInt8}

section Storing

theorem collects_zeros (size : Nat) : Collects size (List.replicate size 0) 0 where
  sized := List.length_replicate
  inside := Nat.zero_le size
  ends positive := by
    obtain ⟨last, rfl⟩ := Nat.exists_eq_add_of_lt positive
    simp [List.getLast?_replicate]

theorem take_length (collects : Collects size buffer count) : (buffer.take count).length = count := by
  have sized := collects.sized
  have inside := collects.inside
  rw [List.length_take]
  omega

theorem take_stored (collects : Collects size buffer count) (bytes : List UInt8) :
    (stored buffer count bytes).take (count + bytes.length) = buffer.take count ++ bytes := by
  have length : (buffer.take count ++ bytes).length = count + bytes.length := by
    rw [List.length_append, take_length collects]
  exact List.take_left' length

theorem collects_stored (collects : Collects size buffer count)
    (fits : count + bytes.length ≤ size) :
    Collects size (stored buffer count bytes) (count + bytes.length) where
  sized := by
    have sized := collects.sized
    simp only [stored, List.length_append, List.length_drop, take_length collects]
    omega
  inside := fits
  ends room := by
    have sized := collects.sized
    have last := collects.ends (by omega)
    have behind : (buffer.drop (count + bytes.length)).getLast? = some 0 := by
      rw [List.getLast?_drop, if_neg (by omega)]
      exact last
    rw [stored, List.getLast?_append, behind]
    rfl

theorem store_at_stored (collects : Collects size buffer count)
    (fits : count + bytes.length ≤ size) :
    storeAt buffer count bytes = .ok (stored buffer count bytes) := by
  apply store_at_ok_iff.2
  rw [collects.sized]
  exact ⟨fits, rfl⟩

theorem stored_cons (collects : Collects size buffer count) (byte : UInt8)
    (fits : count + (byte :: bytes).length ≤ size) :
    stored (stored buffer count [byte]) (count + 1) bytes = stored buffer count (byte :: bytes) := by
  have one : Collects size (stored buffer count [byte]) (count + 1) :=
    @collects_stored size count buffer [byte] collects (by simp at fits ⊢; omega)
  have front : (stored buffer count [byte]).take (count + 1) = buffer.take count ++ [byte] :=
    take_stored collects [byte]
  have length : (buffer.take count ++ [byte]).length = count + 1 := by
    rw [List.length_append, take_length collects]
    rfl
  have behind : (stored buffer count [byte]).drop (count + 1 + bytes.length) =
      buffer.drop (count + (byte :: bytes).length) := by
    have place : count + [byte].length + bytes.length = count + (byte :: bytes).length := by
      simp only [List.length_cons, List.length_nil]
      omega
    rw [← List.drop_drop, stored, List.drop_left' length, List.drop_drop, place]
  rw [stored, front, behind, stored]
  simp

end Storing

section Searching

theorem find_line_found {index : Nat} (found : strstr buffer crlf = some index) :
    findLine buffer = .ok (some index) := by
  rw [findLine, found]

theorem find_line_absent (absent : strstr buffer crlf = none) :
    findLine buffer = if 0 ∈ buffer then .ok none else .error .outside := by
  rw [findLine, absent]

theorem nul_mem_iff (collects : Collects size buffer count) :
    0 ∈ buffer ↔ count < size ∨ 0 ∈ buffer.take count := by
  constructor
  · intro member
    by_cases full : count < size
    · exact .inl full
    · have all : buffer.take count = buffer := by
        have sized := collects.sized
        exact List.take_of_length_le (by omega)
      rw [all]
      exact .inr member
  · rintro (room | member)
    · exact List.mem_of_getLast? (collects.ends room)
    · exact List.mem_of_mem_take member

theorem c_string_hidden {front : List UInt8} (nul : 0 ∈ front) (more : List UInt8) :
    cString (front ++ more) = cString front := by
  obtain ⟨before, behind, rfl⟩ := List.append_of_mem nul
  rw [List.append_assoc, List.cons_append, c_string_append_nul, c_string_append_nul]

theorem strstr_hidden (nul : 0 ∈ buffer.take count) (bytes : List UInt8) :
    strstr (stored buffer count bytes) crlf = strstr buffer crlf := by
  have whole := List.take_append_drop count buffer
  have same : cString (stored buffer count bytes) = cString buffer := by
    rw [stored, List.append_assoc, c_string_hidden nul, ← c_string_hidden nul (buffer.drop count),
      whole]
  rw [strstr, strstr, same]

theorem strstr_line_end {front : List UInt8} (nulFree : (0 : UInt8) ∉ front)
    (more : List UInt8) : (strstr (front ++ crlf ++ more) crlf).isSome = true := by
  have text : cString (front ++ crlf ++ more) = front ++ crlf ++ cString more := by
    apply c_string_append
    simpa [crlf] using nulFree
  rw [strstr, text]
  refine Option.isSome_iff_ne_none.2 fun none => ?_
  have absent := find_text_none_iff.1 none front.length (by simp)
  rw [List.append_assoc, List.drop_left] at absent
  exact absent (List.prefix_append crlf _)

theorem line_end_comes (collects : Collects size buffer count)
    (fits : LineFits size (buffer.take count)) :
    ∃ bytes, count + bytes.length ≤ size ∧
      (strstr (stored buffer count bytes) crlf).isSome = true := by
  rcases fits with ⟨nulFree, room | ⟨room, last⟩⟩
  · rw [take_length collects] at room
    exact ⟨crlf, room, strstr_line_end nulFree _⟩
  · rw [take_length collects] at room
    obtain ⟨front, split⟩ := List.getLast?_eq_some_iff.1 last
    refine ⟨[10], Nat.le_of_eq room, ?_⟩
    have whole : stored buffer count [10] = front ++ crlf ++ buffer.drop (count + 1) := by
      rw [stored, split, List.append_assoc front]
      rfl
    rw [split] at nulFree
    rw [whole]
    exact strstr_line_end (fun member => nulFree (List.mem_append_left _ member)) _

/-- Bytes without a NUL and without a line end, and behind them no room for one. -/
structure Closed (size : Nat) (buffer : List UInt8) (count : Nat) : Prop where
  collects : Collects size buffer count
  nulFree : 0 ∉ buffer.take count
  absent : strstr buffer crlf = none
  last : count + 1 = size
  noReturn : (buffer.take count).getLast? ≠ some 13

theorem c_string_kept (collects : Collects size buffer count) (nulFree : 0 ∉ buffer.take count)
    (last : count + 1 = size) : cString buffer = buffer.take count := by
  have sized := collects.sized
  have one : (buffer.drop count).length = 1 := by
    rw [List.length_drop]
    omega
  obtain ⟨byte, rest⟩ := List.length_eq_one_iff.1 one
  have ends := collects.ends (by omega)
  have whole := List.take_append_drop count buffer
  rw [rest] at whole
  rw [← whole, List.getLast?_append, List.getLast?_singleton] at ends
  cases ends
  rw [← whole, List.take_left' (take_length collects)]
  exact c_string_terminated [] nulFree

theorem closed_stays (closed : Closed size buffer count) (byte : UInt8) :
    strstr (stored buffer count [byte]) crlf = none := by
  have text := c_string_kept closed.collects closed.nulFree closed.last
  have absent : findText crlf (buffer.take count) = none := by
    have absent := closed.absent
    rwa [strstr, text] at absent
  have full : buffer.drop (count + [byte].length) = [] := by
    apply List.drop_of_length_le
    rw [closed.collects.sized]
    exact Nat.le_of_eq closed.last.symm
  rw [stored, full, List.append_nil, strstr, c_string_append _ closed.nulFree]
  by_cases nul : byte = 0
  · rw [nul]
    simpa [cString] using absent
  · have one : cString [byte] = [byte] := by simp [cString, nul]
    rw [one]
    cases found : findText crlf (buffer.take count ++ [byte]) with
    | none => rfl
    | some index =>
        have past := find_text_past absent found
        have bound := find_text_bound found
        rcases find_text_some_iff.1 found with ⟨-, here, -⟩
        have two : crlf.length = 2 := rfl
        rw [two] at past bound
        rw [List.length_append, List.length_singleton] at bound
        have before : index + 1 = (buffer.take count).length := by omega
        rw [List.drop_append_of_le_length (by omega)] at here
        have first := here.getElem (show 0 < crlf.length by decide)
        rw [List.getElem_append_left (by rw [List.length_drop]; omega), List.getElem_drop] at first
        have return_last : (buffer.take count).getLast? = some 13 := by
          rw [List.getLast?_eq_getElem?, ← before, Nat.add_sub_cancel,
            List.getElem?_eq_getElem (by omega)]
          exact congrArg some first.symm
        exact absurd return_last closed.noReturn

/-- A buffer that was searched in vain is closed when no line end fits and it shows what
was received. -/
theorem closed_of_not_fits (collects : Collects size buffer count) (terminated : 0 ∈ buffer)
    (nulFree : 0 ∉ buffer.take count) (absent : strstr buffer crlf = none)
    (long : ¬ LineFits size (buffer.take count)) : Closed size buffer count := by
  have room : count < size := ((nul_mem_iff collects).1 terminated).resolve_right nulFree
  unfold LineFits at long
  rw [take_length collects] at long
  have last : count + 1 = size := by
    by_contra other
    exact long ⟨nulFree, .inl (by omega)⟩
  exact ⟨collects, nulFree, absent, last, fun isReturn => long ⟨nulFree, .inr ⟨last, isReturn⟩⟩⟩

end Searching

section Portions

/-- No line is found, whatever is put behind the received bytes: a NUL among them hides
what follows, or there is no room for a line end. -/
inductive Stuck (size : Nat) (buffer : List UInt8) (count : Nat) : Prop where
  | hidden (nul : 0 ∈ buffer.take count) (absent : strstr buffer crlf = none)
  | closed (closed : Closed size buffer count)

theorem stuck_of_not_fits (collects : Collects size buffer count) (terminated : 0 ∈ buffer)
    (absent : strstr buffer crlf = none) (long : ¬ LineFits size (buffer.take count)) :
    Stuck size buffer count := by
  by_cases nul : 0 ∈ buffer.take count
  · exact .hidden nul absent
  · exact .closed (closed_of_not_fits collects terminated nul absent long)

theorem stuck_stored (collects : Collects size buffer count) (stuck : Stuck size buffer count)
    (fits : count + bytes.length ≤ size) :
    strstr (stored buffer count bytes) crlf = none ∧
      (0 ∈ stored buffer count bytes →
        Stuck size (stored buffer count bytes) (count + bytes.length)) := by
  cases stuck with
  | hidden nul absent =>
      have hides := strstr_hidden nul bytes
      refine ⟨hides.trans absent, fun _ => .hidden ?_ (hides.trans absent)⟩
      rw [take_stored collects]
      exact List.mem_append_left _ nul
  | closed closed =>
      cases bytes with
      | nil =>
          have same : stored buffer count [] = buffer := by
            rw [stored, List.append_nil]
            exact List.take_append_drop count buffer
          rw [same]
          exact ⟨closed.absent, fun _ => .closed closed⟩
      | cons byte more =>
          have none : more = [] := by
            have last := closed.last
            rw [List.length_cons] at fits
            exact List.eq_nil_of_length_eq_zero (by omega)
          subst none
          have absent := closed_stays closed byte
          refine ⟨absent, fun terminated => .hidden ?_ absent⟩
          have next := collects_stored collects fits
          have last := closed.last
          rcases (nul_mem_iff next).1 terminated with room | member
          · simp only [List.length_singleton] at room
            omega
          · exact member

end Portions

end IotgoFirmware.Library.LineBuffers
