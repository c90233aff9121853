import IotgoFirmware.Library.CIntegers
import IotgoFirmware.Timers.TimerProc

/-!
# The reply to new timers

`timerNew` keeps the ids it has given in bytes, and `createIdArray` hands them to
cJSON as if they were of the type `int`. There is memory for the reply.
-/

namespace IotgoFirmware.Timers.TimerReplies

open IotgoFirmware.Library.CFaults
open IotgoFirmware.Library.CIntegers
open IotgoFirmware.Library.CJsonItems
open IotgoFirmware.Library.CStrings
open IotgoFirmware.Timers.TimerFlash
open IotgoFirmware.Timers.TimerLayout
open IotgoFirmware.Timers.TimerRequests

set_option autoImplicit false

inductive TimerManage where
  | timerMcu
  | timerApp
deriving DecidableEq

/-- What a message to the server names itself by. -/
structure Identity where
  ownerUuid : List UInt8
  deviceid : List UInt8
  serverSequenceValue : List UInt8

def errorCode : TimerError → Int
  | .error0 => 0
  | .error400 => 400
  | .error500 => 500

def createBaseObject (manager : TimerManage) (identity : Identity) (result : TimerError) :
    CJsonItem :=
  let root := cJSONAddNumberToObject cJSONCreateObject (asciiBytes "error") (errorCode result)
  match manager with
  | .timerMcu => root
  | .timerApp =>
      cJSONAddStringToObject
        (cJSONAddStringToObject
          (cJSONAddStringToObject
            (cJSONAddStringToObject root (asciiBytes "userAgent") (asciiBytes "device"))
            (asciiBytes "apikey") identity.ownerUuid)
          (asciiBytes "deviceid") identity.deviceid)
        (asciiBytes "sequence") identity.serverSequenceValue

section IntArrays

/-- The `int` at an index of an object of bytes, low byte first. -/
def intAt (memory : List UInt8) (index : Nat) : Checked Int :=
  match (memory.drop (4 * index)).take 4 with
  | [a, b, c, d] =>
      .ok (sint32 (a.toNat + 256 * b.toNat + 65536 * c.toNat + 16777216 * d.toNat))
  | _ => .error .outside

def cJSONCreateNumber (num : Int) : CJsonItem :=
  .number num num

def cJSONCreateIntArray (numbers : List UInt8) (count : Nat) : Checked CJsonItem := do
  let ints ← (List.range count).mapM (intAt numbers)
  return .array (ints.map cJSONCreateNumber)

end IntArrays

def createIdArray (id : List UInt8) (num : Nat) : Checked CJsonItem :=
  cJSONCreateIntArray id num

def replyUpdateWithId (manager : TimerManage) (identity : Identity) (result : TimerError)
    (id : List UInt8) (num : Nat) : Checked CJsonItem := do
  let cjsonId ← createIdArray id num
  return cJSONAddItemToObject (createBaseObject manager identity result) (asciiBytes "timerID")
    cjsonId

/-- `id[IOTGO_TIMER_NUM]` of `timerNew`, which starts with zeros. -/
def idArray (ids : List UInt8) : List UInt8 :=
  ids ++ List.replicate (iotgoTimerNum - ids.length) 0

section Ids

theorem new_timers_ids {timers : List IotgoTimer} {given ids : List UInt8}
    {table after : TimerTable} (done : newTimers timers given table = (ids, .finished after)) :
    ∃ slots : List (Fin iotgoTimerNum), slots.length = timers.length ∧
      ids = given ++ slots.map idOf := by
  induction timers generalizing given table with
  | nil =>
      cases done
      exact ⟨[], rfl, (List.append_nil _).symm⟩
  | cons timer rest ih =>
      rw [newTimers] at done
      cases produced : timerProductId table with
      | none =>
          rw [produced] at done
          cases done
      | some result =>
          rw [produced] at done
          dsimp only at done
          split at done
          · cases done
          · obtain ⟨slots, length, same⟩ := ih done
            refine ⟨result.1 :: slots, ?_, ?_⟩
            · rw [List.length_cons, List.length_cons, length]
            · rw [same, List.append_assoc]
              rfl

variable {memory : BlockMemory} {state next : TimerState} {timers : List IotgoTimer} {ids : List UInt8}

theorem timer_new_ids
    (done : timerNew memory state timers = some (next, .updateWithId .error0 ids)) :
    ∃ slots : List (Fin iotgoTimerNum), slots.length = timers.length ∧
      ids = slots.map idOf ∧ 1 ≤ timers.length ∧ timers.length ≤ iotgoTimerNum := by
  unfold timerNew at done
  split at done
  · cases done
  · rename_i taken
    rw [not_or, Nat.not_lt] at taken
    cases created : newTimers timers [] state.table with
    | mk given batch =>
        rw [created] at done
        cases batch with
        | outside => cases done
        | refused result table => cases done
        | finished table =>
            cases done
            obtain ⟨slots, length, same⟩ := new_timers_ids created
            exact ⟨slots, length, same, Nat.one_le_iff_ne_zero.2 taken.2, by omega⟩

end Ids

section Reads

variable {memory : List UInt8}

theorem int_at_inside {index : Nat} {value : Int} (read : intAt memory index = .ok value) :
    4 * index + 4 ≤ memory.length := by
  unfold intAt at read
  split at read
  · rename_i a b c d four
    have length := congrArg List.length four
    rw [List.length_take, List.length_drop] at length
    simp only [List.length_cons, List.length_nil] at length
    omega
  · cases read

theorem map_m_ok_mem {Item Value : Type} {run : Item → Checked Value} {items : List Item}
    {values : List Value} (done : items.mapM run = .ok values) :
    ∀ item ∈ items, ∃ value, run item = .ok value := by
  induction items generalizing values with
  | nil => simp
  | cons first rest ih =>
      rw [List.mapM_cons] at done
      obtain ⟨value, here, later⟩ := bind_ok_iff.1 done
      obtain ⟨others, behind, -⟩ := bind_ok_iff.1 later
      intro item member
      rcases List.mem_cons.1 member with rfl | tail
      · exact ⟨value, here⟩
      · exact ih behind item tail

/-- An array of so many `int` is as long as four times as many bytes. -/
theorem create_int_array_inside {count : Nat} {array : CJsonItem} (positive : 1 ≤ count)
    (created : cJSONCreateIntArray memory count = .ok array) : 4 * count ≤ memory.length := by
  obtain ⟨ints, read, -⟩ := bind_ok_iff.1 created
  have member : count - 1 ∈ List.range count := List.mem_range.2 (by omega)
  obtain ⟨value, last⟩ := map_m_ok_mem read (count - 1) member
  have inside := int_at_inside last
  omega

theorem sint32_of_small {value : Int} (lower : -2147483648 ≤ value) (upper : value < 2147483648) :
    sint32 value = value := by
  unfold sint32
  omega

theorem one_int {id b c d : UInt8} {rest : List UInt8} :
    cJSONCreateIntArray (id :: b :: c :: d :: rest) 1 =
      .ok (.array [cJSONCreateNumber
        (sint32 (id.toNat + 256 * b.toNat + 65536 * c.toNat + 16777216 * d.toNat))]) :=
  rfl

theorem two_ints {a b c d e f g h : UInt8} {rest : List UInt8} :
    cJSONCreateIntArray (a :: b :: c :: d :: e :: f :: g :: h :: rest) 2 =
      .ok (.array [cJSONCreateNumber
        (sint32 (a.toNat + 256 * b.toNat + 65536 * c.toNat + 16777216 * d.toNat)),
        cJSONCreateNumber
        (sint32 (e.toNat + 256 * f.toNat + 65536 * g.toNat + 16777216 * h.toNat))]) :=
  rfl

end Reads

section Replies

variable (manager : TimerManage) (identity : Identity)

def idList (ids : List UInt8) : CJsonItem :=
  .array (ids.map fun id => cJSONCreateNumber id.toNat)

/-- No other member of the reply is called `timerID`. -/
theorem timer_id_member (result : TimerError) (item : CJsonItem) :
    cJSONGetObjectItem (cJSONAddItemToObject (createBaseObject manager identity result)
      (asciiBytes "timerID") item) (asciiBytes "timerID") = some item := by
  cases manager with
  | timerMcu => rfl
  | timerApp => rfl

theorem reply_lists_iff {result : TimerError} {id : List UInt8} {num : Nat} {array : CJsonItem} :
    (∃ root, replyUpdateWithId manager identity result id num = .ok root ∧
        cJSONGetObjectItem root (asciiBytes "timerID") = some array) ↔
      createIdArray id num = .ok array := by
  unfold replyUpdateWithId
  constructor
  · rintro ⟨root, replied, found⟩
    obtain ⟨cjsonId, created, last⟩ := bind_ok_iff.1 replied
    cases last
    rw [timer_id_member] at found
    cases found
    exact created
  · intro created
    rw [created]
    exact ⟨_, rfl, timer_id_member manager identity result array⟩

theorem id_below (slot : Fin iotgoTimerNum) : (idOf slot).toNat ≤ 8 := by
  rw [id_of_to_nat]
  exact slot.isLt

/-- A single id is followed by seven zeros, so it is an `int` of the same value. -/
theorem create_one_id (slot : Fin iotgoTimerNum) :
    createIdArray (idArray [idOf slot]) 1 = .ok (idList [idOf slot]) := by
  have small := id_below slot
  change cJSONCreateIntArray (idOf slot :: 0 :: 0 :: 0 :: List.replicate 4 0) 1 = _
  rw [one_int, sint32_of_small (by simp) (by simp; omega)]
  simp [idList]

/-- The second id is the second byte of the first `int`. -/
theorem create_two_ids (first second : Fin iotgoTimerNum) :
    createIdArray (idArray [idOf first, idOf second]) 2 ≠
      .ok (idList [idOf first, idOf second]) := by
  have small := id_below first
  have bound := id_below second
  have positive : (idOf second).toNat ≠ 0 := by
    rw [id_of_to_nat]
    exact Nat.succ_ne_zero _
  change cJSONCreateIntArray (idOf first :: idOf second :: 0 :: 0 :: 0 :: 0 :: 0 :: 0 :: []) 2 ≠ _
  rw [two_ints, sint32_of_small (by simp; omega) (by simp; omega)]
  intro same
  simp only [idList, List.map_cons, cJSONCreateNumber, Except.ok.injEq, CJsonItem.array.injEq,
    List.cons.injEq, CJsonItem.number.injEq] at same
  have clash := same.1.1
  simp at clash
  omega

theorem id_array_length {ids : List UInt8} (short : ids.length ≤ iotgoTimerNum) :
    (idArray ids).length = iotgoTimerNum := by
  rw [idArray, List.length_append, List.length_replicate]
  omega

/-- The reply has the ids that were given, read from the array that holds them, if and only
if there is one. Of two it makes one number, and for more it reads beyond the array. -/
theorem new_reply_lists_ids_iff {memory : BlockMemory} {state next : TimerState}
    {timers : List IotgoTimer} {ids : List UInt8}
    (done : timerNew memory state timers = some (next, .updateWithId .error0 ids)) :
    (∃ root,
        replyUpdateWithId manager identity .error0 (idArray ids) timers.length = .ok root ∧
        cJSONGetObjectItem root (asciiBytes "timerID") = some (idList ids)) ↔
      timers.length = 1 := by
  obtain ⟨slots, length, rfl, positive, short⟩ := timer_new_ids done
  rw [reply_lists_iff, ← length]
  rw [← length] at positive short
  constructor
  · intro created
    have whole := create_int_array_inside positive created
    rw [id_array_length (by simpa using short)] at whole
    change 4 * slots.length ≤ 8 at whole
    by_contra several
    have two : slots.length = 2 := by omega
    obtain ⟨first, second, rfl⟩ := List.length_eq_two.1 two
    exact create_two_ids first second created
  · intro one
    obtain ⟨slot, rfl⟩ := List.length_eq_one_iff.1 one
    exact create_one_id slot

def newTimer : IotgoTimer :=
  { IotgoTimer.zero with enabled := 1, type := .once }

def noTimers : TimerState where
  table := .zero
  flash := fun _ => 255

theorem single_new_reply :
    ∃ next, timerNew .granted noTimers [newTimer] = some (next, .updateWithId .error0 [1]) ∧
      ∃ root, replyUpdateWithId .timerMcu ⟨[], [], []⟩ .error0 (idArray [1]) 1 = .ok root ∧
        cJSONGetObjectItem root (asciiBytes "timerID") = some (idList [1]) :=
  ⟨_, rfl, (new_reply_lists_ids_iff .timerMcu ⟨[], [], []⟩
    (rfl : timerNew .granted noTimers [newTimer] = some (_, .updateWithId .error0 [1]))).2 rfl⟩

/-- The ids 1 and 2 become 513 and 0. -/
theorem two_new_timers_reply :
    ∃ next, timerNew .granted noTimers [newTimer, newTimer] = some (next, .updateWithId .error0 [1, 2]) ∧
      ¬ ∃ root,
        replyUpdateWithId .timerMcu ⟨[], [], []⟩ .error0 (idArray [1, 2]) 2 = .ok root ∧
        cJSONGetObjectItem root (asciiBytes "timerID") = some (idList [1, 2]) := by
  refine ⟨_, rfl, ?_⟩
  rw [reply_lists_iff]
  exact create_two_ids ⟨0, by decide⟩ ⟨1, by decide⟩

end Replies

end IotgoFirmware.Timers.TimerReplies
