import IotgoFirmware.Json.DecimalTexts
import IotgoFirmware.Timers.TimerProc

/-!
# Queries by index

An index counts the timers that are set, in the order of their slots. What a query is
to reply is stated over the list of these timers; the loop that copies them to their
indexes, not to the front, is compared with it.
-/

namespace IotgoFirmware.Timers.TimerQueries

open IotgoFirmware.Library.CFaults
open IotgoFirmware.Library.CJsonItems
open IotgoFirmware.Library.CJsonTrees
open IotgoFirmware.Library.CStrings
open IotgoFirmware.Library.Doubles
open IotgoFirmware.Json.DecimalTexts
open IotgoFirmware.Json.ItemPrinting
open IotgoFirmware.Json.RoundTrips
open IotgoFirmware.Timers.TimerClock
open IotgoFirmware.Timers.TimerFlash
open IotgoFirmware.Timers.TimerJson
open IotgoFirmware.Timers.TimerLayout
open IotgoFirmware.Timers.TimerMap
open IotgoFirmware.Timers.TimerProc
open IotgoFirmware.Timers.TimerRequests

set_option autoImplicit false

section Ranks

/-- The slots that are used, first one first. -/
def usedSlots (table : TimerTable) : List (Fin iotgoTimerNum) :=
  (List.finRange iotgoTimerNum).filter fun slot => (table.timer slot).id ≠ 0

/-- The timers that are set, in the order of their indexes. -/
def usedTimers (table : TimerTable) : List IotgoTimer :=
  (usedSlots table).map table.timer

variable {table : TimerTable}

theorem used_slots_length (invariant : TableInvariant table) :
    (usedSlots table).length = table.timerInfo.timerCnt.toNat := by
  rw [invariant.counted, usedSlots, ← List.toFinset_card_of_nodup]
  · congr 1
    ext slot
    simp [invariant.timers]
  · exact (List.nodup_finRange _).filter _

theorem used_timers_length (invariant : TableInvariant table) :
    (usedTimers table).length = table.timerInfo.timerCnt.toNat := by
  rw [usedTimers, List.length_map, used_slots_length invariant]

theorem used_slot (invariant : TableInvariant table) {slot : Fin iotgoTimerNum}
    (member : slot ∈ usedSlots table) :
    (table.timer slot).id = idOf slot ∧ table.timerId slot = idOf slot := by
  have set : (table.timer slot).id ≠ 0 := by
    simpa using (List.mem_filter.1 member).2
  rw [invariant.timers slot] at set ⊢
  have own := (invariant.ids slot).resolve_left set
  exact ⟨own, own⟩

theorem slot_of_id (slot : Fin iotgoTimerNum) : slotOf (idOf slot) = some slot := by
  have bound : slot.val < iotgoTimerNum := slot.isLt
  have inside : 1 ≤ (idOf slot).toNat ∧ (idOf slot).toNat ≤ iotgoTimerNum := by
    rw [id_of_to_nat]
    exact ⟨Nat.succ_pos _, bound⟩
  rw [slotOf, dif_pos inside]
  refine congrArg some (Fin.ext ?_)
  change (idOf slot).toNat - 1 = slot.val
  rw [id_of_to_nat]
  rfl

variable {world : TimerWorld} {state : TimerState} {index : Nat}

theorem ids_of_used (table : TimerTable) :
    ((List.finRange iotgoTimerNum).map fun slot => (table.timer slot).id).filter (· ≠ 0) =
      (usedTimers table).map IotgoTimer.id := by
  rw [usedTimers, usedSlots, List.filter_map, List.map_map]
  rfl

theorem find_beyond (beyond : state.table.timerInfo.timerCnt.toNat ≤ index) :
    timerFindTimerByIndex state index = 0 :=
  if_pos (.inr beyond)

theorem find_by_index (invariant : TableInvariant state.table)
    (inside : index < state.table.timerInfo.timerCnt.toNat) :
    timerFindTimerByIndex state index ≠ 0 ∧
      timerAtId world state (timerFindTimerByIndex state index) =
        (usedTimers state.table).getD index .zero := by
  have bounded := invariant.bounded
  have range : ¬ (iotgoTimerNum ≤ index ∨ state.table.timerInfo.timerCnt.toNat ≤ index) := by
    omega
  have rank : index < (usedSlots state.table).length := by
    rw [used_slots_length invariant]
    exact inside
  have member : (usedSlots state.table)[index] ∈ usedSlots state.table := List.getElem_mem rank
  have own := (used_slot invariant member).1
  have found : timerFindTimerByIndex state index = idOf (usedSlots state.table)[index] := by
    rw [timerFindTimerByIndex, if_neg range, ids_of_used, usedTimers, List.map_map,
      List.getD_eq_getElem _ _ (by simpa using rank), List.getElem_map]
    exact own
  rw [found]
  refine ⟨id_of_ne_zero _, ?_⟩
  rw [timerAtId, slot_of_id, usedTimers, List.getD_eq_getElem _ _ (by simpa using rank),
    List.getElem_map]

theorem copy_by_index_ok (invariant : TableInvariant state.table) {indices : List Nat}
    (inside : ∀ index ∈ indices, index < state.table.timerInfo.timerCnt.toNat)
    (timers : Nat → IotgoTimer) :
    copyByIndex world state indices timers =
      .ok (some fun other =>
        if other ∈ indices then (usedTimers state.table).getD other .zero else timers other) := by
  induction indices generalizing timers with
  | nil => simp [copyByIndex]
  | cons index rest ih =>
      obtain ⟨first, behind⟩ := List.forall_mem_cons.1 inside
      obtain ⟨present, timer⟩ := @find_by_index world state index invariant first
      have room : index < iotgoTimerNum := lt_of_lt_of_le first invariant.bounded
      rw [copyByIndex, if_neg present, writeTo, if_pos room]
      change copyByIndex world state rest _ = _
      rw [ih behind, timer]
      refine congrArg (fun result => Except.ok (some result)) (funext fun other => ?_)
      by_cases later : other ∈ rest
      · rw [if_pos later, if_pos (List.mem_cons_of_mem index later)]
      · rw [if_neg later]
        by_cases here : other = index
        · rw [if_pos here, here, if_pos List.mem_cons_self]
        · rw [if_neg here, if_neg (by simp [here, later])]

theorem copy_by_index_none (invariant : TableInvariant state.table) {indices : List Nat}
    (beyond : ∃ index ∈ indices, state.table.timerInfo.timerCnt.toNat ≤ index)
    (timers : Nat → IotgoTimer) : copyByIndex world state indices timers = .ok none := by
  induction indices generalizing timers with
  | nil => simp at beyond
  | cons index rest ih =>
      rw [copyByIndex]
      by_cases missing : timerFindTimerByIndex state index = 0
      · rw [if_pos missing]
      · have first : index < state.table.timerInfo.timerCnt.toNat := by
          by_contra past
          exact missing (find_beyond (Nat.not_lt.1 past))
        have room : index < iotgoTimerNum := lt_of_lt_of_le first invariant.bounded
        have later : ∃ index ∈ rest, state.table.timerInfo.timerCnt.toNat ≤ index := by
          obtain ⟨other, member, past⟩ := beyond
          rcases List.mem_cons.1 member with rfl | behind
          · omega
          · exact ⟨other, behind, past⟩
        rw [if_neg missing, writeTo, if_pos room]
        exact ih later _

end Ranks

section Objects

variable {print : CJsonItem → List UInt8} {behind : List UInt8} {start timer : IotgoTimer}
  {object : CJsonItem} {parse : List UInt8 → Option CJsonItem} {double : CDouble}

/-- The first action of the object is the text at `action_do`, whether it is a `do` or a
`startDo`. -/
theorem stored_action_text
    (accepted : generateTimer print behind start object = .ok (some timer)) :
    ∃ action, (actionMembers object).head? = some action ∧ action.2.type = .object ∧
      cString (actionDo timer) = cString (print action.2) := by
  obtain ⟨typed, timed, -, -, done⟩ := generate_timer_parts accepted
  unfold getTimerAction at done
  unfold actionMembers
  split at done
  · rename_i cjsonDo found
    split at done
    · cases done
    · rename_i kind
      exact ⟨("do", cjsonDo), rfl, not_not.1 kind,
        (generated_members accepted).2.2.2.2 cjsonDo found⟩
  · split at done
    · rename_i startDo endDo first second
      split at done
      · cases done
      · rename_i kinds
        rw [not_or, not_not] at kinds
        obtain ⟨started, stored, later⟩ := bind_ok_iff.1 done
        obtain ⟨ended, last, same⟩ := bind_ok_iff.1 later
        cases same
        obtain ⟨fits, rfl⟩ := store_action_parts stored
        obtain ⟨-, rfl⟩ := store_action_parts last
        refine ⟨("startDo", startDo), ?_, kinds.1, ?_⟩
        · simp [first]
        · refine @action_do_text (cString (print startDo)) _ timed.timeAction
            (c_string_nul_free _) fits ?_
          intro index low
          have before : ¬ 100 ≤ index.val := by omega
          dsimp only
          rw [placed, if_neg before]
    · cases done

/-- The timer was made from the JSON object, and may have got another id and have been
switched on or off since. Its numbers are those of an `int` and a `double`. -/
structure Sourced (double : CDouble) (object : CJsonItem) (timer : IotgoTimer) : Prop where
  ints : ∀ action ∈ actionMembers object,
    Every (fun valueint _ => IsInt valueint) (fun _ => True) action.2
  made : ∃ behind start generated,
    generateTimer (printText double) behind start object = .ok (some generated) ∧
    timer = { generated with id := timer.id, enabled := timer.enabled }

/-- No number of the `do` or the `startDo` is printed with a sign behind its point. -/
def StartsDecimal (double : CDouble) (object : CJsonItem) : Prop :=
  ∀ action ∈ (actionMembers object).head?, Every (Decimal double) (fun _ => True) action.2

theorem created_iff (exact : double.Exact) (sourced : Sourced double object timer) :
    (∃ created, createTimerObjcet (parseText double) timer = some created) ↔
      StartsDecimal double object := by
  obtain ⟨behind, start, generated, made, same⟩ := sourced.made
  obtain ⟨action, first, kind, text⟩ := stored_action_text made
  obtain ⟨-, -, ⟨name, -, known⟩, -⟩ := generated_members made
  have ints := sourced.ints action (List.mem_of_head? first)
  have readable := parse_text_iff exact ints kind
  rw [← text] at readable
  have starts : StartsDecimal double object ↔ Every (Decimal double) (fun _ => True) action.2 := by
    simp [StartsDecimal, first]
  rw [starts, ← readable, same]
  constructor
  · rintro ⟨created, done⟩
    obtain ⟨-, -, -, -, read, parsed, -⟩ := created_members done
    exact ⟨read, parsed⟩
  · rintro ⟨read, parsed⟩
    exact @created_of_do (parseText double)
      { generated with id := timer.id, enabled := timer.enabled } read name known
      (parse_text_nil double) parsed

theorem map_m_some_iff {Item Value : Type} {run : Item → Option Value} {items : List Item} :
    (∃ values, items.mapM run = some values) ↔ ∀ item ∈ items, ∃ value, run item = some value := by
  induction items with
  | nil => exact iff_of_true ⟨[], rfl⟩ (List.forall_mem_nil _)
  | cons first rest ih =>
      rw [List.forall_mem_cons, ← ih, List.mapM_cons]
      cases run first with
      | none => simp
      | some value =>
          cases rest.mapM run <;> simp

theorem zero_not_created : createTimerObjcet parse .zero = none := rfl

end Objects

section Queries

variable (world : TimerWorld) (state : TimerState)

/-- A range of timers that are there is answered with these timers, any other one with an
error. -/
def AnswersByIndex (startIndex endIndex : UInt8) : Prop :=
  if startIndex ≤ endIndex ∧ endIndex < state.table.timerInfo.timerCnt then
    ∃ objects,
      timerQueryTimerByIndex world state startIndex endIndex =
        .ok (.timers state.table.timerInfo objects) ∧
      (((usedTimers state.table).drop startIndex.toNat).take
        (endIndex.toNat - startIndex.toNat + 1)).mapM (createTimerObjcet world.parse) =
        some objects
  else timerQueryTimerByIndex world state startIndex endIndex = .ok replyError

variable {world state} {startIndex endIndex : UInt8}

theorem num_to_nat (ordered : startIndex ≤ endIndex) (short : endIndex.toNat < 255) :
    (endIndex - startIndex + 1).toNat = endIndex.toNat - startIndex.toNat + 1 := by
  have order := UInt8.le_iff_toNat_le.1 ordered
  rw [UInt8.toNat_add, UInt8.toNat_sub_of_le _ _ ordered]
  simp
  omega

theorem query_beyond (invariant : TableInvariant state.table)
    (beyond : ¬ (startIndex ≤ endIndex ∧ endIndex < state.table.timerInfo.timerCnt)) :
    timerQueryTimerByIndex world state startIndex endIndex = .ok replyError := by
  unfold timerQueryTimerByIndex
  dsimp only
  split
  · rfl
  · rename_i taken
    rw [not_or, UInt8.not_lt] at taken
    have order := UInt8.le_iff_toNat_le.1 taken.1
    have past : state.table.timerInfo.timerCnt.toNat ≤ endIndex.toNat := by
      by_contra below
      exact beyond ⟨taken.1, UInt8.lt_iff_toNat_lt.2 (Nat.not_le.1 below)⟩
    rw [copy_by_index_none invariant]
    · rfl
    · exact ⟨endIndex.toNat, List.mem_range'_1.2 (by omega), past⟩

theorem query_inside (invariant : TableInvariant state.table) (ordered : startIndex ≤ endIndex)
    (inside : endIndex < state.table.timerInfo.timerCnt) :
    timerQueryTimerByIndex world state startIndex endIndex =
      .ok (replyQueryTimer world state
        ((List.range (endIndex.toNat - startIndex.toNat + 1)).map fun rank =>
          if startIndex.toNat ≤ rank ∧ rank ≤ endIndex.toNat then
            (usedTimers state.table).getD rank .zero
          else .zero)) := by
  have order := UInt8.le_iff_toNat_le.1 ordered
  have below := UInt8.lt_iff_toNat_lt.1 inside
  have bounded : state.table.timerInfo.timerCnt.toNat ≤ 8 := invariant.bounded
  have num : (endIndex - startIndex + 1).toNat = endIndex.toNat - startIndex.toNat + 1 :=
    num_to_nat ordered (by omega)
  have few : ¬ (endIndex < startIndex ∨
      state.table.timerInfo.timerCnt < endIndex - startIndex + 1) := by
    rw [not_or, UInt8.not_lt, UInt8.not_lt, UInt8.le_iff_toNat_le, UInt8.le_iff_toNat_le, num]
    omega
  unfold timerQueryTimerByIndex
  dsimp only
  rw [if_neg few, copy_by_index_ok invariant]
  · rw [num]
    refine congrArg (fun timers => Except.ok (replyQueryTimer world state timers)) ?_
    refine List.map_congr_left fun rank _ => ?_
    have range : rank ∈ List.range' startIndex.toNat (endIndex.toNat - startIndex.toNat + 1) ↔
        startIndex.toNat ≤ rank ∧ rank ≤ endIndex.toNat := by
      rw [List.mem_range'_1]
      omega
    simp only [range]
  · intro index member
    have range := List.mem_range'_1.1 member
    omega

theorem take_used {count : Nat} (enough : count ≤ (usedTimers state.table).length) :
    (List.range count).map (fun rank => (usedTimers state.table).getD rank .zero) =
      (usedTimers state.table).take count := by
  refine List.ext_getElem ?_ ?_
  · rw [List.length_map, List.length_range, List.length_take, Nat.min_eq_left enough]
  · intro rank left right
    rw [List.length_map, List.length_range] at left
    rw [List.getElem_map, List.getElem_range, List.getElem_take,
      List.getD_eq_getElem _ _ (lt_of_lt_of_le left enough)]

theorem query_not_first (invariant : TableInvariant state.table) (ordered : startIndex ≤ endIndex)
    (inside : endIndex < state.table.timerInfo.timerCnt) (later : startIndex ≠ 0) :
    timerQueryTimerByIndex world state startIndex endIndex = .ok replyError := by
  have positive : ¬ startIndex.toNat ≤ 0 := by
    rw [Nat.le_zero]
    intro zero
    exact later (UInt8.toNat_inj.1 zero)
  rw [query_inside invariant ordered inside, List.range_succ_eq_map, List.map_cons,
    if_neg fun both => positive both.1, replyQueryTimer, List.mapM_cons, zero_not_created]
  rfl

theorem query_first_iff (invariant : TableInvariant state.table)
    (inside : endIndex < state.table.timerInfo.timerCnt) :
    (∃ objects, timerQueryTimerByIndex world state 0 endIndex =
        .ok (.timers state.table.timerInfo objects) ∧
      ((usedTimers state.table).take (endIndex.toNat + 1)).mapM
        (createTimerObjcet world.parse) = some objects) ↔
      ∀ timer ∈ (usedTimers state.table).take (endIndex.toNat + 1),
        ∃ created, createTimerObjcet world.parse timer = some created := by
  have below := UInt8.lt_iff_toNat_lt.1 inside
  have count := used_timers_length invariant
  have enough : endIndex.toNat + 1 ≤ (usedTimers state.table).length := by omega
  have copied : ((List.range (endIndex.toNat - (0 : UInt8).toNat + 1)).map fun rank =>
      if (0 : UInt8).toNat ≤ rank ∧ rank ≤ endIndex.toNat then
        (usedTimers state.table).getD rank .zero
      else .zero) = (usedTimers state.table).take (endIndex.toNat + 1) := by
    rw [← take_used enough]
    refine List.map_congr_left fun rank member => if_pos ⟨Nat.zero_le _, ?_⟩
    have bound := List.mem_range.1 member
    exact Nat.le_of_lt_succ bound
  rw [query_inside invariant UInt8.zero_le inside, copied, ← map_m_some_iff, replyQueryTimer]
  constructor
  · rintro ⟨objects, -, created⟩
    exact ⟨objects, created⟩
  · rintro ⟨objects, created⟩
    exact ⟨objects, by rw [created], created⟩

/-- A timer is copied to its index: only ranges that start with the first timer are there
where the reply looks for them. Of these the stored actions have to be parsed again. -/
theorem query_by_index_iff {double : CDouble} (exact : double.Exact)
    (parses : world.parse = parseText double) (invariant : TableInvariant state.table)
    {source : Fin iotgoTimerNum → CJsonItem}
    (accepted : ∀ slot, state.table.timerId slot ≠ 0 →
      Sourced double (source slot) (state.table.timer slot)) :
    AnswersByIndex world state startIndex endIndex ↔
      endIndex < startIndex ∨ state.table.timerInfo.timerCnt ≤ endIndex ∨
        startIndex = 0 ∧ ∀ slot ∈ (usedSlots state.table).take (endIndex.toNat + 1),
          StartsDecimal double (source slot) := by
  unfold AnswersByIndex
  by_cases range : startIndex ≤ endIndex ∧ endIndex < state.table.timerInfo.timerCnt
  · obtain ⟨ordered, inside⟩ := range
    have sources : (∀ timer ∈ (usedTimers state.table).take (endIndex.toNat + 1),
        ∃ created, createTimerObjcet world.parse timer = some created) ↔
        ∀ slot ∈ (usedSlots state.table).take (endIndex.toNat + 1),
          StartsDecimal double (source slot) := by
      rw [usedTimers, ← List.map_take, List.forall_mem_map, parses]
      refine forall₂_congr fun slot member => created_iff exact (accepted slot ?_)
      rw [(used_slot invariant (List.mem_of_mem_take member)).2]
      exact id_of_ne_zero slot
    rw [if_pos ⟨ordered, inside⟩, or_iff_right (UInt8.not_lt.2 ordered),
      or_iff_right (UInt8.not_le.2 inside)]
    by_cases first : startIndex = 0
    · subst first
      rw [← sources, and_iff_right rfl]
      exact query_first_iff invariant inside
    · refine iff_of_false ?_ fun both => first both.1
      rintro ⟨objects, replied, -⟩
      rw [query_not_first invariant ordered inside first] at replied
      cases replied
  · rw [if_neg range]
    refine iff_of_true (query_beyond invariant range) ?_
    by_cases ordered : startIndex ≤ endIndex
    · exact .inr (.inl (UInt8.not_lt.1 fun inside => range ⟨ordered, inside⟩))
    · exact .inl (UInt8.not_le.1 ordered)

end Queries

section Instances

/-- The same timer under the ids 1 and 2. -/
def twoTimers (timer : IotgoTimer) : TimerTable where
  timerInfo := { timerVer := 1, timerCnt := 2 }
  timerId slot := if slot.val < 2 then idOf slot else 0
  timer slot := if slot.val < 2 then { timer with id := idOf slot } else .zero

theorem two_timers_invariant (timer : IotgoTimer) : TableInvariant (twoTimers timer) where
  ids slot := by
    by_cases first : slot.val < 2
    · exact .inr (if_pos first)
    · exact .inl (if_neg first)
  timers slot := by
    unfold twoTimers
    dsimp only
    split <;> rfl
  counted := by
    change 2 = (Finset.univ.filter fun slot : Fin 8 =>
      (if slot.val < 2 then UInt8.ofNat (slot + 1) else 0) ≠ 0).card
    decide
  bounded := by
    change (2 : UInt8).toNat ≤ 8
    decide

def cjsonWorld : TimerWorld where
  memory := .granted
  parse := parseText unrounded
  print := printText unrounded
  behind _ := []
  stray _ := 0
  strayTimer _ := .zero

theorem switch_on_printable : Printable switchOn := by
  refine .object ?_ ?_
  · intro child member
    rw [List.mem_singleton.1 member]
    decide
  · intro child member
    rw [List.mem_singleton.1 member]
    exact .string (by decide)

theorem cron_actions : actionMembers cronObject = [("do", switchOn)] := rfl

theorem two_timers_sourced {timer : IotgoTimer}
    (accepted : generateTimer (printText unrounded) [] .zero cronObject = .ok (some timer))
    {slot : Fin iotgoTimerNum} (used : (twoTimers timer).timerId slot ≠ 0) :
    Sourced unrounded cronObject ((twoTimers timer).timer slot) := by
  unfold twoTimers at used ⊢
  by_cases first : slot.val < 2
  · refine ⟨?_, [], .zero, timer, accepted, ?_⟩
    · rw [cron_actions]
      exact List.forall_mem_singleton.2 (whole_is_int switch_on_printable)
    · dsimp only
      rw [if_pos first]
  · exact absurd (if_neg first) used

theorem cron_timer_made :
    ∃ timer, generateTimer (printText unrounded) [] .zero cronObject = .ok (some timer) :=
  @accepted_of_some (generateTimer (printText unrounded) [] .zero cronObject) (by decide +kernel)

theorem first_timers_answered :
    ∃ timer, generateTimer (printText unrounded) [] .zero cronObject = .ok (some timer) ∧
      AnswersByIndex cjsonWorld ⟨twoTimers timer, fun _ => 255⟩ 0 1 := by
  obtain ⟨timer, accepted⟩ := cron_timer_made
  refine ⟨timer, accepted, (@query_by_index_iff cjsonWorld ⟨twoTimers timer, fun _ => 255⟩ 0 1
    unrounded unrounded_exact rfl (two_timers_invariant timer) (fun _ => cronObject)
    fun slot used => two_timers_sourced accepted used).2 (.inr (.inr ⟨rfl, fun slot _ => ?_⟩))⟩
  unfold StartsDecimal
  rw [cron_actions]
  intro action first
  cases first
  exact every_mono (fun _ _ => whole_decimal unrounded_exact) (fun _ _ => trivial) switch_on_printable

/-- The second of two timers is asked for, and an error replied. -/
theorem second_timer_not_answered :
    ∃ timer, generateTimer (printText unrounded) [] .zero cronObject = .ok (some timer) ∧
      TableInvariant (twoTimers timer) ∧
      (∀ slot, (twoTimers timer).timerId slot ≠ 0 →
        Sourced unrounded cronObject ((twoTimers timer).timer slot)) ∧
      ¬ AnswersByIndex cjsonWorld ⟨twoTimers timer, fun _ => 255⟩ 1 1 := by
  obtain ⟨timer, accepted⟩ := cron_timer_made
  have invariant := two_timers_invariant timer
  have inside : (1 : UInt8) < (twoTimers timer).timerInfo.timerCnt := by
    change (1 : UInt8) < 2
    decide
  refine ⟨timer, accepted, invariant, fun slot used => two_timers_sourced accepted used, ?_⟩
  unfold AnswersByIndex
  rw [if_pos ⟨UInt8.le_refl 1, inside⟩]
  rintro ⟨objects, replied, -⟩
  rw [query_not_first invariant (UInt8.le_refl 1) inside (by decide)] at replied
  cases replied

end Instances

end IotgoFirmware.Timers.TimerQueries
