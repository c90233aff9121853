import IotgoFirmware.Mcu.CmdHandlers

/-!
# Timer commands and the requests they run

`processTimerUpdateWithParamCmd` names the request to `timerProcUpdate` by a
`timerAct` that it puts behind the members the MCU sent. `timerProcUpdate` reads the
first member of that name, in any letter case, so that a `timerAct` which the MCU
sent itself goes before the one of the command.
-/

namespace IotgoFirmware.Mcu.TimerCommands

open IotgoFirmware.Library.CFaults
open IotgoFirmware.Library.CJsonItems
open IotgoFirmware.Library.CStrings
open IotgoFirmware.Mcu.CmdHandlers
open IotgoFirmware.Timers.TimerProc
open IotgoFirmware.Timers.TimerFlash
open IotgoFirmware.Timers.TimerRequests

set_option autoImplicit false

section Requests

/-- The requests of `timerProcUpdate`. -/
inductive TimerAct where
  | del
  | new
  | edit
  | enable
  | disable
  | delAll
  | enableAll
  | disableAll
deriving DecidableEq

def TimerAct.text : TimerAct → List UInt8
  | .del => asciiBytes "del"
  | .new => asciiBytes "new"
  | .edit => asciiBytes "edit"
  | .enable => asciiBytes "enable"
  | .disable => asciiBytes "disable"
  | .delAll => asciiBytes "delAll"
  | .enableAll => asciiBytes "enableAll"
  | .disableAll => asciiBytes "disableAll"

def timerActs : List TimerAct :=
  [.del, .new, .edit, .enable, .disable, .delAll, .enableAll, .disableAll]

/-- The branch of `timerProcUpdate` that is taken; `none` is its error. -/
def requestedAct (cjsonParams : CJsonItem) : Checked (Option TimerAct) :=
  match cJSONGetObjectItem cjsonParams (asciiBytes "timerAct") with
  | none => .ok none
  | some cjsonTimerAct => do
      let text ← deref cjsonTimerAct.valuestring
      return timerActs.find? fun act => cString text = act.text

variable (world : TimerWorld) (state : TimerState)

/-- The bodies of the branches. -/
def runAct (cjsonParams : CJsonItem) : TimerAct → Checked (TimerState × TimerReply)
  | .del => withMember state cjsonParams "timerID" (procDel world state)
  | .new => withMember state cjsonParams "timer" (procNew world state)
  | .edit => withMember state cjsonParams "timer" (procEdit world state)
  | .enable => withMember state cjsonParams "timerID" (procEnable world state)
  | .disable => withMember state cjsonParams "timerID" (procDisable world state)
  | .delAll => execute world state .delAll
  | .enableAll => execute world state .enableAll
  | .disableAll => execute world state .disableAll

theorem timer_act_text_injective {left right : TimerAct} (same : left.text = right.text) :
    left = right := by
  revert same
  cases left <;> cases right <;> decide

theorem timer_act_listed (act : TimerAct) : act ∈ timerActs := by
  cases act <;> decide

theorem find_act_some_iff {text : List UInt8} {act : TimerAct} :
    timerActs.find? (fun act => text = act.text) = some act ↔ text = act.text := by
  constructor
  · intro found
    exact of_decide_eq_true (List.find?_some (p := fun act : TimerAct => decide (text = act.text)) found)
  · intro same
    cases found : timerActs.find? (fun act => text = act.text) with
    | none =>
        have differs := List.find?_eq_none.1 found act (timer_act_listed act)
        exact absurd same (by simpa using differs)
    | some other =>
        have fits : text = other.text :=
          of_decide_eq_true (List.find?_some (p := fun act : TimerAct => decide (text = act.text)) found)
        rw [timer_act_text_injective (fits.symm.trans same)]

theorem proc_act_text (cjsonParams : CJsonItem) (act : TimerAct) :
    procAct world state cjsonParams act.text = runAct world state cjsonParams act := by
  cases act <;> rfl

theorem proc_act_eq (cjsonParams : CJsonItem) (text : List UInt8) :
    procAct world state cjsonParams text =
      (timerActs.find? fun act => text = act.text).elim (procError state)
        (runAct world state cjsonParams) := by
  cases found : timerActs.find? fun act => text = act.text with
  | some act =>
      rw [find_act_some_iff.1 found]
      exact proc_act_text world state cjsonParams act
  | none =>
      have differs : ∀ act : TimerAct, text ≠ act.text := by
        intro act
        simpa using List.find?_eq_none.1 found act (timer_act_listed act)
      unfold procAct
      rw [if_neg (c := text = asciiBytes "del") (differs .del),
        if_neg (c := text = asciiBytes "new") (differs .new),
        if_neg (c := text = asciiBytes "edit") (differs .edit),
        if_neg (c := text = asciiBytes "enable") (differs .enable),
        if_neg (c := text = asciiBytes "disable") (differs .disable),
        if_neg (c := text = asciiBytes "delAll") (differs .delAll),
        if_neg (c := text = asciiBytes "enableAll") (differs .enableAll),
        if_neg (c := text = asciiBytes "disableAll") (differs .disableAll)]
      rfl

theorem timer_proc_update_eq (cjsonParams : CJsonItem) :
    timerProcUpdate world state cjsonParams =
      requestedAct cjsonParams >>= fun act =>
        act.elim (procError state) (runAct world state cjsonParams) := by
  unfold timerProcUpdate requestedAct
  cases cJSONGetObjectItem cjsonParams (asciiBytes "timerAct") with
  | none => rfl
  | some item =>
      dsimp only
      cases item.valuestring with
      | none => rfl
      | some text =>
          exact proc_act_eq world state cjsonParams (cString text)

end Requests

section Commands

/-- The commands with an object as their argument. -/
inductive ParamCommand where
  | tmrNew
  | tmrEdit
  | tmrDel
  | tmrEnable
  | tmrDisable

def ParamCommand.name : ParamCommand → List UInt8
  | .tmrNew => asciiBytes "tmrNew"
  | .tmrEdit => asciiBytes "tmrEdit"
  | .tmrDel => asciiBytes "tmrDel"
  | .tmrEnable => asciiBytes "tmrEnable"
  | .tmrDisable => asciiBytes "tmrDisable"

/-- The request that the name of the command says. -/
def ParamCommand.act : ParamCommand → TimerAct
  | .tmrNew => .new
  | .tmrEdit => .edit
  | .tmrDel => .del
  | .tmrEnable => .enable
  | .tmrDisable => .disable

/-- The object as it is handed to `timerProcUpdate`. -/
def withTimerAct (command : ParamCommand) (members : List (List UInt8 × CJsonItem)) : CJsonItem :=
  cJSONAddStringToObject (.object members) (asciiBytes "timerAct") command.act.text

/-- No `timerAct` in any letter case among the members, or the first of them is the
action of the command. -/
def OwnAct (command : ParamCommand) (members : List (List UInt8 × CJsonItem)) : Prop :=
  ∀ member, members.find? (fun member => sameName member.1 (asciiBytes "timerAct")) = some member →
    ∃ text, member.2 = .string text ∧ cString text = command.act.text

theorem timer_act_of_name (command : ParamCommand) :
    timerActOf (cString command.name) = some command.act.text := by
  cases command <;> decide

theorem param_command_eq (world : TimerWorld) (state : CmdState) (command : ParamCommand)
    (members : List (List UInt8 × CJsonItem)) :
    processTimerUpdateWithParamCmd world state
        (.array [.string command.name, .object members]) =
      updateTimers world state (withTimerAct command members) := by
  have size : cJSONGetArraySize (.array [.string command.name, .object members]) = 2 := rfl
  have args : ¬ ((CJsonItem.array [.string command.name, .object members]).type ≠ .array ∨
      cJSONGetArraySize (.array [.string command.name, .object members]) ≠ 2) := by
    rw [not_or, not_not, not_not]
    exact ⟨rfl, size⟩
  have name : cJSONGetArrayItem (.array [.string command.name, .object members]) 0 =
      some (.string command.name) := rfl
  have object : cJSONGetArrayItem (.array [.string command.name, .object members]) 1 =
      some (.object members) := rfl
  rw [processTimerUpdateWithParamCmd, if_neg args, name, object]
  simp only [timer_act_of_name]
  rfl

theorem first_timer_act (command : ParamCommand) (members : List (List UInt8 × CJsonItem)) :
    cJSONGetObjectItem (withTimerAct command members) (asciiBytes "timerAct") =
      ((members.find? fun member => sameName member.1 (asciiBytes "timerAct")).map Prod.snd).or
        (some (.string command.act.text)) := by
  have own : [(asciiBytes "timerAct", CJsonItem.string command.act.text)].find?
      (fun member => sameName member.1 (asciiBytes "timerAct")) =
        some (asciiBytes "timerAct", .string command.act.text) := rfl
  rw [withTimerAct, cJSONAddStringToObject, cJSONAddItemToObject, cJSONGetObjectItem,
    List.find?_append, own]
  cases members.find? fun member => sameName member.1 (asciiBytes "timerAct") with
  | none => rfl
  | some member => rfl

theorem text_nul_free (act : TimerAct) : cString act.text = act.text := by
  cases act <;> decide

theorem requested_act_iff (command : ParamCommand) (members : List (List UInt8 × CJsonItem)) :
    requestedAct (withTimerAct command members) = .ok (some command.act) ↔
      OwnAct command members := by
  unfold requestedAct OwnAct
  rw [first_timer_act]
  cases found : members.find? fun member => sameName member.1 (asciiBytes "timerAct") with
  | none =>
      refine iff_of_true ?_ fun member none => by cases none
      have own := find_act_some_iff.2 (text_nul_free command.act)
      refine bind_ok_iff.2 ⟨command.act.text, rfl, ?_⟩
      exact congrArg Except.ok own
  | some member =>
      simp only [Option.map_some, Option.some_or, Option.some.injEq, forall_eq']
      constructor
      · intro read
        obtain ⟨text, string, same⟩ := bind_ok_iff.1 read
        have isText := valuestring_some_iff.1 (deref_ok_iff.1 string)
        have act := find_act_some_iff.1 (Except.ok.inj same)
        exact ⟨text, isText, act⟩
      · rintro ⟨text, isText, act⟩
        rw [isText]
        refine bind_ok_iff.2 ⟨text, rfl, ?_⟩
        exact congrArg Except.ok (find_act_some_iff.2 act)

end Commands

/-- The command runs a request of `timerProcUpdate` with its object, and that is the
request of its name just when the MCU sent no other `timerAct`. -/
theorem timer_command_runs_own_request_iff (command : ParamCommand)
    (members : List (List UInt8 × CJsonItem)) :
    (∀ (world : TimerWorld) (state : CmdState),
      processTimerUpdateWithParamCmd world state (.array [.string command.name, .object members]) =
        (do
          let act ← requestedAct (withTimerAct command members)
          let done ← act.elim (procError state.timers)
            (runAct world state.timers (withTimerAct command members))
          return (.success, ({ state with timers := done.1 }.emit
            (.frame (.timers (.update done.2)))).emit .postUpdateTimer))) ∧
    (requestedAct (withTimerAct command members) = .ok (some command.act) ↔
      OwnAct command members) := by
  refine ⟨fun world state => ?_, requested_act_iff command members⟩
  rw [param_command_eq, updateTimers, timer_proc_update_eq, bind_assoc]

/-- `["tmrNew",{"timerAct":"delAll"}]` deletes all timers. -/
theorem tmr_new_deletes_all :
    requestedAct (withTimerAct .tmrNew [(asciiBytes "timerAct", .string (asciiBytes "delAll"))]) =
        .ok (some .delAll) ∧
      ¬ ∀ (command : ParamCommand) (members : List (List UInt8 × CJsonItem)),
        requestedAct (withTimerAct command members) = .ok (some command.act) := by
  have run : requestedAct
      (withTimerAct .tmrNew [(asciiBytes "timerAct", .string (asciiBytes "delAll"))]) =
        .ok (some .delAll) := rfl
  refine ⟨run, fun own => ?_⟩
  have same := run.symm.trans (own .tmrNew _)
  cases same

end IotgoFirmware.Mcu.TimerCommands
