import Mathlib.Algebra.Group.Int.Defs
import Mathlib.Algebra.Group.Nat.Defs
import Mathlib.Tactic.TypeStar

/-!
# Standby states, messages and evaluation parameters

The vocabulary that the state manager, the constraint manager and the strategies share:
`StandbyState`, the phases of NAP and SLEEP, the parameter of a constraint evaluation with the hash
its monitor is registered under, and the messages that `StandbyServiceImpl::DispatchEvent` posts.
-/

namespace DeviceStandby

/-- The standby states, in the order of their numbers. -/
inductive StandbyState where
  | working | dark | nap | maintenance | sleep
  deriving DecidableEq, Repr

/-- The number of a state. -/
def StandbyState.toNat : StandbyState → Nat
  | .working => 0
  | .dark => 1
  | .nap => 2
  | .maintenance => 3
  | .sleep => 4

/-- The number of a state fits into three bits. -/
theorem StandbyState.toNat_le (state : StandbyState) : state.toNat ≤ 4 := by
  cases state <;> decide

/-- Different states have different numbers. -/
theorem StandbyState.toNat_inj {state state' : StandbyState} (h : state.toNat = state'.toNat) :
    state = state' := by
  revert h
  cases state <;> cases state' <;> decide

/-- `NapStatePhase::CONNECTION`. -/
abbrev NapStatePhase.CONNECTION : Nat := 0

/-- `NapStatePhase::END`, after SYS_RES_LIGHT and APP_RES_LIGHT. -/
abbrev NapStatePhase.END : Nat := 3

/-- `SleepStatePhase::SYS_RES_DEEP`. -/
abbrev SleepStatePhase.SYS_RES_DEEP : Nat := 0

/-- `SleepStatePhase::APP_RES_DEEP`, the phase that the strategies start restricting at. -/
abbrev SleepStatePhase.APP_RES_DEEP : Nat := 1

/-- `SleepStatePhase::END`, after SYS_RES_DEEP, APP_RES_DEEP and APP_RES_HARDWARE. -/
abbrev SleepStatePhase.END : Nat := 3

/-- What an evaluation asks for: a transition between two states, an advance of one phase, or the
repeated detection of SLEEP. -/
structure ConstraintEvalParam where
  curState : StandbyState
  curPhase : Nat
  nextState : StandbyState
  nextPhase : Nat
  isRepeatedDetection : Bool := false
  deriving DecidableEq, Repr

/-- `ConstraintEvalParam::GetHashValue`, in `uint32_t` arithmetic. -/
def ConstraintEvalParam.getHashValue (params : ConstraintEvalParam) : Nat :=
  let res := params.curState.toNat * 2 ^ 24 + params.curPhase * 2 ^ 16 +
    params.nextState.toNat * 2 ^ 8 + params.nextPhase * 2
  (if params.isRepeatedDetection then res + 1 else res) % 2 ^ 32

/-- The common events that the state manager tells apart. `userSleepStateChanged` carries the
`isSleep` parameter of its want, `none` when the event has no want. -/
inductive CommonEvent where
  | screenOn
  | screenOff
  | screenUnlocked
  | charging
  | discharging
  | usbDeviceAttached
  | usbDeviceDetached
  | lidOpen
  | enterForceSleep
  | userSleepStateChanged (isSleep : Option Bool)
  | other (action : String)
  deriving DecidableEq, Repr

/-- `ConditionType`: the hours in which restrictions differ. -/
inductive ConditionType where
  | dayStandby | nightStandby
  deriving DecidableEq, Repr

/-- The messages of the handler queue, each with the parameters of its want. `other` stands for the
message kinds that neither the state manager nor a modelled strategy reads. -/
inductive StandbyMessage where
  | commonEvent (action : CommonEvent)
  | stateTransit (previousState currentState : StandbyState)
  | phaseTransit (currentState : StandbyState) (previousPhase currentPhase : Nat)
  | resCtrlConditionChanged (condition : ConditionType)
  | allowListChanged (uid : Int) (name : String) (allowType : BitVec 32) (added : Bool)
  | screenOffHalfHour (status : Bool)
  | bgTaskStatusChange (type : String) (started : Bool) (uid : Int) (bundleName : String)
      (typeId : Int)
  | sysAbilityStatusChanged (isAdded : Bool) (saId : Int)
  | processStateChanged (uid pid : Int) (name : String) (isCreated : Bool)
  | deviceNetIdlePolicyTransit (status : Bool)
  | other (eventId : Nat)
  deriving DecidableEq, Repr

/-- The messages that come from outside the state machine. State, phase and half-hour messages are
posted by the state manager alone, the condition change by the day and night switch. -/
def StandbyMessage.isExternal : StandbyMessage → Bool
  | .stateTransit .. | .phaseTransit .. | .screenOffHalfHour _ | .resCtrlConditionChanged _ => false
  | _ => true

/-- The state that a message leaves its reader at, who follows the STATE_TRANSIT messages. -/
def StandbyMessage.after (seen : StandbyState) : StandbyMessage → StandbyState
  | .stateTransit _ currentState => currentState
  | _ => seen

/-- The message may be read at this state. -/
def StandbyMessage.FitsAt (seen : StandbyState) : StandbyMessage → Prop
  | .stateTransit previousState _ => previousState = seen
  | .phaseTransit .sleep _ _ | .resCtrlConditionChanged _ => seen = .sleep
  | _ => True

/-- The events that wake the device: four of `HandleCommonEvent`, and `LID_OPEN`. -/
def CommonEvent.isWakeUp : CommonEvent → Bool
  | .screenOn | .screenUnlocked | .charging | .usbDeviceAttached | .lidOpen => true
  | _ => false

end DeviceStandby
