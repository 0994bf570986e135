import DeviceStandby.Core.Common
import Mathlib.Tactic.SplitIfs

/-!
# Exemption flags and what the strategies ask the platform

Both strategies keep a flag of eight bits for every app they restrict. What they learn from the
platform while they handle one message is a `Queries`, given anew with every message.
-/

namespace DeviceStandby

/-- `ExemptionTypeFlag`: why an app is exempted, or restricted. -/
abbrev ExemptionFlag := BitVec 8

namespace ExemptionTypeFlag

/-- Apps that have applied for a continuous task. -/
abbrev CONTINUOUS_TASK : ExemptionFlag := 1#8
/-- Apps that have applied for a transient task. -/
abbrev TRANSIENT_TASK : ExemptionFlag := 2#8
/-- Apps with a work scheduler task. -/
abbrev WORK_SCHEDULER : ExemptionFlag := 4#8
abbrev FOREGROUND_APP : ExemptionFlag := 8#8
/-- The default exemption of system apps. -/
abbrev UNRESTRICTED : ExemptionFlag := 16#8
/-- Apps in the exemption list, or that have applied for an exemption. -/
abbrev EXEMPTION : ExemptionFlag := 32#8
/-- Apps configured to be restricted. -/
abbrev RESTRICTED : ExemptionFlag := 64#8

/-- `ExemptionTypeFlag::IsExempted`. -/
def isExempted (flag : ExemptionFlag) : Bool :=
  if flag &&& EXEMPTION ≠ 0 then true
  else if flag &&& RESTRICTED ≠ 0 then false
  else flag ≠ 0

end ExemptionTypeFlag

open ExemptionTypeFlag

/-- `BGTASK_EXEMPTION_FLAG_MAP`. -/
def bgtaskExemptionFlagMap (type : String) : Option ExemptionFlag :=
  if type = "continuous_task" then some CONTINUOUS_TASK
  else if type = "transient_task" then some TRANSIENT_TASK
  else if type = "work_scheduler" then some WORK_SCHEDULER
  else none

/-- `AppExecFwk::ApplicationInfo`. -/
structure ApplicationInfo where
  name : String
  uid : Int
  isSystemApp : Bool

/-- `AppExecFwk::RunningProcessInfo`. -/
structure RunningProcessInfo where
  processName : String
  uid : Int
  pid : Int

/-- `AppExecFwk::AppStateData`. -/
structure AppStateData where
  uid : Int
  bundleName : String

/-- `ContinuousTaskCallbackInfo`. -/
structure ContinuousTaskCallbackInfo where
  creatorUid : Int
  typeId : Int

/-- `TransientTaskAppInfo`. -/
structure TransientTaskAppInfo where
  uid : Int
  packageName : String

/-- `WorkScheduler::WorkInfo`. -/
structure WorkInfo where
  uid : Int
  bundleName : String

/-- What the platform and the service answer a strategy; `none` is a call that fails. -/
structure Queries where
  /-- `GetApplicationInfos` of all users. -/
  applicationInfos : Option (List ApplicationInfo)
  /-- The same vector after the further call for `SPECIAL_USERID`, whose failure is ignored. -/
  applicationInfosSpecial : List ApplicationInfo
  runningProcesses : Option (List RunningProcessInfo)
  foregroundApplications : Option (List AppStateData)
  continuousTaskApps : Option (List ContinuousTaskCallbackInfo)
  transientTaskApps : Option (List TransientTaskAppInfo)
  runningWorks : Option (List WorkInfo)
  /-- The names of `GetAllowListInner`. -/
  allowNameList : AllowType → List String
  /-- `GetEligiableRestrictSet`. -/
  restrictSet : AllowType → List String
  /-- `CheckIsSystemAppByUid` succeeds and says so. -/
  isSystemAppByUid : Int → Bool
  /-- `GetAppRunningStateByBundleName`. -/
  appRunningState : String → Option Bool
  clientBundleName : Int → String
  /-- `TimeProvider::GetCondition`. -/
  condition : ConditionType

/-- The configuration of the strategies. -/
structure StrategyConfig where
  /-- `GetStrategyConfigList`. -/
  strategyConfigList : List String
  /-- `GetStandbyListPara("conditional_restrict_net_app")`. -/
  conditionalRestrictNetApp : List String
  /-- `WORK_SCHEDULE_SERVICE_ID`. -/
  workScheduleServiceId : Int
  /-- `BACKGROUND_TASK_MANAGER_SERVICE_ID`. -/
  backgroundTaskManagerServiceId : Int

section
variable {flag mask : ExemptionFlag} {type : String}

/-- An app is exempted by the exemption bit, or by any bit when it is not restricted. -/
theorem isExempted_iff : isExempted flag = true ↔
    flag &&& EXEMPTION ≠ 0 ∨ (flag &&& RESTRICTED = 0 ∧ flag ≠ 0) := by
  unfold isExempted
  by_cases h1 : flag &&& EXEMPTION = 0
  · by_cases h2 : flag &&& RESTRICTED = 0 <;> simp [h1, h2]
  · rw [if_pos h1]
    exact ⟨fun _ => .inl h1, fun _ => rfl⟩

theorem not_and_restricted :
    ∀ mask : ExemptionFlag, mask &&& RESTRICTED = 0 → ~~~mask &&& RESTRICTED = RESTRICTED := by
  decide

/-- Taking flags other than RESTRICTED from an app never exempts it. -/
theorem isExempted_of_remove (hmask : mask &&& RESTRICTED = 0)
    (h : isExempted (flag &&& ~~~mask) = true) : isExempted flag = true := by
  rw [isExempted_iff] at h ⊢
  rcases h with h | ⟨hres, hne⟩
  · refine .inl fun h0 => h ?_
    rw [BitVec.and_assoc, BitVec.and_comm (~~~mask), ← BitVec.and_assoc, h0]
    exact BitVec.zero_and
  · refine .inr ⟨?_, fun h0 => hne ?_⟩
    · rw [BitVec.and_assoc, not_and_restricted mask hmask] at hres
      exact hres
    · rw [h0]
      exact BitVec.zero_and

/-- Adding flags other than RESTRICTED to an app never restricts it. -/
theorem isExempted_of_add (hmask : mask &&& RESTRICTED = 0) (h : isExempted flag = true) :
    isExempted (flag ||| mask) = true := by
  have hor : ∀ other : ExemptionFlag, (flag ||| mask) &&& other =
      flag &&& other ||| mask &&& other := by
    intro other
    rw [BitVec.and_comm, BitVec.and_or_distrib_left, BitVec.and_comm, BitVec.and_comm other]
  rw [isExempted_iff] at h ⊢
  rcases h with h | ⟨hres, hne⟩
  · refine .inl fun h0 => h ?_
    rw [hor] at h0
    exact (BitVec.or_eq_zero_iff.1 h0).1
  · refine .inr ⟨?_, fun h0 => hne (BitVec.or_eq_zero_iff.1 h0).1⟩
    rw [hor, hres, hmask]
    rfl

/-- The flag of a background task is not RESTRICTED. -/
theorem bgtaskExemptionFlagMap_restricted (h : bgtaskExemptionFlagMap type = some flag) :
    flag &&& RESTRICTED = 0 := by
  unfold bgtaskExemptionFlagMap at h
  split_ifs at h <;> cases h <;> rfl

end

end DeviceStandby
