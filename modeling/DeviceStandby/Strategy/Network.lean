import DeviceStandby.Lib.AssocMap
import DeviceStandby.Strategy.Exemption
import Mathlib.Data.Finset.Image

/-!
# The network strategy

`BaseNetworkStrategy` and `NetworkStrategy`: while the device sleeps, the device-idle policy of the
net policy service keeps the apps from the network that are not on its trust list. `policy` and
`trustlist` are what that service holds; its calls all succeed. `condition_` is no field here: the
code assigns it from the time provider before every use.
-/

namespace DeviceStandby

open ExemptionTypeFlag AssocMap

/-- `NetLimtedAppInfo`. -/
structure NetLimtedAppInfo where
  name : String := ""
  appExemptionFlag : ExemptionFlag := 0
  deriving DecidableEq

/-- `netLimitedAppInfo_`, by uid. -/
abbrev NetLimitedApps := Map Int NetLimtedAppInfo

/-- Set a flag of an app. -/
def NetLimtedAppInfo.addFlag (flag : ExemptionFlag) (info : NetLimtedAppInfo) : NetLimtedAppInfo :=
  { info with appExemptionFlag := info.appExemptionFlag ||| flag }

/-- Take a flag from an app. -/
def NetLimtedAppInfo.removeFlag (flag : ExemptionFlag) (info : NetLimtedAppInfo) :
    NetLimtedAppInfo :=
  { info with appExemptionFlag := info.appExemptionFlag &&& ~~~flag }

/-- The fields of `NetworkStrategy`, the policy and the trust list of the net policy service, and
the statuses of the DEVICE_NET_IDLE_POLICY_TRANSIT messages that the strategy hands to
`DispatchEvent`. -/
structure NetworkStrategy where
  isFirewallEnabled : Bool := false
  isNightSleepMode : Bool := false
  isIdleMaintence : Bool := false
  netLimitedAppInfo : NetLimitedApps := ∅
  policy : Bool := false
  trustlist : Finset Int := ∅
  posted : List Bool := []

/-- `nightExemptionTaskType_`, which nothing assigns. -/
def nightExemptionTaskType : Nat := 0

/-- `BaseNetworkStrategy::IsFlagExempted`: by night a system app needs another flag as well. -/
def isFlagExempted (condition : ConditionType) (flag : ExemptionFlag) : Bool :=
  if ¬ isExempted flag then false
  else if condition = .nightStandby ∧ ¬ isExempted (flag &&& ~~~UNRESTRICTED) then false
  else true

/-- `BaseNetworkStrategy::GetExemptedFlag`: the first flags do not exempt the app, and the second
do. -/
def getExemptedFlag (condition : ConditionType)
    (appNoExemptionFlag appExemptionFlag : ExemptionFlag) : Bool :=
  if condition = .nightStandby ∧ ¬ isExempted (appNoExemptionFlag &&& ~~~UNRESTRICTED) ∧
      isExempted appExemptionFlag then true
  else if ¬ isExempted appNoExemptionFlag ∧ isExempted appExemptionFlag then true
  else false

/-! ## The apps to restrict -/

namespace NetLimitedApps
variable (scfg : StrategyConfig) (q : Queries)

/-- `BaseNetworkStrategy::AddExemptionFlagByUid`: a flag for an app that runs. -/
def addExemptionFlagByUid (flag : ExemptionFlag) (apps : NetLimitedApps) (uid : Int) :
    NetLimitedApps :=
  apps.modify uid (·.addFlag flag)

/-- `BaseNetworkStrategy::GetAllRunningAppInfo`: an app for each uid that runs, under the name of
its first process. -/
def getAllRunningAppInfo (apps : NetLimitedApps) : Option NetLimitedApps := do
  let allAppProcessInfos ← q.runningProcesses
  return allAppProcessInfos.foldl
    (fun apps info => apps.emplace info.uid { name := info.processName }) apps

/-- The system apps of `BaseNetworkStrategy::InitNetLimitedAppInfo`, among the apps of all users and
those of `SPECIAL_USERID`. -/
def addSystemApps (apps : NetLimitedApps) : Option NetLimitedApps := do
  let _ ← q.applicationInfos
  return (q.applicationInfosSpecial.filter (·.isSystemApp)).foldl
    (fun apps info => addExemptionFlagByUid UNRESTRICTED apps info.uid) apps

/-- `BaseNetworkStrategy::GetForegroundApplications`: a flag for the apps in the foreground. -/
def getForegroundApplications (apps : NetLimitedApps) : Option NetLimitedApps := do
  let fgApps ← q.foregroundApplications
  return fgApps.foldl (fun apps appInfo => addExemptionFlagByUid FOREGROUND_APP apps appInfo.uid)
    apps

/-- The continuous tasks that exempt an app: all by day, those of some types by night. -/
def exemptsContinuousTask (task : ContinuousTaskCallbackInfo) : Bool :=
  q.condition = .dayStandby ∨ nightExemptionTaskType.testBit task.typeId.toNat

/-- `BaseNetworkStrategy::GetBackgroundTaskApp`: flags for continuous and for transient tasks. Both
lists are asked for before a flag is set. -/
def getBackgroundTaskApp (apps : NetLimitedApps) : Option NetLimitedApps := do
  let continuousTaskList ← q.continuousTaskApps
  let transientTaskList ← q.transientTaskApps
  let apps := (continuousTaskList.filter (exemptsContinuousTask q)).foldl
    (fun apps task => addExemptionFlagByUid CONTINUOUS_TASK apps task.creatorUid) apps
  return transientTaskList.foldl
    (fun apps task => addExemptionFlagByUid TRANSIENT_TASK apps task.uid) apps

/-- `BaseNetworkStrategy::GetWorkSchedulerTask`: a flag for the apps with a work that runs. -/
def getWorkSchedulerTask (apps : NetLimitedApps) : Option NetLimitedApps := do
  let workInfos ← q.runningWorks
  return workInfos.foldl (fun apps task => addExemptionFlagByUid WORK_SCHEDULER apps task.uid) apps

/-- The conditional restriction: apps of the list that no flag but UNRESTRICTED exempts. -/
def restrictConditionally (name : String) (value : NetLimtedAppInfo) : NetLimtedAppInfo :=
  if name ∈ scfg.conditionalRestrictNetApp ∧ value.appExemptionFlag &&& ~~~UNRESTRICTED = 0 then
    value.addFlag RESTRICTED
  else value

/-- `BaseNetworkStrategy::GetExemptionConfigForApp`: what the allow list and the configuration say
of one app. -/
def getExemptionConfigForApp (bundleName : String) (appInfo : NetLimtedAppInfo) :
    NetLimtedAppInfo :=
  let appInfo :=
    if bundleName ∈ q.allowNameList .network then appInfo.addFlag EXEMPTION else appInfo
  let appInfo :=
    if bundleName ∈ q.restrictSet .network then appInfo.addFlag RESTRICTED else appInfo
  restrictConditionally scfg bundleName appInfo

/-- `BaseNetworkStrategy::GetExemptionConfig`, whose three loops treat every app alone. -/
def getExemptionConfig (apps : NetLimitedApps) : NetLimitedApps :=
  apps.mapVals fun _ value => getExemptionConfigForApp scfg q value.name value

/-- The rest of `BaseNetworkStrategy::InitNetLimitedAppInfo`, each stage with the apps that it
starts from. A stage that fails has not changed them. -/
def runStages (stages : List (NetLimitedApps → Option NetLimitedApps)) (apps : NetLimitedApps) :
    Bool × NetLimitedApps :=
  match stages with
  | [] => (true, apps)
  | stage :: stages =>
    match stage apps with
    | none => (false, apps)
    | some apps => runStages stages apps

/-- `BaseNetworkStrategy::InitNetLimitedAppInfo`, and whether it returns `ERR_OK`. -/
def initNetLimitedAppInfo (apps : NetLimitedApps) : Bool × NetLimitedApps :=
  runStages [getAllRunningAppInfo q, addSystemApps q, getForegroundApplications q,
    getBackgroundTaskApp q, getWorkSchedulerTask q,
    fun apps => some (getExemptionConfig scfg q apps)] apps

/-- `BaseNetworkStrategy::GetAndCreateAppInfo`: an app that has no record gets one, with the flags
that do not depend on the tasks. -/
def getAndCreateAppInfo (uid : Int) (bundleName : String) (apps : NetLimitedApps) :
    NetLimitedApps :=
  if uid ∈ apps then apps
  else
    let app : NetLimtedAppInfo := { name := bundleName }
    let app := if q.isSystemAppByUid uid then app.addFlag UNRESTRICTED else app
    apps.insert uid (getExemptionConfigForApp scfg q bundleName app)

/-- The uids of `BaseNetworkStrategy::SetNetAllowApps`, as `uint32_t`. -/
def exemptedUids (condition : ConditionType) (apps : NetLimitedApps) : Finset Int :=
  ((apps.filter fun _ value => isFlagExempted condition value.appExemptionFlag).keys.map
    toUInt32).toFinset

end NetLimitedApps

/-! ## What the strategy does -/

namespace NetworkStrategy
variable (scfg : StrategyConfig) (q : Queries)

/-- `NetworkStrategy::SetFirewallAllowedList`: the uids go onto the trust list of the net policy
service, or off it. In a maintenance window none is taken off. -/
def setFirewallAllowedList (uids : Finset Int) (isAdded : Bool) (s : NetworkStrategy) :
    NetworkStrategy :=
  if uids = ∅ then s
  else if ¬ isAdded ∧ s.isIdleMaintence then s
  else { s with trustlist := if isAdded then s.trustlist ∪ uids else s.trustlist \ uids }

/-- `BaseNetworkStrategy::SetNetAllowApps`: the exempted apps of the record are put onto the trust
list, or taken off. -/
def setNetAllowApps (isAllow : Bool) (s : NetworkStrategy) : NetworkStrategy :=
  s.setFirewallAllowedList (NetLimitedApps.exemptedUids q.condition s.netLimitedAppInfo) isAllow

/-- `BaseNetworkStrategy::HandleDeviceIdlePolicy`: the policy is set, and a message tells of it. -/
def handleDeviceIdlePolicy (enableFirewall : Bool) (s : NetworkStrategy) : NetworkStrategy :=
  { s with
    policy := enableFirewall
    posted := s.posted ++ [enableFirewall] }

/-- `BaseNetworkStrategy::ResetFirewallAllowList`: the policy is switched off, and what the net
policy service has on its trust list is taken off. -/
def resetFirewallAllowList (s : NetworkStrategy) : NetworkStrategy :=
  let uids := s.trustlist
  let s := s.handleDeviceIdlePolicy false
  { s with trustlist := s.trustlist \ uids }

/-- `BaseNetworkStrategy::SetFirewallStatus`: the trust list is filled before the policy is switched
on, and emptied after it is switched off. -/
def setFirewallStatus (enableFirewall : Bool) (s : NetworkStrategy) : NetworkStrategy :=
  if enableFirewall then
    (setNetAllowApps q enableFirewall s).handleDeviceIdlePolicy enableFirewall
  else setNetAllowApps q enableFirewall (s.handleDeviceIdlePolicy enableFirewall)

/-- `NetworkStrategy::OnCreated`: nothing of an earlier run stays in the net policy service. -/
def onCreated (s : NetworkStrategy) : NetworkStrategy :=
  s.resetFirewallAllowList

/-- `NetworkStrategy::OnDestroy`: the same. The flags of the strategy and its record stay. -/
def onDestroy (s : NetworkStrategy) : NetworkStrategy :=
  s.resetFirewallAllowList

/-- `netLimitedAppInfo_.clear()`, then `BaseNetworkStrategy::InitNetLimitedAppInfo`. -/
def initApps (s : NetworkStrategy) : Bool × NetworkStrategy :=
  let (ok, apps) := NetLimitedApps.initNetLimitedAppInfo scfg q ∅
  (ok, { s with netLimitedAppInfo := apps })

/-- `BaseNetworkStrategy::UpdateFirewallAllowList`: the record is built anew, and the firewall is
switched on. -/
def updateFirewallAllowList (s : NetworkStrategy) : NetworkStrategy :=
  match initApps scfg q s.resetFirewallAllowList with
  | (false, s) => s
  | (true, s) => { setFirewallStatus q true s with isFirewallEnabled := true }

/-- `BaseNetworkStrategy::EnableNetworkFirewall`, with `EnableNetworkFirewallInner`: as above, when
the firewall is off. -/
def enableNetworkFirewall (s : NetworkStrategy) : NetworkStrategy :=
  if s.isFirewallEnabled then s
  else
    match initApps scfg q s with
    | (false, s) => s
    | (true, s) =>
      { setFirewallStatus q true s with isFirewallEnabled := true, isIdleMaintence := false }

/-- `BaseNetworkStrategy::DisableNetworkFirewallInner`: the restrictions end and the record is
cleared. -/
def disableNetworkFirewallInner (s : NetworkStrategy) : NetworkStrategy :=
  { s.resetFirewallAllowList with netLimitedAppInfo := ∅ }

/-- `BaseNetworkStrategy::DisableNetworkFirewall`: the firewall pauses for a maintenance window of
SLEEP, resumes after it, and ends when the device wakes. -/
def disableNetworkFirewall (preState curState : StandbyState) (s : NetworkStrategy) :
    NetworkStrategy :=
  if curState = .maintenance ∧ preState = .sleep then
    { setFirewallStatus q false s with isIdleMaintence := true, isFirewallEnabled := false }
  else if curState = .sleep ∧ preState = .maintenance then
    { setFirewallStatus q true { s with isIdleMaintence := false } with isFirewallEnabled := true }
  else if preState = .sleep ∨ preState = .maintenance then
    { s.disableNetworkFirewallInner with isIdleMaintence := false, isFirewallEnabled := false }
  else s

/-- `NetworkStrategy::StartNetLimit`: the restrictions begin with a phase of SLEEP. -/
def startNetLimit (curState : StandbyState) (curPhase : Nat) (s : NetworkStrategy) :
    NetworkStrategy :=
  if curState ≠ .sleep ∨ curPhase ≠ SleepStatePhase.APP_RES_DEEP then s
  else enableNetworkFirewall scfg q s

/-- `BaseNetworkStrategy::AddExemptionFlag`: a flag for one app, which is created if need be. An app
that it exempts goes onto the trust list. -/
def addExemptionFlag (uid : Int) (bundleName : String) (flag : ExemptionFlag)
    (s : NetworkStrategy) : NetworkStrategy :=
  if ¬ s.isFirewallEnabled then s
  else
    let apps := NetLimitedApps.getAndCreateAppInfo scfg q uid bundleName s.netLimitedAppInfo
    match apps.lookup uid with
    | none => s
    | some info =>
      let changed := info.addFlag flag
      let changed :=
        if bundleName ∈ scfg.conditionalRestrictNetApp then changed.removeFlag RESTRICTED
        else changed
      let s := { s with netLimitedAppInfo := apps.modify uid fun _ => changed.addFlag flag }
      if getExemptedFlag q.condition info.appExemptionFlag changed.appExemptionFlag then
        s.setFirewallAllowedList {toUInt32 uid} true
      else s

/-- `BaseNetworkStrategy::RemoveExemptionFlag`: an app that is exempted no longer goes off the trust
list. -/
def removeExemptionFlag (uid : Int) (flag : ExemptionFlag) (s : NetworkStrategy) :
    NetworkStrategy :=
  if ¬ s.isFirewallEnabled then s
  else
    match s.netLimitedAppInfo.lookup uid with
    | none => s
    | some info =>
      let changed := NetLimitedApps.restrictConditionally scfg info.name (info.removeFlag flag)
      let s := { s with netLimitedAppInfo := s.netLimitedAppInfo.modify uid fun _ => changed }
      if getExemptedFlag q.condition changed.appExemptionFlag info.appExemptionFlag then
        s.setFirewallAllowedList {toUInt32 uid} false
      else s

/-- `BaseNetworkStrategy::UpdateExemptionList`: a change of the allow list that has the type of the
network. -/
def updateExemptionList (uid : Int) (name : String) (allowType : BitVec 32) (added : Bool)
    (s : NetworkStrategy) : NetworkStrategy :=
  if allowType &&& AllowType.network.mask = 0 then s
  else if ¬ s.isFirewallEnabled then s
  else if added then addExemptionFlag scfg q uid name EXEMPTION s
  else removeExemptionFlag scfg q uid EXEMPTION s

/-- A started task that does not exempt: in the night sleep mode, and by night a continuous task of
a type that is not exempted. -/
def skipsStartedTask (type : String) (typeId : Int) (s : NetworkStrategy) : Bool :=
  s.isNightSleepMode ∨ (q.condition = .nightStandby ∧ type = "continuous_task" ∧
    (typeId < 0 ∨ ¬ nightExemptionTaskType.testBit typeId.toNat))

/-- `BaseNetworkStrategy::UpdateBgTaskAppStatus`: a background task starts or stops. The name is
asked for when the message has none. -/
def updateBgTaskAppStatus (type : String) (started : Bool) (uid : Int) (bundleName : String)
    (typeId : Int) (s : NetworkStrategy) : NetworkStrategy :=
  if ¬ s.isFirewallEnabled then s
  else
    match bgtaskExemptionFlagMap type with
    | none => s
    | some flag =>
      if started ∧ skipsStartedTask q type typeId s then s
      else
        let bundleName := if bundleName = "" then q.clientBundleName uid else bundleName
        if started then addExemptionFlag scfg q uid bundleName flag s
        else removeExemptionFlag scfg q uid flag s

/-- `BaseNetworkStrategy::HandleProcessStatusChanged`: the app of a created process is recorded, and
that of a process that dies is forgotten once the bundle runs no more. -/
def handleProcessStatusChanged (uid : Int) (bundleName : String) (isCreated : Bool)
    (s : NetworkStrategy) : NetworkStrategy :=
  if ¬ s.isFirewallEnabled then s
  else if isCreated then
    let apps := NetLimitedApps.getAndCreateAppInfo scfg q uid bundleName s.netLimitedAppInfo
    let s := { s with netLimitedAppInfo := apps }
    match apps.lookup uid with
    | none => s
    | some info =>
      if ¬ isFlagExempted q.condition info.appExemptionFlag then s
      else s.setFirewallAllowedList {toUInt32 uid} true
  else if q.appRunningState bundleName = some false then
    match s.netLimitedAppInfo.lookup uid with
    | none => s
    | some info =>
      let s := { s with netLimitedAppInfo := s.netLimitedAppInfo.erase uid }
      if ¬ isFlagExempted q.condition info.appExemptionFlag then s
      else s.setFirewallAllowedList {toUInt32 uid} false
  else s

/-- `NetworkStrategy::HandleEvent`. It has no case for SYS_ABILITY_STATUS_CHANGED, the message that
`BaseNetworkStrategy::HandleEvent` answers with `ResetFirewallStatus`. -/
def handleEvent (message : StandbyMessage) (s : NetworkStrategy) : NetworkStrategy :=
  match message with
  | .allowListChanged uid name allowType added =>
    updateExemptionList scfg q uid name allowType added s
  | .resCtrlConditionChanged _ => updateFirewallAllowList scfg q s
  | .phaseTransit curState _ curPhase => startNetLimit scfg q curState curPhase s
  | .stateTransit preState curState => disableNetworkFirewall q preState curState s
  | .bgTaskStatusChange type started uid bundleName typeId =>
    updateBgTaskAppStatus scfg q type started uid bundleName typeId s
  | .processStateChanged uid _ name isCreated =>
    handleProcessStatusChanged scfg q uid name isCreated s
  | _ => s

/-! ## The policy -/

section
variable {scfg q} {s : NetworkStrategy}

/-- The trust list is changed apart from the policy. -/
@[simp] theorem setFirewallAllowedList_policy (uids : Finset Int) (isAdded : Bool) :
    (s.setFirewallAllowedList uids isAdded).policy = s.policy := by
  unfold setFirewallAllowedList
  split_ifs <;> rfl

/-- `SetFirewallStatus` sends the status that it is given to the net policy service. -/
@[simp] theorem setFirewallStatus_policy (enableFirewall : Bool) :
    (setFirewallStatus q enableFirewall s).policy = enableFirewall := by
  cases enableFirewall <;> simp [setFirewallStatus, setNetAllowApps, handleDeviceIdlePolicy]

/-- `ResetFirewallAllowList` switches the policy off. -/
@[simp] theorem resetFirewallAllowList_policy : s.resetFirewallAllowList.policy = false := rfl

/-- An exemption that begins may add to the trust list, and leaves the policy. -/
@[simp] theorem addExemptionFlag_policy (uid : Int) (bundleName : String) (flag : ExemptionFlag) :
    (addExemptionFlag scfg q uid bundleName flag s).policy = s.policy := by
  unfold addExemptionFlag
  split
  · rfl
  · dsimp only
    split
    · rfl
    · split_ifs <;> simp

/-- An exemption that ends may take from the trust list, and leaves the policy. -/
@[simp] theorem removeExemptionFlag_policy (uid : Int) (flag : ExemptionFlag) :
    (removeExemptionFlag scfg q uid flag s).policy = s.policy := by
  unfold removeExemptionFlag
  split
  · rfl
  · split
    · rfl
    · dsimp only
      split_ifs <;> simp

/-- The messages that may switch the policy. -/
def switchesPolicy : StandbyMessage → Bool
  | .resCtrlConditionChanged _ | .phaseTransit .. | .stateTransit .. => true
  | _ => false

/-- Messages about apps leave the policy as it is. -/
theorem handleEvent_policy {message : StandbyMessage} (h : switchesPolicy message = false) :
    (handleEvent scfg q message s).policy = s.policy := by
  cases message with
  | allowListChanged =>
    simp only [handleEvent, updateExemptionList]
    split_ifs <;> simp
  | bgTaskStatusChange =>
    simp only [handleEvent, updateBgTaskAppStatus]
    split
    · rfl
    · split
      · rfl
      · split_ifs <;> simp
  | processStateChanged =>
    simp only [handleEvent, handleProcessStatusChanged]
    split
    · rfl
    · split
      · split
        · rfl
        · split_ifs <;> simp
      · split
        · split
          · rfl
          · split_ifs <;> simp
        · rfl
  | stateTransit | phaseTransit | resCtrlConditionChanged => cases h
  | commonEvent | screenOffHalfHour | sysAbilityStatusChanged | deviceNetIdlePolicyTransit
  | other => rfl

/-- The policy is on only while the reader of the messages is at SLEEP. The strategy may have read
the message before. -/
theorem policy_handleEvent {message : StandbyMessage} {seen : StandbyState}
    (hfits : message.FitsAt seen)
    (h : s.policy = true → seen = .sleep ∨ message.after seen = .sleep)
    (hpolicy : (handleEvent scfg q message s).policy = true) : message.after seen = .sleep := by
  cases hswitch : switchesPolicy message with
  | false =>
    rw [handleEvent_policy hswitch] at hpolicy
    cases message with
    | stateTransit | phaseTransit | resCtrlConditionChanged => cases hswitch
    | _ => exact (h hpolicy).elim id id
  | true =>
    cases message with
    | resCtrlConditionChanged => exact hfits
    | phaseTransit curState prePhase curPhase =>
      by_cases hcur : curState = .sleep
      · subst hcur
        exact hfits
      · simp only [handleEvent, startNetLimit, ne_eq, hcur, not_false_eq_true, true_or,
          if_true] at hpolicy
        exact (h hpolicy).elim id id
    | stateTransit preState curState =>
      obtain rfl : preState = seen := hfits
      simp only [handleEvent, disableNetworkFirewall] at hpolicy
      split_ifs at hpolicy with h1 h2 h3
      · simp at hpolicy
      · exact h2.1
      · simp [disableNetworkFirewallInner] at hpolicy
      · exact (h hpolicy).resolve_left fun hpre => h3 (.inl hpre)
    | _ => cases hswitch

end

end NetworkStrategy

end DeviceStandby
