import DeviceStandby.Lib.AssocMap
import DeviceStandby.Strategy.Exemption
import Mathlib.Data.Finset.Image

/-!
# The running lock strategy

`RunningLockStrategy` proxies the running locks of the apps that are not exempted while the device
sleeps. `proxied` is what the power manager then holds: the calls of `ProxyRunningLocks` all
succeed, and no function of the strategy reads it back.
-/

namespace DeviceStandby

open ExemptionTypeFlag AssocMap

/-- `ProxiedProcInfo`: an app and its processes. -/
structure ProxiedProcInfo where
  name : String := ""
  uid : Int := -1
  pids : Finset Int := ∅
  appExemptionFlag : ExemptionFlag := 0
  deriving DecidableEq

/-- Set a flag of an app. -/
def ProxiedProcInfo.addFlag (flag : ExemptionFlag) (info : ProxiedProcInfo) : ProxiedProcInfo :=
  { info with appExemptionFlag := info.appExemptionFlag ||| flag }

/-- Take a flag from an app. -/
def ProxiedProcInfo.removeFlag (flag : ExemptionFlag) (info : ProxiedProcInfo) : ProxiedProcInfo :=
  { info with appExemptionFlag := info.appExemptionFlag &&& ~~~flag }

/-- `RunningLockStrategy::SetProxiedAppList`: the pairs of a pid and its uid. -/
def ProxiedProcInfo.proxiedAppList (info : ProxiedProcInfo) : Finset (Int × Int) :=
  info.pids.image fun pid => (pid, info.uid)

/-- The app is restricted. -/
def ProxiedProcInfo.restricted (info : ProxiedProcInfo) : Bool :=
  !isExempted info.appExemptionFlag

/-- The two maps that `ClearProxyRecord` clears. -/
structure ProxyRecord where
  proxiedAppInfo : Map String ProxiedProcInfo := ∅
  uidBundleNmeMap : Map Int String := ∅

/-- The fields of `RunningLockStrategy`, and the running locks that are proxied, each as a pid with
its uid. -/
structure RunningLockStrategy where
  isProxied : Bool := false
  isIdleMaintence : Bool := false
  record : ProxyRecord := {}
  proxied : Finset (Int × Int) := ∅

/-! ## The apps to restrict -/

namespace ProxyRecord
variable (q : Queries)

/-- The loop body of `RunningLockStrategy::GetAllAppInfos`. -/
def addApplication (r : ProxyRecord) (info : ApplicationInfo) : ProxyRecord :=
  let key := mapKey info.uid info.name
  let apps := r.proxiedAppInfo.emplace key { name := info.name, uid := info.uid }
  { uidBundleNmeMap := r.uidBundleNmeMap.emplace info.uid info.name
    proxiedAppInfo :=
      if info.isSystemApp then apps.modify key (·.addFlag UNRESTRICTED) else apps }

/-- `RunningLockStrategy::GetAllAppInfos`. -/
def getAllAppInfos (r : ProxyRecord) : Option ProxyRecord := do
  let applicationInfos ← q.applicationInfos
  return applicationInfos.foldl addApplication r

/-- The loop body of `RunningLockStrategy::GetAllRunningAppInfo` for a process of a known app. -/
def addProcess (r : ProxyRecord) (info : RunningProcessInfo) : ProxyRecord :=
  match r.uidBundleNmeMap.lookup info.uid with
  | none => r
  | some bundleName =>
    let key := mapKey info.uid bundleName
    { r with
      proxiedAppInfo :=
        (r.proxiedAppInfo.emplace key { name := info.processName, uid := info.uid }).modify key
          fun app => { app with pids := insert info.pid app.pids } }

/-- `RunningLockStrategy::GetAllRunningAppInfo`: the processes of the apps, and no app that does not
run. -/
def getAllRunningAppInfo (r : ProxyRecord) : Option ProxyRecord := do
  let allAppProcessInfos ← q.runningProcesses
  let runningUids := (allAppProcessInfos.map (·.uid)).filter (· ∈ r.uidBundleNmeMap)
  let r := allAppProcessInfos.foldl addProcess r
  return { r with
    proxiedAppInfo := r.proxiedAppInfo.filter fun _ info => info.uid ∈ runningUids }

/-- Set a flag of the app under a key, if there is one. -/
def setFlag (flag : ExemptionFlag) (r : ProxyRecord) (key : String) : ProxyRecord :=
  { r with proxiedAppInfo := r.proxiedAppInfo.modify key (·.addFlag flag) }

/-- `RunningLockStrategy::GetForegroundApplications`. -/
def getForegroundApplications (r : ProxyRecord) : Option ProxyRecord := do
  let fgApps ← q.foregroundApplications
  return fgApps.foldl
    (fun r appInfo => r.setFlag FOREGROUND_APP (mapKey appInfo.uid appInfo.bundleName)) r

/-- The loop body of `RunningLockStrategy::GetBackgroundTaskApp` for a continuous task, whose app is
known by its uid. -/
def addContinuousTask (r : ProxyRecord) (task : ContinuousTaskCallbackInfo) : ProxyRecord :=
  match r.uidBundleNmeMap.lookup task.creatorUid with
  | none => r
  | some bundleName => r.setFlag CONTINUOUS_TASK (mapKey task.creatorUid bundleName)

/-- `RunningLockStrategy::GetBackgroundTaskApp`. -/
def getBackgroundTaskApp (r : ProxyRecord) : Option ProxyRecord := do
  let continuousTaskList ← q.continuousTaskApps
  let transientTaskList ← q.transientTaskApps
  return transientTaskList.foldl
    (fun r task => r.setFlag TRANSIENT_TASK (mapKey task.uid task.packageName))
    (continuousTaskList.foldl addContinuousTask r)

/-- `RunningLockStrategy::GetWorkSchedulerTask`. -/
def getWorkSchedulerTask (r : ProxyRecord) : Option ProxyRecord := do
  let workInfos ← q.runningWorks
  return workInfos.foldl
    (fun r task => r.setFlag WORK_SCHEDULER (mapKey task.uid task.bundleName)) r

/-- `RunningLockStrategy::GetExemptionConfig`. -/
def getExemptionConfig (r : ProxyRecord) : ProxyRecord :=
  { r with
    proxiedAppInfo := r.proxiedAppInfo.mapVals fun _ value =>
      let value :=
        if value.name ∈ q.allowNameList .runningLock then value.addFlag EXEMPTION else value
      if value.name ∈ q.restrictSet .runningLock then value.addFlag RESTRICTED else value }

/-- `RunningLockStrategy::InitProxiedAppInfo` on the cleared record. Its caller clears the record
again when it fails. -/
def initProxiedAppInfo : Option ProxyRecord := do
  let r ← getAllAppInfos q {}
  let r ← getAllRunningAppInfo q r
  let r ← getForegroundApplications q r
  let r ← getBackgroundTaskApp q r
  let r ← getWorkSchedulerTask q r
  return { getExemptionConfig q r with uidBundleNmeMap := ∅ }

/-- The list of `RunningLockStrategy::ProxyAppAndProcess`: the processes of the restricted apps. -/
def proxiedAppList (r : ProxyRecord) : Finset (Int × Int) :=
  (r.proxiedAppInfo.values.filter (·.restricted)).foldr (fun value l => value.proxiedAppList ∪ l) ∅

/-- `RunningLockStrategy::GetExemptionConfigForApp`. It asks for the lists of the network. -/
def getExemptionConfigForApp (bundleName : String) (appInfo : ProxiedProcInfo) : ProxiedProcInfo :=
  let appInfo :=
    if bundleName ∈ q.allowNameList .network then appInfo.addFlag EXEMPTION else appInfo
  if bundleName ∈ q.restrictSet .network then appInfo.addFlag RESTRICTED else appInfo

/-- `RunningLockStrategy::GetAndCreateAppInfo`. Its parameters are `uint32_t`: the fields get uid
and pid back as they were, the key does not get a negative uid. -/
def getAndCreateAppInfo (uid pid : Int) (bundleName : String) (r : ProxyRecord) : ProxyRecord :=
  let key := mapKey (toUInt32 uid) bundleName
  match r.proxiedAppInfo.lookup key with
  | some _ =>
    { r with
      proxiedAppInfo := r.proxiedAppInfo.modify key
        fun app => { app with pids := insert pid app.pids } }
  | none =>
    let app : ProxiedProcInfo := { name := bundleName, uid := uid, pids := {pid} }
    let app := if q.isSystemAppByUid uid then app.addFlag UNRESTRICTED else app
    { r with
      proxiedAppInfo := r.proxiedAppInfo.insert key (getExemptionConfigForApp q bundleName app) }

end ProxyRecord

/-! ## What the strategy does -/

namespace RunningLockStrategy
variable (scfg : StrategyConfig) (q : Queries)

/-- `RunningLockStrategy::ProxyRunningLockList`. -/
def proxyRunningLockList (isProxied : Bool) (proxiedAppList : Finset (Int × Int))
    (s : RunningLockStrategy) : RunningLockStrategy :=
  if proxiedAppList = ∅ then s
  else if s.isIdleMaintence then s
  else if isProxied then { s with proxied := s.proxied ∪ proxiedAppList }
  else { s with proxied := s.proxied \ proxiedAppList }

/-- `RunningLockStrategy::ProxyAppAndProcess`. -/
def proxyAppAndProcess (isProxied : Bool) (s : RunningLockStrategy) : RunningLockStrategy :=
  s.proxyRunningLockList isProxied s.record.proxiedAppList

/-- `RunningLockStrategy::ClearProxyRecord`. -/
def clearProxyRecord (s : RunningLockStrategy) : RunningLockStrategy :=
  { s with record := {} }

/-- `RunningLockStrategy::OnCreated`: `ResetRunningLocks`. -/
def onCreated (s : RunningLockStrategy) : RunningLockStrategy :=
  { s with proxied := ∅ }

/-- `RunningLockStrategy::OnDestroy`. The record stays. -/
def onDestroy (s : RunningLockStrategy) : RunningLockStrategy :=
  let s := if s.isProxied ∧ ¬ s.isIdleMaintence then s.proxyAppAndProcess false else s
  { s with isProxied := false, isIdleMaintence := false }

/-- Change the flag of the app under a key. -/
def modifyApp (key : String) (f : ProxiedProcInfo → ProxiedProcInfo) (s : RunningLockStrategy) :
    RunningLockStrategy :=
  { s with record.proxiedAppInfo := s.record.proxiedAppInfo.modify key f }

/-- `RunningLockStrategy::AddExemptionFlag`. -/
def addExemptionFlag (uid : Int) (name : String) (flag : ExemptionFlag)
    (s : RunningLockStrategy) : RunningLockStrategy :=
  if ¬ s.isProxied then s
  else
    match s.record.proxiedAppInfo.lookup (mapKey uid name) with
    | none => s
    | some info =>
      let s := s.modifyApp (mapKey uid name) (·.addFlag flag)
      if info.restricted ∧ ¬ (info.addFlag flag).restricted then
        s.proxyRunningLockList false info.proxiedAppList
      else s

/-- `RunningLockStrategy::RemoveExemptionFlag`. -/
def removeExemptionFlag (uid : Int) (name : String) (flag : ExemptionFlag)
    (s : RunningLockStrategy) : RunningLockStrategy :=
  match s.record.proxiedAppInfo.lookup (mapKey uid name) with
  | none => s
  | some info =>
    let s := s.modifyApp (mapKey uid name) (·.removeFlag flag)
    if ¬ (info.removeFlag flag).restricted ∨ info.restricted then s
    else s.proxyRunningLockList true info.proxiedAppList

/-- `RunningLockStrategy::UpdateExemptionList`. -/
def updateExemptionList (uid : Int) (name : String) (allowType : BitVec 32) (added : Bool)
    (s : RunningLockStrategy) : RunningLockStrategy :=
  if allowType &&& AllowType.runningLock.mask = 0 then s
  else if ¬ s.isProxied then s
  else if added then s.addExemptionFlag uid name EXEMPTION
  else s.removeExemptionFlag uid name EXEMPTION

/-- `RunningLockStrategy::StartProxyInner`, and whether it returns `ERR_OK`. -/
def startProxyInner (s : RunningLockStrategy) : Bool × RunningLockStrategy :=
  let s := s.clearProxyRecord
  match ProxyRecord.initProxiedAppInfo q with
  | none => (false, s)
  | some record => (true, { s with record := record }.proxyAppAndProcess true)

/-- `RunningLockStrategy::StopProxyInner`. -/
def stopProxyInner (s : RunningLockStrategy) : RunningLockStrategy :=
  (s.proxyAppAndProcess false).clearProxyRecord

/-- `RunningLockStrategy::UpdateResourceConfig`. -/
def updateResourceConfig (s : RunningLockStrategy) : RunningLockStrategy :=
  (startProxyInner q s.stopProxyInner).2

/-- `RunningLockStrategy::StartProxy`. -/
def startProxy (curState : StandbyState) (curPhase : Nat) (s : RunningLockStrategy) :
    RunningLockStrategy :=
  if s.isProxied then s
  else if curState ≠ .sleep ∨ curPhase ≠ SleepStatePhase.APP_RES_DEEP then s
  else
    match startProxyInner q s with
    | (true, s) => { s with isProxied := true, isIdleMaintence := false }
    | (false, s) => s

/-- `RunningLockStrategy::StopProxy`. -/
def stopProxy (preState curState : StandbyState) (s : RunningLockStrategy) : RunningLockStrategy :=
  if ¬ s.isProxied then s
  else if curState = .maintenance ∧ preState = .sleep then
    { s.proxyAppAndProcess false with isIdleMaintence := true }
  else if curState = .sleep ∧ preState = .maintenance then
    { s with isIdleMaintence := false }.proxyAppAndProcess true
  else if preState = .sleep ∨ preState = .maintenance then
    { s.stopProxyInner with isProxied := false, isIdleMaintence := false }
  else s

/-- `RunningLockStrategy::UpdateBgTaskAppStatus`. -/
def updateBgTaskAppStatus (type : String) (started : Bool) (uid : Int) (bundleName : String)
    (s : RunningLockStrategy) : RunningLockStrategy :=
  match bgtaskExemptionFlagMap type with
  | none => s
  | some flag =>
    let bundleName := if bundleName = "" then q.clientBundleName uid else bundleName
    if started then s.addExemptionFlag uid bundleName flag
    else s.removeExemptionFlag uid bundleName flag

/-- The loop body of `RunningLockStrategy::ResetProxyStatus`. -/
def resetBgTaskFlag (s : RunningLockStrategy) (key : String) : RunningLockStrategy :=
  let bgTaskFlag := TRANSIENT_TASK ||| WORK_SCHEDULER
  match s.record.proxiedAppInfo.lookup key with
  | none => s
  | some value =>
    if value.appExemptionFlag &&& bgTaskFlag = 0 then s
    else s.removeExemptionFlag value.uid value.name (value.appExemptionFlag &&& bgTaskFlag)

/-- `RunningLockStrategy::ResetProxyStatus`. -/
def resetProxyStatus (isAdded : Bool) (saId : Int) (s : RunningLockStrategy) :
    RunningLockStrategy :=
  if ¬ s.isProxied ∨ s.isIdleMaintence then s
  else if isAdded then s
  else if saId ≠ scfg.workScheduleServiceId ∧ saId ≠ scfg.backgroundTaskManagerServiceId then s
  else s.record.proxiedAppInfo.keys.foldl resetBgTaskFlag s

/-- `RunningLockStrategy::HandleProcessStatusChanged`. The lookup of a created process is
`operator[]`, which inserts a default value. -/
def handleProcessStatusChanged (uid pid : Int) (bundleName : String) (isCreated : Bool)
    (s : RunningLockStrategy) : RunningLockStrategy :=
  let key := mapKey uid bundleName
  if ¬ s.isProxied then s
  else if isCreated then
    let record := s.record.getAndCreateAppInfo q uid pid bundleName
    let record := { record with proxiedAppInfo := record.proxiedAppInfo.emplace key {} }
    let s := { s with record := record }
    match record.proxiedAppInfo.lookup key with
    | none => s
    | some info => if info.restricted then s.proxyRunningLockList true {(pid, uid)} else s
  else
    match s.record.proxiedAppInfo.lookup key with
    | none => s
    | some info =>
      let s := if info.restricted then s.proxyRunningLockList false {(pid, uid)} else s
      if info.pids.erase pid = ∅ then
        { s with record.proxiedAppInfo := s.record.proxiedAppInfo.erase key }
      else s.modifyApp key fun app => { app with pids := app.pids.erase pid }

/-- `RunningLockStrategy::HandleEvent`. -/
def handleEvent (message : StandbyMessage) (s : RunningLockStrategy) : RunningLockStrategy :=
  match message with
  | .allowListChanged uid name allowType added => s.updateExemptionList uid name allowType added
  | .resCtrlConditionChanged _ => updateResourceConfig q s
  | .phaseTransit curState _ curPhase => startProxy q curState curPhase s
  | .stateTransit preState curState => s.stopProxy preState curState
  | .bgTaskStatusChange type started uid bundleName _ =>
    updateBgTaskAppStatus q type started uid bundleName s
  | .processStateChanged uid pid name isCreated =>
    handleProcessStatusChanged q uid pid name isCreated s
  | .sysAbilityStatusChanged isAdded saId => resetProxyStatus scfg isAdded saId s
  | _ => s

end RunningLockStrategy

end DeviceStandby
