import DeviceStandby.Allow.Mirror
import DeviceStandby.Allow.Query
import DeviceStandby.Lib.Unwinding
import DeviceStandby.Service.CommonEvents
import DeviceStandby.Service.Connection

/-!
# The calls of the service

Everything that a process can ask of the service, with the checks of `StandbyService` and of
`StandbyServiceImpl` in their order. What the service does by itself comes between the calls: the
steps of its allow list, and others that are not looked into. `ServiceCall.permitted` is the table
of rights. `calls_need_rights` says that it is the right one: calls without their right have no
influence, learn no more than whether the service is up, and are the only ones that are refused for
it.
-/

open Lts

namespace DeviceStandby

/-! ## Who calls, and what -/

abbrev RSS_PROCESS_NAME : String := "resource_schedule_service"
abbrev PUSH_PROCESS_NAME : String := "push_manager_service"
abbrev REASON_NATIVE_API : Nat := 0

/-- A calling process. The name is that of a native token; the token of an app has none. -/
structure Process extends Caller where
  processName : Option String := none
  isDumpGranted : Bool := false
  unnamed : isHap = true → processName = none := by simp

/-- The calls of `IStandbyService`, and `Dump`. A subscriber is null, or it may have no remote
object. -/
inductive ServiceCall where
  | subscribeStandbyCallback (subscriber : Handed) (subscriberName moduleName : String)
  | unsubscribeStandbyCallback (subscriber : Handed)
  | applyAllowResource (resourceRequest : ResourceRequest)
  | unapplyAllowResource (resourceRequest : ResourceRequest)
  | getAllowList (allowType : BitVec 32) (reasonCode : Nat)
  | getRestrictList (restrictType : BitVec 32) (reasonCode : Nat)
  | reportWorkSchedulerStatus (started : Bool) (uid : Int) (bundleName : String)
  | isStrategyEnabled (strategyName : String)
  | reportDeviceStateChanged (type : Int) (enabled : Bool)
  | isDeviceInStandby
  | setNatInterval (type : Nat) (enable : Bool) (interval : Nat)
  | handleEvent (resType : Nat) (value : Int) (sceneInfo : Bytes)
  | reportPowerOverused (module : String) (level : Nat)
  | delayHeartBeat (timestamp : Int)
  | reportSceneInfo (resType : Nat) (value : Int) (sceneInfo : String)
  | pushProxyStateChanged (type : Nat) (enable : Bool)
  | heartBeatValueChanged (tag : String) (timesTamp : Int)
  | dump (args : List String)

/-- What a client forwards. It refuses a null request, and a null subscriber. -/
def ClientRequest.call? : ClientRequest → Option ServiceCall
  | .subscribeStandbyCallback subscriber subscriberName moduleName => subscriber.map fun remote =>
    .subscribeStandbyCallback (some (some remote)) subscriberName moduleName
  | .unsubscribeStandbyCallback subscriber => subscriber.map fun remote =>
    .unsubscribeStandbyCallback (some (some remote))
  | .applyAllowResource resourceRequest => resourceRequest.map .applyAllowResource
  | .unapplyAllowResource resourceRequest => resourceRequest.map .unapplyAllowResource
  | .getAllowList allowType reasonCode => some (.getAllowList (.ofNat 32 allowType) reasonCode)
  | .isDeviceInStandby => some .isDeviceInStandby
  | .setNatInterval type enable interval => some (.setNatInterval type enable interval)
  | .handleEvent resType value sceneInfo =>
    some (.handleEvent resType value sceneInfo.toUTF8.toList)
  | .reportWorkSchedulerStatus started uid bundleName =>
    some (.reportWorkSchedulerStatus started uid bundleName)
  | .getRestrictList restrictType reasonCode =>
    some (.getRestrictList (.ofNat 32 restrictType) reasonCode)
  | .isStrategyEnabled strategyName => some (.isStrategyEnabled strategyName)
  | .reportPowerOverused module level => some (.reportPowerOverused module level)
  | .delayHeartBeat timestamp => some (.delayHeartBeat timestamp)
  | .reportSceneInfo resType value sceneInfo => some (.reportSceneInfo resType value sceneInfo)
  | .reportDeviceStateChanged type enabled => some (.reportDeviceStateChanged type enabled)
  | .pushProxyStateChanged type enable => some (.pushProxyStateChanged type enable)
  | .heartBeatValueChanged tag timesTamp => some (.heartBeatValueChanged tag timesTamp)

/-! ## The service behind the calls -/

/-- The messages of the calls. REPORT_SCENE_INFO has the type that the caller gives. -/
inductive ServiceMessage where
  | bgTaskStatusChange
  | deviceStateChanged
  | natDetectIntervalChanged
  | natMsgRecv
  | pushProxyStateChanged
  | heartBeatValueChange
  | sceneInfo (resType : Nat)
  deriving DecidableEq

/-- `DeviceStateCache::DEVICE_STATE_NUM`. -/
abbrev DEVICE_STATE_NUM : Nat := 3

/-- `DeviceStateCache`. -/
structure DeviceStateCache where
  deviceState : Fin DEVICE_STATE_NUM → Bool := fun _ => false

/-- `DeviceStateCache::SetDeviceState`: whether a state has changed, and the cache. -/
def DeviceStateCache.setDeviceState (type : Int) (enabled : Bool) (cache : DeviceStateCache) :
    Bool × DeviceStateCache :=
  if h : type.toNat < DEVICE_STATE_NUM ∧ 0 ≤ type then
    if cache.deviceState ⟨type.toNat, h.1⟩ = enabled then (false, cache)
    else (true, ⟨Function.update cache.deviceState ⟨type.toNat, h.1⟩ enabled⟩)
  else (false, cache)

/-- The number of a device state. -/
def DeviceStateType.toInt : DeviceStateType → Int
  | .disCompChange => 0
  | .telephoneStateChange => 1
  | .wifiP2pChange => 2

/-- The service: `state_` is RUNNING, the allow list with `isServiceReady_`, the subscribers, the
cache, the current state of the state manager, and the messages and the tasks that were posted. -/
structure StandbyService where
  running : Bool := false
  allow : AllowService := { isServiceReady := false }
  notifier : Notifier
  deviceStateCache : DeviceStateCache := {}
  curState : StandbyState := .working
  messages : List (ServiceMessage × List (String × WantParam)) := []
  effects : List EventEffect := []

/-- What does not change: the configuration, the numbers of the resource scheduler, the platform of
the events, `const.debuggable`, and what a shell command does. -/
structure ServiceConfig where
  resourceConfig : ResourceConfigMap
  strategyConfigList : List String
  resTypeOf : Nat → ResType
  platform : EventPlatform
  engMode : Int
  shellDump : List String → StandbyService → Option StandbyService

/-- What surrounds a call: the hours of the configuration, the time, and whether the result of a
dump could be written. -/
structure Occasion where
  condition : BitVec 32
  now : Int
  saved : Bool

/-- The errors of the calls. -/
inductive CallError where
  | ERR_PERMISSION_DENIED
  | ERR_STANDBY_DUMP_SAVE_DENIED
  | standby (error : StandbyError)
  | callback (error : CallbackError)

/-- The caller lacks a right. -/
def CallError.isPermission : CallError → Bool
  | .ERR_PERMISSION_DENIED => true
  | .standby .ERR_STANDBY_PERMISSION_DENIED | .standby .ERR_STANDBY_NOT_SYSTEM_APP => true
  | .callback (.permission _) => true
  | _ => false

/-- What a call returns beside its error code. -/
inductive CallReply where
  | none
  | allowInfoList (allowInfoList : List AllowInfo)
  | isStandby (isStandby : Bool)
  | isEnabled (isEnabled : Bool)

/-- `StandbyService::CheckProcessNamePermission`. -/
def Process.checkProcessNamePermission (p : Process) (processName : String) :
    Except CallError Unit :=
  if p.processName = some processName then .ok () else .error .ERR_PERMISSION_DENIED

/-- `StandbyServiceImpl::CheckCallerPermission`. -/
def Process.checkCallerPermission (p : Process) (reasonCode : Nat) : Except CallError Unit :=
  (p.toCaller.checkCallerPermission reasonCode).mapError .standby

/-- `StandbyServiceImpl::GetRestrictListInner`. -/
def getRestrictListInner (resourceConfig : ResourceConfigMap) (restrictType : BitVec 32)
    (reasonCode : Nat) (condition : BitVec 32) : List AllowInfo :=
  (List.range MAX_ALLOW_TYPE_NUM).flatMap fun restrictTypeIndex =>
    if restrictType &&& BitVec.twoPow 32 restrictTypeIndex = 0 then []
    else AllowService.getPersistAllowList resourceConfig restrictTypeIndex false
      (reasonCode == REASON_APP_API) condition

namespace StandbyService

/-- `StandbyServiceImpl::IsServiceReady`. -/
def isServiceReady (s : StandbyService) : Bool :=
  s.allow.isServiceReady

/-- `StandbyServiceImpl::DispatchEvent`. -/
def dispatchEvent (message : ServiceMessage) (want : List (String × WantParam))
    (s : StandbyService) : StandbyService :=
  if s.isServiceReady then { s with messages := s.messages ++ [(message, want)] } else s

/-- The allow list has changed, and the subscribers are told. -/
def tell (allow : AllowService) (s : StandbyService) : StandbyService :=
  { s with
    allow
    notifier := (reportsOf (allow.messages.drop s.allow.messages.length)).foldl Notifier.handle
      s.notifier }

/-- What a handler of `HandleCommonEvent` does. -/
def perform (s : StandbyService) : EventEffect → StandbyService
  | .setDeviceState type enabled =>
    { s with
      deviceStateCache := (s.deviceStateCache.setDeviceState type.toInt enabled).2 }
  | .commonEvent action want =>
    if s.isServiceReady then { s with effects := s.effects ++ [.commonEvent action want] } else s
  | .message eventId want =>
    if s.isServiceReady then { s with effects := s.effects ++ [.message eventId want] } else s
  | effect => { s with effects := s.effects ++ [effect] }

/-- `state_` is asked for. -/
def checkRunning (s : StandbyService) : Except CallError Unit :=
  if s.running then .ok () else .error (.standby .ERR_STANDBY_SYS_NOT_READY)

/-- `isServiceReady_` is asked for. -/
def checkReady (s : StandbyService) : Except CallError Unit :=
  if s.isServiceReady then .ok () else .error (.standby .ERR_STANDBY_SYS_NOT_READY)

section
variable (cfg : ServiceConfig) (p : Process) (o : Occasion)

/-- `SubscribeStandbyCallback`. -/
def subscribeStandbyCallback (subscriber : Handed) (subscriberName moduleName : String)
    (s : StandbyService) : StandbyService × Except CallError CallReply :=
  let (notifier, answer) := s.notifier.subscribeStandbyCallback s.running p.toCaller
    cfg.strategyConfigList o.now subscriber subscriberName moduleName
  ({ s with notifier }, (answer.mapError .callback).map fun _ => .none)

/-- `UnsubscribeStandbyCallback`. -/
def unsubscribeStandbyCallback (subscriber : Handed) (s : StandbyService) :
    StandbyService × Except CallError CallReply :=
  let (notifier, answer) := s.notifier.unsubscribeStandbyCallback s.running p.toCaller subscriber
  ({ s with notifier }, (answer.mapError .callback).map fun _ => .none)

/-- `ApplyAllowResource`. -/
def applyAllowResource (resourceRequest : ResourceRequest) (s : StandbyService) :
    Except CallError (StandbyService × CallReply) := do
  s.checkRunning
  let allow ← (s.allow.applyAllowResource cfg.resourceConfig p.toCaller resourceRequest
    o.condition).mapError .standby
  return (s.tell allow, .none)

/-- `UnapplyAllowResource`. -/
def unapplyAllowResource (resourceRequest : ResourceRequest) (s : StandbyService) :
    Except CallError (StandbyService × CallReply) := do
  s.checkRunning
  let allow ← (s.allow.unapplyAllowResource p.toCaller resourceRequest).mapError .standby
  return (s.tell allow, .none)

/-- `GetAllowList`. -/
def getAllowList (allowType : BitVec 32) (reasonCode : Nat) (s : StandbyService) :
    Except CallError (StandbyService × CallReply) := do
  s.checkRunning
  let allowInfoList ← (s.allow.getAllowList cfg.resourceConfig p.toCaller allowType reasonCode
    o.condition).mapError .standby
  return (s, .allowInfoList allowInfoList)

/-- `GetRestrictList`. -/
def getRestrictList (restrictType : BitVec 32) (reasonCode : Nat) (s : StandbyService) :
    Except CallError (StandbyService × CallReply) := do
  s.checkRunning
  p.checkCallerPermission reasonCode
  s.checkReady
  if ¬ checkAllowTypeInfo restrictType then throw (.standby .ERR_RESOURCE_TYPES_INVALID)
  return (s, .allowInfoList
    (getRestrictListInner cfg.resourceConfig restrictType reasonCode o.condition))

/-- `ReportWorkSchedulerStatus`. The name of the bundle is not passed on. -/
def reportWorkSchedulerStatus (started : Bool) (uid : Int) (s : StandbyService) :
    Except CallError (StandbyService × CallReply) := do
  s.checkRunning
  p.checkCallerPermission REASON_APP_API
  s.checkReady
  return (s.dispatchEvent .bgTaskStatusChange [("type", .string "work_scheduler"),
    ("started", .bool started), ("uid", .int uid)], .none)

/-- `IsStrategyEnabled`. -/
def isStrategyEnabled (strategyName : String) (s : StandbyService) :
    Except CallError (StandbyService × CallReply) := do
  s.checkRunning
  p.checkCallerPermission REASON_APP_API
  s.checkReady
  return (s, .isEnabled (decide (strategyName ∈ cfg.strategyConfigList)))

/-- `ReportDeviceStateChanged`. -/
def reportDeviceStateChanged (type : Int) (enabled : Bool) (s : StandbyService) :
    Except CallError (StandbyService × CallReply) := do
  s.checkRunning
  s.checkReady
  p.checkCallerPermission REASON_APP_API
  let s := { s with deviceStateCache := (s.deviceStateCache.setDeviceState type enabled).2 }
  if ¬ enabled then return (s, .none)
  return (s.dispatchEvent .deviceStateChanged [("DIS_COMP_STATE", .bool enabled)], .none)

/-- `IsDeviceInStandby`. -/
def isDeviceInStandby (s : StandbyService) : Except CallError (StandbyService × CallReply) := do
  s.checkRunning
  p.checkCallerPermission REASON_APP_API
  s.checkReady
  return (s, .isStandby (decide (s.curState = .sleep)))

/-- `SetNatInterval`. -/
def setNatInterval (type : Nat) (enable : Bool) (interval : Nat) (s : StandbyService) :
    Except CallError (StandbyService × CallReply) := do
  p.checkProcessNamePermission PUSH_PROCESS_NAME
  return (s.dispatchEvent .natDetectIntervalChanged [("type", .int (Json.toInt32 type)),
    ("enable", .bool enable), ("interval", .int (Json.toInt32 interval))], .none)

/-- `DelayHeartBeat`. -/
def delayHeartBeat (timestamp : Int) (s : StandbyService) :
    Except CallError (StandbyService × CallReply) := do
  p.checkProcessNamePermission PUSH_PROCESS_NAME
  return (s.dispatchEvent .natMsgRecv [("timestamp", .int (Json.toInt32 timestamp))], .none)

/-- `ReportPowerOverused`. -/
def reportPowerOverused (module : String) (level : Nat) (s : StandbyService) :
    Except CallError (StandbyService × CallReply) := do
  s.checkRunning
  p.checkCallerPermission REASON_APP_API
  return ({ s with notifier := s.notifier.notifyByCallback .powerOverused o.now module level },
    .none)

/-- `ReportSceneInfo`. -/
def reportSceneInfo (resType : Nat) (value : Int) (sceneInfo : String) (s : StandbyService) :
    Except CallError (StandbyService × CallReply) := do
  s.checkRunning
  p.checkCallerPermission REASON_NATIVE_API
  s.checkReady
  return (s.dispatchEvent (.sceneInfo resType) [("value", .int (Json.toInt32 value)),
    ("sceneInfo", .string sceneInfo)], .none)

/-- `PushProxyStateChanged`. -/
def pushProxyStateChanged (type : Nat) (enable : Bool) (s : StandbyService) :
    Except CallError (StandbyService × CallReply) := do
  s.checkRunning
  p.checkProcessNamePermission PUSH_PROCESS_NAME
  return (s.dispatchEvent .pushProxyStateChanged [("type", .int (Json.toInt32 type)),
    ("enable", .bool enable)], .none)

/-- `HeartBeatValueChanged`. -/
def heartBeatValueChanged (tag : String) (timesTamp : Int) (s : StandbyService) :
    Except CallError (StandbyService × CallReply) := do
  s.checkRunning
  p.checkProcessNamePermission PUSH_PROCESS_NAME
  s.checkReady
  return (s.dispatchEvent .heartBeatValueChange [("tag", .string tag),
    ("timesTamp", .int timesTamp)], .none)

/-- `HandleEvent`; `none` when a payload makes the handler throw. -/
def handleEvent (resType : Nat) (value : Int) (sceneInfo : Bytes) (s : StandbyService) :
    Option (StandbyService × Except CallError CallReply) :=
  match p.checkProcessNamePermission RSS_PROCESS_NAME with
  | .error error => some (s, .error error)
  | .ok () =>
    match cfg.platform.handleCommonEvent value sceneInfo (cfg.resTypeOf resType) with
    | .error _ => none
    | .ok effects => some (effects.foldl perform s, .ok .none)

/-- `Dump`; `none` when the command is read beyond its arguments. -/
def dump (args : List String) (s : StandbyService) :
    Option (StandbyService × Except CallError CallReply) :=
  if cfg.engMode = 0 ∨ ¬ p.isDumpGranted then some (s, .error .ERR_PERMISSION_DENIED)
  else
    (cfg.shellDump args s).map fun s =>
      (s, if o.saved then .ok .none else .error .ERR_STANDBY_DUMP_SAVE_DENIED)

/-- The service after a call that changes nothing when it fails, and its answer. -/
def settle (s : StandbyService) (result : Except CallError (StandbyService × CallReply)) :
    StandbyService × Except CallError CallReply :=
  match result with
  | .error error => (s, .error error)
  | .ok (s, reply) => (s, .ok reply)

/-- A call of a process. -/
def call (s : StandbyService) : ServiceCall → Option (StandbyService × Except CallError CallReply)
  | .subscribeStandbyCallback subscriber subscriberName moduleName =>
    some (s.subscribeStandbyCallback cfg p o subscriber subscriberName moduleName)
  | .unsubscribeStandbyCallback subscriber => some (s.unsubscribeStandbyCallback p subscriber)
  | .applyAllowResource request => some (s.settle (s.applyAllowResource cfg p o request))
  | .unapplyAllowResource request => some (s.settle (s.unapplyAllowResource p request))
  | .getAllowList allowType reasonCode =>
    some (s.settle (s.getAllowList cfg p o allowType reasonCode))
  | .getRestrictList restrictType reasonCode =>
    some (s.settle (s.getRestrictList cfg p o restrictType reasonCode))
  | .reportWorkSchedulerStatus started uid _ =>
    some (s.settle (s.reportWorkSchedulerStatus p started uid))
  | .isStrategyEnabled strategyName => some (s.settle (s.isStrategyEnabled cfg p strategyName))
  | .reportDeviceStateChanged type enabled =>
    some (s.settle (s.reportDeviceStateChanged p type enabled))
  | .isDeviceInStandby => some (s.settle (s.isDeviceInStandby p))
  | .setNatInterval type enable interval =>
    some (s.settle (s.setNatInterval p type enable interval))
  | .handleEvent resType value sceneInfo => s.handleEvent cfg p resType value sceneInfo
  | .reportPowerOverused module level => some (s.settle (s.reportPowerOverused p o module level))
  | .delayHeartBeat timestamp => some (s.settle (s.delayHeartBeat p timestamp))
  | .reportSceneInfo resType value sceneInfo =>
    some (s.settle (s.reportSceneInfo p resType value sceneInfo))
  | .pushProxyStateChanged type enable =>
    some (s.settle (s.pushProxyStateChanged p type enable))
  | .heartBeatValueChanged tag timesTamp =>
    some (s.settle (s.heartBeatValueChanged p tag timesTamp))
  | .dump args => s.dump cfg p o args

end

end StandbyService

/-! ## Rights -/

/-- What `CheckCallerPermission` asks of an app: the permission, to be a system app, and the reason
code of the API. -/
def Process.mayUse (p : Process) (reasonCode : Nat) : Bool :=
  !p.isHap || (p.isPermissionGranted && p.isSystemApp && reasonCode == REASON_APP_API)

/-- The right that a call needs. -/
def ServiceCall.permitted (engMode : Int) (p : Process) : ServiceCall → Bool
  | .subscribeStandbyCallback .. | .unsubscribeStandbyCallback _ | .reportWorkSchedulerStatus ..
  | .isStrategyEnabled _ | .reportDeviceStateChanged .. | .isDeviceInStandby
  | .reportPowerOverused .. => p.mayUse REASON_APP_API
  | .applyAllowResource request | .unapplyAllowResource request => p.mayUse request.reasonCode
  | .getAllowList _ reasonCode | .getRestrictList _ reasonCode => p.mayUse reasonCode
  | .reportSceneInfo .. => !p.isHap
  | .setNatInterval .. | .delayHeartBeat _ | .pushProxyStateChanged ..
  | .heartBeatValueChanged .. => p.processName == some PUSH_PROCESS_NAME
  | .handleEvent .. => p.processName == some RSS_PROCESS_NAME
  | .dump _ => engMode != 0 && p.isDumpGranted

/-- A refusal that comes after the checks of some flags of the service. -/
def refuseWhen (up : Bool) (error : CallError) : CallError :=
  if up then error else .standby .ERR_STANDBY_SYS_NOT_READY

section
variable {cfg : ServiceConfig} {p : Process} {o : Occasion} {c : ServiceCall}
  {s t : StandbyService} {reasonCode : Nat} {error : CallError}
  {answer : Except CallError CallReply} {caller : Caller} {request : ResourceRequest}
  {standbyError : StandbyError}

/-! ### The checks -/

/-- A caller that may use the service passes its check. -/
theorem checkCallerPermission_of_mayUse (h : p.mayUse reasonCode = true) :
    p.toCaller.checkCallerPermission reasonCode = .ok () := by
  unfold Caller.checkCallerPermission Caller.isSystemAppWithPermission
  simp only [Process.mayUse, Bool.or_eq_true, Bool.and_eq_true, Bool.not_eq_true',
    beq_iff_eq] at h
  rcases h with h | ⟨⟨hgranted, hsystem⟩, rfl⟩
  · rw [h]
    rfl
  · rw [hgranted, hsystem]
    split_ifs <;> simp_all

/-- Any other caller is told what it lacks. -/
theorem checkCallerPermission_of_not_mayUse (h : p.mayUse reasonCode = false) :
    ∃ error, p.toCaller.checkCallerPermission reasonCode = .error error ∧
      (CallError.standby error).isPermission = true := by
  simp only [Process.mayUse, Bool.or_eq_false_iff, Bool.not_eq_false'] at h
  obtain ⟨hhap, hlacks⟩ := h
  unfold Caller.checkCallerPermission Caller.isSystemAppWithPermission
  rw [if_pos hhap]
  by_cases hgranted : p.isPermissionGranted = true
  · rw [if_neg (not_not.2 hgranted)]
    by_cases hsystem : p.isSystemApp = true
    · rw [hgranted, hsystem, Bool.true_and, Bool.true_and, beq_eq_false_iff_ne] at hlacks
      rw [if_neg (not_not.2 hsystem), if_pos hlacks]
      exact ⟨_, rfl, rfl⟩
    · rw [if_pos hsystem]
      exact ⟨_, rfl, rfl⟩
  · rw [if_pos hgranted]
    exact ⟨_, rfl, rfl⟩

/-- The native API is closed to apps. -/
theorem mayUse_native : p.mayUse REASON_NATIVE_API = !p.isHap := by
  cases hhap : p.isHap <;> simp [Process.mayUse, hhap]

/-- A process of another name, or of none. -/
theorem checkProcessNamePermission_of_unnamed {name : String}
    (h : (p.processName == some name) = false) :
    p.checkProcessNamePermission name = .error .ERR_PERMISSION_DENIED :=
  if_neg (by simpa using h)

/-- The requests for the allow list look at the caller once the service is ready. -/
theorem allowResource_of_refused (s : AllowService)
    (h : caller.checkCallerPermission request.reasonCode = .error standbyError)
    (resourceConfig : ResourceConfigMap) (condition : BitVec 32) :
    s.applyAllowResource resourceConfig caller request condition =
        .error (if s.isServiceReady then standbyError else .ERR_STANDBY_SYS_NOT_READY) ∧
      s.unapplyAllowResource caller request =
        .error (if s.isServiceReady then standbyError else .ERR_STANDBY_SYS_NOT_READY) := by
  unfold AllowService.applyAllowResource AllowService.unapplyAllowResource
  rw [h]
  cases s.isServiceReady <;> exact ⟨rfl, rfl⟩

/-- So does the query. -/
theorem getAllowList_of_refused (s : AllowService)
    (h : caller.checkCallerPermission reasonCode = .error standbyError)
    (resourceConfig : ResourceConfigMap) (allowType condition : BitVec 32) :
    s.getAllowList resourceConfig caller allowType reasonCode condition =
      .error (if s.isServiceReady then standbyError else .ERR_STANDBY_SYS_NOT_READY) := by
  unfold AllowService.getAllowList
  rw [h]
  cases s.isServiceReady <;> rfl

/-- What a subscriber is told that its process may not have. -/
def refusedCallback (subscriber : Handed) (error : StandbyError) (running : Bool) : CallbackError :=
  if subscriber.isNone then .ERR_STANDBY_INVALID_PARAM
  else if running then .permission error else .ERR_STANDBY_SYS_NOT_READY

/-- A subscriber is looked at before the caller. -/
theorem callback_of_refused (n : Notifier) (running : Bool) (strategyConfigList : List String)
    (now : Int) (subscriber : Handed) (subscriberName moduleName : String)
    (h : caller.checkCallerPermission REASON_APP_API = .error standbyError) :
    n.subscribeStandbyCallback running caller strategyConfigList now subscriber subscriberName
        moduleName = (n, .error (refusedCallback subscriber standbyError running)) ∧
      n.unsubscribeStandbyCallback running caller subscriber =
        (n, .error (refusedCallback subscriber standbyError running)) := by
  simp only [Notifier.subscribeStandbyCallback, Notifier.unsubscribeStandbyCallback, h]
  cases subscriber <;> cases running <;> exact ⟨rfl, rfl⟩

section
variable (s : StandbyService) (rest : Except CallError (StandbyService × CallReply))

/-- A call that begins with the checks of the service and of its caller. -/
theorem settle_of_refused (h : p.toCaller.checkCallerPermission reasonCode = .error standbyError) :
    (s.settle do
      s.checkRunning
      p.checkCallerPermission reasonCode
      rest) = (s, .error (refuseWhen s.running (.standby standbyError))) := by
  unfold StandbyService.checkRunning Process.checkCallerPermission
  rw [h]
  cases s.running <;> rfl

/-- A call for a native process of a name. -/
theorem settle_of_unnamed {name : String} (h : (p.processName == some name) = false) :
    (s.settle do
      p.checkProcessNamePermission name
      rest) = (s, .error .ERR_PERMISSION_DENIED) := by
  rw [checkProcessNamePermission_of_unnamed h]
  rfl

/-- The same, of a running service. -/
theorem settle_running_of_unnamed {name : String} (h : (p.processName == some name) = false) :
    (s.settle do
      s.checkRunning
      p.checkProcessNamePermission name
      rest) = (s, .error (refuseWhen s.running .ERR_PERMISSION_DENIED)) := by
  unfold StandbyService.checkRunning
  rw [checkProcessNamePermission_of_unnamed h]
  cases s.running <;> rfl

end

/-! ### Calls without their right -/

/-- A call without its right is refused. It changes nothing, and what it is told depends on whether
the service runs and is ready, and on nothing else. -/
theorem call_of_not_permitted (cfg : ServiceConfig) (o : Occasion)
    (h : c.permitted cfg.engMode p = false) :
    ∃ refusal : Bool → Bool → CallError, ∀ s : StandbyService,
      s.call cfg p o c = some (s, .error (refusal s.running s.isServiceReady)) := by
  cases c with
  | subscribeStandbyCallback subscriber subscriberName moduleName =>
    obtain ⟨error, herror, -⟩ := checkCallerPermission_of_not_mayUse h
    refine ⟨fun running _ => .callback (refusedCallback subscriber error running), fun s => ?_⟩
    rw [StandbyService.call, StandbyService.subscribeStandbyCallback,
      (callback_of_refused s.notifier _ _ _ _ _ _ herror).1]
    rfl
  | unsubscribeStandbyCallback subscriber =>
    obtain ⟨error, herror, -⟩ := checkCallerPermission_of_not_mayUse h
    refine ⟨fun running _ => .callback (refusedCallback subscriber error running), fun s => ?_⟩
    rw [StandbyService.call, StandbyService.unsubscribeStandbyCallback,
      (callback_of_refused s.notifier _ [] 0 _ "" "" herror).2]
    rfl
  | applyAllowResource request =>
    obtain ⟨error, herror, -⟩ := checkCallerPermission_of_not_mayUse h
    refine ⟨fun running ready => refuseWhen running (refuseWhen ready (.standby error)),
      fun s => ?_⟩
    simp only [StandbyService.call, StandbyService.applyAllowResource, StandbyService.checkRunning,
      (allowResource_of_refused s.allow herror _ _).1, StandbyService.isServiceReady]
    cases s.running <;> cases s.allow.isServiceReady <;> rfl
  | unapplyAllowResource request =>
    obtain ⟨error, herror, -⟩ := checkCallerPermission_of_not_mayUse h
    refine ⟨fun running ready => refuseWhen running (refuseWhen ready (.standby error)),
      fun s => ?_⟩
    simp only [StandbyService.call, StandbyService.unapplyAllowResource,
      StandbyService.checkRunning, StandbyService.isServiceReady,
      (allowResource_of_refused s.allow herror cfg.resourceConfig 0).2]
    cases s.running <;> cases s.allow.isServiceReady <;> rfl
  | getAllowList allowType reasonCode =>
    obtain ⟨error, herror, -⟩ := checkCallerPermission_of_not_mayUse h
    refine ⟨fun running ready => refuseWhen running (refuseWhen ready (.standby error)),
      fun s => ?_⟩
    simp only [StandbyService.call, StandbyService.getAllowList, StandbyService.checkRunning,
      getAllowList_of_refused s.allow herror _ _ _, StandbyService.isServiceReady]
    cases s.running <;> cases s.allow.isServiceReady <;> rfl
  | reportDeviceStateChanged type enabled =>
    obtain ⟨error, herror, -⟩ := checkCallerPermission_of_not_mayUse h
    refine ⟨fun running ready => refuseWhen running (refuseWhen ready (.standby error)),
      fun s => ?_⟩
    simp only [StandbyService.call, StandbyService.reportDeviceStateChanged,
      StandbyService.checkRunning, StandbyService.checkReady, Process.checkCallerPermission, herror]
    cases s.running <;> cases s.isServiceReady <;> rfl
  | getRestrictList | reportWorkSchedulerStatus | isStrategyEnabled | isDeviceInStandby
  | reportPowerOverused =>
    obtain ⟨error, herror, -⟩ := checkCallerPermission_of_not_mayUse h
    exact ⟨fun running _ => refuseWhen running (.standby error), fun s =>
      congrArg some (settle_of_refused s _ herror)⟩
  | reportSceneInfo resType value sceneInfo =>
    obtain ⟨error, herror, -⟩ := checkCallerPermission_of_not_mayUse (mayUse_native.trans h)
    exact ⟨fun running _ => refuseWhen running (.standby error), fun s =>
      congrArg some (settle_of_refused s _ herror)⟩
  | setNatInterval | delayHeartBeat =>
    exact ⟨fun _ _ => .ERR_PERMISSION_DENIED, fun s => congrArg some (settle_of_unnamed s _ h)⟩
  | pushProxyStateChanged | heartBeatValueChanged =>
    exact ⟨fun running _ => refuseWhen running .ERR_PERMISSION_DENIED, fun s =>
      congrArg some (settle_running_of_unnamed s _ h)⟩
  | handleEvent resType value sceneInfo =>
    refine ⟨fun _ _ => .ERR_PERMISSION_DENIED, fun s => ?_⟩
    rw [StandbyService.call, StandbyService.handleEvent, checkProcessNamePermission_of_unnamed h]
  | dump args =>
    have hlacks : cfg.engMode = 0 ∨ ¬ p.isDumpGranted = true := by
      simpa [ServiceCall.permitted, or_iff_not_imp_left] using h
    refine ⟨fun _ _ => .ERR_PERMISSION_DENIED, fun s => ?_⟩
    rw [StandbyService.call, StandbyService.dump, if_pos hlacks]

/-! ### Calls with their right -/

/-- Every error of a computation meets a condition. -/
def ErrorsMeet {ε α : Type} (P : ε → Prop) (x : Except ε α) : Prop :=
  ∀ error, x = .error error → P error

section
variable {ε ε' α β : Type} {P : ε → Prop} {x : Except ε α} {f : α → Except ε β}

/-- What succeeds has no error. -/
theorem errorsMeet_ok {a : α} : ErrorsMeet P (.ok a) := fun _ h => by cases h

/-- An error meets what it meets. -/
theorem errorsMeet_error {error : ε} (h : P error) :
    ErrorsMeet P (.error error : Except ε α) := by
  intro error' heq
  cases heq
  exact h

/-- A sequence fails where one of its parts fails. -/
theorem ErrorsMeet.bind (hx : ErrorsMeet P x) (hf : ∀ a, ErrorsMeet P (f a)) :
    ErrorsMeet P (x >>= f) := by
  cases x with
  | error error => exact errorsMeet_error (hx error rfl)
  | ok a => exact hf a

/-- An error that is renamed meets what its new name meets. -/
theorem ErrorsMeet.mapError {P : ε' → Prop} {g : ε → ε'} (h : ErrorsMeet (fun e => P (g e)) x) :
    ErrorsMeet P (x.mapError g) := by
  cases x with
  | error error => exact errorsMeet_error (h error rfl)
  | ok a => exact errorsMeet_ok

end

/-- The checks of the flags fail in one way only. -/
theorem errorsMeet_checkRunning {P : CallError → Prop}
    (h : P (.standby .ERR_STANDBY_SYS_NOT_READY)) : ErrorsMeet P s.checkRunning := by
  unfold StandbyService.checkRunning
  split_ifs
  · exact errorsMeet_ok
  · exact errorsMeet_error h

/-- The check of readiness has one error. -/
theorem errorsMeet_checkReady {P : CallError → Prop}
    (h : P (.standby .ERR_STANDBY_SYS_NOT_READY)) : ErrorsMeet P s.checkReady := by
  unfold StandbyService.checkReady
  split_ifs
  · exact errorsMeet_ok
  · exact errorsMeet_error h

/-- A call that changes nothing when it fails, and its answer. -/
theorem errorsMeet_settle {P : CallError → Prop}
    {result : Except CallError (StandbyService × CallReply)}
    (hcall : some (s.settle result) = some (t, answer)) (h : ErrorsMeet P result) :
    ErrorsMeet (fun error => t = s ∧ P error) answer := by
  cases result with
  | error error =>
    cases hcall
    exact errorsMeet_error ⟨rfl, h error rfl⟩
  | ok next =>
    cases hcall
    exact errorsMeet_ok

/-- The caller is not told that it lacks a right. -/
def NotRefused {α : Type} (x : Except CallError α) : Prop :=
  ErrorsMeet (fun error => error.isPermission = false) x

/-- A service that does not run refuses nobody's right. -/
theorem notRefused_checkRunning : NotRefused s.checkRunning :=
  errorsMeet_checkRunning rfl

/-- Nor does a service that is not ready. -/
theorem notRefused_checkReady : NotRefused s.checkReady :=
  errorsMeet_checkReady rfl

/-- Who may use the service is not refused by `CheckCallerPermission`. -/
theorem notRefused_checkCallerPermission (h : p.mayUse reasonCode = true) :
    NotRefused (p.checkCallerPermission reasonCode) := by
  unfold Process.checkCallerPermission
  rw [checkCallerPermission_of_mayUse h]
  exact errorsMeet_ok

/-- Nor is the process of the name by `CheckProcessNamePermission`. -/
theorem notRefused_checkProcessNamePermission {name : String}
    (h : (p.processName == some name) = true) : NotRefused (p.checkProcessNamePermission name) := by
  unfold Process.checkProcessNamePermission
  rw [if_pos (beq_iff_eq.1 h)]
  exact errorsMeet_ok

/-- The requests for the allow list fail for other reasons. -/
theorem notRefused_allowResource (s : AllowService) (h : p.mayUse request.reasonCode = true)
    (resourceConfig : ResourceConfigMap) (condition : BitVec 32) :
    NotRefused ((s.applyAllowResource resourceConfig p.toCaller request condition).mapError
        .standby) ∧
      NotRefused ((s.unapplyAllowResource p.toCaller request).mapError .standby) := by
  unfold AllowService.applyAllowResource AllowService.unapplyAllowResource
  rw [checkCallerPermission_of_mayUse h]
  constructor <;> refine ErrorsMeet.mapError ?_ <;> dsimp only [bind, Except.bind] <;>
    split_ifs <;> first | exact errorsMeet_error rfl | exact errorsMeet_ok

/-- Nor is who may use the service by `GetAllowList`. -/
theorem notRefused_getAllowList (s : AllowService) (h : p.mayUse reasonCode = true)
    (resourceConfig : ResourceConfigMap) (allowType condition : BitVec 32) :
    NotRefused ((s.getAllowList resourceConfig p.toCaller allowType reasonCode condition).mapError
      .standby) := by
  unfold AllowService.getAllowList
  rw [checkCallerPermission_of_mayUse h]
  refine ErrorsMeet.mapError ?_
  dsimp only [bind, Except.bind]
  split_ifs <;> first | exact errorsMeet_error rfl | exact errorsMeet_ok

/-- The requests about a subscriber fail for other reasons. -/
theorem notRefused_callback (n : Notifier) (running : Bool) (strategyConfigList : List String)
    (now : Int) (subscriber : Handed) (subscriberName moduleName : String)
    (h : p.mayUse REASON_APP_API = true) :
    NotRefused ((n.subscribeStandbyCallback running p.toCaller strategyConfigList now subscriber
        subscriberName moduleName).2.mapError .callback) ∧
      NotRefused ((n.unsubscribeStandbyCallback running p.toCaller subscriber).2.mapError
        .callback) := by
  simp only [Notifier.subscribeStandbyCallback, Notifier.unsubscribeStandbyCallback,
    checkCallerPermission_of_mayUse h]
  constructor
  · cases subscriber with
    | none => exact errorsMeet_error rfl
    | some asObject =>
      cases running with
      | false => exact errorsMeet_error rfl
      | true =>
        dsimp only
        rw [if_neg (not_not.2 rfl)]
        by_cases hname : subscriberName ∉ strategyConfigList
        · rw [if_pos hname]
          exact errorsMeet_error rfl
        · rw [if_neg hname]
          exact .mapError (.mapError fun _ _ => rfl)
  · cases subscriber with
    | none => exact errorsMeet_error rfl
    | some asObject =>
      cases running with
      | false => exact errorsMeet_error rfl
      | true =>
        dsimp only
        rw [if_neg (not_not.2 rfl)]
        exact .mapError (.mapError fun _ _ => rfl)

/-- The answer of a call that changes nothing when it fails. -/
theorem notRefused_settle {result : Except CallError (StandbyService × CallReply)}
    (hcall : some (s.settle result) = some (t, answer)) (h : NotRefused result) :
    NotRefused answer :=
  fun error herror => (errorsMeet_settle hcall h error herror).2

/-- An answer that is renamed is refused as little. -/
theorem notRefused_map {result : Except CallError Unit} (h : NotRefused result) :
    NotRefused (result.map fun _ => CallReply.none) := by
  cases result with
  | error error => exact errorsMeet_error (h error rfl)
  | ok => exact errorsMeet_ok

/-- A call that has its right is not refused for it. -/
theorem call_of_permitted (h : c.permitted cfg.engMode p = true)
    (hcall : s.call cfg p o c = some (t, answer)) : NotRefused answer := by
  cases c with
  | subscribeStandbyCallback subscriber subscriberName moduleName =>
    cases hcall
    exact notRefused_map (notRefused_callback _ _ _ _ _ _ _ h).1
  | unsubscribeStandbyCallback subscriber =>
    cases hcall
    exact notRefused_map (notRefused_callback _ _ [] 0 _ "" "" h).2
  | applyAllowResource request =>
    obtain ⟨happly, -⟩ := notRefused_allowResource s.allow h cfg.resourceConfig o.condition
    exact notRefused_settle hcall (notRefused_checkRunning.bind fun _ =>
      happly.bind fun _ => errorsMeet_ok)
  | unapplyAllowResource request =>
    obtain ⟨-, hunapply⟩ := notRefused_allowResource s.allow h cfg.resourceConfig o.condition
    exact notRefused_settle hcall (notRefused_checkRunning.bind fun _ =>
      hunapply.bind fun _ => errorsMeet_ok)
  | getAllowList allowType reasonCode =>
    have hlist := notRefused_getAllowList s.allow h cfg.resourceConfig allowType o.condition
    exact notRefused_settle hcall (notRefused_checkRunning.bind fun _ =>
      hlist.bind fun _ => errorsMeet_ok)
  | getRestrictList restrictType reasonCode =>
    refine notRefused_settle hcall (notRefused_checkRunning.bind fun _ =>
      (notRefused_checkCallerPermission h).bind fun _ => notRefused_checkReady.bind fun _ => ?_)
    dsimp only [bind, Except.bind]
    split_ifs <;> first | exact errorsMeet_error rfl | exact errorsMeet_ok
  | reportDeviceStateChanged type enabled =>
    refine notRefused_settle hcall (notRefused_checkRunning.bind fun _ =>
      notRefused_checkReady.bind fun _ => (notRefused_checkCallerPermission h).bind fun _ => ?_)
    dsimp only
    split_ifs <;> exact errorsMeet_ok
  | reportWorkSchedulerStatus | isStrategyEnabled | isDeviceInStandby =>
    exact notRefused_settle hcall (notRefused_checkRunning.bind fun _ =>
      (notRefused_checkCallerPermission h).bind fun _ => notRefused_checkReady.bind fun _ =>
        errorsMeet_ok)
  | reportPowerOverused module level =>
    exact notRefused_settle hcall (notRefused_checkRunning.bind fun _ =>
      (notRefused_checkCallerPermission h).bind fun _ => errorsMeet_ok)
  | reportSceneInfo resType value sceneInfo =>
    exact notRefused_settle hcall (notRefused_checkRunning.bind fun _ =>
      (notRefused_checkCallerPermission (mayUse_native.trans h)).bind fun _ =>
        notRefused_checkReady.bind fun _ => errorsMeet_ok)
  | setNatInterval | delayHeartBeat =>
    exact notRefused_settle hcall
      ((notRefused_checkProcessNamePermission h).bind fun _ => errorsMeet_ok)
  | pushProxyStateChanged type enable =>
    exact notRefused_settle hcall (notRefused_checkRunning.bind fun _ =>
      (notRefused_checkProcessNamePermission h).bind fun _ => errorsMeet_ok)
  | heartBeatValueChanged tag timesTamp =>
    exact notRefused_settle hcall (notRefused_checkRunning.bind fun _ =>
      (notRefused_checkProcessNamePermission h).bind fun _ => notRefused_checkReady.bind fun _ =>
        errorsMeet_ok)
  | handleEvent resType value sceneInfo =>
    have hname : p.checkProcessNamePermission RSS_PROCESS_NAME = .ok () := if_pos (beq_iff_eq.1 h)
    simp only [StandbyService.call, StandbyService.handleEvent, hname] at hcall
    split at hcall
    · cases hcall
    · cases hcall
      exact errorsMeet_ok
  | dump args =>
    have hright : ¬ (cfg.engMode = 0 ∨ ¬ p.isDumpGranted = true) := by
      simpa [ServiceCall.permitted, not_or] using h
    simp only [StandbyService.call, StandbyService.dump, if_neg hright] at hcall
    obtain ⟨after, -, heq⟩ := Option.map_eq_some_iff.1 hcall
    obtain ⟨-, rfl⟩ := Prod.mk.inj heq
    split_ifs
    · exact errorsMeet_ok
    · exact errorsMeet_error rfl

/-- An app that is not a system app with the permission, and may not dump, has no right at all. -/
theorem not_permitted_of_app (engMode : Int) (hhap : p.isHap = true)
    (hlacks : ¬ (p.isPermissionGranted = true ∧ p.isSystemApp = true))
    (hdump : p.isDumpGranted = false) (c : ServiceCall) : c.permitted engMode p = false := by
  have hmay : ∀ reasonCode, p.mayUse reasonCode = false := fun reasonCode => by
    rw [← Bool.and_eq_true, Bool.not_eq_true] at hlacks
    rw [Process.mayUse, hhap, hlacks]
    rfl
  have hname : ∀ name : String, (p.processName == some name) = false := fun name => by
    rw [p.unnamed hhap]
    rfl
  cases c with
  | reportSceneInfo => exact congrArg (! ·) hhap
  | setNatInterval | delayHeartBeat | pushProxyStateChanged | heartBeatValueChanged
  | handleEvent => exact hname _
  | dump => exact (congrArg _ hdump).trans (Bool.and_false _)
  | _ => exact hmay _

end

/-! ## Runs -/

/-- A step of the allow list that no call makes. -/
def AllowAction.isOwn : AllowAction → Bool
  | .apply .. => false
  | .unapply _ _ _ removeAll => !removeAll
  | _ => true

/-- A step of the service: a call, and what it does by itself. That is a step of the allow list, a
change of `isServiceReady_`, or one of another part of it. -/
inductive ServiceAction (β : Type) where
  | call (p : Process) (o : Occasion) (c : ServiceCall)
  | allow (a : AllowAction)
  | setReady (isServiceReady : Bool)
  | other (b : β)

/-- A call without its right. -/
def ServiceAction.lacksRight {β : Type} (engMode : Int) : ServiceAction β → Bool
  | .call p _ c => !c.permitted engMode p
  | .allow _ | .setReady _ | .other _ => false

section
variable {β : Type} (cfg : ServiceConfig) (others : β → StandbyService → Option StandbyService)
  (deathRecipient : Bool) (createdAt : Int)

/-- One step, and the answer if it is a call. The other parts leave the allow list alone. -/
def StandbyService.step (s : StandbyService) :
    ServiceAction β → Option (StandbyService × Option (Except CallError CallReply))
  | .call p o c => (s.call cfg p o c).map fun next => (next.1, some next.2)
  | .allow a =>
    if a.isOwn then
      (s.allow.step cfg.resourceConfig a).map fun allow => (s.tell allow, none)
    else none
  | .setReady isServiceReady => some ({ s with allow.isServiceReady := isServiceReady }, none)
  | .other b => (others b s).map fun t => ({ t with allow := s.allow }, none)

/-- The service from its creation, without a record file. -/
def serviceMachine :
    Machine StandbyService (ServiceAction β) (Option (Except CallError CallReply)) where
  init := { notifier := .create deathRecipient createdAt }
  step := StandbyService.step cfg others

variable {cfg others deathRecipient createdAt} {s t : StandbyService}
  {as : List (ServiceAction β)}
  {log : List (ServiceAction β × Option (Except CallError CallReply))}

/-- A call is answered. -/
theorem step_call {p : Process} {o : Occasion} {c : ServiceCall}
    {answer : Option (Except CallError CallReply)}
    (h : (serviceMachine cfg others deathRecipient createdAt).step s (.call p o c) =
      some (t, answer)) : ∃ result, answer = some result ∧ s.call cfg p o c = some (t, result) := by
  obtain ⟨⟨next, result⟩, hcall, heq⟩ := Option.map_eq_some_iff.1 h
  obtain ⟨rfl, rfl⟩ := Prod.mk.inj heq
  exact ⟨result, rfl, hcall⟩

/-- Calls without their right have no influence: from any state, a run without them leads to the
same state and gives the same answers to the other calls. Such a call is refused with an error that
depends on nothing but whether the service runs and is ready, and no other call is refused for a
right that it lacks. An app that is no system app with the permission, and may not dump, has no
right at all. -/
theorem calls_need_rights
    (h : (serviceMachine cfg others deathRecipient createdAt).exec s as = some (t, log)) :
    (serviceMachine cfg others deathRecipient createdAt).exec s
        (as.filter (¬ ·.lacksRight cfg.engMode)) =
      some (t, log.filter (¬ ·.1.lacksRight cfg.engMode)) ∧
    (∀ p o c answer, (ServiceAction.call p o c, answer) ∈ log →
      ∃ result, answer = some result ∧
        (c.permitted cfg.engMode p = false → ∃ refusal : Bool → Bool → CallError,
          (∃ running ready, result = .error (refusal running ready)) ∧
          ∀ s : StandbyService,
            s.call cfg p o c = some (s, .error (refusal s.running s.isServiceReady))) ∧
        (c.permitted cfg.engMode p = true →
          ∀ error, result = .error error → error.isPermission = false)) ∧
    ∀ p : Process, p.isHap = true → ¬ (p.isPermissionGranted = true ∧ p.isSystemApp = true) →
      p.isDumpGranted = false → ∀ c : ServiceCall, c.permitted cfg.engMode p = false := by
  refine ⟨?_, ?_, fun _ => not_permitted_of_app cfg.engMode⟩
  · have hunwinding : Unwinding (serviceMachine cfg others deathRecipient createdAt)
        (fun a _ => a.lacksRight cfg.engMode = true) Eq := by
      refine .of_unchanged fun {s t a answer} ha hstep => ?_
      cases a with
      | call p o c =>
        obtain ⟨refusal, hrefusal⟩ := call_of_not_permitted cfg o (Bool.not_eq_true' _ ▸ ha)
        obtain ⟨result, -, hcall⟩ := step_call hstep
        rw [hrefusal] at hcall
        cases hcall
        rfl
      | _ => cases ha
    obtain ⟨t', hexec, rfl⟩ := hunwinding.exec rfl h
    rw [← Machine.map_log h, List.filter_map]
    exact hexec
  · intro p o c answer hmem
    obtain ⟨before, after, hstep⟩ := Machine.exists_step_of_mem h hmem
    obtain ⟨result, rfl, hcall⟩ := step_call hstep
    refine ⟨result, rfl, fun hlacks => ?_, fun hright => call_of_permitted hright hcall⟩
    obtain ⟨refusal, hrefusal⟩ := call_of_not_permitted cfg o hlacks
    rw [hrefusal] at hcall
    cases hcall
    exact ⟨refusal, ⟨_, _, rfl⟩, hrefusal⟩

end

/-! ## A run -/

private def quietPlatform : EventPlatform where
  parse _ := none
  gattAppRegister := 0
  gattConnectState := 1
  appEfficiencyResourcesApply := 0
  procEfficiencyResourcesApply := 2
  appUninstall := 1
  appChanged := 2
  appReplaced := 3
  bundleRemoved := 4
  appFullyRemoved := 5
  netManagerBaseEnable := true

/-- A device that is not debuggable. -/
def sampleServiceConfig : ServiceConfig where
  resourceConfig := sampleResourceConfig
  strategyConfigList := ["NETWORK"]
  resTypeOf := .other
  platform := quietPlatform
  engMode := 0
  shellDump _ s := some s

/-- A system app that declares timers and the work scheduler. -/
def systemApp : Process where
  pid := 200
  isHap := true
  resourcesApply := [103, 104]

private def storeApp : Process where
  pid := 100
  isHap := true
  isPermissionGranted := false

/-- The request of an app for both, for two minutes. -/
def appRequest : ResourceRequest :=
  { sampleRequest with reasonCode := REASON_APP_API }

/-- A service that starts and becomes ready. -/
def startService : List (ServiceAction Unit) :=
  [.other (), .setReady true]

/-- A system app asks for a work scheduler, between two calls of an app without the permission. -/
theorem calls_need_rights_sample : ∃ t log,
    (serviceMachine sampleServiceConfig (fun (_ : Unit) s => some { s with running := true }) true
        0).exec { notifier := .create true 0 }
      (startService ++ [.call systemApp ⟨1, 0, true⟩ (.applyAllowResource appRequest)]) =
        some (t, log) ∧ t.allow.allowTypeOf 7 "proc" = AllowType.workScheduler.mask := by
  have hrun : ((serviceMachine sampleServiceConfig
      (fun (_ : Unit) s => some { s with running := true }) true 0).exec
        { notifier := .create true 0 }
        (startService ++ [.call storeApp ⟨1, 0, true⟩ (.applyAllowResource appRequest),
          .call systemApp ⟨1, 0, true⟩ (.applyAllowResource appRequest),
          .call storeApp ⟨1, 0, true⟩ .isDeviceInStandby])).map
        (fun next => next.1.allow.allowTypeOf 7 "proc") = some AllowType.workScheduler.mask := by
    decide +kernel
  obtain ⟨⟨t, log⟩, hexec, htypes⟩ := Option.map_eq_some_iff.1 hrun
  exact ⟨t, _, (calls_need_rights hexec).1, htypes⟩

end DeviceStandby
