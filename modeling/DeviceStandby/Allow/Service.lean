import DeviceStandby.Allow.Persist
import DeviceStandby.Lib.Transition

/-!
# The allow list of the service

The part of `StandbyServiceImpl` that keeps the allow list: requests to apply and unapply, the
releases that the handler runs later, the removal of an app, and the reload from disk when the
service becomes ready. `allowSystem` is its transition system. The boot clock gives end times, the
clock of the handler gives delays; the first advances at least as fast as the second, which does not
run while the device sleeps.
-/

open AssocMap BitMask Json

namespace DeviceStandby

/-- The state of `StandbyServiceImpl` around `allowInfoMap_`: the tasks that the handler has not
run, the messages handed to `DispatchEvent`, the document in the record file, and two clocks in
milliseconds. What `ReportAllowListChanged` tells the subscribers is what is dispatched right after
it. -/
structure AllowService where
  isServiceReady : Bool := true
  allowInfoMap : AllowInfoMap := ∅
  tasks : List ReleaseTask := []
  messages : List StandbyMessage := []
  file : Option Json := none
  bootTime : Int := 0
  handlerTime : Int := 0

/-- The errors of the allow list's interface. -/
inductive StandbyError where
  | ERR_STANDBY_SYS_NOT_READY | ERR_STANDBY_PERMISSION_DENIED | ERR_STANDBY_NOT_SYSTEM_APP
  | ERR_RESOURCE_TYPES_INVALID | ERR_DURATION_INVALID
  deriving DecidableEq, Repr

/-- What the platform says of a caller. `resourcesApply` is what `QueryRunningResourcesApply` finds:
that of the `ApplicationInfo` of the caller's bundle, in spite of its name, and nothing where there
is none. -/
structure Caller where
  pid : Int
  isHap : Bool := false
  isPermissionGranted : Bool := true
  isSystemApp : Bool := true
  resourcesApply : List Int32 := []

/-- `EXEMPT_ALL_RESOURCES`. -/
abbrev EXEMPT_ALL_RESOURCES : Nat := 100

/-- `StandbyServiceImpl::IsSystemAppWithPermission`. -/
def Caller.isSystemAppWithPermission (caller : Caller) (reasonCode : Nat) :
    Except StandbyError Unit :=
  if ¬ caller.isPermissionGranted then .error .ERR_STANDBY_PERMISSION_DENIED
  else if ¬ caller.isSystemApp then .error .ERR_STANDBY_NOT_SYSTEM_APP
  else if reasonCode ≠ REASON_APP_API then .error .ERR_STANDBY_PERMISSION_DENIED
  else .ok ()

/-- `StandbyServiceImpl::CheckCallerPermission`. -/
def Caller.checkCallerPermission (caller : Caller) (reasonCode : Nat) : Except StandbyError Unit :=
  if caller.isHap then caller.isSystemAppWithPermission reasonCode else .ok ()

/-- The body of the loop of `GetExemptedResourceType`. -/
def addExempted (exempted : BitVec 32) (number : Nat) : BitVec 32 :=
  if number ≤ EXEMPT_ALL_RESOURCES ∨ number > EXEMPT_ALL_RESOURCES + MAX_ALLOW_TYPE_NUM + 1
  then exempted
  else exempted ||| BitVec.twoPow 32 (number - EXEMPT_ALL_RESOURCES - 1)

/-- `StandbyServiceImpl::GetExemptedResourceType`. The numbers are compared as `uint32_t`. -/
def Caller.getExemptedResourceType (caller : Caller) (resourceType : BitVec 32) : BitVec 32 :=
  let resourcesApply := caller.resourcesApply.map fun number => number.toUInt32.toNat
  if resourcesApply.isEmpty then 0
  else if EXEMPT_ALL_RESOURCES ∈ resourcesApply then resourceType
  else resourcesApply.foldl addExempted 0 &&& resourceType

/-- The types that a request of the caller is about. -/
def Caller.requestedType (caller : Caller) (allowType : BitVec 32) : BitVec 32 :=
  if caller.isHap then caller.getExemptedResourceType allowType else allowType

/-- `StandbyServiceImpl::CheckAllowTypeInfo`. -/
def checkAllowTypeInfo (allowType : BitVec 32) : Bool :=
  0 < allowType && allowType ≤ MAX_ALLOW_TYPE_NUMBER

namespace AllowService
variable (resourceConfig : ResourceConfigMap)

/-- `NotifyAllowListChanged`. -/
def notifyAllowListChanged (uid : Int) (name : String) (allowType : BitVec 32) (added : Bool)
    (messages : List StandbyMessage) : List StandbyMessage :=
  messages ++ [.allowListChanged uid name allowType added]

/-- `DumpPersistantData`. -/
def dumpPersistantData (s : AllowService) : AllowService :=
  { s with file := some s.allowInfoMap.parseToJson }

/-- The record that a request updates, and its types before. -/
def recordFor (request : ResourceRequest) (pid : Int) (s : AllowService) :
    AllowRecord × BitVec 32 :=
  match s.allowInfoMap.lookup (mapKey request.uid request.name) with
  | none =>
    ({ uid := request.uid, pid, name := request.name, reasonCode := request.reasonCode }, 0)
  | some record => ({ record with pid }, record.allowType)

/-- `StandbyServiceImpl::ApplyAllowResInner`. -/
def applyAllowResInner (request : ResourceRequest) (pid : Int) (condition : BitVec 32)
    (s : AllowService) : AllowService :=
  let keyStr := mapKey request.uid request.name
  let (record, preAllowType) := s.recordFor request pid
  let (record, tasks) :=
    updateRecord resourceConfig condition s.bootTime s.handlerTime request record
  let allowInfoMap := s.allowInfoMap.insert keyStr record
  let messages :=
    if preAllowType ≠ record.allowType then
      notifyAllowListChanged request.uid request.name
        (record.allowType ^^^ (preAllowType &&& record.allowType)) true s.messages
    else s.messages
  let allowInfoMap := if record.allowType = 0 then allowInfoMap.erase keyStr else allowInfoMap
  dumpPersistantData { s with allowInfoMap, tasks := s.tasks ++ tasks, messages }

/-- `StandbyServiceImpl::ApplyAllowResource`. -/
def applyAllowResource (caller : Caller) (request : ResourceRequest) (condition : BitVec 32)
    (s : AllowService) : Except StandbyError AllowService := do
  if ¬ s.isServiceReady then throw .ERR_STANDBY_SYS_NOT_READY
  caller.checkCallerPermission request.reasonCode
  let request := { request with allowType := caller.requestedType request.allowType }
  if ¬ checkAllowTypeInfo request.allowType ∨ request.uid < 0 then
    throw .ERR_RESOURCE_TYPES_INVALID
  if request.duration < 0 then throw .ERR_DURATION_INVALID
  return s.applyAllowResInner resourceConfig request caller.pid condition

/-- `StandbyServiceImpl::UnapplyAllowResInner`. When no type is removed, no entry was erased. -/
def unapplyAllowResInner (uid : Int) (name : String) (allowType : BitVec 32) (removeAll : Bool)
    (s : AllowService) : AllowService :=
  let keyStr := mapKey uid name
  match s.allowInfoMap.lookup keyStr with
  | none => s
  | some record =>
    if allowType &&& record.allowType = 0 then s
    else
      let (allowTimeList, removedNumber) :=
        releaseTimes allowType removeAll s.bootTime record.allowTimeList
      if removedNumber = 0 then s
      else
        let allowInfoMap :=
          if removedNumber = record.allowType then s.allowInfoMap.erase keyStr
          else s.allowInfoMap.insert keyStr
            { record with allowTimeList, allowType := record.allowType - removedNumber }
        dumpPersistantData { s with
          allowInfoMap, messages := notifyAllowListChanged uid name removedNumber false s.messages }

/-- `StandbyServiceImpl::UnapplyAllowResource`. -/
def unapplyAllowResource (caller : Caller) (request : ResourceRequest) (s : AllowService) :
    Except StandbyError AllowService := do
  if ¬ s.isServiceReady then throw .ERR_STANDBY_SYS_NOT_READY
  caller.checkCallerPermission request.reasonCode
  let request := { request with allowType := caller.requestedType request.allowType }
  if ¬ checkAllowTypeInfo request.allowType ∨ request.uid < 0 then
    throw .ERR_RESOURCE_TYPES_INVALID
  return s.unapplyAllowResInner request.uid request.name request.allowType true

/-- The types that `RemoveAppAllowRecord` removes. -/
def removedTypes (resetAll : Bool) : BitVec 32 :=
  if resetAll then MAX_ALLOW_TYPE_NUMBER
  else MAX_ALLOW_TYPE_NUMBER ^^^ AllowType.timer.mask ^^^ AllowType.workScheduler.mask

/-- `StandbyServiceImpl::RemoveAppAllowRecord`. -/
def removeAppAllowRecord (uid : Int) (bundleName : String) (resetAll : Bool) (s : AllowService) :
    AllowService :=
  if ¬ s.isServiceReady then s
  else s.unapplyAllowResInner uid bundleName (removedTypes resetAll) true

/-- `StandbyServiceImpl::RecoverTimeLimitedTask`: the time that remains is an `int32_t`. -/
def recoverTimeLimitedTask (monotonicTime : Int) (s : AllowService) : AllowService :=
  { s with
    tasks := s.tasks ++ s.allowInfoMap.values.flatMap fun record =>
      record.allowTimeList.map fun time =>
        { uid := record.uid, name := record.name, allowType := MAX_ALLOW_TYPE_NUMBER,
          due := s.handlerTime + max 0 (toInt32 (time.endTime - monotonicTime)) } }

/-- `StandbyServiceImpl::ParsePersistentData`. -/
def parsePersistentData (processes : Processes) (monotonicTime : Int) (s : AllowService) :
    AllowService :=
  let pidNameMap := processes.getPidAndProcName
  if pidNameMap.entries.isEmpty then s
  else
    match s.file.bind Json.asObject? with
    | none => s
    | some root =>
      let allowInfoMap :=
        (loadRecords root s.allowInfoMap).filter fun _ record => record.isRunning pidNameMap
      ({ s with allowInfoMap }.recoverTimeLimitedTask monotonicTime).dumpPersistantData

/-- What `DumpAllowListInfo` prints of an entry. -/
def dumpTime (curTime : Int) (time : AllowTime) : Option String := do
  let typeName ← allowTypeName[time.allowTypeIndex]?
  return "\t\t\tallow type: " ++ typeName ++ "\n\t\t\tremainTime: " ++
    toString (time.endTime - curTime) ++ "\n\t\t\treason: " ++ time.reason ++ "\n"

/-- What `DumpAllowListInfo` prints of a record. -/
def dumpRecord (curTime : Int) (index : Nat) (key : String) (record : AllowRecord) :
    Option String := do
  let times ← record.allowTimeList.mapM (dumpTime curTime)
  return "No." ++ toString index ++ "\n\tuid: " ++ key ++ "\n\tallow record: \n\t\tname: " ++
    record.name ++ "\n\t\tpid: " ++ toString record.pid ++ "\n\t\tallow type: " ++
    toString record.allowType.toNat ++ "\n\t\treason code: " ++ toString record.reasonCode ++
    "\n" ++ String.join times ++ "\n"

/-- `StandbyServiceImpl::DumpAllowListInfo`; `none` when a type has no name, an access beyond the
names. -/
def dumpAllowListInfo (monotonicTime : Int) (s : AllowService) : Option String :=
  if s.allowInfoMap.entries.isEmpty then some "allow resources record is empty\n"
  else do
    let records ← (s.allowInfoMap.entries.zipIdx 1).mapM fun entry =>
      dumpRecord monotonicTime entry.2 entry.1.1 entry.1.2
    return String.join records

/-- The end time of the live entry of a type, under a key. -/
def endTime? (s : AllowService) (key : String) (k : Nat) : Option Int :=
  (s.allowInfoMap.lookup key).bind (·.endTime? k)

/-- The types of the record of an app; no record has none. -/
def allowTypeOf (s : AllowService) (uid : Int) (name : String) : BitVec 32 :=
  ((s.allowInfoMap.lookup (mapKey uid name)).map AllowRecord.allowType).getD 0

end AllowService

/-! ## Runs -/

/-- What happens to the allow list: time passes, a request is applied or unapplied (with `removeAll`
false, a release posted by a query), the handler runs a release that is due, an app is removed, the
service becomes ready again, or it is started again after its process has died. -/
inductive AllowAction where
  | advance (boot handler : Nat)
  | apply (request : ResourceRequest) (pid : Int) (condition : BitVec 32)
  | unapply (uid : Int) (name : String) (allowType : BitVec 32) (removeAll : Bool)
  | release (i : Nat)
  | removeApp (uid : Int) (bundleName : String) (resetAll : Bool)
  | reload (processes : Processes) (monotonicTime : Int)
  | restart (processes : Processes) (monotonicTime : Int)

/-- One step of the allow list. -/
def AllowService.step (resourceConfig : ResourceConfigMap) (s : AllowService) :
    AllowAction → Option AllowService
  | .advance boot handler =>
    if handler ≤ boot then
      some { s with bootTime := s.bootTime + boot, handlerTime := s.handlerTime + handler }
    else none
  | .apply request pid condition => some (s.applyAllowResInner resourceConfig request pid condition)
  | .unapply uid name allowType removeAll =>
    some (s.unapplyAllowResInner uid name allowType removeAll)
  | .release i =>
    match s.tasks[i]? with
    | none => none
    | some task =>
      if task.due ≤ s.handlerTime then
        some ({ s with tasks := s.tasks.eraseIdx i }.unapplyAllowResInner task.uid task.name
          task.allowType false)
      else none
  | .removeApp uid bundleName resetAll => some (s.removeAppAllowRecord uid bundleName resetAll)
  | .reload processes monotonicTime =>
    if monotonicTime ≤ s.bootTime then some (s.parsePersistentData processes monotonicTime)
    else none
  | .restart processes monotonicTime =>
    if monotonicTime ≤ s.bootTime then
      some ({ s with allowInfoMap := ∅, tasks := [] }.parsePersistentData processes monotonicTime)
    else none

/-- The allow list of a service that starts with no record and no record file. -/
def allowSystem (resourceConfig : ResourceConfigMap) : Lts.System AllowService AllowAction where
  init := {}
  step := AllowService.step resourceConfig

/-- A configuration in which one process may have a timer for a minute. -/
def sampleResourceConfig : ResourceConfigMap := fun paramName =>
  if paramName = "TIMER" then
    some [{ conditions := [1], timeLtdProcesses := [{ name := "proc", maxDurationLim := 60 }] }]
  else none

/-- A request of that process for a timer and a work scheduler, for two minutes. -/
def sampleRequest : ResourceRequest where
  allowType := AllowType.timer.mask ||| AllowType.workScheduler.mask
  uid := 7
  name := "proc"
  duration := 120

/-- The record that the sample request leaves. -/
def sampleRecord : AllowRecord where
  uid := 7
  pid := 100
  name := "proc"
  allowType := sampleRequest.allowType
  allowTimeList := [{ allowTypeIndex := 2, endTime := 60000 },
    { allowTypeIndex := 3, endTime := 120000 }]

theorem sampleRecord_entries :
    (AllowService.applyAllowResInner sampleResourceConfig sampleRequest 100 1
      {}).allowInfoMap.entries = [⟨mapKey 7 "proc", sampleRecord⟩] := by
  decide +kernel

/-- A request for a work scheduler, for 2147484 seconds. -/
def longRequest : ResourceRequest where
  allowType := AllowType.workScheduler.mask
  uid := 7
  name := "proc"
  duration := 2147484

end DeviceStandby
