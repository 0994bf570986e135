import DeviceStandby.Service.Backup
import DeviceStandby.Service.Interface

/-!
# The kits

Scripts reach the service through two kits, one for dynamic and one for static scripts. Both check a
request, hand it to the client of their process, and turn the error code of its answer into an error
of the script. The first takes untyped arguments and does not send what fails its check; the second
takes typed ones and sends them all the same. `thrown_requests_have_no_influence` says what a script
may conclude from an error, and `kits_agree_iff` where the two kits are one.
-/

open Lts

namespace DeviceStandby

/-! ## Error codes and their messages -/

namespace ErrorCode

abbrev ERR_STANDBY_PERMISSION_DENIED : Int := 201
abbrev ERR_STANDBY_NOT_SYSTEM_APP : Int := 202
abbrev ERR_STANDBY_INVALID_PARAM : Int := 401
abbrev ERR_STANDBY_NO_MEMORY : Int := 980000101
abbrev ERR_STANDBY_PARCELABLE_FAILED : Int := 980000201
abbrev ERR_STANDBY_TRANSACT_FAILED : Int := 980000301
abbrev ERR_STANDBY_SYS_NOT_READY : Int := 980000401
abbrev ERR_STANDBY_SERVICE_NOT_CONNECTED : Int := 980000403
abbrev ERR_STANDBY_DUMP_SAVE_DENIED : Int := 980000404
abbrev ERR_STANDBY_OBJECT_EXISTS : Int := 980000501
abbrev ERR_STANDBY_CONFIG_FILE_LOAD_FAILED : Int := 980000601
abbrev ERR_STANDBY_CONFIG_FILE_PARSE_FAILED : Int := 980000602
abbrev ERR_STANDBY_PLUGIN_NOT_EXIST : Int := 980000801
abbrev ERR_STANDBY_PLUGIN_FUNC_NOT_EXIST : Int := 980000802
abbrev ERR_STANDBY_PLUGIN_NOT_AVAILABLE : Int := 980000803
abbrev ERR_STANDBY_PLUGIN_SINGLETON_NOT_EXIST : Int := 980000804
abbrev ERR_STATE_MANAGER_IS_NULLPTR : Int := 980000901
abbrev ERR_STANDBY_STRATEGY_NOT_DEPLOY : Int := 980000915
abbrev ERR_PARAM_NUMBER_ERR : Int := 9800401
abbrev ERR_CALLBACK_NULL_OR_TYPE_ERR : Int := 9800402
abbrev ERR_RESOURCE_TYPES_INVALID : Int := 9800404
abbrev ERR_UID_INVALID : Int := 9800405
abbrev ERR_NAME_INVALID_OR_EMPTY : Int := 9800406
abbrev ERR_DURATION_INVALID : Int := 9800407
abbrev ERR_REASON_INVALID_TYPE_ERR : Int := 9800408

end ErrorCode

open ErrorCode

/-- `saErrCodeMsgMap`. -/
def saErrCodeMsgMap : List (Int × String) :=
  [(ERR_STANDBY_PERMISSION_DENIED, "Permission denied."),
    (ERR_STANDBY_NOT_SYSTEM_APP, "System API verification failed."),
    (ERR_STANDBY_NO_MEMORY, "Memory operation failed. Failed to allocate the memory."),
    (ERR_STANDBY_PARCELABLE_FAILED,
      "Parcel operation failed. Possible reasons: 1. Invalid parameters"),
    (ERR_STANDBY_TRANSACT_FAILED, "IPC failed."),
    (ERR_STANDBY_SYS_NOT_READY,
      "System service operation failed. The system service is not ready."),
    (ERR_STANDBY_SERVICE_NOT_CONNECTED,
      "System service operation failed. The system service is not connected."),
    (ERR_STANDBY_OBJECT_EXISTS,
      "Standby service verification failed. The application has subscribed standby callback."),
    (ERR_STANDBY_CONFIG_FILE_LOAD_FAILED,
      "Config file of standby service load failed, please check the path of the config file."),
    (ERR_STANDBY_CONFIG_FILE_PARSE_FAILED, "Config file of standby service load failed, " ++
      "please check the format and content of the config file."),
    (ERR_STANDBY_PLUGIN_NOT_EXIST, "Plugin of standby service doesn't exist."),
    (ERR_STANDBY_PLUGIN_FUNC_NOT_EXIST, "Export plugin function doesn't exist."),
    (ERR_STANDBY_PLUGIN_NOT_AVAILABLE, "Plugin of standby service is not available."),
    (ERR_STANDBY_PLUGIN_SINGLETON_NOT_EXIST,
      "The singleton object loaded from plugin doesn't exist."),
    (ERR_STATE_MANAGER_IS_NULLPTR, "The state manager adapter can not be nullptr.")]

/-- `paramErrCodeMsgMap`. -/
def paramErrCodeMsgMap : List (Int × String) :=
  [(ERR_STANDBY_INVALID_PARAM, "The input param is invalid."),
    (ERR_PARAM_NUMBER_ERR, "The number of arguments is wrong."),
    (ERR_CALLBACK_NULL_OR_TYPE_ERR,
      "The callback cannot be null and its type must be function."),
    (ERR_RESOURCE_TYPES_INVALID, "The resourcesType cannot be null and must be integer greater " ++
      "than 0and less than maximum value."),
    (ERR_UID_INVALID, "The uid can not less than 0"),
    (ERR_NAME_INVALID_OR_EMPTY, "The name must be valid string and can not be empty"),
    (ERR_DURATION_INVALID, "The duration must be valid integer and can not less than 0"),
    (ERR_REASON_INVALID_TYPE_ERR, "The reason cannot be null and its type must be string.")]

abbrev OFFSET : Int := 100
abbrev THRESHOLD : Int := 1000

/-- An error of a script. -/
structure BusinessError where
  code : Int
  message : String
  deriving DecidableEq

/-- `FindErrCode`. The quotient is that of C++. -/
def findErrCode (errCodeIn : Int) : Int :=
  if (paramErrCodeMsgMap.lookup errCodeIn).isSome then ERR_STANDBY_INVALID_PARAM
  else if errCodeIn > THRESHOLD then errCodeIn.tdiv OFFSET else errCodeIn

/-- The message of a parameter error. -/
def paramErrMsg (text : String) : String :=
  "BussinessError 401: Parameter error. " ++ text

/-- `FindErrMsg`. -/
def findErrMsg (errCode : Int) : String :=
  if errCode = ERR_OK then ""
  else
    match saErrCodeMsgMap.lookup errCode, paramErrCodeMsgMap.lookup errCode with
    | some text, _ => "BussinessError " ++ toString (findErrCode errCode) ++ ": " ++ text
    | none, some text => paramErrMsg text
    | none, none => "Inner error."

/-- `HandleErrCode`: the error that is thrown. -/
def handleErrCode (errCode : Int) : Option BusinessError :=
  if errCode = ERR_OK then none
  else if findErrMsg errCode ≠ "" then some ⟨findErrCode errCode, findErrMsg errCode⟩ else none

/-- `HandleParamErr`: the error that is thrown. -/
def handleParamErr (errCode : Int) : Option BusinessError :=
  if errCode = ERR_OK then none
  else (paramErrCodeMsgMap.lookup errCode).map fun text =>
    ⟨ERR_STANDBY_INVALID_PARAM, paramErrMsg text⟩

/-- The code of an error of the interface. -/
def StandbyError.errCode : StandbyError → Int
  | .ERR_STANDBY_SYS_NOT_READY => ErrorCode.ERR_STANDBY_SYS_NOT_READY
  | .ERR_STANDBY_PERMISSION_DENIED => ErrorCode.ERR_STANDBY_PERMISSION_DENIED
  | .ERR_STANDBY_NOT_SYSTEM_APP => ErrorCode.ERR_STANDBY_NOT_SYSTEM_APP
  | .ERR_RESOURCE_TYPES_INVALID => ErrorCode.ERR_RESOURCE_TYPES_INVALID
  | .ERR_DURATION_INVALID => ErrorCode.ERR_DURATION_INVALID

/-- The code of an error about a subscriber. -/
def CallbackError.errCode : CallbackError → Int
  | .ERR_STANDBY_INVALID_PARAM | .subscriber .ERR_STANDBY_INVALID_PARAM =>
    ErrorCode.ERR_STANDBY_INVALID_PARAM
  | .ERR_STANDBY_SYS_NOT_READY => ErrorCode.ERR_STANDBY_SYS_NOT_READY
  | .ERR_STANDBY_STRATEGY_NOT_DEPLOY => ErrorCode.ERR_STANDBY_STRATEGY_NOT_DEPLOY
  | .permission error => error.errCode
  | .subscriber .ERR_STANDBY_OBJECT_EXISTS => ErrorCode.ERR_STANDBY_OBJECT_EXISTS

/-! ## Arguments -/

/-- What the platform adds: how `napi_get_value_string_utf8` fills a buffer of a size, up to its
end, and the common error code for a caller of the wrong name. -/
structure KitPlatform where
  getValueStringUtf8 : Nat → String → String
  ERR_PERMISSION_DENIED : Int

/-- A value of a dynamic script. A number is what `napi_get_value_int32` makes of it. -/
inductive JsValue where
  | nullish
  | number (bits : BitVec 32)
  | string (s : String)
  | function
  | other

/-- An argument: a value and its named properties. `undefined` and `null` have none. -/
structure JsArgument where
  value : JsValue
  property : String → Option JsValue := fun _ => none

/-- A string up to its first null character. -/
def cString (s : String) : String :=
  .ofList (s.toList.takeWhile (·.toNat ≠ 0))

abbrev STRING_MAX_SIZE : Nat := 128

/-- `Common::GetStringValue`. -/
def KitPlatform.getStringValue (k : KitPlatform) : JsValue → Option String
  | .string s => some (cString (k.getValueStringUtf8 (STRING_MAX_SIZE - 1) s))
  | _ => none

/-- `Common::GetInt32Value`, and `Common::GetUint32Value`. -/
def JsValue.getInt32Value : JsValue → Option (BitVec 32)
  | .number bits => some bits
  | _ => none

/-- `Common::GetNamedInt32Value`. -/
def JsArgument.getNamedInt32Value (object : JsArgument) (utf8name : String) : Option (BitVec 32) :=
  (object.property utf8name).bind JsValue.getInt32Value

/-- `Common::GetNamedStringValue`. -/
def KitPlatform.getNamedStringValue (k : KitPlatform) (object : JsArgument) (utf8name : String) :
    Option String :=
  (object.property utf8name).bind k.getStringValue

/-- A request of a static script. -/
structure AniResourceRequest where
  resourceTypes : BitVec 32
  uid : BitVec 32
  name : String
  duration : BitVec 32
  reason : String

/-- The check of the types that both kits make. -/
def resourceTypesInvalid (resourceTypes : BitVec 32) : Bool :=
  resourceTypes.toInt ≤ 0 || resourceTypes > MAX_ALLOW_TYPE_NUMBER

/-- The request for the service; a duration and a uid are `int32_t`. -/
def ResourceRequest.mk' (resourceTypes uid : BitVec 32) (name : String) (duration : BitVec 32)
    (reason : String) : ResourceRequest where
  allowType := resourceTypes
  uid := uid.toInt
  name := name
  duration := duration.toInt
  reason := reason
  reasonCode := REASON_APP_API

/-- `ParseAllowResParameters`: the request, or the error that is handled. -/
def KitPlatform.parseAllowResParameters (k : KitPlatform) :
    List JsArgument → Except Int ResourceRequest
  | [object] =>
    match object.getNamedInt32Value "resourceTypes" with
    | none => .error ERR_RESOURCE_TYPES_INVALID
    | some allowType =>
    if resourceTypesInvalid allowType then .error ERR_RESOURCE_TYPES_INVALID else
    match object.getNamedInt32Value "uid" with
    | none => .error ERR_UID_INVALID
    | some uid =>
    if uid.toInt < 0 then .error ERR_UID_INVALID else
    match k.getNamedStringValue object "name" with
    | none => .error ERR_NAME_INVALID_OR_EMPTY
    | some name =>
    if name = "" then .error ERR_NAME_INVALID_OR_EMPTY else
    match object.getNamedInt32Value "duration" with
    | none => .error ERR_DURATION_INVALID
    | some duration =>
    match k.getNamedStringValue object "reason" with
    | none => .error ERR_REASON_INVALID_TYPE_ERR
    | some reason => .ok (.mk' allowType uid name duration reason)
  | _ => .error ERR_PARAM_NUMBER_ERR

/-- Whether a callback is given in the place for it. -/
def parseCallback : Option JsArgument → Except Int Bool
  | none => .ok false
  | some argument =>
    match argument.value with
    | .function => .ok true
    | _ => .error ERR_CALLBACK_NULL_OR_TYPE_ERR

/-- `ParseInStandbyParameters`. -/
def parseInStandbyParameters (args : List JsArgument) : Except Int Bool :=
  if args.length > 1 then .error ERR_PARAM_NUMBER_ERR else parseCallback args[0]?

/-- `ParseGetAllowListParameters`: the types, and whether a callback is given. -/
def parseGetAllowListParameters : List JsArgument → Except Int (BitVec 32 × Bool)
  | argument :: rest =>
    if rest.length > 1 then .error ERR_PARAM_NUMBER_ERR else
    match argument.value.getInt32Value with
    | none => .error ERR_RESOURCE_TYPES_INVALID
    | some allowType =>
    match parseCallback rest[0]? with
    | .error errCode => .error errCode
    | .ok isCallback =>
    if allowType = 0 then .error ERR_RESOURCE_TYPES_INVALID else .ok (allowType, isCallback)
  | [] => .error ERR_PARAM_NUMBER_ERR

/-! ## The calls of the kits -/

/-- What the proxy makes of a call: it brings the answer of the service, or an error of its own, and
then the call has not arrived, as with the proxy of a service that has ended, or its answer is lost.
The proxy is generated code over the transport, so that its errors can be any. -/
inductive Delivery where
  | answered
  | failed (errCode : Int) (hne : errCode ≠ ERR_OK)
  | unanswered (errCode : Int) (hne : errCode ≠ ERR_OK)

/-- The error of a proxy's own. -/
def Delivery.errCode? : Delivery → Option Int
  | .answered => none
  | .failed errCode _ | .unanswered errCode _ => some errCode

/-- A call of a script: its process, what surrounds the call, and what the proxy that the client of
the process has makes of it. -/
structure Visit where
  process : Process
  occasion : Occasion
  proxy : Option Delivery

/-- Whether the service gets the call and the script never learns its answer. -/
def Visit.isLost (v : Visit) : Bool :=
  match v.proxy with
  | some (.unanswered ..) => true
  | _ => false

/-- What the queries give. -/
inductive KitValue where
  | isStandby (isStandby : Bool)
  | exemptedApps (exemptedApps : List AllowInfo)
  deriving DecidableEq

/-- What a script gets: a value at once, or through its callback or its promise. -/
inductive KitResult where
  | none
  | returned (value : KitValue)
  | callback (error : Option BusinessError) (value : KitValue)
  | resolved (value : KitValue)
  | rejected (error : BusinessError)
  deriving DecidableEq

/-- What a call comes to. The errors are those that are thrown or set, in their order. -/
structure KitAnswer where
  thrown : List BusinessError := []
  result : KitResult := .none
  deriving DecidableEq

/-- The errors that a script is told. -/
def KitAnswer.errors (answer : KitAnswer) : List BusinessError :=
  answer.thrown ++
    match answer.result with
    | .callback (some error) _ | .rejected error => [error]
    | _ => []

/-- `Common::GetCallbackErrorValue`. -/
def getCallbackErrorValue (errCode : Int) (errMsg : String) : Option BusinessError :=
  if errCode = ERR_OK then none else some ⟨errCode, errMsg⟩

/-- `Common::ReturnCallbackPromise`, with `SetCallback` and `SetPromise`. -/
def returnCallbackPromise (isCallback : Bool) (errCode : Int) (result : KitValue) : KitResult :=
  if isCallback then
    .callback (if errCode = ERR_OK then none
      else getCallbackErrorValue (findErrCode errCode) (findErrMsg errCode)) result
  else if errCode = ERR_OK then .resolved result
  else .rejected ⟨findErrCode errCode, findErrMsg errCode⟩

/-- The list of a reply; it is empty when there is none. -/
def CallReply.allowInfoArray : CallReply → List AllowInfo
  | .allowInfoList list => list
  | _ => []

/-- The state of a reply; it is false when there is none. -/
def CallReply.standby : CallReply → Bool
  | .isStandby standby => standby
  | _ => false

section
variable (cfg : ServiceConfig) (k : KitPlatform) (v : Visit)

/-- The code of an error of a call. -/
def KitPlatform.errCode : CallError → Int
  | .ERR_PERMISSION_DENIED => k.ERR_PERMISSION_DENIED
  | .ERR_STANDBY_DUMP_SAVE_DENIED => ErrorCode.ERR_STANDBY_DUMP_SAVE_DENIED
  | .standby error => error.errCode
  | .callback error => error.errCode

/-- A call of a proxy: the service after it, its error code, and what it gives. -/
def Delivery.call (delivery : Delivery) (c : ServiceCall) (s : StandbyService) :
    Option (StandbyService × Int × CallReply) :=
  match delivery with
  | .answered => (s.call cfg v.process v.occasion c).map fun (s, answer) =>
    match answer with
    | .ok reply => (s, ERR_OK, reply)
    | .error error => (s, k.errCode error, .none)
  | .failed errCode _ => some (s, errCode, .none)
  | .unanswered errCode _ =>
    (s.call cfg v.process v.occasion c).map fun (s, _) => (s, errCode, .none)

/-- A call of `StandbyServiceClient`. -/
def clientCall (request : ClientRequest) (s : StandbyService) :
    Option (StandbyService × Int × CallReply) :=
  match v.proxy with
  | none => some (s, ERR_STANDBY_SERVICE_NOT_CONNECTED, .none)
  | some delivery =>
    match request.call? with
    | none => some (s, ERR_STANDBY_INVALID_PARAM, .none)
    | some c => delivery.call cfg k v c s

namespace Napi

/-- What `ApplyAllowResource` and `UnapplyAllowResource` have in common. -/
def requestResource (request : Option ResourceRequest → ClientRequest) (args : List JsArgument)
    (s : StandbyService) : Option (StandbyService × KitAnswer) :=
  match k.parseAllowResParameters args with
  | .error errCode => some (s, { thrown := (handleParamErr errCode).toList })
  | .ok resourceRequest =>
    (clientCall cfg k v (request (some resourceRequest)) s).map fun (s, errCode, _) =>
      (s, { thrown := (handleErrCode errCode).toList })

/-- `ApplyAllowResource`, as `requestExemptionResource`. -/
def applyAllowResource (args : List JsArgument) (s : StandbyService) :
    Option (StandbyService × KitAnswer) :=
  requestResource cfg k v .applyAllowResource args s

/-- `UnapplyAllowResource`, as `releaseExemptionResource`. -/
def unapplyAllowResource (args : List JsArgument) (s : StandbyService) :
    Option (StandbyService × KitAnswer) :=
  requestResource cfg k v .unapplyAllowResource args s

/-- What `GetExemptionListApps` and `IsDeviceInStandby` have in common: the request, and whether a
callback is given, or the error of the arguments. -/
def query (value : CallReply → KitValue) (parsed : Except Int (ClientRequest × Bool))
    (s : StandbyService) : Option (StandbyService × KitAnswer) :=
  match parsed with
  | .error errCode => some (s, { thrown := (handleParamErr errCode).toList })
  | .ok (request, isCallback) =>
    (clientCall cfg k v request s).map fun (s, errCode, reply) =>
      (s, { result := returnCallbackPromise isCallback errCode (value reply) })

/-- `GetExemptionListApps`, as `getExemptedApps`. -/
def getExemptionListApps (args : List JsArgument) (s : StandbyService) :
    Option (StandbyService × KitAnswer) :=
  query cfg k v (.exemptedApps ·.allowInfoArray)
    ((parseGetAllowListParameters args).map fun (allowType, isCallback) =>
      (.getAllowList allowType.toNat REASON_APP_API, isCallback)) s

/-- `IsDeviceInStandby`. -/
def isDeviceInStandby (args : List JsArgument) (s : StandbyService) :
    Option (StandbyService × KitAnswer) :=
  query cfg k v (.isStandby ·.standby)
    ((parseInStandbyParameters args).map fun isCallback => (.isDeviceInStandby, isCallback)) s

end Napi

/-- `VerifyAniResourceRequest`: the error that is handled when it is false. -/
def AniResourceRequest.verify (request : AniResourceRequest) : Except Int Unit :=
  if resourceTypesInvalid request.resourceTypes then .error ERR_RESOURCE_TYPES_INVALID
  else if request.uid.toInt < 0 then .error ERR_UID_INVALID
  else if request.name = "" then .error ERR_NAME_INVALID_OR_EMPTY
  else .ok ()

/-- The error that the check sets. -/
def AniResourceRequest.reported (request : AniResourceRequest) : List BusinessError :=
  match request.verify with
  | .error errCode => (handleParamErr errCode).toList
  | .ok () => []

/-- `GenResourceRequest`. -/
def AniResourceRequest.genResourceRequest (request : AniResourceRequest) : ResourceRequest :=
  .mk' request.resourceTypes request.uid (cString request.name) request.duration
    (cString request.reason)

namespace Ani

/-- What `RequestExemptionResource` and `ReleaseExemptionResource` have in common. The result of the
check is not looked at. -/
def requestResource (client : Option ResourceRequest → ClientRequest)
    (request : AniResourceRequest) (s : StandbyService) : Option (StandbyService × KitAnswer) :=
  (clientCall cfg k v (client (some request.genResourceRequest)) s).map fun (s, errCode, _) =>
    (s, { thrown := request.reported ++ (handleErrCode errCode).toList })

/-- `RequestExemptionResource`. -/
def requestExemptionResource (request : AniResourceRequest) (s : StandbyService) :
    Option (StandbyService × KitAnswer) :=
  requestResource cfg k v .applyAllowResource request s

/-- `ReleaseExemptionResource`. -/
def releaseExemptionResource (request : AniResourceRequest) (s : StandbyService) :
    Option (StandbyService × KitAnswer) :=
  requestResource cfg k v .unapplyAllowResource request s

/-- `GenAniExemptedAppInfo`. -/
def genAniExemptedAppInfo (allowInfo : AllowInfo) : AllowInfo :=
  { allowInfo with name := cString allowInfo.name }

/-- What `GetExemptedAppsSync` and `IsDeviceInStandby` have in common. -/
def query (request : ClientRequest) (value : CallReply → KitValue) (default : KitValue)
    (s : StandbyService) : Option (StandbyService × KitAnswer) :=
  (clientCall cfg k v request s).map fun (s, errCode, reply) =>
    if errCode ≠ ERR_OK then
      (s, { thrown := (handleErrCode errCode).toList, result := .returned default })
    else (s, { result := .returned (value reply) })

/-- `GetExemptedAppsSync`. -/
def getExemptedAppsSync (resourceTypes : BitVec 32) (s : StandbyService) :
    Option (StandbyService × KitAnswer) :=
  query cfg k v (.getAllowList resourceTypes.toNat REASON_APP_API)
    (fun reply => .exemptedApps (reply.allowInfoArray.map genAniExemptedAppInfo))
    (.exemptedApps []) s

/-- `IsDeviceInStandby`. -/
def isDeviceInStandby (s : StandbyService) : Option (StandbyService × KitAnswer) :=
  query cfg k v .isDeviceInStandby (.isStandby ·.standby) (.isStandby false) s

end Ani

end

/-- The calls of the two kits. -/
inductive KitCall where
  | napiApplyAllowResource (args : List JsArgument)
  | napiUnapplyAllowResource (args : List JsArgument)
  | napiGetExemptionListApps (args : List JsArgument)
  | napiIsDeviceInStandby (args : List JsArgument)
  | aniRequestExemptionResource (request : AniResourceRequest)
  | aniReleaseExemptionResource (request : AniResourceRequest)
  | aniGetExemptedAppsSync (resourceTypes : BitVec 32)
  | aniIsDeviceInStandby

/-- A call of a kit. -/
def KitCall.perform (cfg : ServiceConfig) (k : KitPlatform) (v : Visit) (s : StandbyService) :
    KitCall → Option (StandbyService × KitAnswer)
  | .napiApplyAllowResource args => Napi.applyAllowResource cfg k v args s
  | .napiUnapplyAllowResource args => Napi.unapplyAllowResource cfg k v args s
  | .napiGetExemptionListApps args => Napi.getExemptionListApps cfg k v args s
  | .napiIsDeviceInStandby args => Napi.isDeviceInStandby cfg k v args s
  | .aniRequestExemptionResource request => Ani.requestExemptionResource cfg k v request s
  | .aniReleaseExemptionResource request => Ani.releaseExemptionResource cfg k v request s
  | .aniGetExemptedAppsSync resourceTypes => Ani.getExemptedAppsSync cfg k v resourceTypes s
  | .aniIsDeviceInStandby => Ani.isDeviceInStandby cfg k v s

/-- What a kit reports before it asks its client all the same. -/
def KitCall.reported : KitCall → List BusinessError
  | .aniRequestExemptionResource request | .aniReleaseExemptionResource request => request.reported
  | _ => []

/-- What a kit asks its client for, unless it stops at the arguments. -/
def KitCall.request? (k : KitPlatform) : KitCall → Option ClientRequest
  | .napiApplyAllowResource args => (k.parseAllowResParameters args).toOption.map fun request =>
    .applyAllowResource (some request)
  | .napiUnapplyAllowResource args => (k.parseAllowResParameters args).toOption.map fun request =>
    .unapplyAllowResource (some request)
  | .napiGetExemptionListApps args => (parseGetAllowListParameters args).toOption.map fun parsed =>
    .getAllowList parsed.1.toNat REASON_APP_API
  | .napiIsDeviceInStandby args => (parseInStandbyParameters args).toOption.map fun _ =>
    .isDeviceInStandby
  | .aniRequestExemptionResource request => some (.applyAllowResource request.genResourceRequest)
  | .aniReleaseExemptionResource request => some (.unapplyAllowResource request.genResourceRequest)
  | .aniGetExemptedAppsSync resourceTypes =>
    some (.getAllowList resourceTypes.toNat REASON_APP_API)
  | .aniIsDeviceInStandby => some .isDeviceInStandby

/-- A step of the service, or a call of a script. -/
inductive KitAction (β : Type) where
  | service (a : ServiceAction β)
  | kit (v : Visit) (c : KitCall)

/-- What a step is answered. -/
inductive KitReply where
  | service (answer : Option (Except CallError CallReply))
  | kit (answer : KitAnswer)

/-- Whether a script is told an error, and neither by a kit that goes on after it nor because the
answer was lost. -/
def KitAction.failed {β : Type} : KitAction β → KitReply → Bool
  | .kit v c, .kit answer => c.reported.isEmpty && !v.isLost && !answer.errors.isEmpty
  | _, _ => false

section
variable {β : Type} (cfg : ServiceConfig) (k : KitPlatform)
  (others : β → StandbyService → Option StandbyService) (deathRecipient : Bool) (createdAt : Int)

/-- The service and the scripts that use it. -/
def kitMachine : Machine StandbyService (KitAction β) KitReply where
  init := { notifier := .create deathRecipient createdAt }
  step
    | s, .service a => (s.step cfg others a).map fun (s, answer) => (s, .service answer)
    | s, .kit v c => (c.perform cfg k v s).map fun (s, answer) => (s, .kit answer)

end

/-! ## What a script is told -/

/-- An error of one of the documented codes, with a message of its own. -/
def BusinessError.Explained (error : BusinessError) : Prop :=
  error.code ∈ [201, 202, 401, 9800004] ∧ error.message ≠ "Inner error."

/-- The error codes that a client gives to its kit. -/
def clientErrCodes : List Int :=
  [ERR_STANDBY_SERVICE_NOT_CONNECTED, ERR_STANDBY_INVALID_PARAM, ERR_STANDBY_SYS_NOT_READY,
    ERR_STANDBY_PERMISSION_DENIED, ERR_STANDBY_NOT_SYSTEM_APP, ERR_RESOURCE_TYPES_INVALID,
    ERR_DURATION_INVALID]

/-- The calls that the kits make. -/
def ServiceCall.ofKit : ServiceCall → Bool
  | .applyAllowResource _ | .unapplyAllowResource _ | .getAllowList .. | .isDeviceInStandby => true
  | _ => false

/-- What they ask their client for. -/
def ClientRequest.ofKit : ClientRequest → Bool
  | .applyAllowResource _ | .unapplyAllowResource _ | .getAllowList .. | .isDeviceInStandby => true
  | _ => false

section
variable {cfg : ServiceConfig} {k : KitPlatform} {v : Visit} {s t : StandbyService}
  {p : Process} {o : Occasion} {c : ServiceCall} {answer : Except CallError CallReply}
  {request : ClientRequest} {errCode : Int} {reply : CallReply} {error : BusinessError}
  {kitAnswer : KitAnswer}

/-- The parameter errors have messages. -/
theorem explained_of_handleParamErr (h : handleParamErr errCode = some error) :
    error.Explained := by
  have htexts : ∀ entry ∈ paramErrCodeMsgMap, paramErrMsg entry.2 ≠ "Inner error." := by
    decide +kernel
  unfold handleParamErr at h
  split_ifs at h
  obtain ⟨text, hlookup, rfl⟩ := Option.map_eq_some_iff.1 h
  obtain ⟨before, after, hmap, -⟩ := List.lookup_eq_some_iff.1 hlookup
  refine ⟨show (401 : Int) ∈ [201, 202, 401, 9800004] by decide, htexts (errCode, text) ?_⟩
  rw [hmap]
  exact List.mem_append_right _ List.mem_cons_self

/-- So have the errors of a client. -/
theorem explained_of_mem (h : errCode ∈ clientErrCodes) :
    errCode ≠ ERR_OK ∧ (BusinessError.mk (findErrCode errCode) (findErrMsg errCode)).Explained := by
  have hall : ∀ errCode ∈ clientErrCodes, errCode ≠ ERR_OK ∧
      findErrCode errCode ∈ [201, 202, 401, 9800004] ∧ findErrMsg errCode ≠ "Inner error." := by
    decide +kernel
  exact hall errCode h

/-- The errors of the interface are among them. -/
theorem errCode_mem (error : StandbyError) : error.errCode ∈ clientErrCodes := by
  cases error <;> decide

/-- A call of a kit that fails has changed nothing, and with an error of the interface. -/
theorem call_ofKit (hc : c.ofKit = true) (h : s.call cfg p o c = some (t, answer)) :
    ErrorsMeet (fun error => t = s ∧ ∃ e, error = .standby e) answer := by
  have hflags : ∃ e, CallError.standby .ERR_STANDBY_SYS_NOT_READY = .standby e := ⟨_, rfl⟩
  cases c with
  | applyAllowResource | unapplyAllowResource | getAllowList =>
    exact errorsMeet_settle h ((errorsMeet_checkRunning hflags).bind fun _ =>
      (ErrorsMeet.mapError fun e _ => ⟨e, rfl⟩).bind fun _ => errorsMeet_ok)
  | isDeviceInStandby =>
    exact errorsMeet_settle h ((errorsMeet_checkRunning hflags).bind fun _ =>
      (ErrorsMeet.mapError fun e _ => ⟨e, rfl⟩).bind fun _ =>
        (errorsMeet_checkReady hflags).bind fun _ => errorsMeet_ok)
  | _ => cases hc

/-- A client forwards the requests of the kits as their calls. -/
theorem ofKit_of_call? (hrequest : request.ofKit = true) (hc : request.call? = some c) :
    c.ofKit = true := by
  cases request with
  | applyAllowResource | unapplyAllowResource =>
    obtain ⟨request, -, rfl⟩ := Option.map_eq_some_iff.1 hc
    rfl
  | getAllowList | isDeviceInStandby =>
    cases hc
    rfl
  | _ => cases hrequest

/-- A code that a client gives to its kit when it gives an error: one of its own and of the service,
or one that its proxy tells. -/
def Visit.Fails (v : Visit) (errCode : Int) : Prop :=
  errCode ∈ clientErrCodes ∨ v.proxy.bind Delivery.errCode? = some errCode

/-- An error is none of success. -/
theorem Visit.Fails.ne_ok (h : v.Fails errCode) : errCode ≠ ERR_OK := by
  obtain h | h := h
  · exact (explained_of_mem h).1
  · obtain ⟨delivery, -, h⟩ := Option.bind_eq_some_iff.1 h
    cases delivery with
    | answered => cases h
    | failed errCode' hne | unanswered errCode' hne =>
      cases h
      exact hne

/-- What a client gives to its kit: the reply of a call that the service has performed, or an error,
and then the service is as before unless the answer was lost. -/
theorem clientCall_eq_some (hrequest : request.ofKit = true)
    (h : clientCall cfg k v request s = some (t, errCode, reply)) :
    (errCode = ERR_OK ∧ ∃ c, request.call? = some c ∧
      s.call cfg v.process v.occasion c = some (t, .ok reply)) ∨
    (v.isLost = false → t = s) ∧ v.Fails errCode := by
  unfold clientCall at h
  cases hproxy : v.proxy with
  | none =>
    rw [hproxy] at h
    cases h
    exact .inr ⟨fun _ => rfl, .inl (by decide)⟩
  | some delivery =>
    rw [hproxy] at h
    cases hcall : request.call? with
    | none =>
      rw [hcall] at h
      cases h
      exact .inr ⟨fun _ => rfl, .inl (by decide)⟩
    | some c =>
      rw [hcall] at h
      cases delivery with
      | answered =>
        obtain ⟨⟨next, answer⟩, hanswer, heq⟩ := Option.map_eq_some_iff.1 h
        cases answer with
        | ok reply =>
          cases heq
          exact .inl ⟨rfl, c, rfl, hanswer⟩
        | error error =>
          cases heq
          obtain ⟨hsame, e, rfl⟩ := call_ofKit (ofKit_of_call? hrequest hcall) hanswer error rfl
          exact .inr ⟨fun _ => hsame, .inl (errCode_mem e)⟩
      | failed errCode' hne =>
        cases h
        exact .inr ⟨fun _ => rfl, .inr (by rw [hproxy]; rfl)⟩
      | unanswered errCode' hne =>
        obtain ⟨⟨next, answer⟩, -, heq⟩ := Option.map_eq_some_iff.1 h
        cases heq
        refine .inr ⟨fun hlost => ?_, .inr (by rw [hproxy]; rfl)⟩
        rw [Visit.isLost, hproxy] at hlost
        cases hlost

/-! ### The errors of an answer -/

/-- Every error has a message. -/
theorem findErrMsg_ne_empty (h : errCode ≠ ERR_OK) : findErrMsg errCode ≠ "" := by
  have happend : ∀ {s₁ s₂ : String}, s₁ ≠ "" → s₁ ++ s₂ ≠ "" := fun h hempty =>
    h (String.append_eq_empty_iff.1 hempty).1
  rw [findErrMsg, if_neg h]
  split
  · exact happend (happend (happend (by decide)))
  · exact happend (by decide)
  · decide

/-- No error has the code of success. -/
theorem findErrCode_ne_ok (h : errCode ≠ ERR_OK) : findErrCode errCode ≠ ERR_OK := by
  rw [findErrCode]
  split_ifs with hparam hlarge
  · decide
  · have hquotient : 1 ≤ errCode.tdiv OFFSET :=
      Int.le_tdiv_of_mul_le (by decide) (hlarge.le.trans' (by decide))
    exact (Int.lt_of_lt_of_le Int.one_pos hquotient).ne'
  · exact h

/-- The error of a client, when it is thrown. -/
theorem handleErrCode_of_ne (h : errCode ≠ ERR_OK) :
    handleErrCode errCode = some ⟨findErrCode errCode, findErrMsg errCode⟩ := by
  rw [handleErrCode, if_neg h, if_pos (findErrMsg_ne_empty h)]

/-- The error of a client goes to the callback, or to the promise, as it would be thrown. -/
theorem errors_returnCallbackPromise {isCallback : Bool} {value : KitValue} :
    KitAnswer.errors { result := returnCallbackPromise isCallback errCode value } =
      (handleErrCode errCode).toList := by
  by_cases h : errCode = ERR_OK
  · subst h
    cases isCallback <;> rfl
  · rw [handleErrCode_of_ne h, returnCallbackPromise, getCallbackErrorValue, if_neg h, if_neg h,
      if_neg (findErrCode_ne_ok h)]
    cases isCallback <;> rfl

/-- The arguments are refused with errors that have messages. -/
def ParamErrors {α : Type} (parsed : Except Int α) : Prop :=
  ErrorsMeet (fun errCode => (handleParamErr errCode).isSome = true) parsed

theorem paramErrors_parseAllowResParameters (args : List JsArgument) :
    ParamErrors (k.parseAllowResParameters args) := by
  unfold KitPlatform.parseAllowResParameters
  split
  · repeat' split
    all_goals first | exact errorsMeet_error rfl | exact errorsMeet_ok
  · exact errorsMeet_error rfl

theorem paramErrors_parseCallback (argument : Option JsArgument) :
    ParamErrors (parseCallback argument) := by
  unfold parseCallback
  split
  · exact errorsMeet_ok
  · split
    · exact errorsMeet_ok
    · exact errorsMeet_error rfl

theorem paramErrors_parseInStandbyParameters (args : List JsArgument) :
    ParamErrors (parseInStandbyParameters args) := by
  unfold parseInStandbyParameters
  split_ifs
  · exact errorsMeet_error rfl
  · exact paramErrors_parseCallback _

theorem paramErrors_parseGetAllowListParameters (args : List JsArgument) :
    ParamErrors (parseGetAllowListParameters args) := by
  unfold parseGetAllowListParameters
  split
  next argument rest =>
    split_ifs
    · exact errorsMeet_error rfl
    split
    · exact errorsMeet_error rfl
    split
    next errCode hcallback =>
      exact errorsMeet_error (paramErrors_parseCallback _ errCode hcallback)
    · split_ifs
      · exact errorsMeet_error rfl
      · exact errorsMeet_ok
  · exact errorsMeet_error rfl

/-! ### The calls -/

/-- What becomes of a call: the kit stops at its arguments, or it asks its client and tells the
error of that after what it has reported. -/
def KitCall.Comes (cfg : ServiceConfig) (k : KitPlatform) (v : Visit) (s t : StandbyService)
    (c : KitCall) (answer : KitAnswer) : Prop :=
  (c.request? k = none ∧ t = s ∧
    ∃ errCode error, handleParamErr errCode = some error ∧ answer.errors = [error]) ∨
  ∃ request errCode reply, c.request? k = some request ∧ request.ofKit = true ∧
    clientCall cfg k v request s = some (t, errCode, reply) ∧
    answer.errors = c.reported ++ (handleErrCode errCode).toList

/-- A kit that stops at its arguments. -/
theorem comes_of_error {α : Type} {kitCall : KitCall} {parsed : Except Int α}
    (hparsed : ParamErrors parsed) (herror : parsed = .error errCode)
    (hrequest : kitCall.request? k = none)
    (h : some (s, ({ thrown := (handleParamErr errCode).toList } : KitAnswer)) =
      some (t, kitAnswer)) : kitCall.Comes cfg k v s t kitAnswer := by
  cases h
  obtain ⟨error, hsome⟩ := Option.isSome_iff_exists.1 (hparsed errCode herror)
  refine .inl ⟨hrequest, rfl, errCode, error, hsome, ?_⟩
  rw [KitAnswer.errors, hsome]
  rfl

/-- A request of the first kit. -/
theorem comes_napi {kitCall : KitCall} {f : Option ResourceRequest → ClientRequest}
    {args : List JsArgument} (hf : ∀ r, (f r).ofKit = true)
    (hrequest : kitCall.request? k =
      (k.parseAllowResParameters args).toOption.map fun r => f (some r))
    (hreported : kitCall.reported = [])
    (h : Napi.requestResource cfg k v f args s = some (t, kitAnswer)) :
    kitCall.Comes cfg k v s t kitAnswer := by
  unfold Napi.requestResource at h
  cases hparse : k.parseAllowResParameters args with
  | error errCode =>
    rw [hparse] at h hrequest
    exact comes_of_error (paramErrors_parseAllowResParameters args) hparse hrequest h
  | ok resourceRequest =>
    rw [hparse] at h hrequest
    obtain ⟨⟨next, errCode, reply⟩, hclient, heq⟩ := Option.map_eq_some_iff.1 h
    cases heq
    refine .inr ⟨_, errCode, reply, hrequest, hf _, hclient, ?_⟩
    rw [hreported, KitAnswer.errors, List.append_nil, List.nil_append]

/-- A query of the first kit. -/
theorem comes_napi_query {α : Type} {kitCall : KitCall} {parse : Except Int α}
    {value : CallReply → KitValue} {f : α → ClientRequest × Bool}
    (hf : ∀ a, (f a).1.ofKit = true) (hparse : ParamErrors parse)
    (hrequest : kitCall.request? k = parse.toOption.map fun a => (f a).1)
    (hreported : kitCall.reported = [])
    (h : Napi.query cfg k v value (parse.map f) s = some (t, kitAnswer)) :
    kitCall.Comes cfg k v s t kitAnswer := by
  cases parse with
  | error errCode => exact comes_of_error hparse rfl hrequest h
  | ok a =>
    obtain ⟨⟨next, errCode, reply⟩, hclient, heq⟩ := Option.map_eq_some_iff.1 h
    cases heq
    refine .inr ⟨_, errCode, reply, hrequest, hf a, hclient, ?_⟩
    rw [hreported, errors_returnCallbackPromise, List.nil_append]

/-- A request of the second kit. -/
theorem comes_ani {kitCall : KitCall} {f : Option ResourceRequest → ClientRequest}
    {r : AniResourceRequest} (hf : ∀ r, (f r).ofKit = true)
    (hrequest : kitCall.request? k = some (f (some r.genResourceRequest)))
    (hreported : kitCall.reported = r.reported)
    (h : Ani.requestResource cfg k v f r s = some (t, kitAnswer)) :
    kitCall.Comes cfg k v s t kitAnswer := by
  obtain ⟨⟨next, errCode, reply⟩, hclient, heq⟩ := Option.map_eq_some_iff.1 h
  cases heq
  refine .inr ⟨_, errCode, reply, hrequest, hf _, hclient, ?_⟩
  rw [hreported, KitAnswer.errors, List.append_nil]

/-- A query of the second kit. -/
theorem comes_ani_query {kitCall : KitCall} {value : CallReply → KitValue} {default : KitValue}
    (hof : request.ofKit = true) (hrequest : kitCall.request? k = some request)
    (hreported : kitCall.reported = [])
    (h : Ani.query cfg k v request value default s = some (t, kitAnswer)) :
    kitCall.Comes cfg k v s t kitAnswer := by
  obtain ⟨⟨next, errCode, reply⟩, hclient, heq⟩ := Option.map_eq_some_iff.1 h
  dsimp only at heq
  split_ifs at heq with hok
  · cases heq
    refine .inr ⟨_, errCode, reply, hrequest, hof, hclient, ?_⟩
    rw [hreported, KitAnswer.errors, List.append_nil, List.nil_append]
  · cases heq
    refine .inr ⟨_, errCode, reply, hrequest, hof, hclient, ?_⟩
    rw [hreported, not_not.1 hok]
    rfl

theorem comes_perform {c : KitCall} (h : c.perform cfg k v s = some (t, kitAnswer)) :
    c.Comes cfg k v s t kitAnswer := by
  cases c with
  | napiApplyAllowResource args => exact comes_napi (fun _ => rfl) rfl rfl h
  | napiUnapplyAllowResource args => exact comes_napi (fun _ => rfl) rfl rfl h
  | napiGetExemptionListApps args =>
    rw [KitCall.perform, Napi.getExemptionListApps] at h
    exact comes_napi_query (fun _ => rfl) (paramErrors_parseGetAllowListParameters args) rfl rfl h
  | napiIsDeviceInStandby args =>
    rw [KitCall.perform, Napi.isDeviceInStandby] at h
    exact comes_napi_query (fun _ => rfl) (paramErrors_parseInStandbyParameters args) rfl rfl h
  | aniRequestExemptionResource request => exact comes_ani (fun _ => rfl) rfl rfl h
  | aniReleaseExemptionResource request => exact comes_ani (fun _ => rfl) rfl rfl h
  | aniGetExemptedAppsSync resourceTypes =>
    rw [KitCall.perform, Ani.getExemptedAppsSync] at h
    exact comes_ani_query rfl rfl rfl h
  | aniIsDeviceInStandby =>
    rw [KitCall.perform, Ani.isDeviceInStandby] at h
    exact comes_ani_query rfl rfl rfl h

/-- The errors that a kit reports itself have messages. -/
theorem explained_of_reported {c : KitCall} (h : error ∈ c.reported) : error.Explained := by
  have hverify : ∀ r : AniResourceRequest, ∀ error ∈ r.reported, error.Explained := by
    intro r error hmem
    unfold AniResourceRequest.reported at hmem
    split at hmem
    · exact explained_of_handleParamErr (Option.mem_toList.1 hmem)
    · cases hmem
  cases c with
  | aniRequestExemptionResource r | aniReleaseExemptionResource r => exact hverify r error h
  | _ => cases h

/-- An error that a script may be told in a visit: a documented one, or what the kit makes of an
error of the proxy's own. -/
def Visit.MayTell (v : Visit) (error : BusinessError) : Prop :=
  error.Explained ∨ ∃ errCode, v.proxy.bind Delivery.errCode? = some errCode ∧
    error = ⟨findErrCode errCode, findErrMsg errCode⟩

/-- The service has performed what a call of a kit asks for. -/
def KitCall.Served (cfg : ServiceConfig) (k : KitPlatform) (v : Visit) (s t : StandbyService)
    (c : KitCall) : Prop :=
  ∃ request call reply, c.request? k = some request ∧ request.call? = some call ∧
    s.call cfg v.process v.occasion call = some (t, .ok reply)

/-- What a script may conclude from an answer. -/
theorem KitCall.Comes.errors {c : KitCall} (h : c.Comes cfg k v s t kitAnswer) :
    (∀ error ∈ kitAnswer.errors, v.MayTell error) ∧
      (c.reported = [] → v.isLost = false → kitAnswer.errors ≠ [] → t = s) ∧
      (kitAnswer.errors = [] → c.Served cfg k v s t) := by
  obtain ⟨-, hsame, errCode, error, hparam, herrors⟩ |
    ⟨request, errCode, reply, hrequest, hof, hclient, herrors⟩ := h
  · rw [herrors]
    refine ⟨fun error' hmem => ?_, fun _ _ _ => hsame, fun hnil => by (cases hnil)⟩
    obtain rfl := List.mem_singleton.1 hmem
    exact .inl (explained_of_handleParamErr hparam)
  · rw [herrors]
    obtain ⟨rfl, call, hcall, hserved⟩ | ⟨hsame, hfails⟩ := clientCall_eq_some hof hclient
    · have hnone : (handleErrCode ERR_OK).toList = [] := rfl
      rw [hnone, List.append_nil]
      exact ⟨fun error hmem => .inl (explained_of_reported hmem),
        fun hnil _ hne => absurd hnil hne,
        fun _ => ⟨request, call, reply, hrequest, hcall, hserved⟩⟩
    · rw [handleErrCode_of_ne hfails.ne_ok]
      refine ⟨fun error hmem => ?_, fun _ hlost _ => hsame hlost, fun hnil => ?_⟩
      · rcases List.mem_append.1 hmem with hmem | hmem
        · exact .inl (explained_of_reported hmem)
        · obtain rfl := List.mem_singleton.1 hmem
          exact hfails.imp (fun hcode => (explained_of_mem hcode).2) fun hproxy =>
            ⟨errCode, hproxy, rfl⟩
      · cases (List.append_eq_nil_iff.1 hnil).2

end

section
variable {β : Type} {cfg : ServiceConfig} {k : KitPlatform}
  {others : β → StandbyService → Option StandbyService} {deathRecipient : Bool} {createdAt : Int}
  {s t : StandbyService} {as : List (KitAction β)} {log : List (KitAction β × KitReply)}

/-- A step of the machine that is a call of a kit has come to its answer. -/
theorem comes_of_step {v : Visit} {c : KitCall} {answer : KitAnswer}
    (h : (kitMachine cfg k others deathRecipient createdAt).step s (.kit v c) =
      some (t, .kit answer)) : c.Comes cfg k v s t answer := by
  obtain ⟨⟨next, kitAnswer⟩, hperform, heq⟩ := Option.map_eq_some_iff.1 h
  cases heq
  exact comes_perform hperform

/-- A script that is told an error has had no influence, unless its kit went on after a check that
failed or the answer was lost: a run without such calls leads to the same state and gives the same
answers to the others. Every error is a documented one or comes from the proxy, and where no error
is told the service has done just then what the call asks for. -/
theorem thrown_requests_have_no_influence
    (h : (kitMachine cfg k others deathRecipient createdAt).exec s as = some (t, log)) :
    (kitMachine cfg k others deathRecipient createdAt).exec s
        ((log.filter fun entry => ¬ entry.1.failed entry.2).map Prod.fst) =
      some (t, log.filter fun entry => ¬ entry.1.failed entry.2) ∧
    ∀ v c answer log₁ log₂, log = log₁ ++ (.kit v c, .kit answer) :: log₂ →
      ∃ before after,
        (kitMachine cfg k others deathRecipient createdAt).exec s (log₁.map Prod.fst) =
          some (before, log₁) ∧
        (kitMachine cfg k others deathRecipient createdAt).step before (.kit v c) =
          some (after, .kit answer) ∧
        (kitMachine cfg k others deathRecipient createdAt).exec after (log₂.map Prod.fst) =
          some (t, log₂) ∧
        (∀ error ∈ answer.errors, v.MayTell error) ∧
        (answer.errors = [] → c.Served cfg k v before after) := by
  constructor
  · have hunwinding : Unwinding (kitMachine cfg k others deathRecipient createdAt)
        (fun a answer => a.failed answer = true) Eq := by
      refine .of_unchanged fun {s t a answer} ha hstep => ?_
      cases a with
      | service a => cases ha
      | kit v c =>
        cases answer with
        | service answer => cases ha
        | kit answer =>
          simp only [KitAction.failed, Bool.and_eq_true, List.isEmpty_iff, Bool.not_eq_true',
            List.isEmpty_eq_false_iff] at ha
          exact (comes_of_step hstep).errors.2.1 ha.1.1 ha.1.2 ha.2
    obtain ⟨t', hexec, rfl⟩ := hunwinding.exec rfl h
    exact hexec
  · rintro v c answer log₁ log₂ rfl
    obtain ⟨before, after, hbefore, hstep, hafter⟩ := Machine.exec_split h
    obtain ⟨htold, -, hserved⟩ := (comes_of_step hstep).errors
    exact ⟨before, after, hbefore, hstep, hafter, htold, hserved⟩

end

/-- A platform whose strings have one byte a character. -/
def sampleKitPlatform : KitPlatform where
  getValueStringUtf8 n s := if s.utf8ByteSize < n then s else .ofList (s.toList.take (n - 1))
  ERR_PERMISSION_DENIED := 1

/-- A request for a work scheduler, for two minutes. -/
def sampleAniRequest : AniResourceRequest where
  resourceTypes := AllowType.workScheduler.mask
  uid := 7
  name := "proc"
  duration := 120
  reason := "sync"

/-- Of four calls of a system app the second succeeds: the first has no object, the third asks for
no type, and the proxy of the last is one of a service that has ended. -/
theorem thrown_requests_have_no_influence_sample : ∃ t log,
    (kitMachine sampleServiceConfig sampleKitPlatform
        (fun (_ : Unit) s => some { s with running := true }) true 0).exec
      { notifier := .create true 0 } (log.map Prod.fst) = some (t, log) ∧
      log.length = 3 ∧ t.allow.allowTypeOf 7 "proc" = AllowType.workScheduler.mask := by
  have hrun : ((kitMachine sampleServiceConfig sampleKitPlatform
      (fun (_ : Unit) s => some { s with running := true }) true 0).exec
        { notifier := .create true 0 }
        (startService.map .service ++ [
          .kit ⟨systemApp, ⟨1, 0, true⟩, some .answered⟩
            (.napiApplyAllowResource [{ value := .nullish }]),
          .kit ⟨systemApp, ⟨1, 0, true⟩, some .answered⟩
            (.aniRequestExemptionResource sampleAniRequest),
          .kit ⟨systemApp, ⟨1, 0, true⟩, some .answered⟩ (.aniGetExemptedAppsSync 0),
          .kit ⟨systemApp, ⟨1, 0, true⟩, some (.failed 29189 (by decide))⟩
            (.aniReleaseExemptionResource sampleAniRequest)])).map
        (fun next => ((next.2.filter fun entry => ¬ entry.1.failed entry.2).length,
          next.1.allow.allowTypeOf 7 "proc")) = some (3, AllowType.workScheduler.mask) := by
    decide +kernel
  obtain ⟨⟨t, log⟩, hexec, heq⟩ := Option.map_eq_some_iff.1 hrun
  obtain ⟨hlength, htypes⟩ := Prod.mk.inj heq
  exact ⟨t, _, (thrown_requests_have_no_influence hexec).1, hlength, htypes⟩

/-! ## Where the kits agree -/

/-- A request of a static script as the argument of a dynamic one. -/
def AniResourceRequest.toArguments (request : AniResourceRequest) : List JsArgument :=
  [{ value := .other
     property := fun utf8name => [("resourceTypes", .number request.resourceTypes),
       ("uid", .number request.uid), ("name", .string request.name),
       ("duration", .number request.duration), ("reason", .string request.reason)].lookup
         utf8name }]

section
variable {cfg : ServiceConfig} {k : KitPlatform} {request : AniResourceRequest} {errCode : Int}

/-- The first kit reads the request that the second one makes, unless it refuses it. -/
theorem parse_toArguments
    (hname : k.getValueStringUtf8 (STRING_MAX_SIZE - 1) request.name = request.name)
    (hreason : k.getValueStringUtf8 (STRING_MAX_SIZE - 1) request.reason = request.reason) :
    k.parseAllowResParameters request.toArguments =
      if resourceTypesInvalid request.resourceTypes then .error ERR_RESOURCE_TYPES_INVALID
      else if request.uid.toInt < 0 then .error ERR_UID_INVALID
      else if cString request.name = "" then .error ERR_NAME_INVALID_OR_EMPTY
      else .ok request.genResourceRequest := by
  have htypes : ∀ object ∈ request.toArguments,
      object.getNamedInt32Value "resourceTypes" = some request.resourceTypes ∧
        object.getNamedInt32Value "uid" = some request.uid ∧
        object.getNamedInt32Value "duration" = some request.duration := by
    intro object hobject
    obtain rfl := List.mem_singleton.1 hobject
    exact ⟨rfl, rfl, rfl⟩
  have hstrings : ∀ object ∈ request.toArguments,
      k.getNamedStringValue object "name" = some (cString request.name) ∧
        k.getNamedStringValue object "reason" = some (cString request.reason) := by
    intro object hobject
    obtain rfl := List.mem_singleton.1 hobject
    exact ⟨congrArg (some <| cString ·) hname, congrArg (some <| cString ·) hreason⟩
  obtain ⟨object, hobject⟩ : ∃ object, request.toArguments = [object] := ⟨_, rfl⟩
  rw [hobject] at htypes hstrings ⊢
  obtain ⟨htypes, huid, hduration⟩ := htypes object List.mem_cons_self
  obtain ⟨hname, hreason⟩ := hstrings object List.mem_cons_self
  simp only [KitPlatform.parseAllowResParameters, htypes, huid, hduration, hname, hreason]
  rfl

/-- A parameter error is one of the script. -/
theorem code_of_handleParamErr {error : BusinessError} (h : handleParamErr errCode = some error) :
    error.code = 401 := by
  unfold handleParamErr at h
  split_ifs at h
  obtain ⟨text, -, rfl⟩ := Option.map_eq_some_iff.1 h
  rfl

/-- The kits agree on a request of short strings, whatever the service and the caller, exactly when
it passes the check of the first one. -/
theorem kits_agree_iff
    (hcopy : ∀ n s, s.utf8ByteSize < n → k.getValueStringUtf8 n s = s)
    (hname : request.name.utf8ByteSize < STRING_MAX_SIZE - 1)
    (hreason : request.reason.utf8ByteSize < STRING_MAX_SIZE - 1) :
    (∀ v s, Napi.applyAllowResource cfg k v request.toArguments s =
          Ani.requestExemptionResource cfg k v request s ∧
        Napi.unapplyAllowResource cfg k v request.toArguments s =
          Ani.releaseExemptionResource cfg k v request s) ↔
      0 < request.resourceTypes.toInt ∧ request.resourceTypes ≤ MAX_ALLOW_TYPE_NUMBER ∧
        0 ≤ request.uid.toInt ∧ cString request.name ≠ "" := by
  have hparse := parse_toArguments (hcopy _ _ hname) (hcopy _ _ hreason)
  have htypes : resourceTypesInvalid request.resourceTypes = false ↔
      0 < request.resourceTypes.toInt ∧ request.resourceTypes ≤ MAX_ALLOW_TYPE_NUMBER := by
    rw [resourceTypesInvalid, Bool.or_eq_false_iff, decide_eq_false_iff_not,
      decide_eq_false_iff_not, not_le, gt_iff_lt, BitVec.not_lt]
  rw [← and_assoc, ← htypes]
  constructor
  · intro hagree
    by_contra hrefused
    obtain ⟨errCode, herror⟩ : ∃ errCode,
        k.parseAllowResParameters request.toArguments = .error errCode := by
      rw [hparse]
      split_ifs with h1 h2 h3
      · exact ⟨_, rfl⟩
      · exact ⟨_, rfl⟩
      · exact ⟨_, rfl⟩
      · exact absurd ⟨Bool.not_eq_true _ ▸ h1, not_lt.1 h2, h3⟩ hrefused
    -- A client without a proxy tells an error of its own, and the first kit does not ask it.
    have hsame := (hagree ⟨{ pid := 0 }, ⟨0, 0, false⟩, none⟩ { notifier := .create true 0 }).1
    rw [Napi.applyAllowResource, Napi.requestResource, herror] at hsame
    have hthrown : (handleParamErr errCode).toList =
        request.reported ++ (handleErrCode ERR_STANDBY_SERVICE_NOT_CONNECTED).toList :=
      congrArg KitAnswer.thrown (congrArg Prod.snd (Option.some.inj hsame))
    have hmem : (⟨9800004, findErrMsg ERR_STANDBY_SERVICE_NOT_CONNECTED⟩ : BusinessError) ∈
        (handleParamErr errCode).toList := by
      rw [hthrown, handleErrCode_of_ne (by decide)]
      exact List.mem_append_right _ List.mem_cons_self
    exact absurd (code_of_handleParamErr (Option.mem_toList.1 hmem)) (by decide)
  · rintro ⟨htypes, huid, hname⟩ v s
    have haccepted : k.parseAllowResParameters request.toArguments =
        .ok request.genResourceRequest := by
      rw [hparse, if_neg (Bool.not_eq_true _ ▸ htypes), if_neg (not_lt.2 huid), if_neg hname]
    have hreported : request.reported = [] := by
      have hne : request.name ≠ "" := fun h => hname (by rw [h]; rfl)
      rw [AniResourceRequest.reported, AniResourceRequest.verify,
        if_neg (Bool.not_eq_true _ ▸ htypes), if_neg (not_lt.2 huid), if_neg hne]
    constructor
    · rw [Napi.applyAllowResource, Napi.requestResource, haccepted,
        Ani.requestExemptionResource, Ani.requestResource, hreported]
      rfl
    · rw [Napi.unapplyAllowResource, Napi.requestResource, haccepted,
        Ani.releaseExemptionResource, Ani.requestResource, hreported]
      rfl

end

/-- They agree on the sample request. -/
theorem kits_agree_iff_sample : sampleAniRequest.reported = [] ∧ ∀ v s,
    Napi.applyAllowResource sampleServiceConfig sampleKitPlatform v sampleAniRequest.toArguments s =
        Ani.requestExemptionResource sampleServiceConfig sampleKitPlatform v sampleAniRequest s ∧
      Napi.unapplyAllowResource sampleServiceConfig sampleKitPlatform v
          sampleAniRequest.toArguments s =
        Ani.releaseExemptionResource sampleServiceConfig sampleKitPlatform v sampleAniRequest s :=
  ⟨rfl, (kits_agree_iff (fun _ _ h => if_pos h) (by decide) (by decide)).2 (by decide)⟩

end DeviceStandby
