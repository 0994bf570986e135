import DeviceStandby.Config.DebugMode
import DeviceStandby.Core.Message
import DeviceStandby.Lib.Bytes
import DeviceStandby.Lib.JsonAccess

/-!
# Events of the resource scheduler

`HandleCommonEvent` hands what the resource scheduler reports to a handler for each type. Some of
them parse a payload, and an access that throws is not caught and aborts the service. All but one
look before they read: `returns_handleCommonEvent_iff` says that a call state without the key
`state` aborts the service, and nothing else does.
-/

open Json

namespace DeviceStandby

/-! ## What is handled, and what is done -/

/-- The types that `HandleCommonEvent` tells apart. -/
inductive ResType where
  | screenStatus
  | chargingDischarging
  | usbDevice
  | callStateChanged
  | wifiP2pStateChanged
  | clickRecognize
  | mmiInputPowerKey
  | btServiceEvent
  | reportBokerGattConnect
  | powerModeChanged
  | efficiencyResourcesStateChanged
  | bootCompleted
  | thermalScenarioReport
  | wifiConnectStateChange
  | innerAudioState
  | audioCaptureStatusChanged
  | appInstallUninstall
  | timezoneChanged
  | nitzTimezoneChanged
  | timeChanged
  | nitzTimeChanged
  | other (resType : Nat)
  deriving DecidableEq

/-- What comes from outside: the parser, which may discard a text, the values that the resource
scheduler gives to its events, and whether the net manager is compiled in. -/
structure EventPlatform where
  parse : Bytes → Option Json
  gattAppRegister : Int
  gattConnectState : Int
  appEfficiencyResourcesApply : Int
  procEfficiencyResourcesApply : Int
  appUninstall : Int
  appChanged : Int
  appReplaced : Int
  bundleRemoved : Int
  appFullyRemoved : Int
  netManagerBaseEnable : Bool

/-- The types of the messages that the handlers dispatch, beside COMMON_EVENT. -/
inductive StandbyMessageType where
  | screenClickRecognize
  | gattAppRegister
  | gattConnectState
  | brokerGattConnect
  | mmiInputPowerKeyDown
  | bgEfficiencyResourceApply
  | thermalScenarioReport
  | wifiConnectStateChange
  | audioRendererChange
  | audioCapturerChange
  deriving DecidableEq

/-- `DeviceStateType`. -/
inductive DeviceStateType where
  | disCompChange
  | telephoneStateChange
  | wifiP2pChange
  deriving DecidableEq

/-- A parameter of a want. -/
inductive WantParam where
  | int (value : Int)
  | bool (value : Bool)
  | string (value : String)
  | bytes (value : Bytes)
  deriving DecidableEq

/-- What a handler does. Messages are dispatched by `DispatchEvent`, which drops them while the
service is not ready; the last two are tasks that are posted. -/
inductive EventEffect where
  | commonEvent (action : CommonEvent) (want : List (String × WantParam))
  | message (eventId : StandbyMessageType) (want : List (String × WantParam))
  | setDeviceState (type : DeviceStateType) (enabled : Bool)
  | setDeviceIdlePolicy (enable : Bool)
  | removeAppAllowRecord (uid : Int) (bundleName : String) (resetAll : Bool)
  | resetTimeObserver
  deriving DecidableEq

abbrev CALL_STATUS_UNKNOWN : Int := -1
abbrev CALL_STATUS_DISCONNECTED : Int := 6
abbrev CALL_STATUS_IDLE : Int := 8
abbrev P2P_STATE_NONE : Int := 0
abbrev P2P_STATE_IDLE : Int := 1
abbrev P2P_STATE_CLOSED : Int := 5
abbrev COMMON_EVENT_BOOT_COMPLETED : String := "COMMON_EVENT_BOOT_COMPLETED"
abbrev COMMON_EVENT_POWER_SAVE_MODE_CHANGED : String := "COMMON_EVENT_POWER_SAVE_MODE_CHANGED"
abbrev BG_TASK_BUNDLE_NAME : String := "name"
abbrev BG_TASK_RESOURCE_STATUS : String := "applyed"
abbrev BG_TASK_TYPE : String := "type"

namespace EventPlatform

/-! ## The handlers -/

section
variable (p : EventPlatform) (value : Int) (sceneInfo : Bytes)

/-- What the handlers of a payload begin with: a text that is not parsed is not handled. -/
def withPayload (handle : Json → Except AccessError (List EventEffect)) :
    Except AccessError (List EventEffect) :=
  match p.parse sceneInfo with
  | none => .ok []
  | some payload => handle payload

/-- The number under a key: a string that is read with `atoi`, or an integer, and -1 otherwise. The
kind is asked twice. -/
def numberAt (key : String) (payload : Json) : Except AccessError Int := do
  let asked ← payload.atKey key
  let number ← if asked.asString?.isSome then atoi <$> payload.stringAt key else .ok (-1)
  let asked ← payload.atKey key
  if asked.asInteger?.isSome then payload.int32At key else .ok number

/-- `StandbyServiceImpl::HandleCallStateChanged`. -/
def handleCallStateChanged : Except AccessError (List EventEffect) :=
  p.withPayload sceneInfo fun payload => do
    let state ← numberAt "state" payload
    let disable : Bool := state = CALL_STATUS_UNKNOWN ∨ state = CALL_STATUS_DISCONNECTED ∨
      state = CALL_STATUS_IDLE
    return [.setDeviceState .telephoneStateChange !disable]

/-- `StandbyServiceImpl::HandleP2PStateChanged`, on an `int32_t`. -/
def handleP2PStateChanged (state : Int) : List EventEffect :=
  let disable : Bool := state = P2P_STATE_IDLE ∨ state = P2P_STATE_NONE ∨ state = P2P_STATE_CLOSED
  [.setDeviceState .wifiP2pChange !disable]

/-- `StandbyServiceImpl::HandleScreenStateChanged`. -/
def handleScreenStateChanged : List EventEffect :=
  if value = 1 then
    .commonEvent .screenOn [] :: if p.netManagerBaseEnable then [.setDeviceIdlePolicy false] else []
  else [.commonEvent .screenOff []]

/-- `StandbyServiceImpl::HandleChargeStateChanged`. -/
def handleChargeStateChanged : List EventEffect :=
  [.commonEvent (if value = 0 then .charging else .discharging) []]

/-- `StandbyServiceImpl::HandleScreenClickRecognize`. -/
def handleScreenClickRecognize : List EventEffect :=
  [.message .screenClickRecognize [("clickType", .int (Json.toInt32 value))]]

/-- `StandbyServiceImpl::HandleBTServiceEvent`. -/
def handleBTServiceEvent : Except AccessError (List EventEffect) :=
  p.withPayload sceneInfo fun payload =>
    if value = p.gattAppRegister then do
      if ← payload.passes [.contains "ACTION", .contains "UID", .isString "ACTION", .isString "UID",
          .contains "SIDE", .isString "SIDE", .contains "APPID", .isString "APPID"] then
        let action ← payload.stringAt "ACTION"
        let uid ← payload.stringAt "UID"
        let side ← payload.stringAt "SIDE"
        let appid ← payload.stringAt "APPID"
        return [.message .gattAppRegister [("ACTION", .string action), ("UID", .int (atoi uid)),
          ("SIDE", .string side), ("APPID", .int (atoi appid))]]
      else return []
    else if value = p.gattConnectState then do
      if ← payload.passes [.contains "STATE", .isString "STATE", .contains "ROLE", .isString "ROLE",
          .contains "CONNECTIF", .isString "CONNECTIF"] then
        let state ← payload.stringAt "STATE"
        let side ← payload.stringAt "ROLE"
        let appid ← payload.stringAt "CONNECTIF"
        return [.message .gattConnectState [("STATE", .int (atoi state)), ("SIDE", .string side),
          ("APPID", .int (atoi appid))]]
      else return []
    else .ok []

/-- `StandbyServiceImpl::HandleBrokerGattConnect`. -/
def handleBrokerGattConnect : Except AccessError (List EventEffect) :=
  p.withPayload sceneInfo fun payload =>
    if value ≠ 0 then do
      if ← payload.passes
          [.contains "clientIf", .contains "pkg", .isString "clientIf", .isString "pkg"] then
        let pkg ← payload.stringAt "pkg"
        let clientIf ← payload.stringAt "clientIf"
        return [.message .brokerGattConnect [("clientIf", .int (atoi clientIf)),
          ("pkg", .string pkg), ("connect", .bool true)]]
      else return []
    else do
      if ← payload.passes [.contains "clientIf", .isString "clientIf"] then
        let clientIf ← payload.stringAt "clientIf"
        return [.message .brokerGattConnect [("clientIf", .int (atoi clientIf)),
          ("connect", .bool false)]]
      else return []

/-- `StandbyServiceImpl::HandleMmiInputPowerKeyDown`. -/
def handleMmiInputPowerKeyDown : List EventEffect :=
  [.message .mmiInputPowerKeyDown [("keyCode", .int value)]]

/-- `StandbyServiceImpl::HandleResourcesStateChanged`. -/
def handleResourcesStateChanged : Except AccessError (List EventEffect) :=
  let isApply : Bool := value = p.appEfficiencyResourcesApply ∨
    value = p.procEfficiencyResourcesApply
  p.withPayload sceneInfo fun payload => do
    if ← payload.passes [.contains "bundleName", .contains "resourceNumber",
        .isString "bundleName"] then
      let bundleName ← payload.stringAt "bundleName"
      if ← payload.passes [.isNumberUnsigned "resourceNumber"] then
        let resourceNumber ← payload.uint32At "resourceNumber"
        return [.message .bgEfficiencyResourceApply [(BG_TASK_BUNDLE_NAME, .string bundleName),
          (BG_TASK_RESOURCE_STATUS, .bool isApply),
          (BG_TASK_TYPE, .int (Json.toInt32 resourceNumber))]]
      else return []
    else return []

/-- `StandbyServiceImpl::HandleBootCompleted`. -/
def handleBootCompleted : List EventEffect :=
  [.commonEvent (.other COMMON_EVENT_BOOT_COMPLETED) []]

/-- `StandbyServiceImpl::HandleThermalScenarioReport`. -/
def handleThermalScenarioReport : List EventEffect :=
  [.message .thermalScenarioReport [("scenario", .int value), ("sceneInfo", .bytes sceneInfo)]]

/-- `StandbyServiceImpl::HandleWifiConnStateChanged`. -/
def handleWifiConnStateChanged : List EventEffect :=
  [.message .wifiConnectStateChange [("wifiConnState", .int (Json.toInt32 value))]]

/-- `StandbyServiceImpl::HandlePowerModeChanged`. -/
def handlePowerModeChanged : List EventEffect :=
  [.commonEvent (.other COMMON_EVENT_POWER_SAVE_MODE_CHANGED)
    [("current_power_mode", .int (Json.toInt32 value))]]

/-- What the two handlers of audio have in common. -/
def handleAudioChanged (eventId : StandbyMessageType) (stateParam : String) :
    Except AccessError (List EventEffect) :=
  p.withPayload sceneInfo fun payload => do
    if ← payload.passes [.contains "uid", .isString "uid"] then
      let uid ← payload.stringAt "uid"
      return [.message eventId [(stateParam, .int (Json.toInt32 value)), ("uid", .string uid)]]
    else return []

/-- `StandbyServiceImpl::HandleAudioRendererChanged`. -/
def handleAudioRendererChanged : Except AccessError (List EventEffect) :=
  p.handleAudioChanged value sceneInfo .audioRendererChange "rendererState"

/-- `StandbyServiceImpl::HandleAudioCapturerChanged`. -/
def handleAudioCapturerChanged : Except AccessError (List EventEffect) :=
  p.handleAudioChanged value sceneInfo .audioCapturerChange "capturerState"

/-- `StandbyServiceImpl::AppEventHandler`. -/
def appEventHandler (resType : ResType) : Except AccessError (List EventEffect) :=
  if resType = .appInstallUninstall ∧ (value = p.appUninstall ∨ value = p.appChanged ∨
      value = p.appReplaced ∨ value = p.bundleRemoved ∨ value = p.appFullyRemoved) then
    p.withPayload sceneInfo fun payload => do
      if ← payload.passes [.contains "bundleName", .contains "uid", .isString "bundleName"] then
        let bundleName ← payload.stringAt "bundleName"
        let uid ← numberAt "uid" payload
        return [.removeAppAllowRecord uid bundleName true]
      else return []
  else if resType = .timezoneChanged ∨ resType = .nitzTimezoneChanged ∨ resType = .timeChanged ∨
      resType = .nitzTimeChanged then .ok [.resetTimeObserver]
  else .ok []

/-- `StandbyServiceImpl::SubHandleCommonEvent`. -/
def subHandleCommonEvent (resType : ResType) : Except AccessError (List EventEffect) :=
  match resType with
  | .bootCompleted => .ok handleBootCompleted
  | .thermalScenarioReport => .ok (handleThermalScenarioReport value sceneInfo)
  | .wifiConnectStateChange => .ok (handleWifiConnStateChanged value)
  | .innerAudioState => p.handleAudioRendererChanged value sceneInfo
  | .audioCaptureStatusChanged => p.handleAudioCapturerChanged value sceneInfo
  | resType => p.appEventHandler value sceneInfo resType

/-- `StandbyServiceImpl::HandleCommonEvent`. -/
def handleCommonEvent (resType : ResType) : Except AccessError (List EventEffect) :=
  match resType with
  | .screenStatus => .ok (p.handleScreenStateChanged value)
  | .chargingDischarging => .ok (handleChargeStateChanged value)
  | .usbDevice =>
    .ok [.commonEvent (if value ≠ 0 then .usbDeviceDetached else .usbDeviceAttached) []]
  | .callStateChanged => p.handleCallStateChanged sceneInfo
  | .wifiP2pStateChanged => .ok (handleP2PStateChanged (Json.toInt32 value))
  | .clickRecognize => .ok (handleScreenClickRecognize value)
  | .mmiInputPowerKey => .ok (handleMmiInputPowerKeyDown value)
  | .btServiceEvent => p.handleBTServiceEvent value sceneInfo
  | .reportBokerGattConnect => p.handleBrokerGattConnect value sceneInfo
  | .powerModeChanged => .ok (handlePowerModeChanged value)
  | .efficiencyResourcesStateChanged => p.handleResourcesStateChanged value sceneInfo
  | resType => p.subHandleCommonEvent value sceneInfo resType

end

/-! ## What throws -/

section
variable {p : EventPlatform} {value : Int} {sceneInfo : Bytes} {payload found : Json}
  {key stateParam : String} {eventId : StandbyMessageType} {resType : ResType}

/-- A number is read when its key is there. -/
theorem returns_numberAt (h : payload.member? key = some found) :
    Returns (numberAt key payload) := by
  cases found with
  | string text =>
    refine ⟨atoi text, ?_⟩
    rw [numberAt, atKey_of_member h, stringAt_of_member h]
    rfl
  | integer n =>
    refine ⟨Json.toInt32 n, ?_⟩
    rw [numberAt, atKey_of_member h, int32At_of_member h]
    rfl
  | _ =>
    refine ⟨-1, ?_⟩
    rw [numberAt, atKey_of_member h]
    rfl

/-- And not when it is missing. -/
theorem numberAt_of_missing (h : payload.member? key = none) :
    ∃ error, numberAt key payload = .error error := by
  obtain ⟨error, herror⟩ := atKey_of_missing h
  exact ⟨error, by rw [numberAt, herror]; rfl⟩

/-- A handler that returns for every payload returns. -/
theorem returns_withPayload {handle : Json → Except AccessError (List EventEffect)}
    (h : ∀ payload, Returns (handle payload)) : Returns (p.withPayload sceneInfo handle) := by
  unfold withPayload
  cases p.parse sceneInfo with
  | none => exact returns_ok _
  | some payload => exact h payload

/-- The call state is read without a look at its key. -/
theorem returns_handleCallStateChanged_iff :
    Returns (p.handleCallStateChanged sceneInfo) ↔
      ∀ payload, p.parse sceneInfo = some payload → payload.member? "state" ≠ none := by
  unfold handleCallStateChanged withPayload
  cases p.parse sceneInfo with
  | none => exact ⟨nofun, fun _ => returns_ok _⟩
  | some payload =>
    constructor
    · rintro ⟨effects, heffects⟩ _ ⟨⟩ hmissing
      obtain ⟨error, herror⟩ := numberAt_of_missing hmissing
      dsimp only at heffects
      rw [herror] at heffects
      cases heffects
    · intro h
      obtain ⟨found, hfound⟩ := Option.ne_none_iff_exists'.1 (h payload rfl)
      exact (returns_numberAt hfound).bind fun _ => returns_ok _

/-- The handler of Bluetooth services looks before it reads. -/
theorem returns_handleBTServiceEvent : Returns (p.handleBTServiceEvent value sceneInfo) := by
  refine returns_withPayload fun payload => ?_
  split_ifs with hregister hconnect
  · refine returns_ite_passes rfl (fun h => ?_) (returns_ok _)
    refine (returns_stringAt (h _ (by simp))).bind fun action => ?_
    refine (returns_stringAt (h _ (by simp))).bind fun uid => ?_
    refine (returns_stringAt (h _ (by simp))).bind fun side => ?_
    exact (returns_stringAt (h _ (by simp))).bind fun appid => returns_ok _
  · refine returns_ite_passes rfl (fun h => ?_) (returns_ok _)
    refine (returns_stringAt (h _ (by simp))).bind fun state => ?_
    refine (returns_stringAt (h _ (by simp))).bind fun side => ?_
    exact (returns_stringAt (h _ (by simp))).bind fun appid => returns_ok _
  · exact returns_ok _

/-- So does the handler of the broker. -/
theorem returns_handleBrokerGattConnect :
    Returns (p.handleBrokerGattConnect value sceneInfo) := by
  refine returns_withPayload fun payload => ?_
  split_ifs with hconnect
  · refine returns_ite_passes rfl (fun h => ?_) (returns_ok _)
    refine (returns_stringAt (h _ (by simp))).bind fun pkg => ?_
    exact (returns_stringAt (h _ (by simp))).bind fun clientIf => returns_ok _
  · refine returns_ite_passes rfl (fun h => ?_) (returns_ok _)
    exact (returns_stringAt (h _ (by simp))).bind fun clientIf => returns_ok _

/-- So does the handler of the efficiency resources. -/
theorem returns_handleResourcesStateChanged :
    Returns (p.handleResourcesStateChanged value sceneInfo) := by
  refine returns_withPayload fun payload => ?_
  refine returns_ite_passes rfl (fun h => ?_) (returns_ok _)
  refine (returns_stringAt (h _ (by simp))).bind fun bundleName => ?_
  -- The key of the number was looked for together with the name.
  have hknown : ∀ key ∈ ["resourceNumber"], (payload.member? key).isSome := by
    intro key hkey
    rw [List.mem_singleton.1 hkey]
    exact Option.isSome_iff_exists.2 (h (.contains "resourceNumber") (by simp))
  refine returns_ite_passes_of_known hknown rfl (fun h => ?_) (returns_ok _)
  exact (returns_uint32At (h _ (by simp))).bind fun resourceNumber => returns_ok _

/-- So do the handlers of audio streams. -/
theorem returns_handleAudioChanged :
    Returns (p.handleAudioChanged value sceneInfo eventId stateParam) := by
  refine returns_withPayload fun payload => ?_
  refine returns_ite_passes rfl (fun h => ?_) (returns_ok _)
  exact (returns_stringAt (h _ (by simp))).bind fun uid => returns_ok _

/-- So does every handler of an app event. -/
theorem returns_appEventHandler : Returns (p.appEventHandler value sceneInfo resType) := by
  unfold appEventHandler
  split_ifs with hinstall htime
  · refine returns_withPayload fun payload => ?_
    refine returns_ite_passes rfl (fun h => ?_) (returns_ok _)
    refine (returns_stringAt (h _ (by simp))).bind fun bundleName => ?_
    obtain ⟨found, hfound⟩ := h (.contains "uid") (by simp)
    exact (returns_numberAt hfound).bind fun uid => returns_ok _
  · exact returns_ok _
  · exact returns_ok _

/-- So does every handler of the second dispatch. -/
theorem returns_subHandleCommonEvent :
    Returns (p.subHandleCommonEvent value sceneInfo resType) := by
  unfold subHandleCommonEvent
  split
  · exact returns_ok _
  · exact returns_ok _
  · exact returns_ok _
  · exact returns_handleAudioChanged
  · exact returns_handleAudioChanged
  · exact returns_appEventHandler

/-- An event is handled without an access that throws, if and only if it is no call state whose
payload has no `state`. -/
theorem returns_handleCommonEvent_iff (p : EventPlatform) (value : Int) (sceneInfo : Bytes)
    (resType : ResType) :
    Returns (p.handleCommonEvent value sceneInfo resType) ↔
      ¬ (resType = .callStateChanged ∧
        ∃ payload, p.parse sceneInfo = some payload ∧ payload.member? "state" = none) := by
  by_cases hcall : resType = .callStateChanged
  · subst hcall
    rw [handleCommonEvent, returns_handleCallStateChanged_iff]
    simp only [true_and, not_exists, not_and, ne_eq]
  · refine ⟨fun _ h => hcall h.1, fun _ => ?_⟩
    unfold handleCommonEvent
    split
    case h_4 => exact absurd rfl hcall
    case h_8 => exact returns_handleBTServiceEvent
    case h_9 => exact returns_handleBrokerGattConnect
    case h_11 => exact returns_handleResourcesStateChanged
    case h_12 => exact returns_subHandleCommonEvent
    all_goals exact returns_ok _

/-- Not every event: a call state that is an empty object is not handled. -/
theorem not_always_returns :
    ¬ ∀ (p : EventPlatform) (value : Int) (sceneInfo : Bytes) (resType : ResType),
      Returns (p.handleCommonEvent value sceneInfo resType) := by
  intro h
  have hcall := h
    { parse := fun text => if text = [123, 125] then some (.object []) else none
      gattAppRegister := 0
      gattConnectState := 1
      appEfficiencyResourcesApply := 0
      procEfficiencyResourcesApply := 2
      appUninstall := 1
      appChanged := 2
      appReplaced := 3
      bundleRemoved := 4
      appFullyRemoved := 5
      netManagerBaseEnable := true }
    0 [123, 125] .callStateChanged
  rw [handleCommonEvent, returns_handleCallStateChanged_iff] at hcall
  exact hcall (.object []) rfl rfl

end

end EventPlatform

end DeviceStandby
