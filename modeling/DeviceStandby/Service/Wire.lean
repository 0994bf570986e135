import DeviceStandby.Allow.Record
import DeviceStandby.Lib.Codec
import DeviceStandby.Service.Notification

/-!
# Callbacks and requests as parcels

The service calls its subscribers through `StandbyServiceSubscriberProxy`, which writes a parcel,
and in the process of a subscriber `StandbyServiceSubscriberStub` reads it and calls back. A request
for resources is written and read as a parcel too. How the platform lays out a value is a parameter:
it is only assumed that it reads what it wrote. `stub_calls_back` says that a callback is understood
as it was made, and that a parcel that is cut short makes none; `subscriber_called_back` puts the
two processes together, where `SendRequest` is taken to deliver every parcel in its turn.
-/

namespace DeviceStandby

/-! ## The platform -/

/-- How a `MessageParcel` holds the values of the basic types and the token of an interface, and
the code of the first call of an interface. -/
structure MessageParcel (β : Type) where
  bool : Codec β Bool
  int32 : Codec β Int32
  uint32 : Codec β (BitVec 32)
  string : Codec β String
  writeInterfaceToken : String → List β → Option (List β)
  readInterfaceToken : List β → String × List β
  FIRST_CALL_TRANSACTION : BitVec 32

/-- A parcel is read as it was written. -/
structure MessageParcel.Lawful {β : Type} (m : MessageParcel β) : Prop where
  bool : m.bool.Lawful fun _ => True
  int32 : m.int32.Lawful fun _ => True
  uint32 : m.uint32.Lawful fun _ => True
  string : m.string.Lawful fun _ => True
  token : ∀ {descriptor buffer buffer'}, m.writeInterfaceToken descriptor buffer = some buffer' →
    ∃ w, buffer' = buffer ++ w ∧ ∀ rest, m.readInterfaceToken (w ++ rest) = (descriptor, rest)

/-! ## The interface of a subscriber -/

/-- `StandbySubscriberInterfaceCode`. -/
inductive StandbySubscriberInterfaceCode where
  | ON_DEVICE_IDLE_MODE
  | ON_ALLOW_LIST_CHANGED
  | ON_POWER_OVERUSED
  | ON_RESTRICT_LIST_CHANGED
  | ON_ACTION_CHANGED
  deriving DecidableEq

/-- The place of a code in the enumeration. -/
def StandbySubscriberInterfaceCode.index : StandbySubscriberInterfaceCode → BitVec 32
  | .ON_DEVICE_IDLE_MODE => 0
  | .ON_ALLOW_LIST_CHANGED => 1
  | .ON_POWER_OVERUSED => 2
  | .ON_RESTRICT_LIST_CHANGED => 3
  | .ON_ACTION_CHANGED => 4

/-- The codes follow one another. -/
def StandbySubscriberInterfaceCode.toCode (first : BitVec 32)
    (code : StandbySubscriberInterfaceCode) : BitVec 32 :=
  first + code.index

/-- A call of `IStandbyServiceSubscriber`. -/
inductive SubscriberMessage where
  | onDeviceIdleMode (napped sleeping : Bool)
  | onAllowListChanged (uid : Int32) (name : String) (allowType : BitVec 32) (added : Bool)
  | onRestrictListChanged (uid : Int32) (name : String) (allowType : BitVec 32) (added : Bool)
  | onPowerOverused (module : String) (level : BitVec 32)
  | onActionChanged (module : String) (action : BitVec 32)
  deriving DecidableEq

/-- The code of a call. -/
def SubscriberMessage.code : SubscriberMessage → StandbySubscriberInterfaceCode
  | .onDeviceIdleMode .. => .ON_DEVICE_IDLE_MODE
  | .onAllowListChanged .. => .ON_ALLOW_LIST_CHANGED
  | .onRestrictListChanged .. => .ON_RESTRICT_LIST_CHANGED
  | .onPowerOverused .. => .ON_POWER_OVERUSED
  | .onActionChanged .. => .ON_ACTION_CHANGED

/-- `IStandbyServiceSubscriber::GetDescriptor`. -/
def SUBSCRIBER_DESCRIPTOR : String := "ohos.resourceschedule.IStandbyServiceSubscriber"

inductive IpcErrCode where
  | ERR_OK
  | ERR_TRANSACTION_FAILED
  | ERR_INVALID_DATA
  | other (code : Int)
  deriving DecidableEq

namespace MessageParcel
variable {β α : Type} (m : MessageParcel β) (remote : Bool)

/-- What the functions of the proxy have in common: the code and the parcel of the request, unless
the remote object is gone, or the token or a parameter cannot be written. -/
def send (code : StandbySubscriberInterfaceCode) (parameters : List β → Option (List β)) :
    Option (BitVec 32 × List β) :=
  if ¬ remote then none
  else do
    let data ← m.writeInterfaceToken SUBSCRIBER_DESCRIPTOR []
    let data ← parameters data
    return (code.toCode m.FIRST_CALL_TRANSACTION, data)

/-- `StandbyServiceSubscriberProxy::OnDeviceIdleMode`. -/
def onDeviceIdleMode (napped sleeping : Bool) : Option (BitVec 32 × List β) :=
  m.send remote .ON_DEVICE_IDLE_MODE fun data => do
    let data ← m.bool.write napped data
    m.bool.write sleeping data

/-- `StandbyServiceSubscriberProxy::OnAllowListChanged`. -/
def onAllowListChanged (uid : Int32) (name : String) (allowType : BitVec 32) (added : Bool) :
    Option (BitVec 32 × List β) :=
  m.send remote .ON_ALLOW_LIST_CHANGED fun data => do
    let data ← m.int32.write uid data
    let data ← m.string.write name data
    let data ← m.uint32.write allowType data
    m.bool.write added data

/-- `StandbyServiceSubscriberProxy::OnRestrictListChanged`. -/
def onRestrictListChanged (uid : Int32) (name : String) (allowType : BitVec 32) (added : Bool) :
    Option (BitVec 32 × List β) :=
  m.send remote .ON_RESTRICT_LIST_CHANGED fun data => do
    let data ← m.int32.write uid data
    let data ← m.string.write name data
    let data ← m.uint32.write allowType data
    m.bool.write added data

/-- `StandbyServiceSubscriberProxy::OnPowerOverused`. -/
def onPowerOverused (module : String) (level : BitVec 32) : Option (BitVec 32 × List β) :=
  m.send remote .ON_POWER_OVERUSED fun data => do
    let data ← m.string.write module data
    m.uint32.write level data

/-- `StandbyServiceSubscriberProxy::OnActionChanged`. -/
def onActionChanged (module : String) (action : BitVec 32) : Option (BitVec 32 × List β) :=
  m.send remote .ON_ACTION_CHANGED fun data => do
    let data ← m.string.write module data
    m.uint32.write action data

/-- A call of the proxy. -/
def proxy : SubscriberMessage → Option (BitVec 32 × List β)
  | .onDeviceIdleMode napped sleeping => m.onDeviceIdleMode remote napped sleeping
  | .onAllowListChanged uid name allowType added =>
    m.onAllowListChanged remote uid name allowType added
  | .onRestrictListChanged uid name allowType added =>
    m.onRestrictListChanged remote uid name allowType added
  | .onPowerOverused module level => m.onPowerOverused remote module level
  | .onActionChanged module action => m.onActionChanged remote module action

/-- What the handlers of the stub have in common: the call that they make when all its parameters
can be read. -/
def handle (call : List β → Option SubscriberMessage) (data : List β) :
    IpcErrCode × Option SubscriberMessage :=
  match call data with
  | none => (.ERR_INVALID_DATA, none)
  | some message => (.ERR_OK, some message)

/-- `StandbyServiceSubscriberStub::HandleOnDeviceIdleMode`. -/
def handleOnDeviceIdleMode : List β → IpcErrCode × Option SubscriberMessage :=
  handle fun data => do
    let (napped, data) ← m.bool.read data
    let (sleeped, _) ← m.bool.read data
    return .onDeviceIdleMode napped sleeped

/-- `StandbyServiceSubscriberStub::HandleOnAllowListChanged`. -/
def handleOnAllowListChanged : List β → IpcErrCode × Option SubscriberMessage :=
  handle fun data => do
    let (uid, data) ← m.int32.read data
    let (name, data) ← m.string.read data
    let (allowType, data) ← m.uint32.read data
    let (added, _) ← m.bool.read data
    return .onAllowListChanged uid name allowType added

/-- `StandbyServiceSubscriberStub::HandleOnRestrictListChanged`. -/
def handleOnRestrictListChanged : List β → IpcErrCode × Option SubscriberMessage :=
  handle fun data => do
    let (uid, data) ← m.int32.read data
    let (name, data) ← m.string.read data
    let (allowType, data) ← m.uint32.read data
    let (added, _) ← m.bool.read data
    return .onRestrictListChanged uid name allowType added

/-- `StandbyServiceSubscriberStub::HandleOnPowerOverused`. -/
def handleOnPowerOverused : List β → IpcErrCode × Option SubscriberMessage :=
  handle fun data => do
    let (module, data) ← m.string.read data
    let (level, _) ← m.uint32.read data
    return .onPowerOverused module level

/-- `StandbyServiceSubscriberStub::HandleOnActionChanged`. -/
def handleOnActionChanged : List β → IpcErrCode × Option SubscriberMessage :=
  handle fun data => do
    let (module, data) ← m.string.read data
    let (action, _) ← m.uint32.read data
    return .onActionChanged module action

/-- `StandbyServiceSubscriberStub::OnRemoteRequestInner`. A code of no call goes to
`IPCObjectStub::OnRemoteRequest`, which calls no subscriber. -/
def onRemoteRequestInner (ipcObjectStub : BitVec 32 → List β → IpcErrCode) (code : BitVec 32)
    (data : List β) : IpcErrCode × Option SubscriberMessage :=
  let first := m.FIRST_CALL_TRANSACTION
  if code = StandbySubscriberInterfaceCode.ON_DEVICE_IDLE_MODE.toCode first then
    m.handleOnDeviceIdleMode data
  else if code = StandbySubscriberInterfaceCode.ON_ALLOW_LIST_CHANGED.toCode first then
    m.handleOnAllowListChanged data
  else if code = StandbySubscriberInterfaceCode.ON_RESTRICT_LIST_CHANGED.toCode first then
    m.handleOnRestrictListChanged data
  else if code = StandbySubscriberInterfaceCode.ON_POWER_OVERUSED.toCode first then
    m.handleOnPowerOverused data
  else if code = StandbySubscriberInterfaceCode.ON_ACTION_CHANGED.toCode first then
    m.handleOnActionChanged data
  else (ipcObjectStub code data, none)

/-- `StandbyServiceSubscriberStub::OnRemoteRequest`: the error, and the call that is made. -/
def onRemoteRequest (ipcObjectStub : BitVec 32 → List β → IpcErrCode) (code : BitVec 32)
    (data : List β) : IpcErrCode × Option SubscriberMessage :=
  let (remoteDescriptor, data) := m.readInterfaceToken data
  if SUBSCRIBER_DESCRIPTOR ≠ remoteDescriptor then (.ERR_TRANSACTION_FAILED, none)
  else m.onRemoteRequestInner ipcObjectStub code data

end MessageParcel

/-! ## A request for resources -/

/-- `ResourceRequest::Marshalling`. -/
def ResourceRequest.marshalling {β : Type} (m : MessageParcel β) (out : List β)
    (request : ResourceRequest) : Option (List β) := do
  let out ← m.uint32.write request.allowType out
  let out ← m.int32.write (Int32.ofInt request.uid) out
  let out ← m.string.write request.name out
  let out ← m.int32.write (Int32.ofInt request.duration) out
  let out ← m.string.write request.reason out
  m.uint32.write (BitVec.ofNat 32 request.reasonCode) out

/-- `ResourceRequest::ReadFromParcel`: the request, and what is left of the parcel. -/
def ResourceRequest.readFromParcel {β : Type} (m : MessageParcel β) (data : List β) :
    Option (ResourceRequest × List β) := do
  let (allowType, data) ← m.uint32.read data
  let (uid, data) ← m.int32.read data
  let (name, data) ← m.string.read data
  let (duration, data) ← m.int32.read data
  let (reason, data) ← m.string.read data
  let (reasonCode, data) ← m.uint32.read data
  return ({ allowType, uid := uid.toInt, name, duration := duration.toInt, reason
            reasonCode := reasonCode.toNat }, data)

/-- `ResourceRequest::Unmarshalling`, when it can allocate: null when a field cannot be read. -/
def ResourceRequest.unmarshalling {β : Type} (m : MessageParcel β) (data : List β) :
    Option (ResourceRequest × List β) :=
  readFromParcel m data

/-- The numbers of a request fit into their types. -/
def ResourceRequest.InRange (request : ResourceRequest) : Prop :=
  (-2 ^ 31 ≤ request.uid ∧ request.uid < 2 ^ 31) ∧
    (-2 ^ 31 ≤ request.duration ∧ request.duration < 2 ^ 31) ∧ request.reasonCode < 2 ^ 32

/-! ## Parameters as one value -/

/-- The parameters of `OnAllowListChanged` and of `OnRestrictListChanged`. -/
def MessageParcel.listChanged {β : Type} (m : MessageParcel β) :
    Codec β (Int32 × String × BitVec 32 × Bool) :=
  m.int32.pair (m.string.pair (m.uint32.pair m.bool))

/-- The fields of a `ResourceRequest`. -/
def MessageParcel.resourceRequest {β : Type} (m : MessageParcel β) : Codec β ResourceRequest :=
  (m.uint32.pair (m.int32.pair (m.string.pair (m.int32.pair (m.string.pair m.uint32))))).record
    (fun (allowType, uid, name, duration, reason, reasonCode) =>
      { allowType, uid := uid.toInt, name, duration := duration.toInt, reason
        reasonCode := reasonCode.toNat })
    fun request => (request.allowType, Int32.ofInt request.uid, request.name,
      Int32.ofInt request.duration, request.reason, BitVec.ofNat 32 request.reasonCode)

/-- The call that is made of the parameters in a parcel. -/
def callOf {β α : Type} (c : Codec β α) (call : α → SubscriberMessage) (data : List β) :
    Option SubscriberMessage :=
  (c.read data).bind fun result => some (call result.1)

section
variable {β : Type} {m : MessageParcel β} {data : List β}

/-- A handler reads its parameters one by one as it would all at once. -/
theorem MessageParcel.handleOnDeviceIdleMode_eq : m.handleOnDeviceIdleMode data =
    handle (callOf (m.bool.pair m.bool) fun a => .onDeviceIdleMode a.1 a.2) data := by
  unfold handle callOf
  rw [Codec.bind_pair_read]
  rfl

/-- The handler reads what the codec of its fields reads. -/
theorem MessageParcel.handleOnAllowListChanged_eq : m.handleOnAllowListChanged data =
    handle (callOf m.listChanged fun a => .onAllowListChanged a.1 a.2.1 a.2.2.1 a.2.2.2) data := by
  unfold handle callOf listChanged
  simp only [Codec.bind_pair_read]
  rfl

/-- So does the handler of the restrict list. -/
theorem MessageParcel.handleOnRestrictListChanged_eq : m.handleOnRestrictListChanged data =
    handle (callOf m.listChanged fun a =>
      .onRestrictListChanged a.1 a.2.1 a.2.2.1 a.2.2.2) data := by
  unfold handle callOf listChanged
  simp only [Codec.bind_pair_read]
  rfl

/-- So does the handler of the power levels. -/
theorem MessageParcel.handleOnPowerOverused_eq : m.handleOnPowerOverused data =
    handle (callOf (m.string.pair m.uint32) fun a => .onPowerOverused a.1 a.2) data := by
  unfold handle callOf
  rw [Codec.bind_pair_read]
  rfl

/-- So does the handler of the actions. -/
theorem MessageParcel.handleOnActionChanged_eq : m.handleOnActionChanged data =
    handle (callOf (m.string.pair m.uint32) fun a => .onActionChanged a.1 a.2) data := by
  unfold handle callOf
  rw [Codec.bind_pair_read]
  rfl

/-- A request is written, and read, field by field as it would be all at once. -/
theorem ResourceRequest.marshalling_eq (request : ResourceRequest) (out : List β) :
    request.marshalling m out = m.resourceRequest.write request out :=
  rfl

/-- `Unmarshalling` reads what the codec of its fields reads. -/
theorem ResourceRequest.unmarshalling_eq :
    ResourceRequest.unmarshalling m data = m.resourceRequest.read data := by
  rw [← Option.bind_fun_some (m.resourceRequest.read data)]
  unfold MessageParcel.resourceRequest
  simp only [Codec.bind_record_read, Codec.bind_pair_read]
  rfl

end

/-! ## A call and its parcel -/

section
variable {β α : Type} {m : MessageParcel β} {c : Codec β α} {a : α} {remote : Bool}
  {code code' : StandbySubscriberInterfaceCode} {request : BitVec 32 × List β}
  {ipcObjectStub : BitVec 32 → List β → IpcErrCode} {message : SubscriberMessage} {data : List β}

/-- Different calls have different codes. -/
theorem toCode_inj {first : BitVec 32} : code.toCode first = code'.toCode first ↔ code = code' := by
  rw [StandbySubscriberInterfaceCode.toCode, StandbySubscriberInterfaceCode.toCode,
    BitVec.add_right_inj]
  cases code <;> cases code' <;> decide

/-- What the proxy has sent: the token, and the fields of the call. -/
structure MessageParcel.Sent (m : MessageParcel β) (code : StandbySubscriberInterfaceCode)
    (c : Codec β α) (a : α) (request : BitVec 32 × List β) (token fields : List β) : Prop where
  code_eq : request.1 = code.toCode m.FIRST_CALL_TRANSACTION
  data_eq : request.2 = token ++ fields
  readInterfaceToken_eq :
    ∀ rest, m.readInterfaceToken (token ++ rest) = (SUBSCRIBER_DESCRIPTOR, rest)
  represents : c.Represents fields a

/-- A parcel that is sent holds the token and the fields. -/
theorem MessageParcel.sent_of_send (hm : m.Lawful) (hc : c.Lawful fun _ => True)
    (h : m.send remote code (c.write a) = some request) :
    ∃ token fields, m.Sent code c a request token fields := by
  unfold send at h
  split at h
  · cases h
  · obtain ⟨buffer, htoken, h⟩ := Option.bind_eq_some_iff.1 h
    obtain ⟨buffer', hwrite, h⟩ := Option.bind_eq_some_iff.1 h
    cases h
    obtain ⟨token, hbuffer, hread⟩ := hm.token htoken
    obtain ⟨fields, hbuffer', hfields⟩ := hc.write trivial hwrite
    rw [List.nil_append] at hbuffer
    exact ⟨token, fields, rfl, hbuffer ▸ hbuffer', hread, hfields⟩

/-- A request with the token of the interface goes to the handlers. -/
theorem MessageParcel.onRemoteRequest_of_token {code : BitVec 32} {rest : List β}
    (h : m.readInterfaceToken data = (SUBSCRIBER_DESCRIPTOR, rest)) :
    m.onRemoteRequest ipcObjectStub code data = m.onRemoteRequestInner ipcObjectStub code rest := by
  unfold onRemoteRequest
  rw [h]
  dsimp only
  rw [if_neg fun hne => hne rfl]

/-- What a handler makes of the fields, and of a part of them. -/
theorem MessageParcel.handle_fields (hc : c.Lawful fun _ => True) {fields : List β}
    (h : c.Represents fields a) (call : α → SubscriberMessage) :
    (∀ rest, handle (callOf c call) (fields ++ rest) = (.ERR_OK, some (call a))) ∧
      ∀ part, part <+: fields → part ≠ fields →
        handle (callOf c call) part = (.ERR_INVALID_DATA, none) := by
  constructor
  · intro rest
    rw [handle, callOf, h, Option.bind_some]
  · intro part hpart hne
    rw [handle, callOf, hc.read_of_prefix h hpart hne, Option.bind_none]

/-- What the stub does with a request that was sent for a call. -/
structure MessageParcel.CallsBack (m : MessageParcel β)
    (ipcObjectStub : BitVec 32 → List β → IpcErrCode) (request : BitVec 32 × List β)
    (message : SubscriberMessage) : Prop where
  /-- It makes the call, whatever follows in the parcel. -/
  whole : ∀ rest, m.onRemoteRequest ipcObjectStub request.1 (request.2 ++ rest) =
    (.ERR_OK, some message)
  /-- It makes none when a part of the fields is missing. -/
  part : ∃ token fields, request.2 = token ++ fields ∧
    ∀ part, part <+: fields → part ≠ fields →
      m.onRemoteRequest ipcObjectStub request.1 (token ++ part) = (.ERR_INVALID_DATA, none)

/-- A request whose handler reads what its function of the proxy wrote is called back. -/
theorem MessageParcel.callsBack_of_send (hm : m.Lawful) (hc : c.Lawful fun _ => True)
    (h : m.send remote code (c.write a) = some request) (call : α → SubscriberMessage)
    (hhandle : ∀ data, m.onRemoteRequestInner ipcObjectStub (code.toCode m.FIRST_CALL_TRANSACTION)
      data = handle (callOf c call) data) : m.CallsBack ipcObjectStub request (call a) := by
  obtain ⟨token, fields, hsent⟩ := sent_of_send hm hc h
  have hstub : ∀ data, m.onRemoteRequest ipcObjectStub request.1 (token ++ data) =
      handle (callOf c call) data := by
    intro data
    rw [onRemoteRequest_of_token (hsent.readInterfaceToken_eq data), hsent.code_eq, hhandle]
  obtain ⟨hwhole, hpart⟩ := handle_fields hc hsent.represents call
  constructor
  · intro rest
    rw [hsent.data_eq, List.append_assoc, hstub, hwhole]
  · refine ⟨token, fields, hsent.data_eq, fun part hprefix hne => ?_⟩
    rw [hstub, hpart part hprefix hne]

/-- The fields of a changed list are a lawful record. -/
theorem MessageParcel.Lawful.listChanged (hm : m.Lawful) :
    m.listChanged.Lawful fun _ => True := by
  have hfields := hm.int32.pair (hm.string.pair (hm.uint32.pair hm.bool))
  simp only [and_self] at hfields
  exact hfields

/-- The handler of a code. -/
theorem MessageParcel.onRemoteRequestInner_toCode :
    m.onRemoteRequestInner ipcObjectStub (code.toCode m.FIRST_CALL_TRANSACTION) data =
      match code with
      | .ON_DEVICE_IDLE_MODE => m.handleOnDeviceIdleMode data
      | .ON_ALLOW_LIST_CHANGED => m.handleOnAllowListChanged data
      | .ON_POWER_OVERUSED => m.handleOnPowerOverused data
      | .ON_RESTRICT_LIST_CHANGED => m.handleOnRestrictListChanged data
      | .ON_ACTION_CHANGED => m.handleOnActionChanged data := by
  unfold onRemoteRequestInner
  simp only [toCode_inj]
  cases code <;> rfl

/-- What the proxy sends for a call makes the stub call back. -/
theorem MessageParcel.callsBack_of_proxy (hm : m.Lawful)
    (ipcObjectStub : BitVec 32 → List β → IpcErrCode)
    (h : m.proxy remote message = some request) : m.CallsBack ipcObjectStub request message := by
  have hidle : (m.bool.pair m.bool).Lawful fun _ => True := by
    simpa only [and_self] using hm.bool.pair hm.bool
  have hvalue : (m.string.pair m.uint32).Lawful fun _ => True := by
    simpa only [and_self] using hm.string.pair hm.uint32
  cases message with
  | onDeviceIdleMode napped sleeping =>
    exact callsBack_of_send (a := (napped, sleeping)) hm hidle h _
      fun _ => onRemoteRequestInner_toCode.trans handleOnDeviceIdleMode_eq
  | onAllowListChanged uid name allowType added =>
    exact callsBack_of_send (a := (uid, name, allowType, added)) hm hm.listChanged h _
      fun _ => onRemoteRequestInner_toCode.trans handleOnAllowListChanged_eq
  | onRestrictListChanged uid name allowType added =>
    exact callsBack_of_send (a := (uid, name, allowType, added)) hm hm.listChanged h _
      fun _ => onRemoteRequestInner_toCode.trans handleOnRestrictListChanged_eq
  | onPowerOverused module level =>
    exact callsBack_of_send (a := (module, level)) hm hvalue h _
      fun _ => onRemoteRequestInner_toCode.trans handleOnPowerOverused_eq
  | onActionChanged module action =>
    exact callsBack_of_send (a := (module, action)) hm hvalue h _
      fun _ => onRemoteRequestInner_toCode.trans handleOnActionChanged_eq

/-- A handler that calls answers ERR_OK, and the call is its own. -/
theorem MessageParcel.handle_some {call : α → SubscriberMessage}
    (h : (handle (callOf c call) data).2 = some message) :
    (handle (callOf c call) data).1 = .ERR_OK ∧ ∃ a, message = call a := by
  unfold handle callOf at h ⊢
  cases hread : c.read data with
  | none =>
    rw [hread] at h
    cases h
  | some result =>
    rw [hread] at h
    cases h
    exact ⟨rfl, result.1, rfl⟩

/-- Only a request with the code of a call makes it. -/
theorem MessageParcel.onRemoteRequestInner_some {code : BitVec 32}
    (h : (m.onRemoteRequestInner ipcObjectStub code data).2 = some message) :
    (m.onRemoteRequestInner ipcObjectStub code data).1 = .ERR_OK ∧
      code = message.code.toCode m.FIRST_CALL_TRANSACTION := by
  unfold onRemoteRequestInner at h ⊢
  dsimp only at h ⊢
  rw [handleOnDeviceIdleMode_eq, handleOnAllowListChanged_eq, handleOnRestrictListChanged_eq,
    handleOnPowerOverused_eq, handleOnActionChanged_eq] at h ⊢
  split_ifs at h ⊢ with hidle hallow hrestrict hpower haction
  · obtain ⟨hok, _, rfl⟩ := handle_some h
    exact ⟨hok, hidle⟩
  · obtain ⟨hok, _, rfl⟩ := handle_some h
    exact ⟨hok, hallow⟩
  · obtain ⟨hok, _, rfl⟩ := handle_some h
    exact ⟨hok, hrestrict⟩
  · obtain ⟨hok, _, rfl⟩ := handle_some h
    exact ⟨hok, hpower⟩
  · obtain ⟨hok, _, rfl⟩ := handle_some h
    exact ⟨hok, haction⟩

/-- Only a request with the token of the interface makes a call. -/
theorem MessageParcel.onRemoteRequest_some {code : BitVec 32}
    (h : (m.onRemoteRequest ipcObjectStub code data).2 = some message) :
    (m.onRemoteRequest ipcObjectStub code data).1 = .ERR_OK ∧
      (m.readInterfaceToken data).1 = SUBSCRIBER_DESCRIPTOR ∧
      code = message.code.toCode m.FIRST_CALL_TRANSACTION := by
  unfold onRemoteRequest at h ⊢
  dsimp only at h ⊢
  by_cases htoken : SUBSCRIBER_DESCRIPTOR = (m.readInterfaceToken data).1
  · rw [if_neg (not_not_intro htoken)] at h ⊢
    obtain ⟨hok, hcode⟩ := onRemoteRequestInner_some h
    exact ⟨hok, htoken.symm, hcode⟩
  · rw [if_pos htoken] at h
    cases h

/-- A call of the proxy arrives at the stub as it was made, whatever follows it in the parcel; a
parcel that is cut short within its fields is refused and makes no call; and only a parcel with the
token of the interface and the code of a call makes that call. -/
theorem stub_calls_back (hm : m.Lawful) (ipcObjectStub : BitVec 32 → List β → IpcErrCode)
    (remote : Bool) (message : SubscriberMessage) :
    (∀ request, m.proxy remote message = some request →
      m.CallsBack ipcObjectStub request message) ∧
    ∀ code data, (m.onRemoteRequest ipcObjectStub code data).2 = some message →
      (m.onRemoteRequest ipcObjectStub code data).1 = .ERR_OK ∧
        (m.readInterfaceToken data).1 = SUBSCRIBER_DESCRIPTOR ∧
        code = message.code.toCode m.FIRST_CALL_TRANSACTION :=
  ⟨fun _ h => MessageParcel.callsBack_of_proxy hm ipcObjectStub h,
    fun _ _ h => MessageParcel.onRemoteRequest_some h⟩

/-- A request that fits its types is read as it was written, and what follows it is left; nothing is
read from a part of it. -/
theorem unmarshalling_marshalling (hm : m.Lawful) (resourceRequest : ResourceRequest)
    (hrange : resourceRequest.InRange) (out data : List β)
    (h : resourceRequest.marshalling m out = some data) :
    ∃ w, data = out ++ w ∧
      (∀ rest, ResourceRequest.unmarshalling m (w ++ rest) = some (resourceRequest, rest)) ∧
      ∀ part, part <+: w → part ≠ w → ResourceRequest.unmarshalling m part = none := by
  have hfields := hm.uint32.pair (hm.int32.pair (hm.string.pair (hm.int32.pair
    (hm.string.pair hm.uint32))))
  simp only [and_self] at hfields
  have hlawful : m.resourceRequest.Lawful ResourceRequest.InRange := by
    refine hfields.record fun request hrequest => ⟨trivial, ?_⟩
    obtain ⟨⟨huid, huid'⟩, ⟨hduration, hduration'⟩, hreason⟩ := hrequest
    dsimp only
    rw [Int32.toInt_ofInt_of_le huid huid', Int32.toInt_ofInt_of_le hduration hduration',
      BitVec.toNat_ofNat, Nat.mod_eq_of_lt hreason]
  rw [ResourceRequest.marshalling_eq] at h
  obtain ⟨w, rfl, hw⟩ := hlawful.write hrange h
  refine ⟨w, rfl, fun rest => ?_, fun part hpart hne => ?_⟩
  · rw [ResourceRequest.unmarshalling_eq, hw]
  · rw [ResourceRequest.unmarshalling_eq, hlawful.read_of_prefix hw hpart hne]

end

/-! ## The process of a subscriber -/

/-- The call of the interface that a callback is. -/
def SubscriberCallback.message : SubscriberCallback → SubscriberMessage
  | .onDeviceIdleMode napped sleeping => .onDeviceIdleMode napped sleeping
  | .onAllowListChanged uid name allowType added =>
    .onAllowListChanged (Int32.ofInt uid) name allowType added
  | .onPowerOverused module level => .onPowerOverused module (BitVec.ofNat 32 level)
  | .onActionChanged module action => .onActionChanged module (BitVec.ofNat 32 action)

section
variable {β : Type} {m : MessageParcel β} {ipcObjectStub : BitVec 32 → List β → IpcErrCode}

/-- The calls that the stub of a remote object makes when the transport delivers the parcels that
are sent to it, each once and in their order. `TF_ASYNC` tells the proxy nothing about that. -/
def MessageParcel.calls (m : MessageParcel β) (ipcObjectStub : BitVec 32 → List β → IpcErrCode)
    (remote : Nat) (n : Notifier) : List SubscriberMessage :=
  (Registry.received Subscriber.asObject (some remote) n.callbacks).filterMap fun callback =>
    (m.proxy true callback.message).bind fun request =>
      (m.onRemoteRequest ipcObjectStub request.1 request.2).2

/-- The parcel of a callback can be written. -/
def MessageParcel.writable (m : MessageParcel β) (callback : SubscriberCallback) : Bool :=
  (m.proxy true callback.message).isSome

/-- The stub makes the calls whose parcels could be written. -/
theorem MessageParcel.filterMap_calls (hm : m.Lawful) (callbacks : List SubscriberCallback) :
    (callbacks.filterMap fun callback => (m.proxy true callback.message).bind fun request =>
        (m.onRemoteRequest ipcObjectStub request.1 request.2).2) =
      (callbacks.filter m.writable).map SubscriberCallback.message := by
  induction callbacks with
  | nil => rfl
  | cons callback callbacks ih =>
    rw [List.filterMap_cons, List.filter_cons, writable]
    cases hsend : m.proxy true callback.message with
    | none => exact ih
    | some request =>
      have hwhole := (callsBack_of_proxy hm ipcObjectStub hsend).whole []
      rw [List.append_nil] at hwhole
      rw [Option.bind_some, hwhole, Option.isSome_some, if_pos rfl, List.map_cons, ← ih]

/-- In the process of a subscriber that stays on the list, the stub makes the calls that were
reported and concern the subscriber, in their order and each once, but for those whose parcel could
not be written. -/
theorem subscriber_called_back (hm : m.Lawful) (ipcObjectStub : BitVec 32 → List β → IpcErrCode)
    (deathRecipient : Bool) (createdAt : Int) (before after : List NotifierAction) (remote : Nat)
    (s : Subscriber) :
    let n := (Notifier.create deathRecipient createdAt).run before
    n.listed? remote = some s → .leave (some remote) ∉ n.history after →
      m.calls ipcObjectStub remote (n.run after) = m.calls ipcObjectStub remote n ++
        (((Registry.published (n.history after)).filter (SubscriberCallback.concerns s)).filter
          m.writable).map SubscriberCallback.message := by
  intro n hs hstays
  obtain ⟨b, hb⟩ := Notifier.exists_bus deathRecipient createdAt before
  obtain ⟨hreceived, -⟩ := Notifier.received_of_staying after hb hs hstays
  rw [MessageParcel.calls, hreceived, List.filterMap_append, MessageParcel.filterMap_calls hm
    ((Registry.published (n.history after)).filter (SubscriberCallback.concerns s))]
  rfl

end

/-! ## A platform -/

/-- What a place of a parcel holds. -/
inductive ParcelItem where
  | bool (b : Bool)
  | int32 (n : Int32)
  | uint32 (n : BitVec 32)
  | string (s : String)
  | token (descriptor : String)

/-- A parcel of items. -/
def itemParcel : MessageParcel ParcelItem where
  bool := .single .bool fun | .bool b => some b | _ => none
  int32 := .single .int32 fun | .int32 n => some n | _ => none
  uint32 := .single .uint32 fun | .uint32 n => some n | _ => none
  string := .single .string fun | .string s => some s | _ => none
  writeInterfaceToken descriptor buffer := some (buffer ++ [.token descriptor])
  readInterfaceToken
    | .token descriptor :: rest => (descriptor, rest)
    | buffer => ("", buffer)
  FIRST_CALL_TRANSACTION := 1

/-- A parcel of items reads what it wrote. -/
theorem itemParcel_lawful : itemParcel.Lawful where
  bool := Codec.lawful_single fun _ => rfl
  int32 := Codec.lawful_single fun _ => rfl
  uint32 := Codec.lawful_single fun _ => rfl
  string := Codec.lawful_single fun _ => rfl
  token h := ⟨_, (Option.some.inj h).symm, fun _ => rfl⟩

/-- A change of the allow list on its way. -/
theorem stub_calls_back_sample :
    ∃ request, itemParcel.proxy true (.onAllowListChanged 20010044 "app" 4 true) = some request ∧
      itemParcel.CallsBack (fun _ _ => .other 305) request
        (.onAllowListChanged 20010044 "app" 4 true) :=
  ⟨_, rfl, (stub_calls_back itemParcel_lawful (fun _ _ => .other 305) true _).1 _ rfl⟩

/-- A request on its way. -/
theorem unmarshalling_marshalling_sample :
    ∃ w, ∀ rest, ResourceRequest.unmarshalling itemParcel (w ++ rest) =
      some (⟨4, 20010044, "app", 60000, "backup", 1⟩, rest) := by
  obtain ⟨w, -, hw, -⟩ := unmarshalling_marshalling itemParcel_lawful
    ⟨4, 20010044, "app", 60000, "backup", 1⟩ ⟨by decide, by decide, by decide⟩ [] _ rfl
  exact ⟨w, hw⟩

/-- The second of the two subscribers is told of a sleep and of the level of its own module. -/
theorem subscriber_called_back_sample :
    let n := (Notifier.create true 0).run sampleSubscribers
    itemParcel.calls (fun _ _ => .other 305) 2 (n.run
        [.reportStandbyState .sleep, .notifyByCallback .powerOverused 0 "push" 3,
          .notifyByCallback .powerOverused 0 "timer" 2]) =
      itemParcel.calls (fun _ _ => .other 305) 2 n ++
        [.onDeviceIdleMode false true, .onPowerOverused "timer" 2] := by
  refine (subscriber_called_back itemParcel_lawful (fun _ _ => .other 305) true 0
    sampleSubscribers _ 2 ⟨some 2, "timer"⟩ rfl ?_).trans ?_
  · simp [Notifier.history, NotifierAction.event?]
  · exact congrArg _ rfl

end DeviceStandby
