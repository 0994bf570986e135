import DeviceStandby.Allow.Service
import DeviceStandby.Lib.Feed
import DeviceStandby.Lib.Registry
import DeviceStandby.Service.Subscriber

/-!
# The callbacks that subscribers receive

Subscribers register, unregister and die, and between that the service reports the standby state,
the changes of the allow list, and the levels and actions of modules to all that are on its list.
The list is a registry under the remote objects of the subscribers (`run_refines`), so what one of
them receives does not depend on the others: `callbacks_received` says that it is exactly what was
reported while the subscriber was on the list, after what it is told when it registers.
-/

namespace DeviceStandby

open Registry

/-- The callbacks of `IStandbyServiceSubscriber` that the service makes. -/
inductive SubscriberCallback where
  | onDeviceIdleMode (napped sleeping : Bool)
  | onAllowListChanged (uid : Int) (name : String) (allowType : BitVec 32) (added : Bool)
  | onPowerOverused (module : String) (level : Nat)
  | onActionChanged (module : String) (action : Nat)
  deriving DecidableEq

/-- A callback about a module goes to the subscribers of the module, any other one to all. -/
def SubscriberCallback.concerns (subscriber : Subscriber) : SubscriberCallback → Bool
  | .onPowerOverused module _ | .onActionChanged module _ => module = subscriber.moduleName
  | .onDeviceIdleMode .. | .onAllowListChanged .. => true

/-- The callback that a report of a kind makes. -/
def ReportKind.callback (module : String) (value : Nat) : ReportKind → SubscriberCallback
  | .powerOverused => .onPowerOverused module value
  | .lowpowerAction => .onActionChanged module value

/-- A callback and who it goes to. -/
def Callback.toPair (callback : Callback) : Subscriber × SubscriberCallback :=
  (callback.subscriber, callback.kind.callback callback.module callback.value)

/-- What is published beside the callbacks: the two common events, and the report in the process. -/
inductive Publication where
  | deviceIdleModeChanged (napped sleeping : Bool)
  | deviceIdleChanged (napped sleeping : Bool)
  | deviceIdleExemptionListUpdated (uid : Int) (name : String) (resourceType : Int) (added : Bool)
  deriving DecidableEq

/-- The errors of `SubscribeStandbyCallback` and `UnsubscribeStandbyCallback`. -/
inductive CallbackError where
  | ERR_STANDBY_INVALID_PARAM | ERR_STANDBY_SYS_NOT_READY | ERR_STANDBY_STRATEGY_NOT_DEPLOY
  | permission (error : StandbyError)
  | subscriber (error : SubscriberError)

/-- The `StandbyStateSubscriber`, the remote objects that hold its death recipient, and what it has
done, oldest first. -/
structure Notifier where
  subscriber : StandbyStateSubscriber
  watched : List Nat := []
  callbacks : List (Subscriber × SubscriberCallback) := []
  publications : List Publication := []

/-- A subscriber that a process hands in, its remote object unless that is null. -/
abbrev Handed := Option (Option Nat)

namespace StandbyStateSubscriber

/-- `StandbyStateSubscriber::RemoveSubscriber`. -/
def removeSubscriber (subscriber : Handed) (s : StandbyStateSubscriber) :
    StandbyStateSubscriber × Except SubscriberError Unit :=
  match subscriber with
  | none | some none => (s, .error .ERR_STANDBY_INVALID_PARAM)
  | some (some remote) =>
    if ¬ s.deathRecipient then (s, .error .ERR_STANDBY_OBJECT_EXISTS)
    else if s.subscriberList.any fun other => other.asObject = some remote then
      ({ s with subscriberList :=
          s.subscriberList.eraseP fun other => other.asObject = some remote }, .ok ())
    else (s, .error .ERR_STANDBY_OBJECT_EXISTS)

/-- `StandbyStateSubscriber::HandleSubscriberDeath`. A weak reference may fail to be promoted. -/
def handleSubscriberDeath (remote : Option Nat) (promoted : Bool) (s : StandbyStateSubscriber) :
    StandbyStateSubscriber :=
  match remote with
  | none => s
  | some remote =>
    if ¬ promoted then s
    else
      { s with subscriberList :=
          s.subscriberList.eraseP fun other => other.asObject = some remote }

end StandbyStateSubscriber

namespace Notifier

/-- A callback is made to every subscriber that it concerns. -/
def notify (callback : SubscriberCallback) (n : Notifier) : Notifier :=
  { n with callbacks := n.callbacks ++
      (n.subscriber.subscriberList.filter (callback.concerns ·)).map fun s => (s, callback) }

/-- `StandbyStateSubscriber::AddSubscriber`, and the death recipient that it adds. -/
def addSubscriber (now : Int) (subscriber : Subscriber) (n : Notifier) :
    Notifier × Except SubscriberError Unit :=
  match n.subscriber.addSubscriber now (some subscriber) with
  | (s, .error error) => ({ n with subscriber := s }, .error error)
  | (s, .ok callbacks) =>
    ({ n with
        subscriber := s
        watched := n.watched ++ subscriber.asObject.toList
        callbacks := n.callbacks ++ callbacks.map Callback.toPair }, .ok ())

/-- `StandbyStateSubscriber::RemoveSubscriber`, and the death recipient that it removes. -/
def removeSubscriber (subscriber : Handed) (n : Notifier) :
    Notifier × Except SubscriberError Unit :=
  match n.subscriber.removeSubscriber subscriber with
  | (s, .error error) => ({ n with subscriber := s }, .error error)
  | (s, .ok ()) =>
    ({ n with
        subscriber := s
        watched := subscriber.join.toList.foldl List.erase n.watched }, .ok ())

/-- `StandbyService::SubscribeStandbyCallback` and the function of `StandbyServiceImpl` that it
calls. -/
def subscribeStandbyCallback (running : Bool) (caller : Caller) (strategyConfigList : List String)
    (now : Int) (subscriber : Handed) (subscriberName moduleName : String) (n : Notifier) :
    Notifier × Except CallbackError Unit :=
  match subscriber with
  | none => (n, .error .ERR_STANDBY_INVALID_PARAM)
  | some asObject =>
    if ¬ running then (n, .error .ERR_STANDBY_SYS_NOT_READY)
    else
      match caller.checkCallerPermission REASON_APP_API with
      | .error error => (n, .error (.permission error))
      | .ok () =>
        if subscriberName ∉ strategyConfigList then (n, .error .ERR_STANDBY_STRATEGY_NOT_DEPLOY)
        else
          let (n, result) := n.addSubscriber now ⟨asObject, moduleName⟩
          (n, result.mapError .subscriber)

/-- `StandbyService::UnsubscribeStandbyCallback` and the function of `StandbyServiceImpl` that it
calls. -/
def unsubscribeStandbyCallback (running : Bool) (caller : Caller) (subscriber : Handed)
    (n : Notifier) : Notifier × Except CallbackError Unit :=
  match subscriber with
  | none => (n, .error .ERR_STANDBY_INVALID_PARAM)
  | some asObject =>
    if ¬ running then (n, .error .ERR_STANDBY_SYS_NOT_READY)
    else
      match caller.checkCallerPermission REASON_APP_API with
      | .error error => (n, .error (.permission error))
      | .ok () =>
        let (n, result) := n.removeSubscriber (some asObject)
        (n, result.mapError .subscriber)

/-- `SubscriberDeathRecipient::OnRemoteDied`. The notice takes the recipient from the object. -/
def onRemoteDied (remote : Option Nat) (promoted : Bool) (n : Notifier) : Notifier :=
  { n with
    subscriber := n.subscriber.handleSubscriberDeath remote promoted
    watched := n.watched.filter fun other => some other ≠ remote }

/-- `StandbyStateSubscriber::ReportStandbyState`. -/
def reportStandbyState (curState : StandbyState) (n : Notifier) : Notifier :=
  let napped := decide (curState = .nap)
  let sleeping := decide (curState = .sleep)
  let n := n.notify (.onDeviceIdleMode napped sleeping)
  { n with publications := n.publications ++
      [.deviceIdleModeChanged napped sleeping, .deviceIdleChanged napped sleeping] }

/-- `StandbyStateSubscriber::NotifyAllowChangedByCommonEvent`. -/
def notifyAllowChangedByCommonEvent (uid : Int) (name : String) (allowType : BitVec 32)
    (added : Bool) (n : Notifier) : Notifier :=
  { n with publications := n.publications ++
      [.deviceIdleExemptionListUpdated uid name allowType.toInt added] }

/-- `StandbyStateSubscriber::ReportAllowListChanged`. -/
def reportAllowListChanged (uid : Int) (name : String) (allowType : BitVec 32) (added : Bool)
    (n : Notifier) : Notifier :=
  (n.notify (.onAllowListChanged uid name allowType added)).notifyAllowChangedByCommonEvent
    uid name allowType added

/-- A report of a level or an action. -/
def notifyByCallback (kind : ReportKind) (now : Int) (module : String) (value : Nat)
    (n : Notifier) : Notifier :=
  let (s, callbacks) := n.subscriber.notifyByCallback kind now module value
  { n with subscriber := s, callbacks := n.callbacks ++ callbacks.map Callback.toPair }

end Notifier

/-- What is asked of the service about its subscribers, and what it reports to them. -/
inductive NotifierAction where
  | subscribe (running : Bool) (caller : Caller) (strategyConfigList : List String) (now : Int)
      (subscriber : Handed) (subscriberName moduleName : String)
  | unsubscribe (running : Bool) (caller : Caller) (subscriber : Handed)
  | remoteDied (remote : Option Nat) (promoted : Bool)
  | reportStandbyState (curState : StandbyState)
  | reportAllowListChanged (uid : Int) (name : String) (allowType : BitVec 32) (added : Bool)
  | allowChangedByCommonEvent (uid : Int) (name : String) (allowType : BitVec 32) (added : Bool)
  | notifyByCallback (kind : ReportKind) (now : Int) (module : String) (value : Nat)

/-- The service after an action. -/
def Notifier.handle (n : Notifier) : NotifierAction → Notifier
  | .subscribe running caller strategyConfigList now subscriber subscriberName moduleName =>
    (n.subscribeStandbyCallback running caller strategyConfigList now subscriber subscriberName
      moduleName).1
  | .unsubscribe running caller subscriber =>
    (n.unsubscribeStandbyCallback running caller subscriber).1
  | .remoteDied remote promoted => n.onRemoteDied remote promoted
  | .reportStandbyState curState => n.reportStandbyState curState
  | .reportAllowListChanged uid name allowType added =>
    n.reportAllowListChanged uid name allowType added
  | .allowChangedByCommonEvent uid name allowType added =>
    n.notifyAllowChangedByCommonEvent uid name allowType added
  | .notifyByCallback kind now module value => n.notifyByCallback kind now module value

/-- The service after some actions. -/
def Notifier.run (n : Notifier) (actions : List NotifierAction) : Notifier :=
  actions.foldl Notifier.handle n

/-- The service when `StandbyStateSubscriber` has been created. -/
def Notifier.create (deathRecipient : Bool) (createdAt : Int) : Notifier where
  subscriber := .create deathRecipient createdAt

/-! ## The list as a registry -/

/-- What a subscriber is told when it registers. -/
def Notifier.greeting (n : Notifier) (now : Int) (moduleName : String) : List SubscriberCallback :=
  [.powerOverused, .lowpowerAction].map fun kind : ReportKind =>
    kind.callback moduleName (n.subscriber.valueOnRegister now kind moduleName)

/-- What an action is to the registry. A request that is refused by its checks is nothing to it, and
so is a death notice whose object is gone. -/
def NotifierAction.event? (n : Notifier) :
    NotifierAction → Option (Event Subscriber (Option Nat) SubscriberCallback)
  | .subscribe running caller strategyConfigList now (some (some remote)) subscriberName
      moduleName =>
    if running ∧ (caller.checkCallerPermission REASON_APP_API).isOk ∧
        subscriberName ∈ strategyConfigList ∧ n.subscriber.deathRecipient then
      some (.join ⟨some remote, moduleName⟩ (n.greeting now moduleName))
    else none
  | .unsubscribe running caller (some (some remote)) =>
    if running ∧ (caller.checkCallerPermission REASON_APP_API).isOk ∧
        n.subscriber.deathRecipient then
      some (.leave (some remote))
    else none
  | .remoteDied (some remote) true => some (.leave (some remote))
  | .reportStandbyState curState =>
    some (.publish (.onDeviceIdleMode (decide (curState = .nap)) (decide (curState = .sleep))))
  | .reportAllowListChanged uid name allowType added =>
    some (.publish (.onAllowListChanged uid name allowType added))
  | .notifyByCallback kind _ module value => some (.publish (kind.callback module value))
  | .subscribe .. | .unsubscribe .. | .remoteDied .. | .allowChangedByCommonEvent .. => none

/-- What some actions are to the registry. -/
def Notifier.history (n : Notifier) :
    List NotifierAction → List (Event Subscriber (Option Nat) SubscriberCallback)
  | [] => []
  | action :: actions => (action.event? n).toList ++ (n.handle action).history actions

/-- A step that does not take a subscriber from the list: one of another part of the service, or an
action that is not its removal or death. -/
def Stays {α : Type} (remote : Nat) (n : Notifier) : α ⊕ NotifierAction → Prop
  | .inl _ => True
  | .inr action => action.event? n ≠ some (.leave (some remote))

/-- The subscriber with a remote object. -/
def Notifier.listed? (n : Notifier) (remote : Nat) : Option Subscriber :=
  n.subscriber.subscriberList.find? fun s => s.asObject = some remote

section
variable {n : Notifier} {b : Bus Subscriber.asObject} {action : NotifierAction}
  {actions : List NotifierAction} {remote : Nat} {now : Int}

open StandbyStateSubscriber

/-- A report changes nothing in the list. -/
theorem subscriberList_updateCallBackMap {s : StandbyStateSubscriber} {kind : ReportKind}
    {module : String} {value : Nat} :
    (s.updateCallBackMap now kind module value).subscriberList = s.subscriberList := by
  have hset : ∀ (s : StandbyStateSubscriber) m,
      (s.setCallBackMap kind m).subscriberList = s.subscriberList := fun s m => by
    cases kind <;> rfl
  unfold updateCallBackMap
  dsimp only
  rw [hset]
  split_ifs
  · exact hset _ _
  · rfl

/-- A death notice whose object is there takes its subscriber from the list. -/
theorem handleSubscriberDeath_promoted {s : StandbyStateSubscriber} :
    s.handleSubscriberDeath (some remote) true =
      { s with subscriberList :=
          s.subscriberList.eraseP fun other => other.asObject = some remote } := rfl

/-- The list holds a remote object. -/
theorem any_asObject {l : List Subscriber} :
    (l.any fun other => decide (other.asObject = some remote)) = true ↔
      some remote ∈ l.map Subscriber.asObject := by
  simp

/-- A subscriber is added when a death recipient could be allocated and its remote object is new. -/
theorem Notifier.addSubscriber_eq {moduleName : String} :
    (n.addSubscriber now ⟨some remote, moduleName⟩).1 =
      if n.subscriber.deathRecipient ∧
          some remote ∉ n.subscriber.subscriberList.map Subscriber.asObject then
        { n with
          subscriber.subscriberList := n.subscriber.subscriberList ++ [⟨some remote, moduleName⟩]
          watched := n.watched ++ [remote]
          callbacks := n.callbacks ++ (n.greeting now moduleName).map fun callback =>
            (⟨some remote, moduleName⟩, callback) }
      else n := by
  unfold addSubscriber StandbyStateSubscriber.addSubscriber
  dsimp only
  rw [if_neg (by simp : ¬ some remote = none)]
  by_cases hrecipient : n.subscriber.deathRecipient = true
  · rw [if_neg (by simpa using hrecipient)]
    by_cases hlisted : some remote ∈ n.subscriber.subscriberList.map Subscriber.asObject
    · rw [if_pos (any_asObject.2 hlisted), if_neg fun h => h.2 hlisted]
    · rw [if_neg (mt any_asObject.1 hlisted), if_pos ⟨hrecipient, hlisted⟩]
      rfl
  · rw [if_pos hrecipient, if_neg fun h => hrecipient h.1]

/-- A subscriber is removed when there is a death recipient and its remote object is listed. -/
theorem Notifier.removeSubscriber_eq : (n.removeSubscriber (some (some remote))).1 =
    if n.subscriber.deathRecipient ∧
        some remote ∈ n.subscriber.subscriberList.map Subscriber.asObject then
      { n with
        subscriber.subscriberList :=
          n.subscriber.subscriberList.eraseP fun other => other.asObject = some remote
        watched := n.watched.erase remote }
    else n := by
  unfold removeSubscriber StandbyStateSubscriber.removeSubscriber
  dsimp only
  by_cases hrecipient : n.subscriber.deathRecipient = true
  · rw [if_neg (by simpa using hrecipient)]
    by_cases hlisted : some remote ∈ n.subscriber.subscriberList.map Subscriber.asObject
    · rw [if_pos (any_asObject.2 hlisted), if_pos ⟨hrecipient, hlisted⟩]
      rfl
    · rw [if_neg (mt any_asObject.1 hlisted), if_neg fun h => hlisted h.2]
  · rw [if_pos hrecipient, if_neg fun h => hrecipient h.1]

/-- A request to subscribe that passes the checks of the service adds the subscriber. -/
theorem Notifier.subscribeStandbyCallback_eq {running : Bool} {caller : Caller}
    {strategyConfigList : List String} {asObject : Option Nat}
    {subscriberName moduleName : String} :
    (n.subscribeStandbyCallback running caller strategyConfigList now (some asObject)
        subscriberName moduleName).1 =
      if running ∧ (caller.checkCallerPermission REASON_APP_API).isOk ∧
          subscriberName ∈ strategyConfigList then
        (n.addSubscriber now ⟨asObject, moduleName⟩).1
      else n := by
  unfold subscribeStandbyCallback
  cases running with
  | false => simp
  | true =>
    cases hpermission : caller.checkCallerPermission REASON_APP_API with
    | error error => simp [Except.isOk, Except.toBool]
    | ok =>
      by_cases hname : subscriberName ∈ strategyConfigList
      · simp [Except.isOk, Except.toBool, hname]
      · simp [hname]

/-- A request to unsubscribe that passes the checks of the service removes the subscriber. -/
theorem Notifier.unsubscribeStandbyCallback_eq {running : Bool} {caller : Caller}
    {asObject : Option Nat} :
    (n.unsubscribeStandbyCallback running caller (some asObject)).1 =
      if running ∧ (caller.checkCallerPermission REASON_APP_API).isOk then
        (n.removeSubscriber (some asObject)).1
      else n := by
  unfold unsubscribeStandbyCallback
  cases running with
  | false => simp
  | true =>
    cases hpermission : caller.checkCallerPermission REASON_APP_API with
    | error error => simp [Except.isOk, Except.toBool]
    | ok => simp [Except.isOk, Except.toBool]

/-- A null remote object is refused. -/
theorem Notifier.addSubscriber_none {moduleName : String} :
    (n.addSubscriber now ⟨none, moduleName⟩).1 = n := rfl

/-- A subscriber without an object is not removed. -/
theorem Notifier.removeSubscriber_none : (n.removeSubscriber (some none)).1 = n := rfl

/-- A callback is handed out as the registry publishes it. -/
theorem Notifier.notify_callbacks {callback : SubscriberCallback}
    (h : b.entries = n.subscriber.subscriberList) :
    (n.notify callback).callbacks =
      n.callbacks ++ (b.handle SubscriberCallback.concerns (.publish callback)).2 := by
  rw [notify, Bus.handle_publish, h]

/-- A report of a kind is handed out as the registry publishes it. -/
theorem Notifier.notifyByCallback_callbacks {kind : ReportKind} {module : String} {value : Nat}
    (h : b.entries = n.subscriber.subscriberList) :
    (n.notifyByCallback kind now module value).callbacks = n.callbacks ++
      (b.handle SubscriberCallback.concerns (.publish (kind.callback module value))).2 := by
  have hlist : (n.subscriber.updateCallBackMap now kind module value).subscriberList =
      n.subscriber.subscriberList := subscriberList_updateCallBackMap
  have hconcerns : ∀ s : Subscriber, SubscriberCallback.concerns s (kind.callback module value) =
      decide (module = s.moduleName) := fun s => by cases kind <;> rfl
  unfold notifyByCallback StandbyStateSubscriber.notifyByCallback
  simp only [Bus.handle_publish, hlist, h, hconcerns, List.map_map]
  rfl

/-- An action does to the list, and to the callbacks, what its event does to the registry. -/
theorem Notifier.handle_refines (h : b.entries = n.subscriber.subscriberList)
    (action : NotifierAction) :
    (b.run SubscriberCallback.concerns (action.event? n).toList).1.entries =
        (n.handle action).subscriber.subscriberList ∧
      (n.handle action).callbacks =
        n.callbacks ++ (b.run SubscriberCallback.concerns (action.event? n).toList).2 := by
  have hnone : b.entries = n.subscriber.subscriberList ∧
      n.callbacks = n.callbacks ++ (b.run SubscriberCallback.concerns []).2 :=
    ⟨h, (List.append_nil _).symm⟩
  cases action with
  | subscribe running caller strategyConfigList now subscriber subscriberName moduleName =>
    obtain _ | asObject := subscriber
    · exact hnone
    · rw [handle, subscribeStandbyCallback_eq]
      obtain _ | remote := asObject
      · rw [addSubscriber_none, ite_self]
        exact hnone
      · rw [addSubscriber_eq, ← h]
        dsimp only [NotifierAction.event?]
        by_cases hchecks : running = true ∧
            (caller.checkCallerPermission REASON_APP_API).isOk = true ∧
              subscriberName ∈ strategyConfigList
        · rw [if_pos hchecks]
          by_cases hrecipient : n.subscriber.deathRecipient = true
          · rw [if_pos ⟨hchecks.1, hchecks.2.1, hchecks.2.2, hrecipient⟩, Option.toList_some,
              Bus.run_singleton]
            by_cases hlisted : some remote ∈ b.entries.map Subscriber.asObject
            · rw [Bus.handle_join_of_mem hlisted, if_neg fun hnew => hnew.2 hlisted]
              exact hnone
            · rw [Bus.handle_join_of_notMem hlisted, if_pos ⟨hrecipient, hlisted⟩]
              exact ⟨rfl, rfl⟩
          · rw [if_neg fun hall => hrecipient hall.2.2.2, if_neg fun hnew => hrecipient hnew.1]
            exact hnone
        · rw [if_neg hchecks, if_neg fun hall => hchecks ⟨hall.1, hall.2.1, hall.2.2.1⟩]
          exact hnone
  | unsubscribe running caller subscriber =>
    obtain _ | asObject := subscriber
    · exact hnone
    · rw [handle, unsubscribeStandbyCallback_eq]
      obtain _ | remote := asObject
      · rw [removeSubscriber_none, ite_self]
        exact hnone
      · rw [removeSubscriber_eq, ← h, Bus.eraseP_entries]
        dsimp only [NotifierAction.event?]
        by_cases hchecks : running = true ∧
            (caller.checkCallerPermission REASON_APP_API).isOk = true
        · rw [if_pos hchecks]
          by_cases hrecipient : n.subscriber.deathRecipient = true
          · rw [if_pos ⟨hchecks.1, hchecks.2, hrecipient⟩, Option.toList_some,
              Bus.run_singleton, Bus.handle_leave]
            by_cases hlisted : some remote ∈ b.entries.map Subscriber.asObject
            · rw [if_pos ⟨hrecipient, hlisted⟩]
              exact ⟨rfl, hnone.2⟩
            · rw [if_neg fun hin => hlisted hin.2]
              exact ⟨(Bus.leave_of_notMem hlisted).trans h, hnone.2⟩
          · rw [if_neg fun hall => hrecipient hall.2.2, if_neg fun hin => hrecipient hin.1]
            exact hnone
        · rw [if_neg hchecks, if_neg fun hall => hchecks ⟨hall.1, hall.2.1⟩]
          exact hnone
  | remoteDied remote promoted =>
    obtain _ | remote := remote
    · exact hnone
    · cases promoted with
      | false => exact hnone
      | true =>
        refine ⟨?_, (List.append_nil _).symm⟩
        dsimp only [NotifierAction.event?, handle, onRemoteDied]
        rw [Option.toList_some, Bus.run_singleton, Bus.handle_leave, handleSubscriberDeath_promoted,
          ← h, Bus.eraseP_entries]
  | reportStandbyState curState =>
    unfold NotifierAction.event?
    rw [Option.toList_some, Bus.run_singleton]
    exact ⟨h, notify_callbacks h⟩
  | reportAllowListChanged uid name allowType added =>
    unfold NotifierAction.event?
    rw [Option.toList_some, Bus.run_singleton]
    exact ⟨h, notify_callbacks h⟩
  | allowChangedByCommonEvent uid name allowType added => exact hnone
  | notifyByCallback kind now module value =>
    unfold NotifierAction.event?
    rw [Option.toList_some, Bus.run_singleton]
    exact ⟨h.trans subscriberList_updateCallBackMap.symm, notifyByCallback_callbacks h⟩

/-- Some actions do to the list, and to the callbacks, what their events do to the registry. -/
theorem Notifier.run_refines (h : b.entries = n.subscriber.subscriberList)
    (actions : List NotifierAction) :
    (b.run SubscriberCallback.concerns (n.history actions)).1.entries =
        (n.run actions).subscriber.subscriberList ∧
      (n.run actions).callbacks =
        n.callbacks ++ (b.run SubscriberCallback.concerns (n.history actions)).2 := by
  induction actions generalizing n b with
  | nil => exact ⟨h, (List.append_nil _).symm⟩
  | cons action actions ih =>
    obtain ⟨hentries, hcallbacks⟩ := handle_refines h action
    obtain ⟨hlist, hrest⟩ := ih hentries
    rw [history, Bus.run_append]
    refine ⟨hlist, ?_⟩
    rw [← List.append_assoc, ← hcallbacks]
    exact hrest

/-- From the creation of the service, the list has no remote object twice. -/
theorem Notifier.exists_bus (deathRecipient : Bool) (createdAt : Int)
    (actions : List NotifierAction) : ∃ b : Bus Subscriber.asObject,
      b.entries = ((create deathRecipient createdAt).run actions).subscriber.subscriberList :=
  ⟨_, (run_refines (b := Bus.empty) rfl actions).1⟩

end

/-- Who is listed is who the registry has under the remote object. -/
theorem Notifier.listed?_eq {n : Notifier} {b : Bus Subscriber.asObject} {remote : Nat}
    (h : b.entries = n.subscriber.subscriberList) : n.listed? remote = b.member? (some remote) := by
  rw [listed?, ← h, Bus.member?]

section
variable {n : Notifier} {b : Bus Subscriber.asObject} {action : NotifierAction}
  {actions : List NotifierAction} {remote : Nat}

/-- Only a report publishes a callback. -/
theorem NotifierAction.publish_inv {callback : SubscriberCallback}
    (h : action.event? n = some (.publish callback)) :
    (∃ curState, action = .reportStandbyState curState ∧
      callback = .onDeviceIdleMode (decide (curState = .nap)) (decide (curState = .sleep))) ∨
    (∃ uid name allowType added, action = .reportAllowListChanged uid name allowType added ∧
      callback = .onAllowListChanged uid name allowType added) ∨
    ∃ kind now module value, action = .notifyByCallback kind now module value ∧
      callback = kind.callback module value := by
  cases action with
  | subscribe running caller strategyConfigList now subscriber subscriberName moduleName =>
    obtain _ | _ | remote := subscriber
    · cases h
    · cases h
    · cases (Option.ite_none_right_eq_some.1 h).2
  | unsubscribe running caller subscriber =>
    obtain _ | _ | remote := subscriber
    · cases h
    · cases h
    · cases (Option.ite_none_right_eq_some.1 h).2
  | remoteDied remote promoted =>
    obtain _ | remote := remote
    · cases h
    · cases promoted <;> cases h
  | reportStandbyState curState =>
    cases h
    exact .inl ⟨_, rfl, rfl⟩
  | reportAllowListChanged uid name allowType added =>
    cases h
    exact .inr (.inl ⟨_, _, _, _, rfl, rfl⟩)
  | allowChangedByCommonEvent => cases h
  | notifyByCallback kind now module value =>
    cases h
    exact .inr (.inr ⟨_, _, _, _, rfl, rfl⟩)

/-- The history of one action is its event, if it has one. -/
theorem Notifier.history_singleton : n.history [action] = (action.event? n).toList :=
  List.append_nil _

/-- An action publishes what its event is. -/
theorem mem_published_singleton {callback : SubscriberCallback} :
    callback ∈ published (n.history [action]) ↔ action.event? n = some (.publish callback) := by
  rw [Notifier.history_singleton]
  cases action.event? n with
  | none => simp [published]
  | some event =>
    cases event with
    | join | leave => simp [published]
    | publish callback' =>
      simp only [published, Option.toList_some, List.filterMap_cons_some, List.filterMap_nil,
        List.mem_singleton, Option.some.injEq, Event.publish.injEq]
      exact eq_comm

/-- What actions bring a remote object, as one hears it who follows the object alone. -/
theorem Notifier.received_run (h : b.entries = n.subscriber.subscriberList) :
    received Subscriber.asObject (some remote) (n.run actions).callbacks =
      received Subscriber.asObject (some remote) n.callbacks ++
        heardFrom SubscriberCallback.concerns Subscriber.asObject (some remote) (n.listed? remote)
          (n.history actions) := by
  rw [(run_refines h actions).2, listed?_eq h, ← Bus.received_run]
  exact received_append

/-- A subscriber that no action removes stays, and receives every callback that concerns it. -/
theorem Notifier.received_of_staying (actions : List NotifierAction) {s : Subscriber}
    (h : b.entries = n.subscriber.subscriberList) (hs : n.listed? remote = some s)
    (hstays : .leave (some remote) ∉ n.history actions) :
    received Subscriber.asObject (some remote) (n.run actions).callbacks =
        received Subscriber.asObject (some remote) n.callbacks ++
          (published (n.history actions)).filter (SubscriberCallback.concerns s) ∧
      (n.run actions).listed? remote = some s := by
  obtain ⟨hheard, hmember⟩ :
      heardFrom SubscriberCallback.concerns Subscriber.asObject (some remote) (some s)
          (n.history actions) =
        (published (n.history actions)).filter (SubscriberCallback.concerns s) ∧
      (n.history actions).foldl (memberAfter Subscriber.asObject (some remote)) (some s) =
        some s :=
    heardFrom_of_staying hstays
  rw [received_run h, hs, hheard]
  refine ⟨rfl, ?_⟩
  rw [listed?_eq (run_refines h actions).1, Bus.member?_run, ← listed?_eq h, hs]
  exact hmember

end

/-- A list of subscribers that is fed by another part of the service is a registry in every run. -/
theorem exists_bus_feed {σ α : Type} {S : Lts.System σ α} {emits : σ → α → σ → List NotifierAction}
    {deathRecipient : Bool} {createdAt : Int} {ok : σ × Notifier → α ⊕ NotifierAction → Prop}
    {s : σ × Notifier}
    (h : Lts.ReachableUnder (S.feed emits (.create deathRecipient createdAt) Notifier.handle) ok
      s) :
    ∃ b : Bus Subscriber.asObject, b.entries = s.2.subscriber.subscriberList := by
  refine h.invariant (I := fun s => ∃ b : Bus Subscriber.asObject,
    b.entries = s.2.subscriber.subscriberList) ⟨Bus.empty, rfl⟩ ?_
  intro s t a _ _ hstep ⟨b, hb⟩
  cases a with
  | inl a =>
    rw [(Lts.System.feed_step_inl.1 hstep).2]
    exact ⟨_, (Notifier.run_refines hb _).1⟩
  | inr action =>
    rw [Lts.System.feed_step_inr.1 hstep]
    exact ⟨_, (Notifier.run_refines hb [action]).1⟩

/-- From the creation of the service, what any actions bring a remote object is what its
subscription, if it has one, and the reports and requests since then bring it, whatever the other
subscribers do. While it is on the list, that is every report that concerns it, once and in order;
while it is not, it is nothing. -/
theorem callbacks_received (deathRecipient : Bool) (createdAt : Int)
    (before after : List NotifierAction) (remote : Nat) :
    let n := (Notifier.create deathRecipient createdAt).run before
    let told := received Subscriber.asObject (some remote)
    told (n.run after).callbacks = told n.callbacks ++
        heardFrom SubscriberCallback.concerns Subscriber.asObject (some remote) (n.listed? remote)
          (n.history after) ∧
      (∀ s, n.listed? remote = some s → .leave (some remote) ∉ n.history after →
        told (n.run after).callbacks =
          told n.callbacks ++ (published (n.history after)).filter (SubscriberCallback.concerns s) ∧
        (n.run after).listed? remote = some s) ∧
      (n.listed? remote = none →
        (∀ s greeting, .join s greeting ∈ n.history after → s.asObject ≠ some remote) →
          told (n.run after).callbacks = told n.callbacks) := by
  intro n told
  obtain ⟨b, hb⟩ := Notifier.exists_bus deathRecipient createdAt before
  refine ⟨Notifier.received_run hb,
    fun s hs hstays => Notifier.received_of_staying after hb hs hstays, fun hnone habsent => ?_⟩
  rw [show told (n.run after).callbacks = _ from Notifier.received_run hb, hnone,
    heardFrom_of_absent habsent, List.append_nil]

/-! ## The list and its death recipient -/

/-- The remote objects of the list. -/
def Notifier.remotes (n : Notifier) : List (Option Nat) :=
  n.subscriber.subscriberList.map Subscriber.asObject

/-- What holds of the list throughout: its remote objects hold the death recipient, each once. -/
structure Notifier.Watched (n : Notifier) : Prop where
  /-- No remote object is null, and the death recipient is at those of the list and no others. -/
  watched : n.remotes = n.watched.map some
  distinct : n.remotes.Nodup
  /-- Without a death recipient nobody is on the list or has been called. -/
  empty : n.subscriber.deathRecipient = false → n.subscriber.subscriberList = [] ∧ n.callbacks = []

/-- The notice of a death comes while the object can still be reached. -/
def NotifierAction.Promoted : NotifierAction → Prop
  | .remoteDied remote promoted => remote ≠ none → promoted = true
  | _ => True

section
variable {n : Notifier} {action : NotifierAction} {actions : List NotifierAction}

/-- A report does not touch the death recipient. -/
theorem deathRecipient_updateCallBackMap {s : StandbyStateSubscriber} {kind : ReportKind}
    {now : Int} {module : String} {value : Nat} :
    (s.updateCallBackMap now kind module value).deathRecipient = s.deathRecipient := by
  have hset : ∀ (s : StandbyStateSubscriber) m,
      (s.setCallBackMap kind m).deathRecipient = s.deathRecipient := fun s m => by
    cases kind <;> rfl
  unfold StandbyStateSubscriber.updateCallBackMap
  dsimp only
  rw [hset]
  split_ifs
  · exact hset _ _
  · rfl

/-- Taking a remote object from the list takes it from the objects that are watched. -/
theorem map_asObject_eraseP {l : List Subscriber} {watched : List Nat} {remote : Nat}
    (h : l.map Subscriber.asObject = watched.map some) :
    (l.eraseP fun other => decide (other.asObject = some remote)).map Subscriber.asObject =
      (watched.erase remote).map some := by
  induction l generalizing watched with
  | nil =>
    obtain rfl := List.map_eq_nil_iff.1 h.symm
    rfl
  | cons s l ih =>
    obtain _ | ⟨other, watched⟩ := watched
    · cases h
    · obtain ⟨hs, hrest⟩ := List.cons.inj h
      by_cases hremote : other = remote
      · subst hremote
        rw [List.eraseP_cons_of_pos (by simpa using hs), List.erase_cons_head]
        exact hrest
      · have hne : ¬ s.asObject = some remote := by
          rw [hs]
          exact fun heq => hremote (Option.some.inj heq)
        rw [List.eraseP_cons_of_neg (by simpa using hne),
          List.erase_cons_tail (by simpa using hremote), List.map_cons, List.map_cons, hs,
          ih hrest]

/-- No object is watched twice. -/
theorem Notifier.Watched.nodup (h : n.Watched) : n.watched.Nodup :=
  (List.nodup_map_iff fun _ _ => Option.some.inj).1 (h.watched ▸ h.distinct)

/-- An object that leaves the list is watched no more. -/
theorem Notifier.Watched.erase {remote : Nat} (h : n.Watched) {m : Notifier}
    (hlist : m.subscriber.subscriberList =
      n.subscriber.subscriberList.eraseP fun other => other.asObject = some remote)
    (hwatched : m.watched = n.watched.erase remote) (hcallbacks : m.callbacks = n.callbacks)
    (hrecipient : m.subscriber.deathRecipient = n.subscriber.deathRecipient) : m.Watched where
  watched := by
    rw [remotes, hlist, hwatched]
    exact map_asObject_eraseP h.watched
  distinct := by
    rw [remotes, hlist]
    exact h.distinct.sublist (List.eraseP_sublist.map _)
  empty hnone := by
    obtain ⟨hempty, hsilent⟩ := h.empty (hrecipient ▸ hnone)
    rw [hlist, hcallbacks, hempty]
    exact ⟨rfl, hsilent⟩

/-- A callback that goes to the list keeps the list. -/
theorem Notifier.Watched.notify (h : n.Watched) {callback : SubscriberCallback} :
    (n.notify callback).Watched := by
  refine ⟨h.watched, h.distinct, fun hnone => ⟨(h.empty hnone).1, ?_⟩⟩
  rw [Notifier.notify, (h.empty hnone).1, (h.empty hnone).2]
  rfl

/-- An action keeps the list and the objects that are watched together. -/
theorem Notifier.Watched.handle (h : n.Watched) (hpromoted : action.Promoted) :
    (n.handle action).Watched := by
  cases action with
  | subscribe running caller strategyConfigList now subscriber subscriberName moduleName =>
    obtain _ | asObject := subscriber
    · exact h
    · rw [Notifier.handle, subscribeStandbyCallback_eq]
      split_ifs
      · obtain _ | remote := asObject
        · exact h
        · rw [addSubscriber_eq]
          split_ifs with hnew
          · refine ⟨?_, ?_, fun hnone => ?_⟩
            · simp only [remotes, List.map_append, List.map_cons, List.map_nil]
              rw [← h.watched, remotes]
            · simp only [remotes, List.map_append, List.map_cons, List.map_nil]
              exact List.nodup_append.2 ⟨h.distinct, List.nodup_singleton _,
                fun _ hother _ hremote heq => hnew.2 (List.mem_singleton.1 hremote ▸ heq ▸ hother)⟩
            · exact absurd (hnone.symm.trans hnew.1) Bool.false_ne_true
          · exact h
      · exact h
  | unsubscribe running caller subscriber =>
    obtain _ | asObject := subscriber
    · exact h
    · rw [Notifier.handle, unsubscribeStandbyCallback_eq]
      split_ifs
      · obtain _ | remote := asObject
        · exact h
        · rw [removeSubscriber_eq]
          split_ifs
          · exact h.erase rfl rfl rfl rfl
          · exact h
      · exact h
  | remoteDied remote promoted =>
    obtain _ | remote := remote
    · have hall : n.watched.filter (fun other => some other ≠ none) = n.watched := by simp
      unfold Notifier.handle onRemoteDied
      simp only [hall]
      exact h
    · obtain rfl := hpromoted (Option.some_ne_none _)
      refine h.erase rfl ?_ rfl rfl
      rw [h.nodup.erase_eq_filter]
      exact List.filter_congr fun other _ => by
        cases hother : other == remote <;> simp_all
  | reportStandbyState curState =>
    exact ⟨h.watched, h.distinct, h.notify.empty⟩
  | reportAllowListChanged uid name allowType added =>
    exact ⟨h.watched, h.distinct, h.notify.empty⟩
  | allowChangedByCommonEvent uid name allowType added => exact ⟨h.watched, h.distinct, h.empty⟩
  | notifyByCallback kind now module value =>
    have hlist : (n.notifyByCallback kind now module value).subscriber.subscriberList =
        n.subscriber.subscriberList := subscriberList_updateCallBackMap
    have hrecipient : (n.notifyByCallback kind now module value).subscriber.deathRecipient =
        n.subscriber.deathRecipient := deathRecipient_updateCallBackMap
    have hremotes : (n.notifyByCallback kind now module value).remotes = n.remotes :=
      congrArg (List.map Subscriber.asObject) hlist
    refine ⟨hremotes.trans h.watched, hremotes ▸ h.distinct, fun hnone => ?_⟩
    obtain ⟨hempty, hsilent⟩ := h.empty (hrecipient ▸ hnone)
    refine ⟨hlist.trans hempty, ?_⟩
    rw [Notifier.handle, notifyByCallback_callbacks (b := Bus.empty) hempty.symm, hsilent]
    rfl

/-- No action changes whether there is a death recipient. -/
theorem Notifier.deathRecipient_handle :
    (n.handle action).subscriber.deathRecipient = n.subscriber.deathRecipient := by
  cases action with
  | subscribe running caller strategyConfigList now subscriber subscriberName moduleName =>
    obtain _ | asObject := subscriber
    · rfl
    · rw [handle, subscribeStandbyCallback_eq]
      obtain _ | remote := asObject
      · rw [addSubscriber_none, ite_self]
      · rw [addSubscriber_eq]
        split_ifs <;> rfl
  | unsubscribe running caller subscriber =>
    obtain _ | asObject := subscriber
    · rfl
    · rw [handle, unsubscribeStandbyCallback_eq]
      obtain _ | remote := asObject
      · rw [removeSubscriber_none, ite_self]
      · rw [removeSubscriber_eq]
        split_ifs <;> rfl
  | remoteDied remote promoted =>
    obtain _ | remote := remote
    · rfl
    · cases promoted <;> rfl
  | reportStandbyState | reportAllowListChanged | allowChangedByCommonEvent => rfl
  | notifyByCallback kind now module value => exact deathRecipient_updateCallBackMap

end

/-- From the creation of the service, whatever the order in which subscribers come, go and die: no
remote object is on the list twice or null, the death recipient is at the listed objects and at no
other, each time once, and without a death recipient nobody is listed and nobody is called. -/
theorem subscribers_watched (deathRecipient : Bool) (createdAt : Int)
    (actions : List NotifierAction) (h : ∀ action ∈ actions, action.Promoted) :
    let n := (Notifier.create deathRecipient createdAt).run actions
    n.remotes.Nodup ∧ n.remotes = n.watched.map some ∧
      (deathRecipient = false → n.subscriber.subscriberList = [] ∧ n.callbacks = []) := by
  have hrun : ∀ (n : Notifier) (actions : List NotifierAction),
      (∀ action ∈ actions, action.Promoted) → n.Watched →
        (n.run actions).Watched ∧
          (n.run actions).subscriber.deathRecipient = n.subscriber.deathRecipient := by
    intro n actions
    induction actions generalizing n with
    | nil => exact fun _ h => ⟨h, rfl⟩
    | cons action actions ih =>
      intro hall h
      obtain ⟨hwatched, hrecipient⟩ := ih (n.handle action)
        (fun a ha => hall a (List.mem_cons_of_mem _ ha)) (h.handle (hall action List.mem_cons_self))
      exact ⟨hwatched, hrecipient.trans Notifier.deathRecipient_handle⟩
  obtain ⟨hwatched, hrecipient⟩ := hrun (.create deathRecipient createdAt) actions h
    ⟨rfl, List.nodup_nil, fun _ => ⟨rfl, rfl⟩⟩
  exact ⟨hwatched.distinct, hwatched.watched, fun hnone => hwatched.empty (hrecipient.trans hnone)⟩

/-- Two subscribers come, the first one comes again, and dies. -/
def sampleSubscribers : List NotifierAction :=
  [.subscribe true { pid := 1 } ["NETWORK"] 0 (some (some 1)) "NETWORK" "push",
    .subscribe true { pid := 2 } ["NETWORK"] 0 (some (some 2)) "NETWORK" "timer",
    .subscribe true { pid := 1 } ["NETWORK"] 0 (some (some 1)) "NETWORK" "push",
    .reportStandbyState .nap, .remoteDied (some 1) true]

/-- The other one is left, and its object holds the death recipient. -/
theorem subscribers_watched_sample :
    let n := (Notifier.create true 0).run sampleSubscribers
    n.watched = [2] ∧ n.remotes.Nodup ∧ n.remotes = n.watched.map some := by
  have h := subscribers_watched true 0 sampleSubscribers (by
    simp [sampleSubscribers, NotifierAction.Promoted])
  exact ⟨by decide +kernel, h.1, h.2.1⟩

end DeviceStandby
