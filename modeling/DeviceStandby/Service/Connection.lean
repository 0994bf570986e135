import DeviceStandby.Allow.Record
import DeviceStandby.Lib.Remotes
import DeviceStandby.Lib.Transition

/-!
# The connection of a client

A client keeps the proxy that it got with its first call and registers a death recipient at its
object, so that the proxy is dropped when the service dies and the next call looks for the service
anew. Services start and die, and death notices are delivered, at any time between the calls; the
mutex of the client makes each of them one step. `client_follows_service` says that this works as
long as every proxy gets its recipient, and that the first proxy which does not get one is kept for
ever, whatever becomes of its service.
-/

namespace DeviceStandby

/-! ## The client -/

/-- The calls of `StandbyServiceClient`, with what they forward. -/
inductive ClientRequest where
  | subscribeStandbyCallback (subscriber : Option Nat) (subscriberName moduleName : String)
  | unsubscribeStandbyCallback (subscriber : Option Nat)
  | applyAllowResource (resourceRequest : Option ResourceRequest)
  | unapplyAllowResource (resourceRequest : Option ResourceRequest)
  | getAllowList (allowType reasonCode : Nat)
  | isDeviceInStandby
  | setNatInterval (type : Nat) (enable : Bool) (interval : Nat)
  | handleEvent (resType : Nat) (value : Int) (sceneInfo : String)
  | reportWorkSchedulerStatus (started : Bool) (uid : Int) (bundleName : String)
  | getRestrictList (restrictType reasonCode : Nat)
  | isStrategyEnabled (strategyName : String)
  | reportPowerOverused (module : String) (level : Nat)
  | delayHeartBeat (timestamp : Int)
  | reportSceneInfo (resType : Nat) (value : Int) (sceneInfo : String)
  | reportDeviceStateChanged (type : Int) (enabled : Bool)
  | pushProxyStateChanged (type : Nat) (enable : Bool)
  | heartBeatValueChanged (tag : String) (timesTamp : Int)

/-- Four calls refuse a null pointer. -/
def ClientRequest.valid : ClientRequest → Bool
  | .subscribeStandbyCallback subscriber _ _ => subscriber.isSome
  | .unsubscribeStandbyCallback subscriber => subscriber.isSome
  | .applyAllowResource resourceRequest => resourceRequest.isSome
  | .unapplyAllowResource resourceRequest => resourceRequest.isSome
  | _ => true

/-- What becomes of a call in the client. -/
inductive ClientOutcome where
  | ERR_STANDBY_SERVICE_NOT_CONNECTED
  | ERR_STANDBY_INVALID_PARAM
  | sent
  deriving DecidableEq

/-- A proxy: the object it stands for, and whether its `AsObject` gives that object. -/
structure ServiceProxy where
  remote : Nat
  asObject : Bool
  deriving DecidableEq

/-- The fields of `StandbyServiceClient`. -/
structure StandbyServiceClient where
  standbyServiceProxy : Option ServiceProxy := none
  deathRecipient : Option Nat := none

/-- What the platform answers when the service is looked for. -/
structure ConnectAnswers where
  /-- `GetSystemAbilityManager` gives the manager. -/
  systemAbilityManager : Bool
  /-- The object that `GetSystemAbility` gives. -/
  remoteObject : Option Nat
  /-- `iface_cast` gives a proxy. -/
  ifaceCast : Bool
  asObject : Bool
  /-- The death recipient can be allocated. -/
  allocated : Bool
  /-- `AddDeathRecipient` registers it. -/
  added : Bool

/-- The object whose proxy is found. -/
def ConnectAnswers.found (a : ConnectAnswers) : Option Nat :=
  if a.systemAbilityManager ∧ a.ifaceCast then a.remoteObject else none

/-- A proxy that is found gets its death recipient. -/
def ConnectAnswers.Watched (a : ConnectAnswers) : Prop := a.asObject ∧ a.allocated ∧ a.added

instance (a : ConnectAnswers) : Decidable a.Watched := by
  unfold ConnectAnswers.Watched
  infer_instance

/-- A client and the services that have been started, with the calls that were sent to them. -/
structure Connection where
  remotes : Remotes Nat := {}
  client : StandbyServiceClient := {}
  /-- How many death recipients the client has allocated. -/
  recipients : Nat := 0
  sent : List (Nat × ClientRequest) := []

namespace Connection

/-- The end of `StandbyServiceClient::GetStandbyServiceProxy`, once `iface_cast` has given a proxy.
The proxy stays when the result is false. -/
def keepProxy (a : ConnectAnswers) (remote : Nat) (c : Connection) :
    Option ServiceProxy × Connection :=
  let proxy : ServiceProxy := ⟨remote, a.asObject⟩
  let c := { c with client.standbyServiceProxy := some proxy }
  if ¬ a.asObject then (none, c)
  else if ¬ a.allocated then (none, { c with client.deathRecipient := none })
  else
    let c := { c with
      client.deathRecipient := some c.recipients
      recipients := c.recipients + 1
      remotes := if a.added then c.remotes.addDeathRecipient remote c.recipients else c.remotes }
    (some proxy, c)

/-- `StandbyServiceClient::GetStandbyServiceProxy`, with the proxy when the result is true. -/
def getStandbyServiceProxy (a : ConnectAnswers) (c : Connection) :
    Option ServiceProxy × Connection :=
  match c.client.standbyServiceProxy with
  | some proxy => (some proxy, c)
  | none =>
    if ¬ a.systemAbilityManager then (none, c)
    else
      match a.remoteObject with
      | none => (none, c)
      | some remote => if ¬ a.ifaceCast then (none, c) else c.keepProxy a remote

/-- `StandbyServiceClient::ResetStandbyServiceClient`. -/
def resetStandbyServiceClient (c : Connection) : Connection :=
  { c with
    client.standbyServiceProxy := none
    remotes :=
      match c.client.standbyServiceProxy, c.client.deathRecipient with
      | some proxy, some recipient =>
        if proxy.asObject then c.remotes.removeDeathRecipient proxy.remote recipient
        else c.remotes
      | _, _ => c.remotes }

/-- A call of the client. -/
def call (request : ClientRequest) (a : ConnectAnswers) (c : Connection) :
    ClientOutcome × Connection :=
  match c.getStandbyServiceProxy a with
  | (none, c) => (.ERR_STANDBY_SERVICE_NOT_CONNECTED, c)
  | (some proxy, c) =>
    if ¬ request.valid then (.ERR_STANDBY_INVALID_PARAM, c)
    else (.sent, { c with sent := c.sent ++ [(proxy.remote, request)] })

/-- `StandbyServiceDeathRecipient::OnRemoteDied` for a notice. -/
def onRemoteDied (i : Nat) (c : Connection) : Option Connection :=
  (c.remotes.takeNotice i).map fun (_, remotes) => { c with remotes }.resetStandbyServiceClient

end Connection

/-- What happens: a service starts or dies, the client is called, or a death notice arrives. -/
inductive ConnectionAction where
  | start
  | die (remote : Nat)
  | call (request : ClientRequest) (a : ConnectAnswers)
  | onRemoteDied (i : Nat)

/-- One step. `GetSystemAbility` gives an object that was started; it may have died. -/
def Connection.step (c : Connection) : ConnectionAction → Option Connection
  | .start => some { c with remotes := c.remotes.start }
  | .die remote =>
    if remote ∈ c.remotes.alive then some { c with remotes := c.remotes.kill remote } else none
  | .call request a =>
    if ∀ remote ∈ a.remoteObject, remote < c.remotes.started then some (c.call request a).2
    else none
  | .onRemoteDied i => c.onRemoteDied i

/-- The proxy that an action leaves without a death recipient. -/
def ConnectionAction.unwatched (c : Connection) : ConnectionAction → Option ServiceProxy
  | .call _ a =>
    if c.client.standbyServiceProxy = none ∧ ¬ a.Watched then a.found.map (⟨·, a.asObject⟩)
    else none
  | _ => none

/-- A client from the start of its process, with the first proxy that it kept without a death
recipient. -/
def connectionSystem : Lts.System (Connection × Option ServiceProxy) ConnectionAction :=
  Lts.System.withGhost ⟨{}, Connection.step⟩ none fun c action _ unwatched =>
    unwatched.or (action.unwatched c)

/-! ## What a call does -/

section
variable {c t : Connection} {a : ConnectAnswers} {proxy : ServiceProxy} {remote : Nat}

/-- A proxy that is kept is used. -/
theorem Connection.getStandbyServiceProxy_of_some (h : c.client.standbyServiceProxy = some proxy) :
    c.getStandbyServiceProxy a = (some proxy, c) := by
  rw [getStandbyServiceProxy, h]

/-- Without one the service is looked for, and what is found is kept. -/
theorem Connection.getStandbyServiceProxy_of_none (h : c.client.standbyServiceProxy = none) :
    c.getStandbyServiceProxy a =
      match a.found with
      | none => (none, c)
      | some remote => c.keepProxy a remote := by
  rw [getStandbyServiceProxy, h, ConnectAnswers.found]
  by_cases hmanager : a.systemAbilityManager <;> by_cases hcast : a.ifaceCast <;>
    cases a.remoteObject <;> simp [hmanager, hcast]

/-- A proxy that gets its death recipient is watched from then on. -/
theorem Connection.keepProxy_watched (h : a.Watched) : c.keepProxy a remote =
    (some ⟨remote, true⟩,
      { c with
        client.standbyServiceProxy := some ⟨remote, true⟩
        client.deathRecipient := some c.recipients
        recipients := c.recipients + 1
        remotes := c.remotes.addDeathRecipient remote c.recipients }) := by
  obtain ⟨hasObject, hallocated, hadded⟩ := h
  simp only [keepProxy, hasObject, hallocated, hadded, not_true_eq_false, if_false, if_true]

/-- A proxy that does not get one is kept all the same, and nobody watches its object. -/
theorem Connection.keepProxy_unwatched (c : Connection) (remote : Nat) (h : ¬ a.Watched) :
    ∃ result recipients deathRecipient,
    (result = none ∨ result = some ⟨remote, a.asObject⟩) ∧
    c.keepProxy a remote =
      (result,
        { c with
          client.standbyServiceProxy := some ⟨remote, a.asObject⟩
          client.deathRecipient := deathRecipient
          recipients := recipients }) := by
  unfold keepProxy
  dsimp only
  by_cases hasObject : a.asObject
  · by_cases hallocated : a.allocated
    · have hadded : ¬ a.added := fun hadded => h ⟨hasObject, hallocated, hadded⟩
      rw [if_neg (not_not_intro hasObject), if_neg (not_not_intro hallocated), if_neg hadded]
      exact ⟨_, _, _, .inr rfl, rfl⟩
    · rw [if_neg (not_not_intro hasObject), if_pos hallocated]
      exact ⟨_, _, _, .inl rfl, rfl⟩
  · rw [if_pos hasObject]
    exact ⟨_, _, _, .inl rfl, rfl⟩

/-- What a call sends goes to the object of the proxy that the client keeps. -/
theorem Connection.call_sent (request : ClientRequest)
    (hproxy : (c.getStandbyServiceProxy a).1 = none ∨
      (c.getStandbyServiceProxy a).1 = (c.getStandbyServiceProxy a).2.client.standbyServiceProxy)
    (hsent : (c.getStandbyServiceProxy a).2.sent = c.sent) :
    ∃ sent, (c.call request a).2 = { (c.getStandbyServiceProxy a).2 with sent := sent } ∧
      (sent = c.sent ∨ ∃ proxy, (c.call request a).2.client.standbyServiceProxy = some proxy ∧
        sent = c.sent ++ [(proxy.remote, request)]) := by
  unfold call
  generalize c.getStandbyServiceProxy a = r at hproxy hsent
  obtain ⟨proxy, t⟩ := r
  dsimp only at hproxy hsent ⊢
  cases proxy with
  | none => exact ⟨t.sent, rfl, .inl hsent⟩
  | some proxy =>
    rcases hproxy with hproxy | hproxy
    · cases hproxy
    · dsimp only
      split_ifs
      · exact ⟨_, rfl, .inr ⟨proxy, hproxy.symm, by rw [hsent]⟩⟩
      · exact ⟨t.sent, rfl, .inl hsent⟩

end

/-! ## Who is watched -/

/-- The client has no proxy and waits for no notice; or it has one and waits for the notice of its
object only; or it has one that it was left without a watch, and waits for none. -/
inductive Connection.Mode (c : Connection) : Option ServiceProxy → Prop where
  | idle (hproxy : c.client.standbyServiceProxy = none) (hwatches : c.remotes.watches = []) :
      c.Mode none
  | watching (remote recipient : Nat) (hproxy : c.client.standbyServiceProxy = some ⟨remote, true⟩)
      (hwatches : c.remotes.watches = [(remote, recipient)]) : c.Mode none
  | lost (proxy : ServiceProxy) (hproxy : c.client.standbyServiceProxy = some proxy)
      (hwatches : c.remotes.watches = []) : c.Mode (some proxy)

section
variable {c t : Connection} {unwatched : Option ServiceProxy}

/-- What moves no registration and leaves the proxy, leaves the mode. -/
theorem Connection.Mode.of_perm (h : c.Mode unwatched)
    (hproxy : t.client.standbyServiceProxy = c.client.standbyServiceProxy)
    (hwatches : t.remotes.watches.Perm c.remotes.watches) : t.Mode unwatched := by
  cases h with
  | idle hp hw =>
    rw [hw] at hwatches
    exact .idle (hproxy.trans hp) hwatches.eq_nil
  | watching remote recipient hp hw =>
    rw [hw] at hwatches
    exact .watching remote recipient (hproxy.trans hp) (List.perm_singleton.1 hwatches)
  | lost proxy hp hw =>
    rw [hw] at hwatches
    exact .lost proxy (hproxy.trans hp) hwatches.eq_nil

/-- Looking for the service keeps to the modes. -/
theorem Connection.Mode.connect {a : ConnectAnswers} (request : ClientRequest)
    (h : c.Mode unwatched) (hsound : c.remotes.Sound)
    (hstarted : ∀ remote ∈ a.remoteObject, remote < c.remotes.started) :
    (c.getStandbyServiceProxy a).2.Mode
      (unwatched.or ((ConnectionAction.call request a).unwatched c)) ∧
    (c.getStandbyServiceProxy a).2.remotes.Sound ∧
    ((c.getStandbyServiceProxy a).1 = none ∨ (c.getStandbyServiceProxy a).1 =
      (c.getStandbyServiceProxy a).2.client.standbyServiceProxy) ∧
    (c.getStandbyServiceProxy a).2.sent = c.sent := by
  rw [ConnectionAction.unwatched]
  cases hproxy : c.client.standbyServiceProxy with
  | some proxy =>
    rw [getStandbyServiceProxy_of_some hproxy, if_neg fun h => Option.some_ne_none _ h.1,
      Option.or_none]
    exact ⟨h, hsound, .inr hproxy.symm, rfl⟩
  | none =>
    have hidle : unwatched = none ∧ c.remotes.watches = [] := by
      cases h with
      | idle _ hwatches => exact ⟨rfl, hwatches⟩
      | watching _ _ hp => cases hproxy.symm.trans hp
      | lost _ hp => cases hproxy.symm.trans hp
    obtain ⟨rfl, hwatches⟩ := hidle
    rw [getStandbyServiceProxy_of_none hproxy, Option.none_or]
    cases hfound : a.found with
    | none =>
      rw [Option.map_none, ite_self]
      exact ⟨h, hsound, .inl rfl, rfl⟩
    | some remote =>
      have hremote : remote < c.remotes.started := by
        unfold ConnectAnswers.found at hfound
        split_ifs at hfound
        exact hstarted remote hfound
      dsimp only
      by_cases hwatched : a.Watched
      · rw [if_neg fun h => h.2 hwatched, keepProxy_watched hwatched]
        refine ⟨.watching remote c.recipients rfl ?_, hsound.addDeathRecipient hremote, .inr rfl,
          rfl⟩
        have hperm := c.remotes.addDeathRecipient_watches (o := remote) (d := c.recipients)
        rw [hwatches] at hperm
        exact List.perm_singleton.1 hperm
      · obtain ⟨result, recipients, deathRecipient, hresult, hkeep⟩ :=
          keepProxy_unwatched c remote hwatched
        rw [if_pos ⟨rfl, hwatched⟩, hkeep]
        exact ⟨.lost _ rfl hwatches, hsound, hresult, rfl⟩

/-- Dropping the proxy makes no registration. -/
theorem Connection.reset_remotes (hsound : c.remotes.Sound) (hwatches : c.remotes.watches = []) :
    c.resetStandbyServiceClient.remotes.Sound ∧
      c.resetStandbyServiceClient.remotes.watches = [] := by
  unfold resetStandbyServiceClient
  dsimp only
  split
  · split_ifs
    · refine ⟨hsound.removeDeathRecipient, List.sublist_nil.1 ?_⟩
      rw [← hwatches]
      exact Remotes.removeDeathRecipient_watches
    · exact ⟨hsound, hwatches⟩
  · exact ⟨hsound, hwatches⟩

/-- A notice that is delivered is that of the proxy the client keeps, whose object is dead. -/
theorem Connection.Mode.onRemoteDied {i : Nat} (h : c.Mode unwatched) (hsound : c.remotes.Sound)
    (hdied : c.onRemoteDied i = some t) :
    t.Mode unwatched ∧ t.remotes.Sound ∧ t.sent = c.sent ∧ unwatched = none ∧
      t.client.standbyServiceProxy = none ∧
      ∃ proxy, c.client.standbyServiceProxy = some proxy ∧ proxy.remote ∉ c.remotes.alive := by
  obtain ⟨⟨notice, remotes⟩, htake, rfl⟩ := Option.map_eq_some_iff.1 hdied
  obtain ⟨hmem, hwatches⟩ := Remotes.takeNotice_watches htake
  cases h with
  | idle _ hw =>
    rw [hw] at hwatches
    exact absurd hwatches.symm.eq_nil (List.cons_ne_nil _ _)
  | lost _ _ hw =>
    rw [hw] at hwatches
    exact absurd hwatches.symm.eq_nil (List.cons_ne_nil _ _)
  | watching remote recipient hproxy hw =>
    rw [hw] at hwatches
    obtain ⟨rfl, hnil⟩ := List.cons.inj (List.singleton_perm.1 hwatches).symm
    obtain ⟨hsound', hnil'⟩ :=
      reset_remotes (c := { c with remotes }) (hsound.takeNotice htake) hnil
    exact ⟨.idle rfl hnil', hsound', rfl, rfl, rfl, _, hproxy, (hsound.notices _ hmem).1⟩

/-- One step. -/
theorem Connection.Mode.step (h : c.Mode unwatched) (action : ConnectionAction)
    (hsound : c.remotes.Sound) (hs : c.step action = some t) :
    t.Mode (unwatched.or (action.unwatched c)) ∧ t.remotes.Sound ∧
      (t.sent = c.sent ∨ ∃ request a proxy, action = .call request a ∧
        t.client.standbyServiceProxy = some proxy ∧
        t.sent = c.sent ++ [(proxy.remote, request)]) := by
  cases action with
  | start =>
    cases hs
    have hnone : ConnectionAction.start.unwatched c = none := rfl
    rw [hnone, Option.or_none]
    exact ⟨h.of_perm rfl (.refl _), hsound.start, .inl rfl⟩
  | die remote =>
    have hnone : (ConnectionAction.die remote).unwatched c = none := rfl
    rw [hnone, Option.or_none]
    obtain ⟨-, hs⟩ := Option.ite_none_right_eq_some.1 hs
    cases hs
    exact ⟨h.of_perm rfl Remotes.kill_watches, hsound.kill, .inl rfl⟩
  | call request a =>
    obtain ⟨hstarted, hs⟩ := Option.ite_none_right_eq_some.1 hs
    obtain ⟨hmode, hsound', hproxy, hsent⟩ := h.connect request hsound hstarted
    obtain ⟨sent, hcall, hsent'⟩ := call_sent request hproxy hsent
    cases hs
    refine ⟨?_, ?_, ?_⟩
    · rw [hcall]
      exact hmode.of_perm rfl (.refl _)
    · rw [hcall]
      exact hsound'
    · rcases hsent' with hsent' | ⟨proxy, hkept, hsent'⟩
      · exact .inl (by rw [hcall]; exact hsent')
      · exact .inr ⟨request, a, proxy, rfl, hkept, by rw [hcall]; exact hsent'⟩
  | onRemoteDied i =>
    have hnone : (ConnectionAction.onRemoteDied i).unwatched c = none := rfl
    rw [hnone, Option.or_none]
    obtain ⟨hmode, hsound', hsent, -⟩ := h.onRemoteDied hsound hs
    exact ⟨hmode, hsound', .inl hsent⟩

/-- Every run keeps to the modes. -/
theorem Connection.mode_of_reachable {s : Connection × Option ServiceProxy}
    (h : Lts.Reachable connectionSystem s) : s.1.Mode s.2 ∧ s.1.remotes.Sound := by
  refine Lts.ReachableUnder.invariant (I := fun s => s.1.Mode s.2 ∧ s.1.remotes.Sound) ?_ ?_ h
  · refine ⟨.idle rfl rfl, ⟨?_, ?_, ?_⟩⟩ <;> exact fun _ hmem => absurd hmem List.not_mem_nil
  · rintro s t action - - hs ⟨hmode, hsound⟩
    obtain ⟨hs, hghost⟩ := Lts.System.withGhost_step_iff.1 hs
    obtain ⟨hmode', hsound', -⟩ := hmode.step action hsound hs
    rw [hghost]
    exact ⟨hmode', hsound'⟩

/-- A proxy without a watch is kept over every run, and gets every call. -/
theorem Connection.lost_run {s t : Connection × Option ServiceProxy} {proxy : ServiceProxy}
    {as : List ConnectionAction} (hmode : s.1.Mode s.2) (hsound : s.1.remotes.Sound)
    (hlost : s.2 = some proxy) (hrun : connectionSystem.run s as = some t) :
    t.1.client.standbyServiceProxy = some proxy ∧ t.2 = some proxy ∧
      ∃ sent, t.1.sent = s.1.sent ++ sent ∧ ∀ call ∈ sent, call.1 = proxy.remote := by
  induction as generalizing s with
  | nil =>
    cases hrun
    rw [hlost] at hmode
    cases hmode with
    | lost _ hproxy =>
      exact ⟨hproxy, hlost, [], (List.append_nil _).symm,
        fun _ h => absurd h List.not_mem_nil⟩
  | cons action as ih =>
    obtain ⟨s', hs, hrun⟩ := Option.bind_eq_some_iff.1 hrun
    obtain ⟨hs, hghost⟩ := Lts.System.withGhost_step_iff.1 hs
    obtain ⟨hmode', hsound', hsent'⟩ := hmode.step action hsound hs
    rw [← hghost] at hmode'
    have hlost' : s'.2 = some proxy := by rw [hghost, hlost, Option.some_or]
    obtain ⟨hproxy, hlost'', sent, hsent, hto⟩ := ih hmode' hsound' hlost' hrun
    refine ⟨hproxy, hlost'', ?_⟩
    rcases hsent' with hsame | ⟨request, a, proxy', -, hproxy', hone⟩
    · exact ⟨sent, by rw [hsent, hsame], hto⟩
    · rw [hlost'] at hmode'
      cases hmode' with
      | lost _ hkept =>
        cases hproxy'.symm.trans hkept
        refine ⟨(proxy.remote, request) :: sent, by rw [hsent, hone, List.append_assoc]; rfl, ?_⟩
        exact List.forall_mem_cons.2 ⟨rfl, hto⟩

end

/-- The object of a watched proxy is alive, or its notice can be delivered. -/
theorem Connection.alive_or_noticed {c : Connection} {proxy : ServiceProxy} (h : c.Mode none)
    (hsound : c.remotes.Sound) (hproxy : c.client.standbyServiceProxy = some proxy) :
    proxy.remote ∈ c.remotes.alive ∨ ∃ i t, c.onRemoteDied i = some t := by
  cases h with
  | idle hnone => cases hproxy.symm.trans hnone
  | watching remote recipient hwatching hwatches =>
    cases hproxy.symm.trans hwatching
    have hmem : (remote, recipient) ∈ c.remotes.watches := by
      rw [hwatches]
      exact List.mem_cons_self
    rcases List.mem_append.1 hmem with hmem | hmem
    · exact .inl (hsound.recipients _ hmem)
    · obtain ⟨i, hi⟩ := List.getElem?_of_mem hmem
      have hdied : (c.onRemoteDied i).isSome := by
        rw [onRemoteDied, Remotes.takeNotice, hi]
        rfl
      exact .inr ⟨i, Option.isSome_iff_exists.1 hdied⟩

/-- As long as every proxy that a client found got its death recipient, the client keeps no proxy
of a dead object but one whose notice is on its way, and a notice drops just that proxy, so that
the next call looks for the service anew. The first proxy that is left without a recipient is kept
in every run, and every later call goes to its object, also after it has died. -/
theorem client_follows_service {s : Connection × Option ServiceProxy}
    (h : Lts.Reachable connectionSystem s) :
    (∀ request a t, connectionSystem.step s (.call request a) = some t → t.1.sent = s.1.sent ∨
      ∃ proxy, t.1.client.standbyServiceProxy = some proxy ∧
        t.1.sent = s.1.sent ++ [(proxy.remote, request)]) ∧
    (s.2 = none → ∀ proxy, s.1.client.standbyServiceProxy = some proxy →
      proxy.remote ∈ s.1.remotes.alive ∨
        ∃ i t, connectionSystem.step s (.onRemoteDied i) = some t) ∧
    (∀ i t, connectionSystem.step s (.onRemoteDied i) = some t →
      t.1.client.standbyServiceProxy = none ∧ ∃ proxy,
        s.1.client.standbyServiceProxy = some proxy ∧ proxy.remote ∉ s.1.remotes.alive) ∧
    (∀ proxy, s.2 = some proxy → ∀ as t, connectionSystem.run s as = some t →
      t.1.client.standbyServiceProxy = some proxy ∧
        ∃ sent, t.1.sent = s.1.sent ++ sent ∧ ∀ call ∈ sent, call.1 = proxy.remote) := by
  obtain ⟨hmode, hsound⟩ := Connection.mode_of_reachable h
  refine ⟨fun request a t hs => ?_, fun hwatched proxy hproxy => ?_, fun i t hs => ?_,
    fun proxy hlost as t hrun => ?_⟩
  · obtain ⟨hs, -⟩ := Lts.System.withGhost_step_iff.1 hs
    obtain ⟨-, -, hsent⟩ := hmode.step (.call request a) hsound hs
    rcases hsent with hsame | ⟨_, _, proxy, heq, hproxy, hsent⟩
    · exact .inl hsame
    · cases heq
      exact .inr ⟨proxy, hproxy, hsent⟩
  · rw [hwatched] at hmode
    rcases Connection.alive_or_noticed hmode hsound hproxy with halive | ⟨i, t, hdied⟩
    · exact .inl halive
    · exact .inr ⟨i, (t, _), Lts.System.withGhost_step_iff.2 ⟨hdied, rfl⟩⟩
  · obtain ⟨hs, -⟩ := Lts.System.withGhost_step_iff.1 hs
    obtain ⟨-, -, -, -, hproxy, hdead⟩ := hmode.onRemoteDied hsound hs
    exact ⟨hproxy, hdead⟩
  · obtain ⟨hproxy, -, hsent⟩ := Connection.lost_run hmode hsound hlost hrun
    exact ⟨hproxy, hsent⟩

/-- The manager finds the object, and its death recipient is allocated or not. -/
private def foundService (remote : Nat) (allocated : Bool) : ConnectAnswers where
  systemAbilityManager := true
  remoteObject := some remote
  ifaceCast := true
  asObject := true
  allocated := allocated
  added := true

/-- The first call allocates no death recipient. The service dies and starts again, and the client
keeps to the object that is dead. -/
theorem client_follows_service_sample : ∃ s t : Connection × Option ServiceProxy,
    Lts.Reachable connectionSystem s ∧
      connectionSystem.run s
        [.die 0, .start, .call .isDeviceInStandby (foundService 1 true)] = some t ∧
      t.1.remotes.alive = [1] ∧ t.1.client.standbyServiceProxy = some ⟨0, true⟩ := by
  have hrun : ∃ s, connectionSystem.run connectionSystem.init
      [.start, .call .isDeviceInStandby (foundService 0 false)] = some s ∧
      s.2 = some ⟨0, true⟩ ∧ ∃ t, connectionSystem.run s
        [.die 0, .start, .call .isDeviceInStandby (foundService 1 true)] = some t ∧
      t.1.remotes.alive = [1] := ⟨_, rfl, rfl, _, rfl, rfl⟩
  obtain ⟨s, hs, hlost, t, ht, halive⟩ := hrun
  have hr := Lts.reachable_of_run hs
  exact ⟨s, t, hr, ht, halive, ((client_follows_service hr).2.2.2 _ hlost _ t ht).1⟩

end DeviceStandby
