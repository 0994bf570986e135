import DeviceStandby.Service.Notification
import DeviceStandby.State.Graph

/-!
# What a subscriber knows of the standby state

`SendNotification` tells the subscribers whether the device naps or sleeps each time the state
changes, and again when the service becomes ready and when the day turns to night in SLEEP. A
subscriber that knew the mode at some moment and stays on the list knows it ever after, through any
interleaving of events, timers, evaluations, restarts and other subscribers
(`subscriber_knows_mode`).
-/

namespace DeviceStandby

open Registry Lts

/-- What the subscribers are told of a state: whether it is NAP, and whether it is SLEEP. -/
def StandbyState.mode (state : StandbyState) : Bool × Bool :=
  (decide (state = .nap), decide (state = .sleep))

/-- The states that the transitions of a history entered, oldest first. -/
def enteredStates (trace : List Trace) : List StandbyState :=
  trace.reverse.filterMap fun
    | .transited _ curState => some curState
    | _ => none

/-- `SendNotification` is called though the state has not changed: by `Init`, and by `HandleEvent`
for RES_CTRL_CONDITION_CHANGED. -/
def Action.reportsAgain (s : Service) : Action → Bool
  | .dispatch _ =>
    match s.handler.queue with
    | .resCtrlConditionChanged _ :: _ => true
    | _ => false
  | .initReadyState _ => !s.isServiceReady
  | _ => false

/-- What a step reports to the subscribers: every transition the state that it enters. -/
def reportedStates (s : Service) (a : Action) (t : Service) : List StandbyState :=
  (enteredStates t.trace).drop (enteredStates s.trace).length ++
    if a.reportsAgain s then [t.curState] else []

/-- The service and its subscribers. -/
def observedService (cfg : StandbyConfig) (deathRecipient : Bool) (createdAt : Int) :
    System (Service × Notifier) (Action ⊕ NotifierAction) :=
  (system cfg).feed (fun s a t => (reportedStates s a t).map .reportStandbyState)
    (.create deathRecipient createdAt) Notifier.handle

/-- What a subscriber that knows the mode makes of a callback. -/
def SubscriberCallback.followMode (known : Bool × Bool) :
    SubscriberCallback → Option (Bool × Bool)
  | .onDeviceIdleMode napped sleeping => some (napped, sleeping)
  | .onAllowListChanged .. | .onPowerOverused .. | .onActionChanged .. => some known

/-- Only the state manager reports the standby state. -/
def OwnStateReports : Action ⊕ NotifierAction → Prop
  | .inr (.reportStandbyState _) => False
  | _ => True

/-- `StandbyServiceImpl::IsDeviceInStandby`. -/
def isDeviceInStandby (caller : Caller) (s : Service) : Except StandbyError Bool := do
  caller.checkCallerPermission REASON_APP_API
  if ¬ s.isServiceReady then throw .ERR_STANDBY_SYS_NOT_READY
  return decide (s.curState = .sleep)

/-! ## The states that a step reports -/

section
variable {cfg : StandbyConfig} {s₀ s t : Service} {a : Action}

theorem enteredStates_append (entries trace : List Trace) :
    enteredStates (entries ++ trace) = enteredStates trace ++ enteredStates entries := by
  unfold enteredStates
  rw [List.reverse_append, List.filterMap_append]

/-- Entries that record no transition enter no state. -/
theorem enteredStates_eq_nil {entries : List Trace}
    (h : ∀ entry ∈ entries, ∀ preState curState, entry ≠ .transited preState curState) :
    enteredStates entries = [] := by
  unfold enteredStates
  refine List.filterMap_eq_nil_iff.2 fun entry hentry => ?_
  cases entry with
  | transited preState curState =>
    exact absurd rfl (h _ (List.mem_reverse.1 hentry) preState curState)
  | handled | dispatched | sleepRebegun | startEval | acceptEval | endEval => rfl

theorem Silent.enteredStates {entries : List Trace} (h : Silent entries) :
    enteredStates entries = [] :=
  enteredStates_eq_nil fun entry hentry preState curState heq => by
    obtain ⟨message, hmessage, -⟩ := h entry hentry
    rw [heq] at hmessage
    cases hmessage

/-- The current state is known from the states that the history has entered since. -/
abbrev EntersStates (s t : Service) : Prop :=
  Follows (fun s => enteredStates s.trace) (fun s => s.curState) (fun _ state => some state) s t

/-- An effect that records no transition does not change the state. -/
theorem EntersStates.stay {entries : List Trace} (htrace : t.trace = entries ++ s.trace)
    (hentries : DeviceStandby.enteredStates entries = []) (hcur : t.curState = s.curState) :
    EntersStates s t :=
  ⟨[], by simp only [htrace, enteredStates_append, hentries], by simp [hcur]⟩

/-- A transition records the state that it enters. -/
theorem EntersStates.transit {p : Platform} {nextState : StandbyState}
    (halive : (transitToStateInner cfg p nextState s).crashed = false) :
    EntersStates s (transitToStateInner cfg p nextState s) := by
  obtain ⟨entries, hsilent, htrace⟩ :=
    transitToStateInner_trace cfg p nextState (transitToStateInner_alive halive).2
  have hmessage : enteredStates
      (if s.isServiceReady then [.dispatched (.stateTransit s.curState nextState)] else []) = [] :=
    enteredStates_eq_nil fun entry hentry preState curState heq => by
      split_ifs at hentry
      · rw [List.mem_singleton.1 hentry] at heq
        cases heq
      · cases hentry
  refine ⟨[nextState], ?_, by simp⟩
  dsimp only
  rw [htrace, enteredStates_append, enteredStates_append, enteredStates_append, hmessage,
    hsilent.enteredStates]
  rfl

/-- Every effect that changes the state is a transition. -/
theorem EntersStates.effect (hb : Basic s) (he : Effect cfg s₀ a s t)
    (halive : t.crashed = false) : EntersStates s t := by
  rcases he.outcome.curState with ⟨hcur, -⟩ | ⟨p, nextState, -, rfl⟩ | ⟨p, hready, rfl⟩
  · obtain ⟨entries, htrace, hist⟩ := he.history halive
    rcases hist.isStateChange with hnone | ⟨p, nextState, -, rfl⟩
    · refine .stay htrace (enteredStates_eq_nil fun entry hentry preState curState heq => ?_) hcur
      have hchange := hnone entry hentry
      rw [heq] at hchange
      cases hchange
    · exact .transit halive
  · exact .transit halive
  · obtain ⟨_, _, hf⟩ := initReadyState_frame cfg p hready
    have htrace : (initReadyState cfg p s).trace = [] ++ s.trace := by
      rw [hf]
      rfl
    exact .stay htrace rfl (by rw [hf, hb.notReady hready])

/-- Over a step the current state is known from the states that it enters. -/
theorem EntersStates.step (hr : Reachable (system cfg) s)
    (hstep : (system cfg).step s a = some t) : EntersStates s t :=
  (step_invariant (I := fun u => Basic u ∧ EntersStates s u) (ownTasks_reachable hr) hstep
    ⟨basic_reachable hr, .refl⟩ fun _ he halive ⟨hb, hs⟩ =>
      ⟨hb.effect he halive, hs.trans (EntersStates.effect hb he halive)⟩).2

/-- The states that a step reports end in the current one. -/
theorem reportedStates_follow (hr : Reachable (system cfg) s)
    (hstep : (system cfg).step s a = some t) :
    (reportedStates s a t).foldlM (fun _ state => some state) s.curState = some t.curState := by
  obtain ⟨states, hentered, hfollow⟩ := EntersStates.step hr hstep
  dsimp only at hentered hfollow
  unfold reportedStates
  rw [hentered, List.drop_left, List.foldlM_append, hfollow]
  split_ifs <;> rfl

end

/-! ## What a subscriber follows -/

section
variable {cfg : StandbyConfig} {deathRecipient : Bool} {createdAt : Int}
  {s t : Service × Notifier} {a : Action ⊕ NotifierAction} {n : Notifier} {remote : Nat}
  {subscriber : Subscriber} {states : List StandbyState}

/-- To the registry the reports of some states are their modes, published in their order. -/
theorem Notifier.history_states (n : Notifier) (states : List StandbyState) :
    n.history (states.map .reportStandbyState) =
      states.map fun state => .publish (.onDeviceIdleMode state.mode.1 state.mode.2) := by
  induction states generalizing n with
  | nil => rfl
  | cons state states ih =>
    rw [List.map_cons, history, ih]
    rfl

/-- Who knows the mode follows the callbacks about it as one follows the states. -/
theorem foldlM_followMode {state state' : StandbyState}
    (h : states.foldlM (fun _ state => some state) state = some state') :
    (states.map fun state => SubscriberCallback.onDeviceIdleMode state.mode.1
      state.mode.2).foldlM SubscriberCallback.followMode state.mode = some state'.mode := by
  induction states generalizing state with
  | nil =>
    cases h
    rfl
  | cons next states ih =>
    rw [List.foldlM_cons] at h
    rw [List.map_cons, List.foldlM_cons]
    exact ih h

/-- What others do to the subscribers tells nothing of the mode. -/
theorem followMode_of_other {action : NotifierAction} (hown : OwnStateReports (.inr action))
    {callback : SubscriberCallback} (h : callback ∈ published (n.history [action]))
    (known : Bool × Bool) : callback.followMode known = some known := by
  have hevent := mem_published_singleton.1 h
  cases callback with
  | onDeviceIdleMode napped sleeping =>
    obtain ⟨curState, rfl, -⟩ | ⟨_, _, _, _, -, hcallback⟩ | ⟨kind, _, _, _, -, hcallback⟩ :=
      NotifierAction.publish_inv hevent
    · exact hown.elim
    · cases hcallback
    · cases kind <;> cases hcallback
  | onAllowListChanged | onPowerOverused | onActionChanged => rfl

/-- What the proof of `subscriber_knows_mode` carries along. -/
structure Knows (cfg : StandbyConfig) (remote : Nat) (subscriber : Subscriber)
    (s : Service × Notifier) : Prop where
  reachable : Reachable (system cfg) s.1
  bus : ∃ b : Bus Subscriber.asObject, b.entries = s.2.subscriber.subscriberList
  listed : s.2.listed? remote = some subscriber

/-- A step brings the subscriber what it must know of the mode. -/
theorem knows_step (h : Knows cfg remote subscriber s) (hown : OwnStateReports a)
    (hstays : Stays remote s.2 a)
    (hstep : (observedService cfg deathRecipient createdAt).step s a = some t) :
    Knows cfg remote subscriber t ∧
      Follows (fun s => received Subscriber.asObject (some remote) s.2.callbacks)
        (fun s => s.1.curState.mode) SubscriberCallback.followMode s t := by
  obtain ⟨b, hb⟩ := h.bus
  cases a with
  | inl a =>
    obtain ⟨hservice, hnotifier⟩ := System.feed_step_inl.1 hstep
    have hhistory := Notifier.history_states s.2 (reportedStates s.1 a t.1)
    have hpublished : published (s.2.history
        ((reportedStates s.1 a t.1).map .reportStandbyState)) =
          (reportedStates s.1 a t.1).map fun state =>
            .onDeviceIdleMode state.mode.1 state.mode.2 := by
      rw [hhistory]
      unfold published
      rw [List.filterMap_map]
      exact List.filterMap_eq_map_iff_forall_eq_some.2 fun _ _ => rfl
    obtain ⟨hreceived, hlisted⟩ := Notifier.received_of_staying
      ((reportedStates s.1 a t.1).map .reportStandbyState) hb h.listed (by
        rw [hhistory]
        simp)
    have hrun : t.2 = s.2.run ((reportedStates s.1 a t.1).map .reportStandbyState) := hnotifier
    refine ⟨⟨h.reachable.step trivial hservice, ⟨_, hrun ▸ (Notifier.run_refines hb _).1⟩,
      hrun ▸ hlisted⟩, _, ?_, foldlM_followMode (reportedStates_follow h.reachable hservice)⟩
    dsimp only
    rw [hrun, hreceived, hpublished]
    congr 1
    exact List.filter_eq_self.2 fun callback hcallback => by
      obtain ⟨state, -, rfl⟩ := List.mem_map.1 hcallback
      rfl
  | inr action =>
    obtain rfl := System.feed_step_inr.1 hstep
    obtain ⟨hreceived, hlisted⟩ := Notifier.received_of_staying [action] hb h.listed
      (by
        rw [Notifier.history_singleton, Option.mem_toList]
        exact hstays)
    refine ⟨⟨h.reachable, ⟨_, (Notifier.run_refines hb [action]).1⟩, hlisted⟩,
      _, hreceived, foldlM_eq_self fun callback hcallback => ?_⟩
    exact followMode_of_other hown (List.mem_filter.1 hcallback).1 _

/-- `IsDeviceInStandby` answers what the subscribers are told of SLEEP. -/
theorem isDeviceInStandby_ok {s : Service} {caller : Caller} {inStandby : Bool}
    (h : isDeviceInStandby caller s = .ok inStandby) : inStandby = s.curState.mode.2 := by
  unfold isDeviceInStandby at h
  cases hpermission : caller.checkCallerPermission REASON_APP_API with
  | error error =>
    rw [hpermission] at h
    cases h
  | ok =>
    rw [hpermission] at h
    cases hready : s.isServiceReady with
    | false =>
      simp only [hready] at h
      cases h
    | true =>
      simp only [hready] at h
      cases h
      rfl

end

/-- A subscriber that knows the mode at some moment knows it at every later moment until it is
removed or dies: the last OnDeviceIdleMode callback that it has received since then, or the mode it
knew when there is none, tells whether the device naps and whether it sleeps, and agrees with what
`IsDeviceInStandby` answers. -/
theorem subscriber_knows_mode (cfg : StandbyConfig) (deathRecipient : Bool) (createdAt : Int)
    (remote : Nat) {subscriber : Subscriber} {s t : Service × Notifier}
    {as : List (Action ⊕ NotifierAction)}
    (hs : Reachable (observedService cfg deathRecipient createdAt) s)
    (hlisted : s.2.listed? remote = some subscriber)
    (hmeets : (observedService cfg deathRecipient createdAt).RunMeets
      (fun s a => OwnStateReports a ∧ Stays remote s.2 a) s as)
    (hrun : (observedService cfg deathRecipient createdAt).run s as = some t) :
    t.2.listed? remote = some subscriber ∧
      ∃ callbacks napped sleeping,
        received Subscriber.asObject (some remote) t.2.callbacks =
          received Subscriber.asObject (some remote) s.2.callbacks ++ callbacks ∧
        callbacks.foldlM SubscriberCallback.followMode s.1.curState.mode =
          some (napped, sleeping) ∧
        (napped = true ↔ t.1.curState = .nap) ∧ (sleeping = true ↔ t.1.curState = .sleep) ∧
        ∀ caller inStandby, isDeviceInStandby caller t.1 = .ok inStandby →
          inStandby = sleeping := by
  obtain ⟨hknows, callbacks, hreceived, hfollow⟩ := System.run_follows
    (I := Knows cfg remote subscriber) (fun h hok hstep => knows_step h hok.1 hok.2 hstep)
    ⟨hs.of_feed fun _ => trivial, exists_bus_feed hs, hlisted⟩ hmeets hrun
  refine ⟨hknows.listed, callbacks, _, _, hreceived, hfollow, decide_eq_true_iff,
    decide_eq_true_iff, fun caller inStandby hstandby => ?_⟩
  exact isDeviceInStandby_ok hstandby

/-- A subscriber that comes when the service is ready. -/
def sampleSubscribed : List (Action ⊕ NotifierAction) :=
  [.inl (.initReadyState samplePlatform),
    .inr (.subscribe true { pid := 1 } ["NETWORK"] 0 (some (some 1)) "NETWORK" "push")]

/-- The device is forced to sleep: the subscriber knows. -/
theorem subscriber_knows_mode_sample : ∃ s t : Service × Notifier,
    s.1.curState = .working ∧ t.1.curState = .sleep ∧ ∃ callbacks,
      received Subscriber.asObject (some 1) t.2.callbacks =
        received Subscriber.asObject (some 1) s.2.callbacks ++ callbacks ∧
      callbacks.foldlM SubscriberCallback.followMode (false, false) = some (false, true) := by
  let S := observedService sampleConfig true 0
  let after : List (Action ⊕ NotifierAction) := (handling .enterForceSleep samplePlatform).map .inl
  have hmeets : ∀ a ∈ after, ∀ s : Service × Notifier, OwnStateReports a ∧ Stays 1 s.2 a := by
    simp [after, handling, OwnStateReports, Stays]
  obtain ⟨s, hs, hlisted, hcur, hafter⟩ := S.exists_run sampleSubscribed
    (S.runMeets_of_forall (fun _ _ => True) fun _ _ _ => trivial)
    (fun s => (s.2.listed? 1).isSome ∧ s.1.curState = .working ∧
      (S.run s after).map (fun t => t.1.curState) = some .sleep) (by decide +kernel)
  obtain ⟨subscriber, hlisted⟩ := Option.isSome_iff_exists.1 hlisted
  obtain ⟨t, hrun, hsleep⟩ := Option.map_eq_some_iff.1 hafter
  obtain ⟨-, callbacks, napped, sleeping, hreceived, hfollow, hnap, hsleeping, -⟩ :=
    subscriber_knows_mode sampleConfig true 0 1 hs hlisted (S.runMeets_of_forall _ hmeets) hrun
  rw [hcur] at hfollow
  rw [hsleep] at hnap hsleeping
  obtain rfl : napped = false := Bool.eq_false_iff.2 fun h => by cases hnap.1 h
  obtain rfl : sleeping = true := hsleeping.2 rfl
  exact ⟨s, t, hcur, hsleep, callbacks, hreceived, hfollow⟩

end DeviceStandby
