import DeviceStandby.Allow.Changes
import DeviceStandby.Service.Notification

/-!
# What a subscriber knows of the allow list

The service reports every change of the allow list to its subscribers, in the order of the changes.
`observedAllow` is the allow list and its subscribers together, with subscriptions, removals and
deaths between any two steps of the list. A subscriber that knew the types of an app at some moment
and stays on the list knows them ever after, without asking again (`subscriber_mirrors`).
-/

open BitMask

namespace DeviceStandby

open Registry Lts

/-- The reports of some changes. `ReportAllowListChanged` is called right before each
`NotifyAllowListChanged`, with the same arguments. -/
def reportsOf (messages : List StandbyMessage) : List NotifierAction :=
  messages.filterMap fun
    | .allowListChanged uid name allowType added =>
      some (.reportAllowListChanged uid name allowType added)
    | _ => none

/-- The allow list and its subscribers. -/
def observedAllow (resourceConfig : ResourceConfigMap) (deathRecipient : Bool) (createdAt : Int) :
    System (AllowService × Notifier) (AllowAction ⊕ NotifierAction) :=
  (allowSystem resourceConfig).feed (fun s _ t => reportsOf (t.messages.drop s.messages.length))
    (.create deathRecipient createdAt) Notifier.handle

/-- What a subscriber that knows the types of an app makes of a callback. It gives up at a change
that sets a type which is set, or clears one which is clear. -/
def SubscriberCallback.followTypes (uid : Int) (name : String) (known : BitVec 32) :
    SubscriberCallback → Option (BitVec 32)
  | .onAllowListChanged uid' name' allowType added =>
    if uid' = uid ∧ name' = name then (Change.mk allowType added).follow known else some known
  | .onDeviceIdleMode .. | .onPowerOverused .. | .onActionChanged .. => some known

/-- Only the allow list reports its changes, and it is not reloaded from disk, which it does not
report. -/
def OwnReports : AllowAction ⊕ NotifierAction → Prop
  | .inl a => a.isReload = false
  | .inr (.reportAllowListChanged ..) => False
  | .inr _ => True

section
variable {resourceConfig : ResourceConfigMap} {deathRecipient : Bool} {createdAt : Int}
  {s t : AllowService × Notifier} {a : AllowAction ⊕ NotifierAction} {n : Notifier}
  {uid uid' : Int} {name name' : String} {remote : Nat} {log : List (Change 32)}
  {b : Bus Subscriber.asObject}

theorem reportsOf_announcements : reportsOf (announcements uid name log) =
    log.map fun change => .reportAllowListChanged uid name change.bits change.added := by
  unfold reportsOf announcements
  rw [List.filterMap_map]
  exact List.filterMap_eq_map_iff_forall_eq_some.2 fun _ _ => rfl

/-- To the registry the reports of a log are its changes, published in their order. -/
theorem Notifier.history_reports :
    n.history (log.map fun change => .reportAllowListChanged uid name change.bits change.added) =
      log.map fun change =>
        .publish (.onAllowListChanged uid name change.bits change.added) := by
  induction log generalizing n with
  | nil => rfl
  | cons change log ih =>
    rw [List.map_cons, history, ih]
    rfl

/-- Who knows the types of an app follows the callbacks about it as one follows its log. -/
theorem foldlM_followTypes (known : BitVec 32) :
    (log.map fun change => SubscriberCallback.onAllowListChanged uid name change.bits
      change.added).foldlM (SubscriberCallback.followTypes uid name) known = follow known log := by
  induction log generalizing known with
  | nil => rfl
  | cons change log ih =>
    rw [List.map_cons, List.foldlM_cons, SubscriberCallback.followTypes, if_pos ⟨rfl, rfl⟩, follow]
    cases change.follow known with
    | none => rfl
    | some known => exact ih known

/-- The callbacks about another app tell nothing. -/
theorem foldlM_followTypes_of_ne (h : ¬ (uid' = uid ∧ name' = name)) (known : BitVec 32) :
    (log.map fun change => SubscriberCallback.onAllowListChanged uid' name' change.bits
      change.added).foldlM (SubscriberCallback.followTypes uid name) known = some known := by
  refine foldlM_eq_self fun callback hcallback => ?_
  obtain ⟨change, -, rfl⟩ := List.mem_map.1 hcallback
  exact if_neg h

/-- What others do to the subscribers tells nothing of the allow list. -/
theorem followTypes_of_other {action : NotifierAction} (hown : OwnReports (.inr action))
    {callback : SubscriberCallback} (h : callback ∈ published (n.history [action]))
    (known : BitVec 32) : callback.followTypes uid name known = some known := by
  have hevent := mem_published_singleton.1 h
  obtain ⟨curState, -, rfl⟩ | ⟨_, _, _, _, rfl, -⟩ | ⟨kind, _, _, _, -, rfl⟩ :=
    NotifierAction.publish_inv hevent
  · rfl
  · exact hown.elim
  · cases kind <;> rfl

/-- What the proof of `subscriber_mirrors` carries along: the records are well formed, the list of
subscribers is a registry, and the subscriber is on it. -/
structure Mirrors (remote : Nat) (subscriber : Subscriber) (s : AllowService × Notifier) :
    Prop where
  wellKept : s.1.allowInfoMap.WellKept
  bus : ∃ b : Bus Subscriber.asObject, b.entries = s.2.subscriber.subscriberList
  listed : s.2.listed? remote = some subscriber

/-- A step brings the subscriber what it must know of an app. -/
theorem mirrors_step {subscriber : Subscriber} (h : Mirrors remote subscriber s)
    (hown : OwnReports a) (hstays : Stays remote s.2 a)
    (hstep : (observedAllow resourceConfig deathRecipient createdAt).step s a = some t)
    (uid : Int) (name : String) :
    Mirrors remote subscriber t ∧
      Follows (fun s => received Subscriber.asObject (some remote) s.2.callbacks)
        (fun s => s.1.allowTypeOf uid name) (SubscriberCallback.followTypes uid name) s t := by
  obtain ⟨b, hb⟩ := h.bus
  cases a with
  | inl a =>
    obtain ⟨hallow, hnotifier⟩ := System.feed_step_inl.1 hstep
    obtain ⟨hkept, uid', name', hedit, -⟩ := edit_step h.wellKept hallow hown
    obtain ⟨log, hmessages, hfollow⟩ := hedit.announced
    rw [hmessages, List.drop_left, reportsOf_announcements] at hnotifier
    have hpublished : published (s.2.history (log.map fun change =>
        .reportAllowListChanged uid' name' change.bits change.added)) =
          log.map fun change => .onAllowListChanged uid' name' change.bits change.added := by
      rw [Notifier.history_reports]
      unfold published
      rw [List.filterMap_map]
      exact List.filterMap_eq_map_iff_forall_eq_some.2 fun _ _ => rfl
    obtain ⟨hreceived, hlisted⟩ := Notifier.received_of_staying (log.map fun change =>
      .reportAllowListChanged uid' name' change.bits change.added) hb h.listed (by
        rw [Notifier.history_reports]
        simp)
    have hrun : t.2 = s.2.run (log.map fun change =>
      .reportAllowListChanged uid' name' change.bits change.added) := hnotifier
    refine ⟨⟨hkept, ⟨_, hrun ▸ (Notifier.run_refines hb _).1⟩, hrun ▸ hlisted⟩,
      log.map fun change => .onAllowListChanged uid' name' change.bits change.added, ?_, ?_⟩
    · dsimp only
      rw [hrun, hreceived, hpublished]
      congr 1
      exact List.filter_eq_self.2 fun callback hcallback => by
        obtain ⟨change, -, rfl⟩ := List.mem_map.1 hcallback
        rfl
    · by_cases happ : uid' = uid ∧ name' = name
      · obtain ⟨rfl, rfl⟩ := happ
        rw [foldlM_followTypes]
        exact hfollow
      · rw [foldlM_followTypes_of_ne happ]
        -- the record of the app is another one, which the step leaves alone
        have hkey : mapKey uid name ≠ mapKey uid' name' := fun heq =>
          happ ((mapKey_inj heq).imp Eq.symm Eq.symm)
        dsimp only
        rw [AllowService.allowTypeOf, AllowService.allowTypeOf, hedit.others _ hkey]
  | inr action =>
    obtain rfl := System.feed_step_inr.1 hstep
    obtain ⟨hreceived, hlisted⟩ := Notifier.received_of_staying [action] hb h.listed
      (by
        rw [Notifier.history_singleton, Option.mem_toList]
        exact hstays)
    refine ⟨⟨h.wellKept, ⟨_, (Notifier.run_refines hb [action]).1⟩, hlisted⟩,
      _, hreceived, foldlM_eq_self fun callback hcallback => ?_⟩
    exact followTypes_of_other hown (List.mem_filter.1 hcallback).1 _

/-- The records are well formed, and the list of subscribers is a registry, as long as the allow
list is not reloaded. -/
theorem wellKept_observedAllow (h : ReachableUnder (observedAllow resourceConfig deathRecipient
    createdAt) (fun _ a => OwnReports a) s) :
    s.1.allowInfoMap.WellKept ∧
      ∃ b : Bus Subscriber.asObject, b.entries = s.2.subscriber.subscriberList := by
  exact ⟨(wellKept_run (h.of_feed fun hown => hown)).1, exists_bus_feed h⟩

end

/-- A subscriber that knows the types of an app at some moment knows them at every later moment
until it is removed or dies: the callbacks that it has received since then never set a set type nor
clear a clear one, and lead to the types that the app has now. -/
theorem subscriber_mirrors (resourceConfig : ResourceConfigMap) (deathRecipient : Bool)
    (createdAt : Int) (remote : Nat) {subscriber : Subscriber} {s t : AllowService × Notifier}
    {as : List (AllowAction ⊕ NotifierAction)}
    (hs : ReachableUnder (observedAllow resourceConfig deathRecipient createdAt)
      (fun _ a => OwnReports a) s)
    (hlisted : s.2.listed? remote = some subscriber)
    (hmeets : (observedAllow resourceConfig deathRecipient createdAt).RunMeets
      (fun s a => OwnReports a ∧ Stays remote s.2 a) s as)
    (hrun : (observedAllow resourceConfig deathRecipient createdAt).run s as = some t) :
    t.2.listed? remote = some subscriber ∧
      ∀ uid name, ∃ callbacks,
        received Subscriber.asObject (some remote) t.2.callbacks =
          received Subscriber.asObject (some remote) s.2.callbacks ++ callbacks ∧
        callbacks.foldlM (SubscriberCallback.followTypes uid name) (s.1.allowTypeOf uid name) =
          some (t.1.allowTypeOf uid name) := by
  obtain ⟨hkept, hbus⟩ := wellKept_observedAllow hs
  have hfollows := fun uid name => System.run_follows (I := Mirrors remote subscriber)
    (fun h hok hstep => mirrors_step h hok.1 hok.2 hstep uid name) ⟨hkept, hbus, hlisted⟩ hmeets
    hrun
  exact ⟨(hfollows 0 "").1.listed, fun uid name => (hfollows uid name).2⟩

/-- A subscriber that comes while no app has a type. -/
def sampleSubscription : AllowAction ⊕ NotifierAction :=
  .inr (.subscribe true { pid := 1 } ["NETWORK"] 0 (some (some 1)) "NETWORK" "push")

/-- A process is given a timer and a work scheduler, and loses the timer: the subscriber knows. -/
theorem subscriber_mirrors_sample : ∃ s t : AllowService × Notifier,
    s.1.allowTypeOf 7 "proc" = 0 ∧ t.1.allowTypeOf 7 "proc" = AllowType.workScheduler.mask ∧
      ∃ callbacks,
        received Subscriber.asObject (some 1) t.2.callbacks =
          received Subscriber.asObject (some 1) s.2.callbacks ++ callbacks ∧
        callbacks.foldlM (SubscriberCallback.followTypes 7 "proc") (s.1.allowTypeOf 7 "proc") =
          some (t.1.allowTypeOf 7 "proc") := by
  let S := observedAllow sampleResourceConfig true 0
  let after : List (AllowAction ⊕ NotifierAction) :=
    [.inl (.apply sampleRequest 100 1), .inl (.advance 60000 60000), .inl (.release 0)]
  have hmeets : ∀ a ∈ after, ∀ s : AllowService × Notifier, OwnReports a ∧ Stays 1 s.2 a := by
    simp [after, OwnReports, Stays, AllowAction.isReload]
  obtain ⟨s, hs, hlisted, hempty, hafter⟩ := S.exists_run [sampleSubscription]
    (S.runMeets_of_forall (fun _ a => OwnReports a) (by simp [sampleSubscription, OwnReports]))
    (fun s => (s.2.listed? 1).isSome ∧ s.1.allowTypeOf 7 "proc" = 0 ∧
      (S.run s after).map (fun t => t.1.allowTypeOf 7 "proc") = some AllowType.workScheduler.mask)
    (by decide +kernel)
  obtain ⟨subscriber, hlisted⟩ := Option.isSome_iff_exists.1 hlisted
  obtain ⟨t, hrun, htypes⟩ := Option.map_eq_some_iff.1 hafter
  exact ⟨s, t, hempty, htypes, (subscriber_mirrors sampleResourceConfig true 0 1 hs hlisted
    (S.runMeets_of_forall _ hmeets) hrun).2 7 "proc"⟩

end DeviceStandby
