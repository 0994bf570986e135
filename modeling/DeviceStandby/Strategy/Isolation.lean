import DeviceStandby.Allow.Isolation
import DeviceStandby.Lib.Paired
import DeviceStandby.Strategy.Beside

/-!
# One uid beside the allowances of another

Two runs of the allow list with both strategies differ only in what is applied and unapplied for
uids other than `u`. The records and the messages are keyed by uid and name, so the records of `u`
stay the same (`AllowService.AgreeFor`). The allow list that a strategy is handed has names only. So
the strategies decide alike for the apps of `u` as long as no name that they look up on behalf of
`u` is allowed in one of the runs alone, by a record of another uid (`ReadsAlike`).
-/

namespace DeviceStandby

open ExemptionTypeFlag AssocMap Lts

/-- The allow list, and the two strategies that ask it. -/
structure AllowedStrategies where
  allow : AllowService := {}
  lock : RunningLockStrategy := {}
  net : NetworkStrategy := {}

/-- What happens to them: an operation on the list, the release of a task, a message that both
strategies handle, and the life of the strategies. -/
inductive AllowedAction where
  | list (a : AllowAction)
  | release (task : ReleaseTask)
  | deliver (message : StandbyMessage) (platform : Queries) (condition : ConditionType)
  | create
  | destroy

/-- The process of the service has died. -/
def AllowAction.isRestart : AllowAction → Bool
  | .restart .. => true
  | _ => false

/-- The message tells of the allow list. -/
def StandbyMessage.isAllowListChanged : StandbyMessage → Bool
  | .allowListChanged .. => true
  | _ => false

namespace AllowedStrategies
variable (resourceConfig : ResourceConfigMap) (scfg : StrategyConfig)

/-- Both strategies handle a message, as `StrategyManager::HandleEvent` has them do. -/
def handleEvent (message : StandbyMessage) (platform : Queries) (condition : ConditionType)
    (s : AllowedStrategies) : AllowedStrategies :=
  let q := s.allow.answers resourceConfig condition platform
  { s with
    lock := s.lock.handleEvent scfg q message
    net := s.net.handleEvent scfg q message }

/-- One step. A release is told by its task, a change of the allow list has been dispatched before
it is delivered, and the strategies of a service that starts again are new. -/
def step (s : AllowedStrategies) : AllowedAction → Option AllowedStrategies
  | .list (.release _) => none
  | .list a => (s.allow.step resourceConfig a).map fun allow =>
    if a.isRestart then { allow } else { s with allow }
  | .release task =>
    (s.allow.step resourceConfig (.release (s.allow.tasks.idxOf task))).map fun allow =>
      { s with allow }
  | .deliver message platform condition =>
    if message.isAllowListChanged ∧ message ∉ s.allow.messages then none
    else some (s.handleEvent resourceConfig scfg message platform condition)
  | .create => some { s with lock := s.lock.onCreated, net := s.net.onCreated }
  | .destroy => some { s with lock := s.lock.onDestroy, net := s.net.onDestroy }

end AllowedStrategies

/-- The allow list and the strategies of a service that starts with no record file. -/
def allowedSystem (resourceConfig : ResourceConfigMap) (scfg : StrategyConfig) :
    System AllowedStrategies AllowedAction where
  init := {}
  step := AllowedStrategies.step resourceConfig scfg

/-- A request for another uid, its release, and the messages that tell of it. -/
def AllowedAction.isForOther (u : Int) : AllowedAction → Bool
  | .list (.apply request _ _) => request.uid ≠ u
  | .list (.unapply uid _ _ _) => uid ≠ u
  | .release task => task.uid ≠ u
  | .deliver (.allowListChanged uid _ _ _) _ _ => uid ≠ u
  | _ => false

/-! ## What the allow list says of a name -/

namespace AllowService
variable (resourceConfig : ResourceConfigMap) (u : Int) (s : AllowService)
  (condition : ConditionType) (t : AllowType) (name : String)

/-- A name is allowed by a record of a uid, or by the configuration. -/
def AllowedBySelf : Prop :=
  (∃ n record, s.allowInfoMap.lookup (mapKey u n) = some record ∧ record.name = name ∧
    record.Allows s.bootTime t) ∨ resourceConfig.Lists condition true t name

/-- A name is allowed by a record of another uid. -/
def AllowedByOther : Prop :=
  ∃ key record, (∀ n, key ≠ mapKey u n) ∧ s.allowInfoMap.lookup key = some record ∧
    record.name = name ∧ record.Allows s.bootTime t

end AllowService

/-- A name is allowed anyway, or by the records of other uids in both runs or in none. -/
def AllowedAlike (resourceConfig : ResourceConfigMap) (u : Int) (s s' : AllowService)
    (condition : ConditionType) (t : AllowType) (name : String) : Prop :=
  s.AllowedBySelf resourceConfig u condition t name ∨
    (s.AllowedByOther u t name ↔ s'.AllowedByOther u t name)

section
variable {resourceConfig : ResourceConfigMap} {u : Int} {s s' : AllowService}
  {condition : ConditionType} {t : AllowType} {name : String}

/-- A name is allowed by the records of a uid, by the configuration, or by records of others. -/
theorem AllowService.isAllowed_iff_self_or_other :
    s.IsAllowed resourceConfig condition t name ↔
      s.AllowedBySelf resourceConfig u condition t name ∨ s.AllowedByOther u t name := by
  unfold IsAllowed AllowedBySelf AllowedByOther
  constructor
  · rintro (⟨key, record, hrecord, hallows⟩ | hlists)
    · by_cases hkey : ∃ n, key = mapKey u n
      · obtain ⟨n, rfl⟩ := hkey
        exact .inl (.inl ⟨n, record, hrecord, hallows⟩)
      · exact .inr ⟨key, record, fun n hn => hkey ⟨n, hn⟩, hrecord, hallows⟩
    · exact .inl (.inr hlists)
  · rintro ((⟨n, record, hrecord, hallows⟩ | hlists) | ⟨key, record, -, hrecord, hallows⟩)
    · exact .inl ⟨mapKey u n, record, hrecord, hallows⟩
    · exact .inr hlists
    · exact .inl ⟨key, record, hrecord, hallows⟩

/-- Lists that agree on the records of a uid allow it the same names. -/
theorem AllowService.AgreeFor.allowedBySelf_iff (h : AgreeFor u s s') :
    s.AllowedBySelf resourceConfig u condition t name ↔
      s'.AllowedBySelf resourceConfig u condition t name := by
  unfold AllowedBySelf
  simp only [h.list, h.bootTime]

/-- The strategies of both runs are answered alike. -/
theorem AllowService.AgreeFor.listsAlike (h : AgreeFor u s s')
    (halike : AllowedAlike resourceConfig u s s' condition t name) (platform : Queries) :
    (s.answers resourceConfig condition platform).ListsAlike
      (s'.answers resourceConfig condition platform) t name := by
  have hallowed : s.IsAllowed resourceConfig condition t name ↔
      s'.IsAllowed resourceConfig condition t name := by
    rw [isAllowed_iff_self_or_other (u := u), isAllowed_iff_self_or_other (u := u),
      ← h.allowedBySelf_iff]
    obtain hself | hother := halike
    · exact iff_of_true (.inl hself) (.inl hself)
    · rw [hother]
  exact ⟨mem_allowNameList.trans (hallowed.trans mem_allowNameList.symm),
    mem_getEligiableRestrictSet.trans ((and_congr_right fun _ => not_congr hallowed).trans
      mem_getEligiableRestrictSet.symm)⟩

end

/-! ## Two runs -/

/-- The decisions for the apps of a uid are the same. -/
structure SameDecisions (u : Int) (s t : AllowedStrategies) : Prop where
  isProxied : s.lock.isProxied = t.lock.isProxied
  lock : ∀ name, (s.lock.record.proxiedAppInfo.lookup (mapKey u name)).map
      (fun app => isExempted app.appExemptionFlag) =
    (t.lock.record.proxiedAppInfo.lookup (mapKey u name)).map
      (fun app => isExempted app.appExemptionFlag)
  isFirewallEnabled : s.net.isFirewallEnabled = t.net.isFirewallEnabled
  net : ∀ condition, (s.net.netLimitedAppInfo.lookup u).map
      (fun app => isFlagExempted condition app.appExemptionFlag) =
    (t.net.netLimitedAppInfo.lookup u).map
      (fun app => isFlagExempted condition app.appExemptionFlag)

/-- What a step of two runs must avoid: a name that a strategy looks up on behalf of the uid is not
allowed by the records of other uids in one of the runs alone, and a restart that cannot read the
process table finds no record of the uid. -/
def ReadsAlike (resourceConfig : ResourceConfigMap) (u : Int)
    (s : AllowedStrategies × AllowedStrategies) : PairAction AllowedAction → Prop
  | .both (.deliver message platform condition) =>
    let q := s.1.allow.answers resourceConfig condition platform
    ∀ type name, s.1.lock.Reads q u message type name ∨ s.1.net.Reads q u message type name →
      AllowedAlike resourceConfig u s.1.allow s.2.allow condition type name
  | .both (.list a) => s.1.allow.KeepsRecords u a
  | _ => True

namespace AllowedStrategies

/-- Two states that are alike for a uid. -/
structure AlikeFor (u : Int) (s t : AllowedStrategies) : Prop where
  allow : AllowService.AgreeFor u s.allow t.allow
  lock : RunningLockStrategy.AlikeFor u s.lock t.lock
  net : NetworkStrategy.AlikeFor u s.net t.net

section
variable {resourceConfig : ResourceConfigMap} {scfg : StrategyConfig} {s s' : AllowedStrategies}

/-- A step of the allow list is a step of the allow list alone; a restart starts the strategies
anew. -/
theorem step_list {a : AllowAction} (h : s.step resourceConfig scfg (.list a) = some s') :
    (∀ i, a ≠ .release i) ∧ ∃ allow, s.allow.step resourceConfig a = some allow ∧
      s' = if a.isRestart then { allow } else { s with allow } := by
  have hrelease : ∀ i, a ≠ .release i := by
    rintro i rfl
    cases h
  have hstep : s.step resourceConfig scfg (.list a) =
      (s.allow.step resourceConfig a).map fun allow =>
        if a.isRestart then { allow } else { s with allow } := by
    cases a with
    | release i => exact absurd rfl (hrelease i)
    | advance | apply | unapply | removeApp | reload | restart => rfl
  rw [hstep] at h
  obtain ⟨allow, hallow, heq⟩ := Option.map_eq_some_iff.1 h
  exact ⟨hrelease, allow, hallow, heq.symm⟩

/-- A release is one of the pending releases of the allow list. -/
theorem step_release {task : ReleaseTask}
    (h : s.step resourceConfig scfg (.release task) = some s') :
    ∃ i allow, s.allow.tasks[i]? = some task ∧
      s.allow.step resourceConfig (.release i) = some allow ∧ s' = { s with allow } := by
  obtain ⟨allow, hallow, heq⟩ := Option.map_eq_some_iff.1 h
  obtain ⟨found, hfound, -⟩ := AllowService.step_release hallow
  obtain ⟨hlt, -⟩ := List.getElem?_eq_some_iff.1 hfound
  refine ⟨_, allow, ?_, hallow, heq.symm⟩
  rw [List.getElem?_eq_getElem hlt, List.getElem_idxOf]

end

namespace AlikeFor
variable {resourceConfig : ResourceConfigMap} {scfg : StrategyConfig} {u : Int}
  {s s' t t' : AllowedStrategies} {a : AllowedAction}

/-- Two strategies that have just been made are alike. -/
theorem init : AlikeFor u {} {} where
  allow := ⟨rfl, rfl, rfl, fun _ => rfl, ⟨∅, rfl, fun _ => rfl⟩, ⟨∅, rfl, fun _ => rfl⟩⟩
  lock := .init
  net := .init

/-- Strategies are alike in both orders. -/
theorem symm (h : AlikeFor u s t) : AlikeFor u t s :=
  ⟨h.allow.symm, h.lock.symm, h.net.symm⟩

/-- Strategies that are alike decide alike. -/
theorem sameDecisions (h : AlikeFor u s t) : SameDecisions u s t where
  isProxied := h.lock.isProxied
  lock name := by
    obtain ⟨hnone, hnone'⟩ | ⟨app, app', happ, happ', halike⟩ := h.lock.record.cases (mapKey u name)
    · rw [hnone, hnone']
    · rw [happ, happ', Option.map_some, Option.map_some, halike.own name rfl]
  isFirewallEnabled := h.net.isFirewallEnabled
  net condition := by rw [h.net.app]

/-- A step for another uid that one run takes. -/
theorem other (h : AlikeFor u s t) (ha : a.isForOther u = true)
    (hs : s.step resourceConfig scfg a = some s') : AlikeFor u s' t := by
  cases a with
  | list a =>
    cases a with
    | apply request pid condition =>
      cases hs
      exact ⟨h.allow.apply_left (of_decide_eq_true ha), h.lock, h.net⟩
    | unapply uid name allowType removeAll =>
      cases hs
      exact ⟨h.allow.unapply_left (of_decide_eq_true ha), h.lock, h.net⟩
    | advance | release | removeApp | reload | restart => cases ha
  | release task =>
    obtain ⟨i, allow, htask, hallow, rfl⟩ := step_release hs
    exact ⟨h.allow.release_left (of_decide_eq_true ha) htask hallow, h.lock, h.net⟩
  | deliver message platform condition =>
    cases message with
    | allowListChanged uid name allowType added =>
      obtain ⟨-, hs⟩ := Option.ite_none_left_eq_some.1 hs
      cases hs
      have hu : uid ≠ u := of_decide_eq_true ha
      exact ⟨h.allow, h.lock.updateExemptionList_left hu name allowType added,
        h.net.updateExemptionList_left hu name allowType added⟩
    | commonEvent | stateTransit | phaseTransit | resCtrlConditionChanged | screenOffHalfHour
    | bgTaskStatusChange | sysAbilityStatusChanged | processStateChanged
    | deviceNetIdlePolicyTransit | other => cases ha
  | create | destroy => cases ha

/-- A step that both runs take. -/
theorem both (h : AlikeFor u s t) (hok : ReadsAlike resourceConfig u (s, t) (.both a))
    (hs : s.step resourceConfig scfg a = some s') (ht : t.step resourceConfig scfg a = some t') :
    AlikeFor u s' t' := by
  cases a with
  | list a =>
    obtain ⟨hrelease, allow, hallow, rfl⟩ := step_list hs
    obtain ⟨-, allow', hallow', rfl⟩ := step_list ht
    have hagree := h.allow.step hrelease hok hallow hallow'
    split_ifs
    · exact ⟨hagree, .init, .init⟩
    · exact ⟨hagree, h.lock, h.net⟩
  | release task =>
    obtain ⟨i, allow, htask, hallow, rfl⟩ := step_release hs
    obtain ⟨i', allow', htask', hallow', rfl⟩ := step_release ht
    exact ⟨h.allow.release htask htask' hallow hallow', h.lock, h.net⟩
  | deliver message platform condition =>
    obtain ⟨-, hs⟩ := Option.ite_none_left_eq_some.1 hs
    obtain ⟨-, ht⟩ := Option.ite_none_left_eq_some.1 ht
    cases hs
    cases ht
    have hbeside : (s.allow.answers resourceConfig condition platform).Beside
        (t.allow.answers resourceConfig condition platform) := rfl
    exact ⟨h.allow,
      h.lock.handleEvent hbeside fun type name hreads =>
        h.allow.listsAlike (hok type name (.inl hreads)) platform,
      h.net.handleEvent hbeside fun type name hreads =>
        h.allow.listsAlike (hok type name (.inr hreads)) platform⟩
  | create =>
    cases hs
    cases ht
    exact ⟨h.allow, h.lock.onCreated, h.net.resetFirewallAllowList⟩
  | destroy =>
    cases hs
    cases ht
    exact ⟨h.allow, h.lock.onDestroy, h.net.resetFirewallAllowList⟩

end AlikeFor

end AllowedStrategies

/-- Two runs that differ in what is applied and unapplied for other uids decide alike for the apps
of a uid in every state they reach, as long as no step reads a name that the records of other uids
allow in one of them alone. The runs side by side are all pairs of runs that otherwise take the same
actions. -/
theorem sameDecisions_of_readsAlike (resourceConfig : ResourceConfigMap) (scfg : StrategyConfig)
    (u : Int) :
    (∀ s, ReachableUnder
        ((allowedSystem resourceConfig scfg).paired (AllowedAction.isForOther u ·))
        (ReadsAlike resourceConfig u) s → SameDecisions u s.1 s.2) ∧
    ∀ (as bs : List AllowedAction) (s t : AllowedStrategies),
      as.filter (¬ AllowedAction.isForOther u ·) = bs.filter (¬ AllowedAction.isForOther u ·) →
      (allowedSystem resourceConfig scfg).run {} as = some s →
      (allowedSystem resourceConfig scfg).run {} bs = some t →
      ∃ cs, ((allowedSystem resourceConfig scfg).paired (AllowedAction.isForOther u ·)).run
        ({}, {}) cs = some (s, t) := by
  refine ⟨fun s hs => ?_, fun as bs s t h hs ht => System.exists_paired_run h hs ht⟩
  have halike : AllowedStrategies.AlikeFor u s.1 s.2 :=
    hs.paired .init (fun h => h.symm) (fun hok hst hst' h => h.both hok hst hst')
      fun ha hst h => h.other ha hst
  exact halike.sameDecisions

/-- A configuration in which an app may ask for the network and for running locks, for a minute. -/
def lendingConfig : ResourceConfigMap := fun paramName =>
  if paramName = "NETWORK" ∨ paramName = "RUNNING_LOCK" then
    some [{ conditions := [1], timeLtdApps := [{ name := "app", maxDurationLim := 60 }] }]
  else none

/-- The app of the user 7 asks for both. -/
def lendingRequest : ResourceRequest where
  allowType := AllowType.network.mask ||| AllowType.runningLock.mask
  uid := 7
  name := "app"
  duration := 60
  reasonCode := REASON_APP_API

/-- The app runs for two users. -/
def sharedPlatform : Queries :=
  { platformWith "app" with
    applicationInfos := some [⟨"app", 7, false⟩, ⟨"app", 8, false⟩]
    runningProcesses := some [⟨"app", 7, 1⟩, ⟨"app", 8, 2⟩] }

/-- The message that starts the restrictions. -/
def deepSleep : AllowedAction :=
  .deliver (.phaseTransit .sleep SleepStatePhase.SYS_RES_DEEP SleepStatePhase.APP_RES_DEEP)
    sharedPlatform .dayStandby

/-- The request of the user 7, and the message that tells of it. -/
def lending : List AllowedAction :=
  [.list (.apply lendingRequest 1 1),
    .deliver (.allowListChanged 7 "app" lendingRequest.allowType true) sharedPlatform .dayStandby]

/-- The decisions of both strategies for the app of a user. -/
def decisions (u : Int) (s : AllowedStrategies) : Option Bool × Option Bool :=
  ((s.lock.record.proxiedAppInfo.lookup (mapKey u "app")).map
      fun app => isExempted app.appExemptionFlag,
    (s.net.netLimitedAppInfo.lookup u).map
      fun app => isFlagExempted .dayStandby app.appExemptionFlag)

/-- An allowance that one run gives the user 7 after the restrictions have started does not exempt
the app of the user 8. -/
theorem sameDecisions_of_readsAlike_lending : ∃ s : AllowedStrategies × AllowedStrategies,
    decisions 7 s.1 = (some true, some true) ∧ decisions 7 s.2 = (some false, some false) ∧
      decisions 8 s.1 = (some false, some false) ∧ SameDecisions 8 s.1 s.2 := by
  have hnone : ∀ type name, ¬ AllowService.AllowedByOther 8 {} type name := by
    rintro type name ⟨key, record, -, hrecord, -⟩
    cases hrecord
  have hok : System.RunMeets
      ((allowedSystem lendingConfig sampleStrategies).paired (AllowedAction.isForOther 8 ·))
      (ReadsAlike lendingConfig 8) ({}, {}) (.both deepSleep :: lending.map .left) :=
    ⟨fun type name _ => .inr (iff_of_false (hnone type name) (hnone type name)),
      fun _ _ => ⟨trivial, fun _ _ => ⟨trivial, fun _ _ => trivial⟩⟩⟩
  obtain ⟨s, hs, hleft, hright, hother⟩ := System.exists_run _ _ hok
    (fun s => decisions 7 s.1 = (some true, some true) ∧
      decisions 7 s.2 = (some false, some false) ∧ decisions 8 s.1 = (some false, some false))
    (by decide +kernel)
  exact ⟨s, hleft, hright, hother,
    (sameDecisions_of_readsAlike lendingConfig sampleStrategies 8).1 s hs⟩

/-- An allowance that one run gives the user 7 before the restrictions start exempts the app of the
user 8 too. -/
theorem allowance_lent_to_other_user :
    ¬ ∀ (resourceConfig : ResourceConfigMap) (scfg : StrategyConfig) (u : Int)
      (as bs : List AllowedAction) (s t : AllowedStrategies),
      as.filter (¬ AllowedAction.isForOther u ·) = bs.filter (¬ AllowedAction.isForOther u ·) →
      (allowedSystem resourceConfig scfg).run {} as = some s →
      (allowedSystem resourceConfig scfg).run {} bs = some t → SameDecisions u s t := by
  intro h
  obtain ⟨s, hs, hlent⟩ := Option.map_eq_some_iff.1
    (show ((allowedSystem lendingConfig sampleStrategies).run {} (lending ++ [deepSleep])).map
      (decisions 8) = some (some true, some true) by decide +kernel)
  obtain ⟨t, ht, halone⟩ := Option.map_eq_some_iff.1
    (show ((allowedSystem lendingConfig sampleStrategies).run {} [deepSleep]).map
      (decisions 8) = some (some false, some false) by decide +kernel)
  have hdecisions := h lendingConfig sampleStrategies 8 (lending ++ [deepSleep]) [deepSleep] s t rfl
    hs ht
  have hsame : (decisions 8 s).1 = (decisions 8 t).1 := hdecisions.lock "app"
  rw [hlent, halone] at hsame
  cases hsame

end DeviceStandby
