import DeviceStandby.Lib.Transition
import DeviceStandby.Strategy.Adapter
import DeviceStandby.Strategy.Rebuild

/-!
# The trust list is what the record exempts

`NetworkStrategy` keeps a trust list at the net policy service in step with its record of apps: in
bulk when the firewall is switched, and app by app while it is enabled. Here the strategy runs alone
on any sequence of messages, creations and destructions, with a day or night that changes only
together with the message of the change (`firewallSystem`). In every run that avoids what
`KeepsTrustlist` names, the firewall is enabled exactly while the policy is on, and the trust list
is then the uids that the record exempts.
-/

namespace DeviceStandby

open ExemptionTypeFlag AssocMap

/-! ## Flags -/

/-- The flags that messages set and take. -/
inductive IsGrant : ExemptionFlag → Prop where
  | continuousTask : IsGrant CONTINUOUS_TASK
  | transientTask : IsGrant TRANSIENT_TASK
  | workScheduler : IsGrant WORK_SCHEDULER
  | exemption : IsGrant EXEMPTION

section
variable {flag grant : ExemptionFlag} {condition : ConditionType} {type : String}

/-- The flags of background tasks are set and taken by messages. -/
theorem isGrant_of_bgtask (h : bgtaskExemptionFlagMap type = some flag) : IsGrant flag := by
  unfold bgtaskExemptionFlagMap at h
  split_ifs at h <;> cases h <;> constructor

/-- The flags that count by day, and by night. -/
def countedFlag (condition : ConditionType) (flag : ExemptionFlag) : ExemptionFlag :=
  if condition = .nightStandby then flag &&& ~~~UNRESTRICTED else flag

/-- Who is exempted by the flags that count is exempted by all of them. -/
theorem isExempted_of_counted (h : isExempted (countedFlag condition flag) = true) :
    isExempted flag = true := by
  unfold countedFlag at h
  split_ifs at h
  · exact isExempted_of_remove rfl h
  · exact h

/-- An app is exempted when the flags that count exempt it. -/
theorem isFlagExempted_eq :
    isFlagExempted condition flag = isExempted (countedFlag condition flag) := by
  unfold isFlagExempted
  cases hcounted : isExempted (countedFlag condition flag) with
  | true =>
    have hex := isExempted_of_counted hcounted
    unfold countedFlag at hcounted
    split_ifs at hcounted with hnight
    · simp [hex, hcounted]
    · simp [hex, hnight]
  | false =>
    unfold countedFlag at hcounted
    split_ifs at hcounted with hnight
    · simp [hnight, hcounted]
    · simp [hcounted]

/-- The change that a message makes takes a call when the app was not exempted and now is, by all
its flags. -/
theorem getExemptedFlag_eq (no yes : ExemptionFlag) :
    getExemptedFlag condition no yes =
      (!isFlagExempted condition no && isExempted yes) := by
  unfold getExemptedFlag
  rw [isFlagExempted_eq, countedFlag]
  by_cases hnight : condition = .nightStandby
  · have hmono : isExempted (no &&& ~~~UNRESTRICTED) = true → isExempted no = true :=
      isExempted_of_remove rfl
    rw [if_pos hnight]
    cases isExempted yes <;> cases hno : isExempted no <;>
      cases hcounted : isExempted (no &&& ~~~UNRESTRICTED) <;> simp_all
  · rw [if_neg hnight]
    cases isExempted yes <;> cases isExempted no <;> simp [hnight]

/-- The flags of an app after a message set one of them. An app of the conditional list loses its
restriction. -/
def grantedFlag (conditional : Prop) [Decidable conditional] (grant flag : ExemptionFlag) :
    ExemptionFlag :=
  if conditional then (flag ||| grant) &&& ~~~RESTRICTED else flag ||| grant

/-- The flags of an app after a message took one of them. An app of the conditional list is
restricted again when it has no other. -/
def revokedFlag (conditional : Prop) [Decidable conditional] (grant flag : ExemptionFlag) :
    ExemptionFlag :=
  if conditional ∧ flag &&& ~~~grant &&& ~~~UNRESTRICTED = 0 then flag &&& ~~~grant ||| RESTRICTED
  else flag &&& ~~~grant

/-- What a flag that is set does to an exemption, by all flags and by those that count at night. -/
theorem isExempted_granted (hgrant : IsGrant grant) :
    ∀ flag : ExemptionFlag,
      isExempted ((flag ||| grant) &&& ~~~RESTRICTED) = true ∧
      isExempted ((flag ||| grant) &&& ~~~RESTRICTED &&& ~~~UNRESTRICTED) = true ∧
      (isExempted flag = true → isExempted (flag ||| grant) = true) ∧
      (isExempted (flag ||| grant) = true →
        isExempted ((flag ||| grant) &&& ~~~UNRESTRICTED) = true) := by
  cases hgrant <;> decide

/-- What a flag that is taken does to an exemption, by all flags and by those that count at night.
-/
theorem isExempted_revoked (hgrant : IsGrant grant) :
    ∀ flag : ExemptionFlag,
      (isExempted (flag &&& ~~~grant) = true → isExempted flag = true) ∧
      (isExempted (flag &&& ~~~grant ||| RESTRICTED) = true → isExempted flag = true) ∧
      (isExempted (flag &&& ~~~grant &&& ~~~UNRESTRICTED) = true →
        isExempted (flag &&& ~~~UNRESTRICTED) = true) ∧
      (isExempted ((flag &&& ~~~grant ||| RESTRICTED) &&& ~~~UNRESTRICTED) = true →
        isExempted (flag &&& ~~~UNRESTRICTED) = true) := by
  cases hgrant <;> decide

/-- A flag that was set is there. -/
theorem grantedFlag_or (hgrant : IsGrant grant) (conditional : Prop) [Decidable conditional]
    (flag : ExemptionFlag) :
    grantedFlag conditional grant flag ||| grant = grantedFlag conditional grant flag := by
  unfold grantedFlag
  revert flag
  cases hgrant <;> split_ifs <;> decide

/-- An app that has been set a flag is exempted when it was, or when all its flags exempt it: what
the flags exempt counts by night too. -/
theorem isFlagExempted_granted (hgrant : IsGrant grant) (conditional : Prop)
    [Decidable conditional] :
    isFlagExempted condition (grantedFlag conditional grant flag) =
      (isFlagExempted condition flag || isExempted (grantedFlag conditional grant flag)) := by
  obtain ⟨hall, hcounted, hkeep, hnight⟩ := isExempted_granted hgrant flag
  rw [isFlagExempted_eq, isFlagExempted_eq]
  unfold grantedFlag countedFlag
  split_ifs with hnightly hconditional hconditional
  · rw [hcounted, hall, Bool.or_true]
  · cases hex : isExempted (flag ||| grant) with
    | true => rw [hnight hex, Bool.or_true]
    | false =>
      rw [Bool.or_false, Bool.eq_iff_iff]
      refine iff_of_false (fun hc => ?_) (fun hc => ?_)
      · rw [isExempted_of_remove rfl hc] at hex
        cases hex
      · rw [hkeep (isExempted_of_remove rfl hc)] at hex
        cases hex
  · rw [hall, Bool.or_true]
  · cases hex : isExempted flag with
    | true => rw [hkeep hex, Bool.or_true]
    | false => rw [Bool.false_or]

/-- Taking a flag from an app exempts it not. -/
theorem isFlagExempted_revoked (hgrant : IsGrant grant) (conditional : Prop)
    [Decidable conditional]
    (h : isFlagExempted condition (revokedFlag conditional grant flag) = true) :
    isFlagExempted condition flag = true := by
  obtain ⟨hplain, hrestricted, hplainNight, hrestrictedNight⟩ := isExempted_revoked hgrant flag
  rw [isFlagExempted_eq] at h ⊢
  unfold revokedFlag countedFlag at *
  split_ifs at * with h1 h2 h2
  · exact hrestrictedNight h
  · exact hplainNight h
  · exact hrestricted h
  · exact hplain h

/-- Who is exempted by the flags that count is exempted by all of them. -/
theorem isExempted_of_isFlagExempted (h : isFlagExempted condition flag = true) :
    isExempted flag = true := by
  rw [isFlagExempted_eq] at h
  exact isExempted_of_counted h

end

/-! ## The exempted uids -/

namespace NetLimitedApps
variable {scfg : StrategyConfig} {q : Queries} {apps apps' : NetLimitedApps} {uid : Int}
  {condition : ConditionType}

/-- The uids of the record are of their type. -/
def Typed (apps : NetLimitedApps) : Prop :=
  apps.All fun uid _ => IsInt32 uid

/-- The record exempts the app of a uid. -/
def Exempts (condition : ConditionType) (apps : NetLimitedApps) (uid : Int) : Prop :=
  ∃ info, apps.lookup uid = some info ∧ isFlagExempted condition info.appExemptionFlag = true

/-- The exempted uids, as the net policy service takes them. -/
theorem mem_exemptedUids {u : Int} :
    u ∈ exemptedUids condition apps ↔ ∃ uid, apps.Exempts condition uid ∧ toUInt32 uid = u := by
  simp only [exemptedUids, List.mem_toFinset, List.mem_map]
  constructor
  · rintro ⟨uid, hmem, rfl⟩
    obtain ⟨info, hinfo⟩ := Option.isSome_iff_exists.1 (AList.lookup_isSome.2 hmem)
    rw [Map.lookup_filter, Option.filter_eq_some_iff] at hinfo
    exact ⟨uid, ⟨info, hinfo⟩, rfl⟩
  · rintro ⟨uid, ⟨info, hinfo, hex⟩, rfl⟩
    refine ⟨uid, AList.lookup_isSome.1 ?_, rfl⟩
    rw [Map.lookup_filter, hinfo, Option.filter_some, if_pos hex]
    rfl

/-- The uid of a recorded app is exempted as the app is. -/
theorem toUInt32_mem_exemptedUids (htyped : apps.Typed) (huid : IsInt32 uid) :
    toUInt32 uid ∈ exemptedUids condition apps ↔ apps.Exempts condition uid := by
  rw [mem_exemptedUids]
  constructor
  · rintro ⟨uid', ⟨info, hinfo, hexempted⟩, heq⟩
    rw [toUInt32_inj (htyped uid' info hinfo) huid heq] at hinfo
    exact ⟨info, hinfo, hexempted⟩
  · exact fun hex => ⟨uid, hex, rfl⟩

/-- Two records that differ in one app. -/
theorem mem_exemptedUids_of_change {u : Int} (htyped' : apps'.Typed) (huid : IsInt32 uid)
    (hdiffers : ∀ uid' ≠ uid, apps'.lookup uid' = apps.lookup uid') :
    u ∈ exemptedUids condition apps' ↔
      if u = toUInt32 uid then apps'.Exempts condition uid
      else u ∈ exemptedUids condition apps := by
  split_ifs with hu
  · subst hu
    exact toUInt32_mem_exemptedUids htyped' huid
  · rw [mem_exemptedUids, mem_exemptedUids]
    refine exists_congr fun uid' => and_congr_left fun heq => ?_
    have hne : uid' ≠ uid := by
      rintro rfl
      exact hu heq.symm
    rw [Exempts, Exempts, hdiffers uid' hne]

/-- The app that is recorded for a uid that has none. -/
def createdApp (scfg : StrategyConfig) (q : Queries) (uid : Int) (name : String) :
    NetLimtedAppInfo :=
  appOf scfg q name (flagIf (q.isSystemAppByUid uid = true) UNRESTRICTED)

/-- `GetAndCreateAppInfo` records the app of the uid if it was not recorded, and no other. -/
theorem getAndCreateAppInfo_lookup (name : String) (uid' : Int) :
    (getAndCreateAppInfo scfg q uid name apps).lookup uid' =
      if uid' = uid then some ((apps.lookup uid).getD (createdApp scfg q uid name))
      else apps.lookup uid' := by
  have hcreated : getExemptionConfigForApp scfg q name
      (if q.isSystemAppByUid uid then ({ name := name } : NetLimtedAppInfo).addFlag UNRESTRICTED
        else { name := name }) = createdApp scfg q uid name := by
    rw [createdApp, appOf]
    congr 1
    cases q.isSystemAppByUid uid <;> simp [flagIf, NetLimtedAppInfo.addFlag]
  unfold getAndCreateAppInfo
  dsimp only
  rw [hcreated]
  exact Map.lookup_emplace

/-- An app that is created has a uid of its type. -/
theorem Typed.getAndCreateAppInfo (h : apps.Typed) (huid : IsInt32 uid) (name : String) :
    (getAndCreateAppInfo scfg q uid name apps).Typed := by
  intro uid' info hinfo
  rw [getAndCreateAppInfo_lookup] at hinfo
  split_ifs at hinfo with hk
  · subst hk
    exact huid
  · exact h uid' info hinfo

/-- `AddExemptionFlagByUid` creates no app. -/
theorem Typed.addFlags (h : apps.Typed) {α : Type} (flag : ExemptionFlag) (key : α → Int)
    (l : List α) : Typed (l.foldl (fun apps a => addExemptionFlagByUid flag apps (key a)) apps) :=
  List.foldlRecOn (motive := Typed) l _ h fun _ happs _ _ => Map.All.modify happs fun _ hk => hk

/-- Every uid of a rebuilt record is one of a process, also when the record is not finished. -/
theorem typed_initNetLimitedAppInfo (scfg : StrategyConfig)
    (hq : ∀ processes, q.runningProcesses = some processes →
      ∀ process ∈ processes, IsInt32 process.uid) :
    Typed (initNetLimitedAppInfo scfg q ∅).2 := by
  have hstages : ∀ stages : List (NetLimitedApps → Option NetLimitedApps),
      (∀ stage ∈ stages, ∀ apps apps', stage apps = some apps' → apps.Typed → apps'.Typed) →
        ∀ apps : NetLimitedApps, apps.Typed → Typed (runStages stages apps).2 := by
    intro stages
    induction stages with
    | nil => exact fun _ _ h => h
    | cons stage stages ih =>
      intro hstage apps h
      unfold runStages
      cases heq : stage apps with
      | none => exact h
      | some apps' =>
        exact ih (fun stage' hmem => hstage stage' (List.mem_cons_of_mem _ hmem)) apps'
          (hstage stage List.mem_cons_self apps apps' heq h)
  refine hstages _ ?_ ∅ Map.All.empty
  simp only [List.forall_mem_cons, List.not_mem_nil, false_imp_iff, implies_true, and_true]
  refine ⟨?_, ?_, ?_, ?_, ?_, ?_⟩ <;> intro apps apps' heq h
  · obtain ⟨processes, hprocesses, heq⟩ := Option.bind_eq_some_iff.1 heq
    cases heq
    exact List.foldlRecOn (motive := Typed) processes _ h fun _ happs process hmem =>
      Map.All.emplace happs (hq processes hprocesses process hmem)
  · obtain ⟨infos, -, heq⟩ := Option.bind_eq_some_iff.1 heq
    cases heq
    exact h.addFlags _ _ _
  · obtain ⟨fgApps, -, heq⟩ := Option.bind_eq_some_iff.1 heq
    cases heq
    exact h.addFlags _ _ _
  · obtain ⟨continuousTaskList, -, heq⟩ := Option.bind_eq_some_iff.1 heq
    obtain ⟨transientTaskList, -, heq⟩ := Option.bind_eq_some_iff.1 heq
    cases heq
    exact (h.addFlags _ _ _).addFlags _ _ _
  · obtain ⟨workInfos, -, heq⟩ := Option.bind_eq_some_iff.1 heq
    cases heq
    exact h.addFlags _ _ _
  · cases heq
    exact Map.All.mapVals h fun _ _ hk => hk

end NetLimitedApps

/-! ## The strategy alone -/

/-- What is called on the strategy. -/
inductive FirewallCall where
  | handleEvent (q : Queries) (message : StandbyMessage)
  | onCreated
  | onDestroy

/-- The strategy as a transition system, with the day or night that it last asked for. That changes
only together with the message of the change. -/
def firewallSystem (scfg : StrategyConfig) (condition : ConditionType) :
    Lts.System (NetworkStrategy × ConditionType) FirewallCall where
  init := ({}, condition)
  step s call :=
    match call with
    | .handleEvent q (.resCtrlConditionChanged condition) =>
      some (NetworkStrategy.handleEvent scfg q (.resCtrlConditionChanged condition) s.1,
        q.condition)
    | .handleEvent q message =>
      if q.condition = s.2 then some (NetworkStrategy.handleEvent scfg q message s.1, s.2) else none
    | .onCreated => some (s.1.onCreated, s.2)
    | .onDestroy => some (s.1.onDestroy, s.2)

namespace NetworkStrategy
variable {scfg : StrategyConfig} {q : Queries} {s : NetworkStrategy} {condition : ConditionType}
  {uid : Int}

/-- Setting a flag of an app: a new app is not exempted before. -/
def GrantsInStep (scfg : StrategyConfig) (q : Queries) (s : NetworkStrategy) (uid : Int)
    (name : String) : Prop :=
  uid ∈ s.netLimitedAppInfo ∨
    isFlagExempted q.condition (NetLimitedApps.createdApp scfg q uid name).appExemptionFlag = false

/-- Taking a flag of an app: in a maintenance window the app stays exempted, if it is. -/
def RevokesInStep (scfg : StrategyConfig) (q : Queries) (s : NetworkStrategy) (uid : Int)
    (flag : ExemptionFlag) : Prop :=
  s.isIdleMaintence = true → ∀ info, s.netLimitedAppInfo.lookup uid = some info →
    isFlagExempted q.condition info.appExemptionFlag = true →
      isFlagExempted q.condition (revokedFlag (info.name ∈ scfg.conditionalRestrictNetApp) flag
        info.appExemptionFlag) = true

/-- What a message must avoid. -/
def HandlesInStep (scfg : StrategyConfig) (q : Queries) (s : NetworkStrategy) :
    StandbyMessage → Prop
  /- A condition change that comes while the firewall is enabled finds the platform available. -/
  | .resCtrlConditionChanged _ => s.isFirewallEnabled = true →
    (NetLimitedApps.initNetLimitedAppInfo scfg q ∅).1 = true
  /- The phase that enables the firewall finds no uid on the trust list that is not exempted. -/
  | .phaseTransit curState _ curPhase =>
    curState = .sleep → curPhase = SleepStatePhase.APP_RES_DEEP → s.isFirewallEnabled = false →
      (NetLimitedApps.initNetLimitedAppInfo scfg q ∅).1 = true →
        s.trustlist ⊆ NetLimitedApps.exemptedUids q.condition
          (NetLimitedApps.initNetLimitedAppInfo scfg q ∅).2
  /- So does the end of a maintenance window. -/
  | .stateTransit .maintenance .sleep => s.isFirewallEnabled = false →
    s.trustlist ⊆ NetLimitedApps.exemptedUids q.condition s.netLimitedAppInfo
  | .allowListChanged uid name allowType added =>
    s.isFirewallEnabled = true → allowType &&& AllowType.network.mask ≠ 0 →
      if added then GrantsInStep scfg q s uid name else RevokesInStep scfg q s uid EXEMPTION
  | .bgTaskStatusChange type started uid bundleName typeId =>
    s.isFirewallEnabled = true → ∀ flag, bgtaskExemptionFlagMap type = some flag →
      if started then skipsStartedTask q type typeId s = false →
        GrantsInStep scfg q s uid (if bundleName = "" then q.clientBundleName uid else bundleName)
      else RevokesInStep scfg q s uid flag
  /- The app that ends in a maintenance window is not exempted. -/
  | .processStateChanged uid _ name false =>
    s.isFirewallEnabled = true → s.isIdleMaintence = true → q.appRunningState name = some false →
      ∀ info, s.netLimitedAppInfo.lookup uid = some info →
        isFlagExempted q.condition info.appExemptionFlag = false
  | _ => True

/-- What a call must avoid. The uids that messages and the platform carry are of their type. -/
def KeepsTrustlist (scfg : StrategyConfig) (s : NetworkStrategy × ConditionType) :
    FirewallCall → Prop
  | .handleEvent q message =>
    (message.WellTyped ∧ ∀ processes, q.runningProcesses = some processes →
      ∀ process ∈ processes, IsInt32 process.uid) ∧ s.1.HandlesInStep scfg q message
  /- The strategy is neither created nor destroyed while the firewall is enabled. -/
  | .onCreated | .onDestroy => s.1.isFirewallEnabled = false

/-- The policy is on while the firewall is enabled, and the trust list is then what the record
exempts. It is empty while the firewall is not enabled outside a maintenance window. -/
structure InStep (condition : ConditionType) (s : NetworkStrategy) : Prop where
  typed : s.netLimitedAppInfo.Typed
  policy : s.policy = s.isFirewallEnabled
  enabled : s.isFirewallEnabled = true →
    s.trustlist = NetLimitedApps.exemptedUids condition s.netLimitedAppInfo
  closed : s.isFirewallEnabled = false → s.isIdleMaintence = false → s.trustlist = ∅

/-! ### Messages about one app -/

/-- The calls of the net policy service change the trust list, and nothing else. -/
theorem setFirewallAllowedList_frame (uids : Finset Int) (isAdded : Bool) (s : NetworkStrategy) :
    ∃ trustlist, s.setFirewallAllowedList uids isAdded = { s with trustlist := trustlist } := by
  unfold setFirewallAllowedList
  split_ifs <;> exact ⟨_, rfl⟩

/-- Up to calls of the net policy service, the app of a created process is recorded. -/
theorem processCreated_frame (scfg : StrategyConfig) (q : Queries) (uid : Int) (name : String)
    (henabled : s.isFirewallEnabled = true) : ∃ trustlist,
    handleProcessStatusChanged scfg q uid name true s =
      { s with
        netLimitedAppInfo :=
          NetLimitedApps.getAndCreateAppInfo scfg q uid name s.netLimitedAppInfo
        trustlist := trustlist } := by
  unfold handleProcessStatusChanged
  rw [if_neg (not_not.2 henabled), if_pos rfl]
  dsimp only
  split
  · exact ⟨_, rfl⟩
  · split_ifs
    · exact setFirewallAllowedList_frame _ _ _
    · exact ⟨_, rfl⟩

/-- Up to calls of the net policy service, the app of a process that dies is erased when it has no
other. -/
theorem processDied_frame (scfg : StrategyConfig) (q : Queries) (uid : Int) (name : String)
    (henabled : s.isFirewallEnabled = true) : ∃ (apps : NetLimitedApps) (trustlist : Finset Int),
    (∀ uid', apps.lookup uid' = if uid' = uid ∧ q.appRunningState name = some false then none
      else s.netLimitedAppInfo.lookup uid') ∧
    handleProcessStatusChanged scfg q uid name false s =
      { s with netLimitedAppInfo := apps, trustlist := trustlist } := by
  unfold handleProcessStatusChanged
  rw [if_neg (not_not.2 henabled), if_neg Bool.false_ne_true]
  by_cases hstate : q.appRunningState name = some false
  · rw [if_pos hstate]
    cases hinfo : s.netLimitedAppInfo.lookup uid with
    | none =>
      refine ⟨s.netLimitedAppInfo, s.trustlist, fun uid' => ?_, rfl⟩
      split_ifs with hu
      · rw [hu.1, hinfo]
      · rfl
    | some info =>
      have herased : ∀ uid', (s.netLimitedAppInfo.erase uid).lookup uid' =
          if uid' = uid ∧ q.appRunningState name = some false then none
          else s.netLimitedAppInfo.lookup uid' := by
        intro uid'
        by_cases hu : uid' = uid
        · rw [if_pos ⟨hu, hstate⟩, hu]
          exact AList.lookup_erase _ _
        · rw [if_neg fun hc => hu hc.1]
          exact AList.lookup_erase_ne hu
      dsimp only
      split_ifs
      · obtain ⟨trustlist, heq⟩ := setFirewallAllowedList_frame {toUInt32 uid} false
          { s with netLimitedAppInfo := s.netLimitedAppInfo.erase uid }
        exact ⟨_, trustlist, herased, heq⟩
      · exact ⟨_, s.trustlist, herased, rfl⟩
  · rw [if_neg hstate]
    exact ⟨s.netLimitedAppInfo, s.trustlist, fun uid' => (if_neg fun hc => hstate hc.2).symm, rfl⟩

/-- What a call to the net policy service leaves on the trust list. In a maintenance window nothing
is taken from it. -/
theorem mem_setFirewallAllowedList {uids : Finset Int} {isAdded : Bool} {u : Int} :
    u ∈ (s.setFirewallAllowedList uids isAdded).trustlist ↔
      if isAdded then u ∈ s.trustlist ∨ u ∈ uids
      else u ∈ s.trustlist ∧ (s.isIdleMaintence = false → u ∉ uids) := by
  unfold setFirewallAllowedList
  by_cases huids : uids = ∅
  · subst huids
    cases isAdded <;> simp
  · cases isAdded <;> cases s.isIdleMaintence <;> simp [huids]

/-- The call for one app. Nothing is taken off the list in a maintenance window. -/
theorem setFirewallAllowedList_uid (u : Int) (isAdded : Bool) (s : NetworkStrategy) :
    ∃ trustlist, s.setFirewallAllowedList {u} isAdded = { s with trustlist := trustlist } ∧
      ∀ u', u' ∈ trustlist ↔
        if isAdded then u' ∈ s.trustlist ∨ u' = u
        else u' ∈ s.trustlist ∧ (s.isIdleMaintence = false → u' ≠ u) := by
  obtain ⟨trustlist, hframe⟩ := setFirewallAllowedList_frame {u} isAdded s
  refine ⟨trustlist, hframe, fun u' => ?_⟩
  have hmem : u' ∈ (s.setFirewallAllowedList {u} isAdded).trustlist ↔ _ :=
    mem_setFirewallAllowedList
  rw [hframe, Finset.mem_singleton] at hmem
  exact hmem

/-- While the firewall is enabled, one app changes and with it its uid on the trust list. -/
theorem InStep.change (h : InStep condition s) (henabled : s.isFirewallEnabled = true)
    (huid : IsInt32 uid) {apps : NetLimitedApps} {trustlist : Finset Int} (htyped : apps.Typed)
    (hdiffers : ∀ uid' ≠ uid, apps.lookup uid' = s.netLimitedAppInfo.lookup uid')
    (hother : ∀ u ≠ toUInt32 uid, u ∈ trustlist ↔ u ∈ s.trustlist)
    (hown : toUInt32 uid ∈ trustlist ↔ apps.Exempts condition uid) :
    InStep condition { s with netLimitedAppInfo := apps, trustlist := trustlist } where
  typed := htyped
  policy := h.policy
  enabled _ := by
    ext u
    rw [NetLimitedApps.mem_exemptedUids_of_change htyped huid hdiffers]
    split_ifs with hu
    · rw [hu]
      exact hown
    · rw [hother u hu, h.enabled henabled]
  closed hnot := by
    rw [henabled] at hnot
    cases hnot

/-- A recorded app is on the trust list when it is exempted. -/
theorem InStep.mem_trustlist (h : InStep condition s) (henabled : s.isFirewallEnabled = true)
    (huid : IsInt32 uid) :
    toUInt32 uid ∈ s.trustlist ↔ s.netLimitedAppInfo.Exempts condition uid := by
  rw [h.enabled henabled, NetLimitedApps.toUInt32_mem_exemptedUids h.typed huid]

/-- A recorded app is exempted by its flags. -/
theorem exempts_of_lookup {apps : NetLimitedApps} {info : NetLimtedAppInfo}
    (h : apps.lookup uid = some info) :
    apps.Exempts condition uid ↔ isFlagExempted condition info.appExemptionFlag = true := by
  constructor
  · rintro ⟨info', hinfo', hex⟩
    rw [hinfo'] at h
    cases h
    exact hex
  · exact fun hex => ⟨info, h, hex⟩

/-- What `AddExemptionFlag` does to an app. -/
theorem addExemptionFlag_eq (scfg : StrategyConfig) (q : Queries) (uid : Int) (name : String)
    {flag : ExemptionFlag} (henabled : s.isFirewallEnabled = true) (hgrant : IsGrant flag) :
    ∃ info changed : NetLimtedAppInfo,
      info = (s.netLimitedAppInfo.lookup uid).getD (NetLimitedApps.createdApp scfg q uid name) ∧
      changed.appExemptionFlag = grantedFlag (name ∈ scfg.conditionalRestrictNetApp) flag
        info.appExemptionFlag ∧ changed.name = info.name ∧
      ∃ (apps : NetLimitedApps) (trustlist : Finset Int),
        (∀ uid', apps.lookup uid' =
          if uid' = uid then some changed else s.netLimitedAppInfo.lookup uid') ∧
        (∀ u, u ∈ trustlist ↔ u ∈ s.trustlist ∨ u = toUInt32 uid ∧
          getExemptedFlag q.condition info.appExemptionFlag changed.appExemptionFlag = true) ∧
        addExemptionFlag scfg q uid name flag s =
          { s with netLimitedAppInfo := apps, trustlist := trustlist } := by
  obtain ⟨info, hinfo⟩ : ∃ info, info =
      (s.netLimitedAppInfo.lookup uid).getD (NetLimitedApps.createdApp scfg q uid name) := ⟨_, rfl⟩
  have hlookup : ∀ uid', (NetLimitedApps.getAndCreateAppInfo scfg q uid name
      s.netLimitedAppInfo).lookup uid' =
        if uid' = uid then some info else s.netLimitedAppInfo.lookup uid' := by
    intro uid'
    rw [NetLimitedApps.getAndCreateAppInfo_lookup, hinfo]
  obtain ⟨changed, hchanged⟩ : ∃ changed, changed =
      if name ∈ scfg.conditionalRestrictNetApp then (info.addFlag flag).removeFlag RESTRICTED
      else info.addFlag flag := ⟨_, rfl⟩
  have hflag : changed.appExemptionFlag = grantedFlag (name ∈ scfg.conditionalRestrictNetApp) flag
      info.appExemptionFlag := by
    rw [hchanged, grantedFlag]
    split_ifs <;> rfl
  -- the flag is set once more, which changes nothing
  have hagain : changed.addFlag flag = changed := by
    rw [NetLimtedAppInfo.addFlag, hflag, grantedFlag_or hgrant, ← hflag]
  obtain ⟨apps, happs⟩ : ∃ apps, apps = (NetLimitedApps.getAndCreateAppInfo scfg q uid name
    s.netLimitedAppInfo).modify uid fun _ => changed.addFlag flag := ⟨_, rfl⟩
  have heq : addExemptionFlag scfg q uid name flag s =
      if getExemptedFlag q.condition info.appExemptionFlag changed.appExemptionFlag then
        { s with netLimitedAppInfo := apps }.setFirewallAllowedList {toUInt32 uid} true
      else { s with netLimitedAppInfo := apps } := by
    unfold addExemptionFlag
    rw [if_neg (by simpa using henabled)]
    dsimp only
    rw [hlookup, if_pos rfl]
    dsimp only
    rw [← hchanged, ← happs]
  obtain ⟨trustlist, hmem, hframe⟩ : ∃ trustlist : Finset Int,
      (∀ u, u ∈ trustlist ↔ u ∈ s.trustlist ∨ u = toUInt32 uid ∧
        getExemptedFlag q.condition info.appExemptionFlag changed.appExemptionFlag = true) ∧
      addExemptionFlag scfg q uid name flag s =
        { s with netLimitedAppInfo := apps, trustlist := trustlist } := by
    rw [heq]
    split_ifs with hcall
    · obtain ⟨trustlist, hframe, hmem⟩ := setFirewallAllowedList_uid (toUInt32 uid) true
        { s with netLimitedAppInfo := apps }
      exact ⟨trustlist, fun u => by simpa [hcall] using hmem u, hframe⟩
    · exact ⟨s.trustlist, fun u => by simp [hcall], rfl⟩
  refine ⟨info, changed, hinfo, hflag, ?_, apps, trustlist, fun uid' => ?_, hmem, hframe⟩
  · rw [hchanged]
    split_ifs <;> rfl
  · rw [happs, Map.lookup_modify, hlookup, hagain]
    split_ifs <;> rfl

/-- What `RemoveExemptionFlag` does to an app. -/
theorem removeExemptionFlag_eq (scfg : StrategyConfig) (q : Queries)
    (henabled : s.isFirewallEnabled = true) {info : NetLimtedAppInfo}
    (hinfo : s.netLimitedAppInfo.lookup uid = some info) (flag : ExemptionFlag) :
    ∃ changed : NetLimtedAppInfo,
      changed.appExemptionFlag = revokedFlag (info.name ∈ scfg.conditionalRestrictNetApp) flag
        info.appExemptionFlag ∧ changed.name = info.name ∧
      ∃ (apps : NetLimitedApps) (trustlist : Finset Int),
        (∀ uid', apps.lookup uid' =
          if uid' = uid then some changed else s.netLimitedAppInfo.lookup uid') ∧
        (∀ u, u ∈ trustlist ↔ u ∈ s.trustlist ∧ (s.isIdleMaintence = false → u = toUInt32 uid →
          getExemptedFlag q.condition changed.appExemptionFlag info.appExemptionFlag = false)) ∧
        removeExemptionFlag scfg q uid flag s =
          { s with netLimitedAppInfo := apps, trustlist := trustlist } := by
  obtain ⟨changed, hchanged⟩ : ∃ changed, changed =
      NetLimitedApps.restrictConditionally scfg info.name (info.removeFlag flag) := ⟨_, rfl⟩
  obtain ⟨apps, happs⟩ : ∃ apps, apps = s.netLimitedAppInfo.modify uid fun _ => changed :=
    ⟨_, rfl⟩
  have heq : removeExemptionFlag scfg q uid flag s =
      if getExemptedFlag q.condition changed.appExemptionFlag info.appExemptionFlag then
        { s with netLimitedAppInfo := apps }.setFirewallAllowedList {toUInt32 uid} false
      else { s with netLimitedAppInfo := apps } := by
    unfold removeExemptionFlag
    rw [if_neg (by simpa using henabled), hinfo]
    dsimp only
    rw [← hchanged, ← happs]
  obtain ⟨trustlist, hmem, hframe⟩ : ∃ trustlist : Finset Int,
      (∀ u, u ∈ trustlist ↔ u ∈ s.trustlist ∧ (s.isIdleMaintence = false → u = toUInt32 uid →
        getExemptedFlag q.condition changed.appExemptionFlag info.appExemptionFlag = false)) ∧
      removeExemptionFlag scfg q uid flag s =
        { s with netLimitedAppInfo := apps, trustlist := trustlist } := by
    rw [heq]
    split_ifs with hcall
    · obtain ⟨trustlist, hframe, hmem⟩ := setFirewallAllowedList_uid (toUInt32 uid) false
        { s with netLimitedAppInfo := apps }
      exact ⟨trustlist, fun u => by simpa [hcall] using hmem u, hframe⟩
    · exact ⟨s.trustlist, fun u => by simp [hcall], rfl⟩
  refine ⟨changed, ?_, ?_, apps, trustlist, fun uid' => ?_, hmem, hframe⟩
  · rw [hchanged, NetLimitedApps.restrictConditionally, apply_ite NetLimtedAppInfo.appExemptionFlag]
    rfl
  · rw [hchanged, NetLimitedApps.restrictConditionally]
    split_ifs <;> rfl
  · rw [happs, Map.lookup_modify]
    split_ifs with hk
    · subst hk
      rw [hinfo]
      rfl
    · rfl

/-- A record that has changed at a uid of its type is as well typed as it was. -/
theorem typed_of_lookup {apps : NetLimitedApps} {changed : NetLimtedAppInfo}
    (htyped : s.netLimitedAppInfo.Typed) (huid : IsInt32 uid)
    (happs : ∀ uid', apps.lookup uid' = if uid' = uid then some changed
      else s.netLimitedAppInfo.lookup uid') : apps.Typed := by
  intro uid' info hinfo
  rw [happs] at hinfo
  split_ifs at hinfo with hk
  · subst hk
    exact huid
  · exact htyped uid' info hinfo

/-- `AddExemptionFlag` puts the uid on the trust list when the app becomes exempted. -/
theorem InStep.addExemptionFlag (h : InStep q.condition s) (huid : IsInt32 uid) {name : String}
    {flag : ExemptionFlag} (hgrant : IsGrant flag)
    (hok : s.isFirewallEnabled = true → GrantsInStep scfg q s uid name) :
    InStep q.condition (addExemptionFlag scfg q uid name flag s) := by
  cases henabled : s.isFirewallEnabled with
  | false =>
    unfold NetworkStrategy.addExemptionFlag
    rwa [if_pos (by simp [henabled])]
  | true =>
    obtain ⟨info, changed, hinfo, hflag, -, apps, trustlist, happs, hmem, hframe⟩ :=
      addExemptionFlag_eq scfg q uid name henabled hgrant
    have hchanged : apps.lookup uid = some changed := by rw [happs, if_pos rfl]
    -- before, the uid is on the trust list when the flags that count exempt the app
    have hbefore : toUInt32 uid ∈ s.trustlist ↔
        isFlagExempted q.condition info.appExemptionFlag = true := by
      rw [h.mem_trustlist henabled huid]
      rcases hok henabled with hmem | hnot
      · obtain ⟨info', hinfo'⟩ := Option.isSome_iff_exists.1 (AList.lookup_isSome.2 hmem)
        rw [hinfo'] at hinfo
        rw [exempts_of_lookup hinfo', hinfo]
        rfl
      · cases hlookup : s.netLimitedAppInfo.lookup uid with
        | some info' =>
          rw [hlookup] at hinfo
          rw [exempts_of_lookup hlookup, hinfo]
          rfl
        | none =>
          rw [hlookup] at hinfo
          subst hinfo
          refine iff_of_false ?_ (by simp [hnot])
          rintro ⟨info', hinfo', -⟩
          rw [hlookup] at hinfo'
          cases hinfo'
    have hafter : apps.Exempts q.condition uid ↔
        (isFlagExempted q.condition info.appExemptionFlag ||
          isExempted changed.appExemptionFlag) = true := by
      rw [exempts_of_lookup hchanged, hflag, isFlagExempted_granted hgrant]
    rw [hframe]
    refine h.change henabled huid (typed_of_lookup h.typed huid happs)
      (fun uid' hne => by rw [happs, if_neg hne]) (fun u hne => by simp [hmem, hne]) ?_
    rw [hmem, hbefore, hafter, getExemptedFlag_eq]
    cases isFlagExempted q.condition info.appExemptionFlag <;> simp

/-- `RemoveExemptionFlag` takes the uid from the trust list when the app is exempted no more. -/
theorem InStep.removeExemptionFlag (h : InStep q.condition s) (huid : IsInt32 uid)
    {flag : ExemptionFlag} (hgrant : IsGrant flag)
    (hok : s.isFirewallEnabled = true → RevokesInStep scfg q s uid flag) :
    InStep q.condition (removeExemptionFlag scfg q uid flag s) := by
  cases henabled : s.isFirewallEnabled with
  | false =>
    unfold NetworkStrategy.removeExemptionFlag
    rwa [if_pos (by simp [henabled])]
  | true =>
    cases hinfo : s.netLimitedAppInfo.lookup uid with
    | none =>
      unfold NetworkStrategy.removeExemptionFlag
      rw [if_neg (by simpa using henabled), hinfo]
      exact h
    | some info =>
      obtain ⟨changed, hflag, -, apps, trustlist, happs, hmem, hframe⟩ :=
        removeExemptionFlag_eq scfg q henabled hinfo flag
      have hchanged : apps.lookup uid = some changed := by rw [happs, if_pos rfl]
      have hbefore : toUInt32 uid ∈ s.trustlist ↔
          isFlagExempted q.condition info.appExemptionFlag = true := by
        rw [h.mem_trustlist henabled huid, exempts_of_lookup hinfo]
      have hafter : apps.Exempts q.condition uid ↔
          isFlagExempted q.condition changed.appExemptionFlag = true := exempts_of_lookup hchanged
      have hmono : isFlagExempted q.condition changed.appExemptionFlag = true →
          isFlagExempted q.condition info.appExemptionFlag = true := by
        rw [hflag]
        exact isFlagExempted_revoked hgrant _
      have hkeep : s.isIdleMaintence = true →
          isFlagExempted q.condition info.appExemptionFlag = true →
            isFlagExempted q.condition changed.appExemptionFlag = true := by
        rw [hflag]
        exact fun hidle => hok henabled hidle info hinfo
      rw [hframe]
      refine h.change henabled huid (typed_of_lookup h.typed huid happs)
        (fun uid' hne => by rw [happs, if_neg hne]) (fun u hne => by simp [hmem, hne]) ?_
      rw [hmem, hbefore, hafter, getExemptedFlag_eq]
      constructor
      · rintro ⟨hex, hoff⟩
        cases hidle : s.isIdleMaintence with
        | true => exact hkeep hidle hex
        | false => simpa [isExempted_of_isFlagExempted hex] using hoff hidle rfl
      · intro hex
        exact ⟨hmono hex, fun _ _ => by simp [hex]⟩

/-- A process that is created puts its uid on the trust list when its app is exempted. -/
theorem InStep.processCreated (h : InStep q.condition s) (huid : IsInt32 uid) (name : String) :
    InStep q.condition (handleProcessStatusChanged scfg q uid name true s) := by
  unfold handleProcessStatusChanged
  split
  · exact h
  rename_i henabled
  have henabled : s.isFirewallEnabled = true := by simpa using henabled
  rw [if_pos rfl]
  obtain ⟨apps, hcreated⟩ : ∃ apps, NetLimitedApps.getAndCreateAppInfo scfg q uid name
      s.netLimitedAppInfo = apps := ⟨_, rfl⟩
  have htyped : apps.Typed := hcreated ▸ h.typed.getAndCreateAppInfo huid name
  have happs : ∀ uid', apps.lookup uid' = _ := hcreated ▸
    NetLimitedApps.getAndCreateAppInfo_lookup name
  obtain ⟨info, hinfo⟩ : ∃ info, info =
      (s.netLimitedAppInfo.lookup uid).getD (NetLimitedApps.createdApp scfg q uid name) := ⟨_, rfl⟩
  have hlookup : apps.lookup uid = some info := by rw [happs, if_pos rfl, hinfo]
  have hdiffers : ∀ uid' ≠ uid, apps.lookup uid' = s.netLimitedAppInfo.lookup uid' := by
    intro uid' hne
    rw [happs, if_neg hne]
  dsimp only
  rw [hcreated, hlookup]
  dsimp only
  cases hex : isFlagExempted q.condition info.appExemptionFlag with
  | true =>
    rw [if_neg (by simp)]
    obtain ⟨trustlist, hframe, hmem⟩ := setFirewallAllowedList_uid (toUInt32 uid) true
      { s with netLimitedAppInfo := apps }
    rw [hframe]
    refine h.change henabled huid htyped hdiffers (fun u hne => by simp [hmem, hne]) ?_
    rw [exempts_of_lookup hlookup]
    simp [hmem, hex]
  | false =>
    rw [if_pos (by simp)]
    refine h.change henabled huid htyped hdiffers (fun u hne => Iff.rfl) ?_
    rw [h.mem_trustlist henabled huid, exempts_of_lookup hlookup, hex]
    refine iff_of_false ?_ Bool.false_ne_true
    rintro ⟨info', hinfo', hex'⟩
    rw [hinfo'] at hinfo
    rw [hinfo, Option.getD_some, hex'] at hex
    cases hex

/-- The last process of an app takes its uid from the trust list. -/
theorem InStep.processDied (h : InStep q.condition s) (huid : IsInt32 uid) {name : String}
    (hok : s.isFirewallEnabled = true → s.isIdleMaintence = true →
      q.appRunningState name = some false → ∀ info, s.netLimitedAppInfo.lookup uid = some info →
        isFlagExempted q.condition info.appExemptionFlag = false) :
    InStep q.condition (handleProcessStatusChanged scfg q uid name false s) := by
  unfold handleProcessStatusChanged
  split
  · exact h
  rename_i henabled
  have henabled : s.isFirewallEnabled = true := by simpa using henabled
  rw [if_neg Bool.false_ne_true]
  split
  · rename_i hrunning
    cases hinfo : s.netLimitedAppInfo.lookup uid with
    | none => exact h
    | some info =>
      have htyped : NetLimitedApps.Typed (s.netLimitedAppInfo.erase uid) :=
        Map.All.erase h.typed uid
      have hdiffers : ∀ uid' ≠ uid, (s.netLimitedAppInfo.erase uid).lookup uid' =
          s.netLimitedAppInfo.lookup uid' := fun _ hne => AList.lookup_erase_ne hne
      have hgone : ¬ NetLimitedApps.Exempts q.condition (s.netLimitedAppInfo.erase uid) uid := by
        rintro ⟨info', hinfo', -⟩
        rw [AList.lookup_erase] at hinfo'
        cases hinfo'
      dsimp only
      cases hex : isFlagExempted q.condition info.appExemptionFlag with
      | true =>
        rw [if_neg (by simp)]
        obtain ⟨trustlist, hframe, hmem⟩ := setFirewallAllowedList_uid (toUInt32 uid) false
          { s with netLimitedAppInfo := s.netLimitedAppInfo.erase uid }
        have hidle : s.isIdleMaintence = false := by
          by_contra hidle
          rw [hok henabled (by simpa using hidle) hrunning info hinfo] at hex
          cases hex
        rw [hframe]
        exact h.change henabled huid htyped hdiffers (fun u hne => by simp [hmem, hne])
          (iff_of_false (by simp [hmem, hidle]) hgone)
      | false =>
        rw [if_pos (by simp)]
        refine h.change henabled huid htyped hdiffers (fun u hne => Iff.rfl)
          (iff_of_false ?_ hgone)
        rw [h.mem_trustlist henabled huid, exempts_of_lookup hinfo, hex]
        exact Bool.false_ne_true
  · exact h

/-! ### The switches of the firewall -/

/-- Switching the firewall on puts what the record exempts on the trust list. -/
theorem setFirewallStatus_true (s : NetworkStrategy) :
    ∃ posted, setFirewallStatus q true s =
      { s with
        trustlist := s.trustlist ∪ NetLimitedApps.exemptedUids q.condition s.netLimitedAppInfo
        policy := true
        posted := posted } := by
  refine ⟨s.posted ++ [true], ?_⟩
  unfold setFirewallStatus setNetAllowApps setFirewallAllowedList handleDeviceIdlePolicy
  simp only [if_true, not_true_eq_false, false_and, if_false]
  split_ifs with hempty
  · rw [hempty, Finset.union_empty]
  · rfl

/-- `ResetFirewallAllowList` empties the trust list and turns the policy off. -/
theorem resetFirewallAllowList_eq (s : NetworkStrategy) :
    s.resetFirewallAllowList =
      { s with trustlist := ∅, policy := false, posted := s.posted ++ [false] } := by
  unfold resetFirewallAllowList handleDeviceIdlePolicy
  dsimp only
  rw [Finset.sdiff_self]

/-- A reset while the firewall is disabled leaves nothing to keep in step. -/
theorem InStep.reset (h : InStep condition s) (hok : s.isFirewallEnabled = false) :
    InStep condition s.resetFirewallAllowList := by
  rw [resetFirewallAllowList_eq]
  refine ⟨h.typed, hok.symm, fun henabled => ?_, fun _ _ => rfl⟩
  dsimp only at henabled
  rw [hok] at henabled
  cases henabled

/-- A condition change builds the record and the trust list anew. -/
theorem inStep_updateFirewallAllowList
    (htyped : NetLimitedApps.Typed (NetLimitedApps.initNetLimitedAppInfo scfg q ∅).2)
    (hok : s.isFirewallEnabled = true → (NetLimitedApps.initNetLimitedAppInfo scfg q ∅).1 = true) :
    InStep q.condition (updateFirewallAllowList scfg q s) := by
  unfold NetworkStrategy.updateFirewallAllowList initApps
  rw [resetFirewallAllowList_eq]
  cases hinit : NetLimitedApps.initNetLimitedAppInfo scfg q ∅ with
  | mk ok apps =>
    rw [hinit] at hok htyped
    cases ok with
    | true =>
      dsimp only
      obtain ⟨posted, heq⟩ := setFirewallStatus_true (q := q)
        { s with netLimitedAppInfo := apps, trustlist := ∅, policy := false,
                 posted := s.posted ++ [false] }
      rw [heq]
      exact ⟨htyped, rfl, fun _ => Finset.empty_union _, by simp⟩
    | false =>
      dsimp only
      have hdisabled : s.isFirewallEnabled = false := by
        by_contra henabled
        cases hok (by simpa using henabled)
      exact ⟨htyped, hdisabled.symm, by simp [hdisabled], fun _ _ => rfl⟩

/-- Enabling the firewall puts the exempted uids of the new record on the trust list. -/
theorem InStep.enableNetworkFirewall (h : InStep q.condition s)
    (htyped : NetLimitedApps.Typed (NetLimitedApps.initNetLimitedAppInfo scfg q ∅).2)
    (hok : s.isFirewallEnabled = false → (NetLimitedApps.initNetLimitedAppInfo scfg q ∅).1 = true →
      s.trustlist ⊆ NetLimitedApps.exemptedUids q.condition
        (NetLimitedApps.initNetLimitedAppInfo scfg q ∅).2) :
    InStep q.condition (enableNetworkFirewall scfg q s) := by
  unfold NetworkStrategy.enableNetworkFirewall initApps
  split
  · exact h
  rename_i hdisabled
  have hdisabled : s.isFirewallEnabled = false := by simpa using hdisabled
  cases hinit : NetLimitedApps.initNetLimitedAppInfo scfg q ∅ with
  | mk ok apps =>
    rw [hinit] at hok htyped
    cases ok with
    | true =>
      dsimp only
      obtain ⟨posted, heq⟩ := setFirewallStatus_true (q := q) { s with netLimitedAppInfo := apps }
      rw [heq]
      exact ⟨htyped, rfl, fun _ => Finset.union_eq_right.2 (hok hdisabled rfl), by simp⟩
    | false =>
      dsimp only
      exact ⟨htyped, h.policy, by simp [hdisabled], h.closed⟩

/-- Disabling the firewall takes them off, and the end of a maintenance window puts them back. -/
theorem InStep.disableNetworkFirewall (h : InStep q.condition s) (preState curState : StandbyState)
    (hok : preState = .maintenance → curState = .sleep → s.isFirewallEnabled = false →
      s.trustlist ⊆ NetLimitedApps.exemptedUids q.condition s.netLimitedAppInfo) :
    InStep q.condition (disableNetworkFirewall q preState curState s) := by
  unfold NetworkStrategy.disableNetworkFirewall
  split_ifs with hmaint hresume hend
  · obtain ⟨trustlist, hframe⟩ := setFirewallAllowedList_frame
      (NetLimitedApps.exemptedUids q.condition s.netLimitedAppInfo) false
      (s.handleDeviceIdlePolicy false)
    have hoff : setFirewallStatus q false s =
        { s.handleDeviceIdlePolicy false with trustlist := trustlist } := hframe
    rw [hoff]
    exact ⟨h.typed, rfl, by simp, by simp⟩
  · obtain ⟨posted, heq⟩ := setFirewallStatus_true (q := q) { s with isIdleMaintence := false }
    rw [heq]
    refine ⟨h.typed, rfl, fun _ => Finset.union_eq_right.2 ?_, by simp⟩
    cases henabled : s.isFirewallEnabled with
    | true => exact (h.enabled henabled).subset
    | false => exact hok hresume.2 hresume.1 henabled
  · rw [disableNetworkFirewallInner, resetFirewallAllowList_eq]
    exact ⟨Map.All.empty, rfl, by simp, fun _ _ => rfl⟩
  · exact h

/-- A message that is no condition change. -/
theorem InStep.handleEvent (h : InStep q.condition s) {message : StandbyMessage}
    (hmessage : message.WellTyped)
    (htyped : NetLimitedApps.Typed (NetLimitedApps.initNetLimitedAppInfo scfg q ∅).2)
    (hok : HandlesInStep scfg q s message) : InStep q.condition (handleEvent scfg q message s) := by
  cases message with
  | allowListChanged uid name allowType added =>
    unfold NetworkStrategy.handleEvent NetworkStrategy.updateExemptionList
    dsimp only
    split_ifs with htype henabled hadded
    · exact h
    · exact h.addExemptionFlag hmessage .exemption fun henabled => by
        simpa [hadded] using hok henabled htype
    · exact h.removeExemptionFlag hmessage .exemption fun henabled => by
        simpa [hadded] using hok henabled htype
    · exact h
  | resCtrlConditionChanged => exact inStep_updateFirewallAllowList htyped hok
  | phaseTransit curState prePhase curPhase =>
    unfold NetworkStrategy.handleEvent startNetLimit
    dsimp only
    split_ifs with hphase
    · exact h
    · obtain ⟨hcur, hphase⟩ := not_or.1 hphase
      exact h.enableNetworkFirewall htyped (hok (not_not.1 hcur) (not_not.1 hphase))
  | stateTransit preState curState =>
    refine h.disableNetworkFirewall preState curState ?_
    rintro rfl rfl
    exact hok
  | bgTaskStatusChange type started uid bundleName typeId =>
    unfold NetworkStrategy.handleEvent updateBgTaskAppStatus
    dsimp only
    split
    · exact h
    · split
      · exact h
      · rename_i flag hflag
        have hgrant := isGrant_of_bgtask hflag
        split
        · exact h
        · rename_i hskip
          cases started with
          | true =>
            refine h.addExemptionFlag hmessage hgrant fun henabled => ?_
            exact hok henabled flag hflag (by simpa using hskip)
          | false =>
            exact h.removeExemptionFlag hmessage hgrant fun henabled => hok henabled flag hflag
  | processStateChanged uid pid name isCreated =>
    cases isCreated with
    | true => exact h.processCreated hmessage name
    | false => exact h.processDied hmessage hok
  | commonEvent | screenOffHalfHour | sysAbilityStatusChanged | deviceNetIdlePolicyTransit
  | other => exact h

/-- One call that meets its condition keeps the trust list in step with the record. -/
theorem InStep.step {s t : NetworkStrategy × ConditionType} {condition : ConditionType}
    {call : FirewallCall} (h : InStep s.2 s.1) (hok : KeepsTrustlist scfg s call)
    (hs : (firewallSystem scfg condition).step s call = some t) : InStep t.2 t.1 := by
  obtain ⟨s, c⟩ := s
  cases call with
  | handleEvent q message =>
    obtain ⟨⟨hmessage, hprocesses⟩, hok⟩ := hok
    have htyped := NetLimitedApps.typed_initNetLimitedAppInfo scfg hprocesses
    cases hresCtrl : message with
    | resCtrlConditionChanged =>
      subst hresCtrl
      cases hs
      exact inStep_updateFirewallAllowList htyped hok
    | _ =>
      rw [hresCtrl] at hs hok hmessage
      simp only [firewallSystem, Option.ite_none_right_eq_some, Option.some.injEq] at hs
      obtain ⟨rfl, rfl⟩ := hs
      exact InStep.handleEvent h hmessage htyped hok
  | onCreated =>
    cases hs
    exact h.reset hok
  | onDestroy =>
    cases hs
    exact h.reset hok

/-- In every run whose calls avoid the defects: the firewall is enabled exactly while the policy is
on, the trust list is then the uids that the record exempts, and it is empty while the firewall is
not enabled outside a maintenance window. -/
theorem trustlist_eq_of_keepsTrustlist {condition : ConditionType}
    {s : NetworkStrategy × ConditionType}
    (h : Lts.ReachableUnder (firewallSystem scfg condition) (KeepsTrustlist scfg) s) :
    (s.1.isFirewallEnabled = true ↔ s.1.policy = true) ∧
    (s.1.isFirewallEnabled = true →
      s.1.trustlist = NetLimitedApps.exemptedUids s.2 s.1.netLimitedAppInfo) ∧
    (s.1.isFirewallEnabled = false → s.1.isIdleMaintence = false → s.1.trustlist = ∅) := by
  have hinit : InStep condition {} := ⟨Map.All.empty, rfl, by simp, fun _ _ => rfl⟩
  have hinStep : InStep s.2 s.1 := h.invariant (I := fun s => InStep s.2 s.1) hinit
    fun _ hok hs hi => hi.step hok hs
  exact ⟨by rw [hinStep.policy], hinStep.enabled, hinStep.closed⟩

/-- A test that suffices for what a message must avoid. -/
def handlesInStepTest (s : NetworkStrategy) : StandbyMessage → Bool
  | .resCtrlConditionChanged _ => !s.isFirewallEnabled
  | .phaseTransit .. | .stateTransit .. => s.trustlist = ∅ ∨ s.isFirewallEnabled
  | .allowListChanged .. => false
  | .bgTaskStatusChange _ _ uid _ _ =>
    (-2 ^ 31 ≤ uid ∧ uid < 2 ^ 31) ∧ uid ∈ s.netLimitedAppInfo ∧ s.isIdleMaintence = false
  | .processStateChanged uid _ _ _ =>
    (-2 ^ 31 ≤ uid ∧ uid < 2 ^ 31) ∧ s.isIdleMaintence = false
  | _ => true

/-- A test that suffices for what a call must avoid. -/
def keepsTrustlistTest (s : NetworkStrategy × ConditionType) : FirewallCall → Bool
  | .handleEvent q message => (∀ process ∈ q.runningProcesses.getD [],
      -2 ^ 31 ≤ process.uid ∧ process.uid < 2 ^ 31) ∧ s.1.handlesInStepTest message
  | .onCreated | .onDestroy => !s.1.isFirewallEnabled

/-- The test for a message suffices. -/
theorem handlesInStep_of_test (scfg : StrategyConfig) (q : Queries) {message : StandbyMessage}
    (h : s.handlesInStepTest message = true) :
    message.WellTyped ∧ HandlesInStep scfg q s message := by
  cases message with
  | resCtrlConditionChanged =>
    refine ⟨trivial, fun henabled => ?_⟩
    simp [handlesInStepTest, henabled] at h
  | phaseTransit =>
    refine ⟨trivial, fun _ _ hdisabled _ => ?_⟩
    have hempty : s.trustlist = ∅ := by simpa [handlesInStepTest, hdisabled] using h
    rw [hempty]
    exact Finset.empty_subset _
  | stateTransit preState curState =>
    have hsub : s.isFirewallEnabled = false → s.trustlist = ∅ := fun hdisabled => by
      simpa [handlesInStepTest, hdisabled] using h
    refine ⟨trivial, ?_⟩
    cases preState with
    | maintenance =>
      cases curState with
      | sleep =>
        intro hdisabled
        rw [hsub hdisabled]
        exact Finset.empty_subset _
      | _ => trivial
    | _ => trivial
  | allowListChanged => cases h
  | bgTaskStatusChange type started uid =>
    obtain ⟨huid, hmem, hidle⟩ := of_decide_eq_true h
    refine ⟨huid, fun _ flag _ => ?_⟩
    cases started with
    | true => exact fun _ => .inl hmem
    | false =>
      intro hmaint
      rw [hidle] at hmaint
      cases hmaint
  | processStateChanged uid pid name isCreated =>
    obtain ⟨huid, hidle⟩ := of_decide_eq_true h
    refine ⟨huid, ?_⟩
    cases isCreated with
    | true => trivial
    | false =>
      intro _ hmaint
      rw [hidle] at hmaint
      cases hmaint
  | _ => exact ⟨trivial, trivial⟩

/-- The test for a call suffices. -/
theorem keepsTrustlist_of_test (scfg : StrategyConfig) (s : NetworkStrategy × ConditionType)
    (call : FirewallCall) (h : keepsTrustlistTest s call = true) : KeepsTrustlist scfg s call := by
  cases call with
  | handleEvent q message =>
    obtain ⟨hprocesses, h⟩ := of_decide_eq_true h
    obtain ⟨hmessage, hok⟩ := handlesInStep_of_test scfg q h
    refine ⟨⟨hmessage, fun processes heq process hmem => hprocesses process ?_⟩, hok⟩
    rw [heq]
    exact hmem
  | onCreated | onDestroy =>
    simp only [keepsTrustlistTest, Bool.not_eq_true'] at h
    exact h

/-- The firewall is enabled, a task of an app starts and ends, the process of another app is
created, and a maintenance window passes. -/
theorem trustlist_eq_of_sampleCalls : ∃ s,
    Lts.Reachable (firewallSystem sampleStrategies .dayStandby) s ∧
      s.1.trustlist = {10} ∧ s.1.policy = true ∧
      NetLimitedApps.exemptedUids s.2 s.1.netLimitedAppInfo = {10} := by
  obtain ⟨s, hr, hs⟩ := (firewallSystem sampleStrategies .dayStandby).exists_check
    (KeepsTrustlist sampleStrategies) keepsTrustlistTest (keepsTrustlist_of_test sampleStrategies)
    (fun s => s.1.isFirewallEnabled ∧
      NetLimitedApps.exemptedUids s.2 s.1.netLimitedAppInfo = {10})
    [.onCreated, .handleEvent sampleQueries (.phaseTransit .sleep 0 1),
      .handleEvent sampleQueries (.bgTaskStatusChange "transient_task" true 10 "app" 0),
      .handleEvent sampleQueries (.processStateChanged 11 8 "other" true),
      .handleEvent sampleQueries (.stateTransit .sleep .maintenance),
      .handleEvent sampleQueries (.stateTransit .maintenance .sleep)]
    (by decide)
  obtain ⟨henabled, hexempted⟩ := of_decide_eq_true hs
  obtain ⟨hpolicy, htrust, -⟩ := trustlist_eq_of_keepsTrustlist hr
  exact ⟨s, hr.reachable, (htrust henabled).trans hexempted, hpolicy.1 henabled, hexempted⟩

/-- Not in every run: a strategy that is destroyed while the firewall is enabled switches the policy
off and keeps the firewall enabled. -/
theorem enabled_after_destroy : ¬ ∀ (scfg : StrategyConfig) (condition : ConditionType)
    (s : NetworkStrategy × ConditionType), Lts.Reachable (firewallSystem scfg condition) s →
      (s.1.isFirewallEnabled = true ↔ s.1.policy = true) ∧
      (s.1.isFirewallEnabled = true →
        s.1.trustlist = NetLimitedApps.exemptedUids s.2 s.1.netLimitedAppInfo) ∧
      (s.1.isFirewallEnabled = false → s.1.isIdleMaintence = false → s.1.trustlist = ∅) := by
  intro h
  obtain ⟨s, hr, henabled, hpolicy⟩ := (firewallSystem sampleStrategies .dayStandby).exists_run
    [.handleEvent sampleQueries (.phaseTransit .sleep 0 1), .onDestroy]
    (Lts.System.runMeets_of_forall (fun _ _ => True) fun _ _ _ => trivial)
    (fun s => s.1.isFirewallEnabled = true ∧ s.1.policy = false) (by decide)
  rw [(h _ _ s hr).1.1 henabled] at hpolicy
  cases hpolicy

end NetworkStrategy

end DeviceStandby
