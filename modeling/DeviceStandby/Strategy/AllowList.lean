import DeviceStandby.Allow.Query
import DeviceStandby.Strategy.Rebuild

/-!
# The names that the strategies get from the allow list

A strategy learns from the service which names are allowed, and which of the names that the
configuration restricts are not. The record of the running lock strategy is given both lists twice:
when it is built, for every app, and when the process of another app is created, for that app. The
second function asks for the lists of the network, so the two agree exactly when these say the same
of the name (`createdAsRunning_iff`).
-/

namespace DeviceStandby

open ExemptionTypeFlag AssocMap BitMask

/-- The number of a condition. -/
def ConditionType.mask : ConditionType → BitVec 32
  | .dayStandby => 1
  | .nightStandby => 2

/-- The name of an allow type. -/
def AllowType.typeName (t : AllowType) : String :=
  allowTypeName.getD t.index ""

namespace AllowService
variable (resourceConfig : ResourceConfigMap) (s : AllowService) (condition : ConditionType)

/-- The names of the list that `GetAllowListInner` gives a strategy. -/
def allowNameList (t : AllowType) : List String :=
  (s.getAllowListInner resourceConfig t.mask REASON_APP_API condition.mask).map (·.name)

/-- `StandbyServiceImpl::GetEligiableRestrictSet`, for REASON_APP_API. -/
def getEligiableRestrictSet (t : AllowType) (strategyName : String) : List String :=
  let originRestrictSet :=
    resourceConfig.getEligiblePersistAllowConfig strategyName condition.mask false true
  originRestrictSet.filter (· ∉ s.allowNameList resourceConfig condition t)

/-- What a strategy is answered: the lists are those of the service. -/
def answers (q : Queries) : Queries :=
  { q with
    allowNameList := s.allowNameList resourceConfig condition
    restrictSet := fun t => s.getEligiableRestrictSet resourceConfig condition t t.typeName
    condition := condition }

end AllowService

/-! ## Which names are allowed -/

/-- The allowance of a record for a type is one that a strategy is told of. -/
def AllowRecord.Allows (curTime : Int) (t : AllowType) (record : AllowRecord) : Prop :=
  record.reasonCode = REASON_APP_API ∧ record.allowType.getLsbD t.index = true ∧
    ∃ e, record.endTime? t.index = some e ∧ curTime < e

/-- The configuration lists an app for a type: as always allowed, or as restricted. -/
def ResourceConfigMap.Lists (resourceConfig : ResourceConfigMap) (condition : ConditionType)
    (isAllow : Bool) (t : AllowType) (name : String) : Prop :=
  ∃ configs, resourceConfig t.typeName = some configs ∧ ∃ config ∈ configs,
    config.isAllow = isAllow ∧ config.isEligible condition.mask = true ∧ name ∈ config.apps

/-- A name is allowed: by a record, whatever uid it is for, or by the configuration. -/
def AllowService.IsAllowed (resourceConfig : ResourceConfigMap) (s : AllowService)
    (condition : ConditionType) (t : AllowType) (name : String) : Prop :=
  (∃ key record, s.allowInfoMap.lookup key = some record ∧ record.name = name ∧
    record.Allows s.bootTime t) ∨ resourceConfig.Lists condition true t name

section
variable {resourceConfig : ResourceConfigMap} {s : AllowService} {condition : ConditionType}
  {t : AllowType} {name : String} {record : AllowRecord} {curTime : Int} {k : Nat}

/-- The bits of the allow types lie in the mask. -/
theorem AllowType.index_lt (t : AllowType) : t.index < MAX_ALLOW_TYPE_NUM := by
  cases t <;> decide

/-- The number of a type has the bit of the type and no other. -/
theorem AllowType.mask_and_eq_zero_iff : t.mask &&& BitVec.twoPow 32 k = 0 ↔ k ≠ t.index := by
  have hmask : t.mask = BitVec.twoPow 32 t.index := rfl
  have hindex : t.index < 32 := lt_trans t.index_lt (by decide)
  rw [and_twoPow_eq_zero_iff, hmask, BitVec.getLsbD_twoPow, decide_eq_true hindex, Bool.true_and,
    decide_eq_false_iff_not, ne_comm, Ne]

/-- A query for one type lists the allowances of that type. -/
theorem AllowService.getAllowListInner_mask (reasonCode : Nat) (condition : BitVec 32) :
    s.getAllowListInner resourceConfig t.mask reasonCode condition =
      s.getTemporaryAllowList t.index reasonCode ++ AllowService.getPersistAllowList resourceConfig
        t.index true (reasonCode == REASON_APP_API) condition := by
  have hone : ∀ (f : Nat → List AllowInfo) (n : Nat), t.index < n →
      ((List.range n).flatMap fun k => if k ≠ t.index then [] else f k) = f t.index := by
    intro f n hn
    induction n with
    | zero => omega
    | succ n ih =>
      rw [List.range_succ, List.flatMap_append, List.flatMap_singleton]
      by_cases hlast : t.index = n
      · have hbefore : ((List.range n).flatMap fun k => if k ≠ t.index then [] else f k) = [] := by
          rw [List.flatMap_eq_nil_iff]
          intro k hk
          rw [if_pos (by rw [List.mem_range] at hk; omega)]
        rw [hbefore, List.nil_append, if_neg (not_not.2 hlast.symm), hlast]
      · rw [ih (by omega), if_pos (fun h => hlast h.symm), List.append_nil]
  rw [AllowService.getAllowListInner]
  simp only [AllowType.mask_and_eq_zero_iff]
  exact hone _ MAX_ALLOW_TYPE_NUM t.index_lt

/-- A record's allowance is in the list of a type when it allows the type. -/
theorem temporaryAllowInfo_name_iff :
    (AllowService.temporaryAllowInfo t.index REASON_APP_API curTime record).map (·.name) =
        some name ↔
      record.name = name ∧ record.Allows curTime t := by
  unfold AllowService.temporaryAllowInfo AllowRecord.Allows
  rw [AllowRecord.endTime?, endTimeOf?]
  simp only [and_twoPow_eq_zero_iff]
  by_cases hbit : record.allowType.getLsbD t.index = false
  · simp [hbit]
  · by_cases hreason : record.reasonCode = REASON_APP_API
    · rw [if_neg hbit, if_neg (not_not.2 hreason)]
      cases hfind : record.allowTimeList.find? fun time => time.allowTypeIndex == t.index with
      | none => simp
      | some time =>
        have hlive : max (time.endTime - curTime) 0 > 0 ↔ curTime < time.endTime := by omega
        simp only [hlive, Option.map_some, Option.some.injEq, exists_eq_left', hreason, true_and,
          Bool.not_eq_false] at hbit ⊢
        split_ifs with h
        · simp [AllowInfo.mk', hbit, h]
        · simp [h]
    · rw [if_neg hbit, if_pos hreason]
      simp [hreason]

/-- A strategy is told of exactly the names that are allowed. -/
theorem AllowService.mem_allowNameList :
    name ∈ s.allowNameList resourceConfig condition t ↔
      s.IsAllowed resourceConfig condition t name := by
  rw [AllowService.allowNameList, AllowService.getAllowListInner_mask, List.map_append,
    List.mem_append]
  refine or_congr ?_ ?_
  · rw [AllowService.getTemporaryAllowList, List.map_filterMap, List.mem_filterMap]
    simp only [temporaryAllowInfo_name_iff, Map.mem_values]
    constructor
    · rintro ⟨record, ⟨key, hlookup⟩, hname, hallows⟩
      exact ⟨key, record, hlookup, hname, hallows⟩
    · rintro ⟨key, record, hlookup, hname, hallows⟩
      exact ⟨record, ⟨key, hlookup⟩, hname, hallows⟩
  · have hnames : (AllowService.getPersistAllowList resourceConfig t.index true
        (REASON_APP_API == REASON_APP_API) condition.mask).map (·.name) =
          resourceConfig.getEligiblePersistAllowConfig t.typeName condition.mask true true := by
      rw [AllowService.getPersistAllowList, List.map_map]
      exact List.map_id _
    rw [hnames, mem_getEligiblePersistAllowConfig]
    rfl

/-- A name is restricted when the configuration says so and the name is not allowed. -/
theorem AllowService.mem_getEligiableRestrictSet :
    name ∈ s.getEligiableRestrictSet resourceConfig condition t t.typeName ↔
      resourceConfig.Lists condition false t name ∧
        ¬ s.IsAllowed resourceConfig condition t name := by
  rw [AllowService.getEligiableRestrictSet, List.mem_filter, decide_eq_true_eq,
    AllowService.mem_allowNameList, mem_getEligiblePersistAllowConfig]
  rfl

end

/-! ## The exemptions of a created app -/

/-- The exemption and the restriction of the configuration in a flag. -/
def exemptionBits (flag : ExemptionFlag) : ExemptionFlag :=
  flag &&& (EXEMPTION ||| RESTRICTED)

/-- The app of a created process is exempted and restricted like the app of its name in a record
that is built at that time. -/
def CreatedAsRunning (resourceConfig : ResourceConfigMap) (s : AllowService)
    (condition : ConditionType) (name : String) : Prop :=
  ∀ (platform : Queries) (built r : ProxyRecord) (key : String) (value : ProxiedProcInfo)
    (uid pid : Int),
    let q := s.answers resourceConfig condition platform
    let createdKey := mapKey (toUInt32 uid) name
    ProxyRecord.initProxiedAppInfo q = some built →
    built.proxiedAppInfo.lookup key = some value → value.name = name →
    r.proxiedAppInfo.lookup createdKey = none →
      ∃ created, (r.getAndCreateAppInfo q uid pid name).proxiedAppInfo.lookup createdKey =
          some created ∧
        exemptionBits created.appExemptionFlag = exemptionBits value.appExemptionFlag

section
variable {resourceConfig : ResourceConfigMap} {s : AllowService} {condition : ConditionType}
  {name : String} {q : Queries} {flag flag' : ExemptionFlag} {p r p' r' : Prop} [Decidable p]
  [Decidable r] [Decidable p'] [Decidable r']

/-- The bits of flags that are set together. -/
theorem exemptionBits_or :
    exemptionBits (flag ||| flag') = exemptionBits flag ||| exemptionBits flag' := by
  rw [exemptionBits, BitVec.and_comm, BitVec.and_or_distrib_left, BitVec.and_comm,
    BitVec.and_comm _ flag']
  rfl

/-- The bits of a flag that is set under a condition. -/
theorem exemptionBits_flagIf : exemptionBits (flagIf p flag) = flagIf p (exemptionBits flag) := by
  unfold flagIf
  split_ifs <;> rfl

/-- No flag is set under any condition. -/
theorem flagIf_zero : flagIf p 0 = 0 := by
  unfold flagIf
  split_ifs <;> rfl

/-- What the platform reports of an app neither exempts nor restricts it by the configuration. -/
theorem exemptionBits_platformFlag (key : String) :
    exemptionBits (ProxyRecord.platformFlag q key) = 0 := by
  simp only [ProxyRecord.platformFlag, exemptionBits_or, exemptionBits_flagIf]
  have hnone : exemptionBits UNRESTRICTED = 0 ∧ exemptionBits FOREGROUND_APP = 0 ∧
      exemptionBits CONTINUOUS_TASK = 0 ∧ exemptionBits TRANSIENT_TASK = 0 ∧
      exemptionBits WORK_SCHEDULER = 0 := by decide
  obtain ⟨h1, h2, h3, h4, h5⟩ := hnone
  simp only [h1, h2, h3, h4, h5, flagIf_zero]
  rfl

/-- The two bits tell the exemption from the restriction. -/
theorem exemptionBits_flags_inj :
    exemptionBits (flagIf p EXEMPTION ||| flagIf r RESTRICTED) =
        exemptionBits (flagIf p' EXEMPTION ||| flagIf r' RESTRICTED) ↔
      (p ↔ p') ∧ (r ↔ r') := by
  unfold flagIf
  by_cases hp : p <;> by_cases hr : r <;> by_cases hp' : p' <;> by_cases hr' : r' <;>
    simp only [hp, hr, hp', hr', if_true, if_false, iff_true, iff_false, not_true_eq_false,
      and_true, and_false] <;>
    decide

/-- The bits of an app that is created are those of the lists for the network. -/
theorem exemptionBits_createdApp (uid pid : Int) :
    exemptionBits (ProxyRecord.createdApp q uid pid name).appExemptionFlag =
      exemptionBits (ProxyRecord.networkFlag q name) := by
  rw [ProxyRecord.createdApp, exemptionBits_or, exemptionBits_flagIf,
    show exemptionBits UNRESTRICTED = 0 from rfl, flagIf_zero]
  exact BitVec.zero_or

/-- The bits of an app that is rebuilt are those of the lists for the running locks. -/
theorem exemptionBits_appOf (info : ApplicationInfo) :
    exemptionBits (ProxyRecord.appOf q info).appExemptionFlag =
      exemptionBits (ProxyRecord.configFlag q info.name) := by
  rw [ProxyRecord.appOf, exemptionBits_or, exemptionBits_platformFlag]
  exact BitVec.zero_or

/-- A platform on which one app runs. -/
def platformWith (name : String) : Queries where
  applicationInfos := some [⟨name, 0, false⟩]
  applicationInfosSpecial := []
  runningProcesses := some [⟨name, 0, 1⟩]
  foregroundApplications := some []
  continuousTaskApps := some []
  transientTaskApps := some []
  runningWorks := some []
  allowNameList := fun _ => []
  restrictSet := fun _ => []
  isSystemAppByUid := fun _ => false
  appRunningState := fun _ => none
  clientBundleName := fun _ => ""
  condition := .dayStandby

/-- The record that is built on that platform has the app. -/
theorem exists_initProxiedAppInfo (resourceConfig : ResourceConfigMap) (s : AllowService)
    (condition : ConditionType) (name : String) :
    let q := s.answers resourceConfig condition (platformWith name)
    ∃ built, ProxyRecord.initProxiedAppInfo q = some built ∧
      built.proxiedAppInfo.lookup (mapKey 0 name) =
        some (ProxyRecord.appOf q ⟨name, 0, false⟩) := by
  intro q
  obtain ⟨built, hbuilt⟩ : ∃ built, ProxyRecord.initProxiedAppInfo q = some built := ⟨_, rfl⟩
  refine ⟨built, hbuilt, ?_⟩
  rw [ProxyRecord.lookup_initProxiedAppInfo hbuilt]
  have hinfos : q.applicationInfos = some [⟨name, 0, false⟩] := rfl
  have hprocesses : q.runningProcesses = some [⟨name, 0, 1⟩] := rfl
  have hkey : ProxyRecord.keyOf ⟨name, 0, false⟩ = mapKey 0 name := rfl
  rw [hinfos, hprocesses, Option.getD_some, Option.getD_some, List.find?_singleton, hkey,
    if_pos (decide_eq_true rfl), Option.filter_some, if_pos (by simp), Option.map_some]

end

/-- For every allow list, configuration, condition and name: an app whose process is created gets
the exemption and the restriction that a built record gives it exactly when the name is allowed for
the network as it is for the running lock and, unless it is allowed, also restricted alike. -/
theorem createdAsRunning_iff (resourceConfig : ResourceConfigMap) (s : AllowService)
    (condition : ConditionType) (name : String) :
    CreatedAsRunning resourceConfig s condition name ↔
      (s.IsAllowed resourceConfig condition .network name ↔
        s.IsAllowed resourceConfig condition .runningLock name) ∧
      (¬ s.IsAllowed resourceConfig condition .runningLock name →
        (resourceConfig.Lists condition false .network name ↔
          resourceConfig.Lists condition false .runningLock name)) := by
  have hflags : ∀ platform, exemptionBits (ProxyRecord.networkFlag
      (s.answers resourceConfig condition platform) name) = exemptionBits (ProxyRecord.configFlag
        (s.answers resourceConfig condition platform) name) ↔
      (s.IsAllowed resourceConfig condition .network name ↔
        s.IsAllowed resourceConfig condition .runningLock name) ∧
      (¬ s.IsAllowed resourceConfig condition .runningLock name →
        (resourceConfig.Lists condition false .network name ↔
          resourceConfig.Lists condition false .runningLock name)) := by
    intro platform
    rw [ProxyRecord.networkFlag, ProxyRecord.configFlag, exemptionBits_flags_inj]
    dsimp only [AllowService.answers]
    simp only [AllowService.mem_allowNameList, AllowService.mem_getEligiableRestrictSet]
    refine and_congr_right fun hallowed => ?_
    rw [hallowed, and_congr_left_iff]
  constructor
  · intro h
    obtain ⟨built, hbuilt, hlookup⟩ := exists_initProxiedAppInfo resourceConfig s condition name
    obtain ⟨created, hcreated, hbits⟩ := h (platformWith name) built {} _ _ 0 1 hbuilt hlookup rfl
      (AList.lookup_empty _)
    rw [ProxyRecord.getAndCreateAppInfo_of_none (AList.lookup_empty _), AList.lookup_insert]
      at hcreated
    cases hcreated
    rw [exemptionBits_createdApp, exemptionBits_appOf] at hbits
    exact (hflags _).1 hbits
  · intro h platform built r key value uid pid q createdKey hbuilt hlookup hname hnone
    refine ⟨ProxyRecord.createdApp q uid pid name, ?_, ?_⟩
    · rw [ProxyRecord.getAndCreateAppInfo_of_none hnone, AList.lookup_insert]
    · rw [ProxyRecord.lookup_initProxiedAppInfo hbuilt] at hlookup
      obtain ⟨info, -, rfl⟩ := Option.map_eq_some_iff.1 hlookup
      cases hname
      rw [exemptionBits_createdApp, exemptionBits_appOf]
      exact (hflags platform).2 h

/-- An app that the configuration exempts from the restriction of the network. -/
def networkResourceConfig : ResourceConfigMap := fun paramName =>
  if paramName = "NETWORK" then some [{ conditions := [1], apps := ["app"] }] else none

/-- The running locks of that app are not proxied when its process is created. -/
theorem not_always_createdAsRunning :
    ¬ ∀ (resourceConfig : ResourceConfigMap) (s : AllowService) (condition : ConditionType)
      (name : String), CreatedAsRunning resourceConfig s condition name := by
  intro h
  obtain ⟨built, hbuilt, hlookup⟩ :=
    exists_initProxiedAppInfo networkResourceConfig {} .dayStandby "app"
  obtain ⟨created, hcreated, hbits⟩ := h networkResourceConfig {} .dayStandby "app"
    (platformWith "app") built {} _ _ 0 1 hbuilt hlookup rfl (AList.lookup_empty _)
  rw [ProxyRecord.getAndCreateAppInfo_of_none (AList.lookup_empty _), AList.lookup_insert]
    at hcreated
  cases hcreated
  revert hbits
  decide +kernel

end DeviceStandby
