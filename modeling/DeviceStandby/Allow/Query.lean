import DeviceStandby.Allow.Grants

/-!
# Queries of the allow list

`GetAllowList`: the temporary allowances with the time that remains, and the names that the
configuration always allows. The time that remains is handed over as an `int32_t`, so a query
reports what it should exactly when no requested allowance lasts for another 2 ^ 31 milliseconds
(`getAllowListInner_eq_iff`).
-/

open AssocMap BitMask Json

namespace DeviceStandby

/-- `AllowInfo`. -/
structure AllowInfo where
  allowType : BitVec 32 := 0
  name : String := ""
  duration : Int := 0
  deriving DecidableEq, Repr

/-- The constructor of `AllowInfo`: the duration is an `int32_t`. -/
def AllowInfo.mk' (allowType : BitVec 32) (name : String) (duration : Int) : AllowInfo where
  allowType := allowType
  name := name
  duration := toInt32 duration

/-- What is written into a parcel. -/
inductive ParcelValue where
  | uint32 (value : BitVec 32)
  | string (value : String)
  | int32 (value : Int)

/-- `AllowInfo::Marshalling`. -/
def AllowInfo.marshalling (info : AllowInfo) : List ParcelValue :=
  [.uint32 info.allowType, .string info.name, .int32 info.duration]

/-- `AllowInfo::ReadFromParcel`. -/
def AllowInfo.readFromParcel : List ParcelValue → Option AllowInfo
  | .uint32 allowType :: .string name :: .int32 duration :: _ =>
    some { allowType, name, duration }
  | _ => none

namespace AllowService
variable (resourceConfig : ResourceConfigMap)

/-- The body of the loop of `GetTemporaryAllowList`. -/
def temporaryAllowInfo (allowTypeIndex reasonCode : Nat) (curTime : Int) (record : AllowRecord) :
    Option AllowInfo :=
  if record.allowType &&& BitVec.twoPow 32 allowTypeIndex = 0 then none
  else if record.reasonCode ≠ reasonCode then none
  else
    match record.allowTimeList.find? fun time => time.allowTypeIndex == allowTypeIndex with
    | none => none
    | some time =>
      let duration := max (time.endTime - curTime) 0
      if duration > 0 then
        some (.mk' (BitVec.twoPow 32 allowTypeIndex) record.name duration)
      else none

/-- `StandbyServiceImpl::GetTemporaryAllowList`. The releases that it posts for what is over are
steps `unapply` of their own. -/
def getTemporaryAllowList (allowTypeIndex reasonCode : Nat) (s : AllowService) : List AllowInfo :=
  s.allowInfoMap.values.filterMap (temporaryAllowInfo allowTypeIndex reasonCode s.bootTime)

/-- `StandbyServiceImpl::GetPersistAllowList`. -/
def getPersistAllowList (allowTypeIndex : Nat) (isAllow isApp : Bool) (condition : BitVec 32) :
    List AllowInfo :=
  (resourceConfig.getEligiblePersistAllowConfig (allowTypeName.getD allowTypeIndex "") condition
    isAllow isApp).map fun allowName => .mk' (BitVec.twoPow 32 allowTypeIndex) allowName (-1)

/-- `StandbyServiceImpl::GetAllowListInner`. -/
def getAllowListInner (allowType : BitVec 32) (reasonCode : Nat) (condition : BitVec 32)
    (s : AllowService) : List AllowInfo :=
  (List.range MAX_ALLOW_TYPE_NUM).flatMap fun allowTypeIndex =>
    if allowType &&& BitVec.twoPow 32 allowTypeIndex = 0 then []
    else s.getTemporaryAllowList allowTypeIndex reasonCode ++
      getPersistAllowList resourceConfig allowTypeIndex true (reasonCode == REASON_APP_API)
        condition

/-- `StandbyServiceImpl::GetAllowList`. -/
def getAllowList (caller : Caller) (allowType : BitVec 32) (reasonCode : Nat)
    (condition : BitVec 32) (s : AllowService) : Except StandbyError (List AllowInfo) := do
  if ¬ s.isServiceReady then throw .ERR_STANDBY_SYS_NOT_READY
  caller.checkCallerPermission reasonCode
  if ¬ checkAllowTypeInfo allowType then throw .ERR_RESOURCE_TYPES_INVALID
  return s.getAllowListInner resourceConfig allowType reasonCode condition

end AllowService

/-! ## What a query should report -/

/-- The temporary allowance of a record for a type, with the time that remains of it. -/
def remainingInfo (k reasonCode : Nat) (curTime : Int) (record : AllowRecord) : Option AllowInfo :=
  if record.reasonCode = reasonCode then
    (record.endTime? k).bind fun e =>
      if curTime < e then some ⟨BitVec.twoPow 32 k, record.name, e - curTime⟩ else none
  else none

/-- The allowances of a type: the temporary ones of the records, and those of the configuration,
which have no end. -/
def allowancesOf (resourceConfig : ResourceConfigMap) (k reasonCode : Nat) (condition : BitVec 32)
    (s : AllowService) : List AllowInfo :=
  s.allowInfoMap.values.filterMap (remainingInfo k reasonCode s.bootTime) ++
    (resourceConfig.getEligiblePersistAllowConfig (allowTypeName.getD k "") condition true
      (reasonCode == REASON_APP_API)).map fun name => ⟨BitVec.twoPow 32 k, name, -1⟩

/-- The allowances of the requested types. -/
def requestedAllowances (resourceConfig : ResourceConfigMap) (allowType : BitVec 32)
    (reasonCode : Nat) (condition : BitVec 32) (s : AllowService) : List AllowInfo :=
  (List.range MAX_ALLOW_TYPE_NUM).flatMap fun k =>
    if allowType.getLsbD k then allowancesOf resourceConfig k reasonCode condition s else []

section
variable {resourceConfig : ResourceConfigMap} {s : AllowService} {allowType condition : BitVec 32}
  {reasonCode k : Nat} {curTime : Int} {record : AllowRecord} {info : AllowInfo}

/-- What was marshalled is read back. -/
theorem readFromParcel_marshalling : AllowInfo.readFromParcel info.marshalling = some info := rfl

/-- The duration that `AllowInfo` keeps of an allowance. -/
def AllowInfo.narrow (info : AllowInfo) : AllowInfo :=
  { info with duration := toInt32 info.duration }

/-- `GetTemporaryAllowList` narrows what remains of an entry. -/
theorem temporaryAllowInfo_eq (h : record.WellFormed) (hk : k < MAX_ALLOW_TYPE_NUM) :
    AllowService.temporaryAllowInfo k reasonCode curTime record =
      (remainingInfo k reasonCode curTime record).map AllowInfo.narrow := by
  unfold AllowService.temporaryAllowInfo remainingInfo
  rw [AllowRecord.endTime?, endTimeOf?]
  cases hfind : record.allowTimeList.find? fun time => time.allowTypeIndex == k with
  | none =>
    rw [Option.map_none, Option.bind_none]
    split_ifs <;> rfl
  | some time =>
    have hindex : (time.allowTypeIndex == k) = true :=
      List.find?_some (p := fun time : AllowTime => time.allowTypeIndex == k) hfind
    have hmem : k ∈ timeIndices record.allowTimeList :=
      beq_iff_eq.1 hindex ▸ List.mem_map_of_mem (List.mem_of_find?_eq_some hfind)
    have hbit : record.allowType &&& BitVec.twoPow 32 k ≠ 0 := by
      rw [Ne, and_twoPow_eq_zero_iff, Bool.not_eq_false, h.mask, getLsbD_maskOf]
      exact ⟨lt_trans hk (by decide), hmem⟩
    rw [if_neg hbit, Option.map_some, Option.bind_some]
    by_cases hreason : record.reasonCode = reasonCode
    · rw [if_neg (not_not.2 hreason), if_pos hreason]
      by_cases hlive : curTime < time.endTime
      · have hmax : max (time.endTime - curTime) 0 = time.endTime - curTime := by omega
        rw [if_pos hlive]
        simp only [hmax]
        rw [if_pos (by omega)]
        rfl
      · have hmax : max (time.endTime - curTime) 0 = 0 := by omega
        rw [if_neg hlive]
        simp only [hmax]
        rfl
    · rw [if_pos hreason, if_neg hreason]
      rfl

/-- A query reports every allowance, its duration cut to size. -/
theorem getAllowListInner_eq (h : s.allowInfoMap.WellKept) :
    s.getAllowListInner resourceConfig allowType reasonCode condition =
      (requestedAllowances resourceConfig allowType reasonCode condition s).map
        AllowInfo.narrow := by
  have htype : ∀ k, k < MAX_ALLOW_TYPE_NUM →
      s.getTemporaryAllowList k reasonCode ++ AllowService.getPersistAllowList resourceConfig k true
        (reasonCode == REASON_APP_API) condition =
      (allowancesOf resourceConfig k reasonCode condition s).map AllowInfo.narrow := by
    intro k hk
    rw [allowancesOf, List.map_append, AllowService.getPersistAllowList, List.map_map]
    congr 1
    rw [AllowService.getTemporaryAllowList, List.map_filterMap]
    refine List.filterMap_congr fun record hrecord => ?_
    obtain ⟨key, hlookup⟩ := Map.mem_values.1 hrecord
    exact temporaryAllowInfo_eq (h key record hlookup).wellFormed hk
  rw [requestedAllowances, List.map_flatMap, AllowService.getAllowListInner]
  refine List.flatMap_congr fun k hk => ?_
  rw [apply_ite (List.map AllowInfo.narrow), ← htype k (List.mem_range.1 hk)]
  simp only [and_twoPow_eq_zero_iff]
  cases allowType.getLsbD k <;> rfl

/-- The configuration always allows a name for a type when one of its eligible entries lists it. -/
theorem mem_getEligiblePersistAllowConfig {paramName name : String} {isAllow isApp : Bool} :
    name ∈ resourceConfig.getEligiblePersistAllowConfig paramName condition isAllow isApp ↔
      ∃ configs, resourceConfig paramName = some configs ∧ ∃ config ∈ configs,
        config.isAllow = isAllow ∧ config.isEligible condition = true ∧
          name ∈ if isApp then config.apps else config.processes := by
  rw [ResourceConfigMap.getEligiblePersistAllowConfig, ResourceConfigMap.getEligibleAllowConfig]
  cases resourceConfig paramName with
  | none => simp
  | some configs =>
    have hkeys := OrderedSet.mem_keys_foldl_insertRange id
      (fun config : DefaultResourceConfig => if isApp then config.apps else config.processes)
      (configs.filter fun config => config.isAllow == isAllow && config.isEligible condition) []
      (k := name)
    simp only [List.map_id, List.not_mem_nil, false_or, List.mem_filter, Bool.and_eq_true,
      beq_iff_eq] at hkeys
    simp only [hkeys, Option.some.injEq, exists_eq_left', and_assoc]

/-- No name of the configuration is listed twice. -/
theorem nodup_getEligiblePersistAllowConfig {paramName : String} {isAllow isApp : Bool} :
    (resourceConfig.getEligiblePersistAllowConfig paramName condition isAllow isApp).Nodup := by
  rw [ResourceConfigMap.getEligiblePersistAllowConfig, ResourceConfigMap.getEligibleAllowConfig]
  cases resourceConfig paramName with
  | none => exact List.nodup_nil
  | some configs =>
    have hsorted : OrderedSet.Sorted id ([] : List String) := List.Pairwise.nil
    have hnodup := (hsorted.foldl_insertRange
      (fun config : DefaultResourceConfig => if isApp then config.apps else config.processes)
      (configs.filter fun config => config.isAllow == isAllow &&
        config.isEligible condition)).nodup_keys
    rwa [List.map_id] at hnodup

/-- The allowances of a query are those of the types it asks for. -/
theorem mem_requestedAllowances :
    info ∈ requestedAllowances resourceConfig allowType reasonCode condition s ↔
      ∃ k, k < MAX_ALLOW_TYPE_NUM ∧ allowType.getLsbD k = true ∧
        info ∈ allowancesOf resourceConfig k reasonCode condition s := by
  rw [requestedAllowances, List.mem_flatMap]
  constructor
  · rintro ⟨k, hk, hmem⟩
    split_ifs at hmem with hbit
    · exact ⟨k, List.mem_range.1 hk, hbit, hmem⟩
    · cases hmem
  · rintro ⟨k, hk, hbit, hmem⟩
    exact ⟨k, List.mem_range.2 hk, by rwa [if_pos hbit]⟩

/-- The allowances of a type are those that a record grants until later than now, and those of the
configuration. -/
theorem mem_allowancesOf :
    info ∈ allowancesOf resourceConfig k reasonCode condition s ↔
      (∃ key record e, s.allowInfoMap.lookup key = some record ∧ record.reasonCode = reasonCode ∧
        record.endTime? k = some e ∧ s.bootTime < e ∧
          info = ⟨BitVec.twoPow 32 k, record.name, e - s.bootTime⟩) ∨
      ∃ name ∈ resourceConfig.getEligiblePersistAllowConfig (allowTypeName.getD k "") condition true
        (reasonCode == REASON_APP_API), info = ⟨BitVec.twoPow 32 k, name, -1⟩ := by
  rw [allowancesOf, List.mem_append]
  refine or_congr ?_ ?_
  · constructor
    · intro htemporary
      obtain ⟨record, hrecord, hremaining⟩ := List.mem_filterMap.1 htemporary
      obtain ⟨key, hlookup⟩ := Map.mem_values.1 hrecord
      rw [remainingInfo] at hremaining
      split_ifs at hremaining with hreason
      obtain ⟨e, he, hremaining⟩ := Option.bind_eq_some_iff.1 hremaining
      split_ifs at hremaining with hlive
      cases hremaining
      exact ⟨key, record, e, hlookup, hreason, he, hlive, rfl⟩
    · rintro ⟨key, record, e, hlookup, hreason, he, hlive, rfl⟩
      refine List.mem_filterMap.2 ⟨record, Map.mem_values.2 ⟨key, hlookup⟩, ?_⟩
      rw [remainingInfo, if_pos hreason, he, Option.bind_some, if_pos hlive]
  · rw [List.mem_map]
    exact exists_congr fun name => and_congr_right fun _ => eq_comm

/-- Allowances are as long as they are reported when none of them is too long. -/
theorem map_narrow_eq_self {infos : List AllowInfo} :
    infos.map AllowInfo.narrow = infos ↔ ∀ info ∈ infos, toInt32 info.duration = info.duration := by
  induction infos with
  | nil => simp
  | cons info infos ih =>
    rw [List.map_cons, List.cons.injEq, ih, List.forall_mem_cons]
    refine and_congr_left fun _ => ?_
    constructor
    · exact fun h => congrArg AllowInfo.duration h
    · intro h
      rw [AllowInfo.narrow, h]

end

/-- A query reports the requested allowances exactly when no temporary one of them ends 2 ^ 31
milliseconds or more from now. The allowances without end are the names that the configuration
lists, each once. -/
theorem getAllowListInner_eq_iff (resourceConfig : ResourceConfigMap) {s : AllowService}
    (h : s.allowInfoMap.WellKept) (allowType : BitVec 32) (reasonCode : Nat)
    (condition : BitVec 32) :
    ((s.getAllowListInner resourceConfig allowType reasonCode condition).map
        (fun info => AllowInfo.readFromParcel info.marshalling) =
      (requestedAllowances resourceConfig allowType reasonCode condition s).map some ↔
      ∀ k < MAX_ALLOW_TYPE_NUM, allowType.getLsbD k = true →
        ∀ key record, s.allowInfoMap.lookup key = some record → record.reasonCode = reasonCode →
          ∀ time ∈ record.allowTimeList, time.allowTypeIndex = k → s.bootTime < time.endTime →
            time.endTime - s.bootTime < 2 ^ 31) ∧
    ∀ paramName isApp,
      (resourceConfig.getEligiblePersistAllowConfig paramName condition true isApp).Nodup ∧
      ∀ name, name ∈ resourceConfig.getEligiblePersistAllowConfig paramName condition true isApp ↔
        ∃ configs, resourceConfig paramName = some configs ∧ ∃ config ∈ configs,
          config.isAllow = true ∧ config.isEligible condition = true ∧
            name ∈ if isApp then config.apps else config.processes := by
  refine ⟨?_, fun paramName isApp => ⟨nodup_getEligiblePersistAllowConfig,
    fun name => mem_getEligiblePersistAllowConfig⟩⟩
  have hread : (s.getAllowListInner resourceConfig allowType reasonCode condition).map
      (fun info => AllowInfo.readFromParcel info.marshalling) =
        (s.getAllowListInner resourceConfig allowType reasonCode condition).map some :=
    List.map_congr_left fun _ _ => readFromParcel_marshalling
  rw [hread, List.map_inj_right fun _ _ => Option.some.inj, getAllowListInner_eq h,
    map_narrow_eq_self]
  constructor
  · intro hall k hk hbit key record hlookup hreason time htime hindex hlive
    have hend : record.endTime? k = some time.endTime :=
      hindex ▸ endTimeOf?_of_mem (h key record hlookup).wellFormed.nodup htime
    have hinfo := hall ⟨BitVec.twoPow 32 k, record.name, time.endTime - s.bootTime⟩
      (mem_requestedAllowances.2 ⟨k, hk, hbit, mem_allowancesOf.2
        (.inl ⟨key, record, time.endTime, hlookup, hreason, hend, hlive, rfl⟩)⟩)
    exact (toInt32_eq_iff (by omega)).1 hinfo
  · intro hshort info hinfo
    obtain ⟨k, hk, hbit, hmem⟩ := mem_requestedAllowances.1 hinfo
    rcases mem_allowancesOf.1 hmem with
      ⟨key, record, e, hlookup, hreason, he, hlive, rfl⟩ | ⟨name, -, rfl⟩
    · obtain ⟨time, htime, hindex, rfl⟩ := exists_of_endTimeOf? he
      exact (toInt32_eq_iff (by dsimp only; omega)).2
        (hshort k hk hbit key record hlookup hreason time htime hindex hlive)
    · have hpermanent : toInt32 (-1) = -1 := by decide
      exact hpermanent

/-- A query after the sample request. -/
theorem getAllowListInner_eq_iff_sample :
    let s := AllowService.applyAllowResInner sampleResourceConfig sampleRequest 100 1 {}
    (s.getAllowListInner sampleResourceConfig 127 0 1).map
        (fun info => AllowInfo.readFromParcel info.marshalling) =
      (requestedAllowances sampleResourceConfig 127 0 1 s).map some := by
  refine (getAllowListInner_eq_iff sampleResourceConfig
    (AllowService.wellKept_applyAllowResInner (s := {}) AllowInfoMap.wellKept_empty) 127 0 1).1.2 ?_
  intro k _ _ key record hlookup _ time htime _ _
  have hmem := Map.lookup_eq_some_iff.1 hlookup
  rw [sampleRecord_entries, List.mem_singleton] at hmem
  cases hmem
  have hall : ∀ time ∈ sampleRecord.allowTimeList, time.endTime - 0 < 2 ^ 31 := by decide
  exact hall time htime

/-- A query does not report an allowance that ends too far from now. -/
theorem getAllowListInner_wraps :
    ¬ ∀ (resourceConfig : ResourceConfigMap) (s : AllowService), s.allowInfoMap.WellKept →
      ∀ (allowType : BitVec 32) (reasonCode : Nat) (condition : BitVec 32),
        (s.getAllowListInner resourceConfig allowType reasonCode condition).map
            (fun info => AllowInfo.readFromParcel info.marshalling) =
          (requestedAllowances resourceConfig allowType reasonCode condition s).map some := by
  intro h
  have hquery := h sampleResourceConfig
    (AllowService.applyAllowResInner sampleResourceConfig longRequest 100 1 {})
    (AllowService.wellKept_applyAllowResInner (s := {}) AllowInfoMap.wellKept_empty) 127 0 1
  revert hquery
  decide +kernel

end DeviceStandby
