import DeviceStandby.Core.Common
import DeviceStandby.Lib.BitMask
import DeviceStandby.Lib.OrderedSet
import Mathlib.Data.List.Nodup
import Mathlib.Data.String.Basic

/-!
# Allow records

What the allow list keeps for one app, the configuration that caps its durations, and the edits of
one record: extending the time of some types (`updateRecord`) and releasing some types
(`releaseTimes`). A record is read through `endTime?`, the end time of its live entry for a type;
`endTime?_updateRecord` and `endTime?_releaseTimes` say what the edits do to it, and
`AllowRecord.WellFormed` is the relation between the list and the mask that they keep.
-/

open BitMask

namespace DeviceStandby

/-- `AllowTypeName`, by the bits of the types. -/
def allowTypeName : List String :=
  ["NETWORK", "RUNNING_LOCK", "TIMER", "WORK_SCHEDULER", "AUTO_SYNC", "PUSH", "FREEZE"]

/-- `MAX_ALLOW_TYPE_NUM`. -/
abbrev MAX_ALLOW_TYPE_NUM : Nat := allowTypeName.length

/-- `MAX_ALLOW_TYPE_NUMBER`, the mask of all types. -/
abbrev MAX_ALLOW_TYPE_NUMBER : BitVec 32 := BitVec.twoPow 32 MAX_ALLOW_TYPE_NUM - 1

/-- `AllowTime`. -/
structure AllowTime where
  allowTypeIndex : Nat
  endTime : Int := 0
  reason : String := ""
  deriving DecidableEq, Repr

/-- `AllowRecord`. -/
structure AllowRecord where
  uid : Int := -1
  pid : Int := -1
  name : String := ""
  allowType : BitVec 32 := 0
  allowTimeList : List AllowTime := []
  reasonCode : Nat := 0
  deriving DecidableEq, Repr

/-- `ReasonCodeEnum::REASON_APP_API`, beside REASON_NATIVE_API, which is 0. -/
abbrev REASON_APP_API : Nat := 1

/-- `ResourceRequest`. -/
structure ResourceRequest where
  allowType : BitVec 32
  uid : Int
  name : String
  duration : Int
  reason : String := ""
  reasonCode : Nat := 0
  deriving DecidableEq, Repr

/-! ## Configured durations and names -/

/-- `TimeLtdProcess`. -/
structure TimeLtdProcess where
  name : String
  maxDurationLim : Int
  deriving DecidableEq, Repr

/-- `DefaultResourceConfig`. -/
structure DefaultResourceConfig where
  isAllow : Bool := true
  conditions : List (BitVec 32) := []
  processes : List String := []
  apps : List String := []
  timeLtdProcesses : List TimeLtdProcess := []
  timeLtdApps : List TimeLtdProcess := []

/-- `defaultResourceConfigMap_` of the configuration manager. -/
abbrev ResourceConfigMap := String → Option (List DefaultResourceConfig)

/-- One of the conditions of a configuration is met. -/
def DefaultResourceConfig.isEligible (condition : BitVec 32) (config : DefaultResourceConfig) :
    Bool :=
  config.conditions.any fun configCondition => condition &&& configCondition == configCondition

namespace ResourceConfigMap
variable (resourceConfig : ResourceConfigMap)

/-- `StandbyConfigManager::GetEligibleAllowConfig`, of what a configuration lists. -/
def getEligibleAllowConfig {α : Type} (key : α → String) (listed : DefaultResourceConfig → List α)
    (paramName : String) (condition : BitVec 32) (isAllow : Bool) : List α :=
  match resourceConfig paramName with
  | none => []
  | some configs =>
    (configs.filter fun config => config.isAllow == isAllow && config.isEligible condition).foldl
      (fun set config => OrderedSet.insertRange key set (listed config)) []

/-- `StandbyConfigManager::GetEligibleAllowTimeConfig`. -/
def getEligibleAllowTimeConfig (paramName : String) (condition : BitVec 32)
    (isAllow isApp : Bool) : List TimeLtdProcess :=
  resourceConfig.getEligibleAllowConfig TimeLtdProcess.name
    (fun config => if isApp then config.timeLtdApps else config.timeLtdProcesses)
    paramName condition isAllow

/-- `StandbyConfigManager::GetEligiblePersistAllowConfig`. -/
def getEligiblePersistAllowConfig (paramName : String) (condition : BitVec 32)
    (isAllow isApp : Bool) : List String :=
  resourceConfig.getEligibleAllowConfig id
    (fun config => if isApp then config.apps else config.processes) paramName condition isAllow

/-- `StandbyConfigManager::GetMaxDuration`. -/
def getMaxDuration (name paramName : String) (condition : BitVec 32) (isApp : Bool) : Int :=
  match (resourceConfig.getEligibleAllowTimeConfig paramName condition true isApp).find?
      (fun process => process.name == name) with
  | none => 0
  | some process => process.maxDurationLim

end ResourceConfigMap

/-! ## The edits of a record -/

/-- `reasonCode == REASON_APP_API`. -/
def isAppRequest (reasonCode : Nat) : Bool :=
  reasonCode == REASON_APP_API

/-- How long a request allows one type, in milliseconds: what it asks for, capped by the
configuration except for WORK_SCHEDULER. -/
def maxDuration (resourceConfig : ResourceConfigMap) (condition : BitVec 32)
    (request : ResourceRequest) (allowTypeIndex : Nat) : Int :=
  if BitVec.twoPow 32 allowTypeIndex ≠ AllowType.workScheduler.mask then
    min request.duration (resourceConfig.getMaxDuration request.name
      (allowTypeName.getD allowTypeIndex "") condition (isAppRequest request.reasonCode)) * 1000
  else
    request.duration * 1000

/-- The entry of a type is extended, or there is a new one at the end. -/
def extendTime (allowTypeIndex : Nat) (endTime : Int) (reason : String) :
    List AllowTime → List AllowTime
  | [] => [{ allowTypeIndex, endTime, reason }]
  | time :: times =>
    if time.allowTypeIndex = allowTypeIndex then
      { time with reason, endTime := max time.endTime endTime } :: times
    else time :: extendTime allowTypeIndex endTime reason times

/-- A release that the handler runs when its clock has reached `due`:
`UnapplyAllowResInner(uid, name, allowType, false)`. -/
structure ReleaseTask where
  uid : Int
  name : String
  allowType : BitVec 32
  due : Int
  deriving DecidableEq, Repr

/-- The release that `UpdateRecord` posts for a request. -/
def ResourceRequest.releaseTask (request : ResourceRequest) (due : Int) : ReleaseTask where
  uid := request.uid
  name := request.name
  allowType := request.allowType
  due := due

section
variable (resourceConfig : ResourceConfigMap) (condition : BitVec 32) (curTime handlerTime : Int)
  (request : ResourceRequest)

/-- The body of the loop of `UpdateRecord`: the record, and the tasks posted so far. -/
def updateType (acc : AllowRecord × List ReleaseTask) (allowTypeIndex : Nat) :
    AllowRecord × List ReleaseTask :=
  let allowNumber := request.allowType &&& BitVec.twoPow 32 allowTypeIndex
  if allowNumber = 0 then acc
  else
    let maxDuration := maxDuration resourceConfig condition request allowTypeIndex
    if maxDuration ≤ 0 then acc
    else
      ({ acc.1 with
          allowTimeList := extendTime allowTypeIndex (curTime + maxDuration) request.reason
            acc.1.allowTimeList
          allowType := acc.1.allowType ||| allowNumber },
        acc.2 ++ [request.releaseTask (handlerTime + maxDuration)])

/-- `StandbyServiceImpl::UpdateRecord`: the record, and the tasks it posts. -/
def updateRecord (record : AllowRecord) : AllowRecord × List ReleaseTask :=
  (List.range MAX_ALLOW_TYPE_NUM).foldl
    (updateType resourceConfig condition curTime handlerTime request) (record, [])

end

/-- The loop of `UnapplyAllowResInner`: the entries that stay, and the types of those erased. -/
def releaseTimes (allowType : BitVec 32) (removeAll : Bool) (curTime : Int) :
    List AllowTime → List AllowTime × BitVec 32
  | [] => ([], 0)
  | time :: times =>
    let (kept, removedNumber) := releaseTimes allowType removeAll curTime times
    let allowNumber := allowType &&& BitVec.twoPow 32 time.allowTypeIndex
    if allowNumber ≠ 0 ∧ (removeAll ∨ time.endTime ≤ curTime) then
      (kept, allowNumber ||| removedNumber)
    else (time :: kept, removedNumber)

/-! ## A record as the end times of its types -/

/-- The indices of the entries. -/
def timeIndices (times : List AllowTime) : List Nat :=
  times.map AllowTime.allowTypeIndex

/-- The end time of the entry of a type. -/
def endTimeOf? (k : Nat) (times : List AllowTime) : Option Int :=
  (times.find? fun time => time.allowTypeIndex == k).map AllowTime.endTime

/-- The end time of the live entry of a type. -/
def AllowRecord.endTime? (record : AllowRecord) (k : Nat) : Option Int :=
  endTimeOf? k record.allowTimeList

/-- The list has one entry a type, and the mask is that of its entries. -/
structure AllowRecord.WellFormed (record : AllowRecord) : Prop where
  nodup : (timeIndices record.allowTimeList).Nodup
  inRange : ∀ i ∈ timeIndices record.allowTimeList, i < MAX_ALLOW_TYPE_NUM
  mask : record.allowType = maskOf 32 (timeIndices record.allowTimeList)

section
variable {time : AllowTime} {times : List AllowTime} {k i : Nat} {e curTime handlerTime : Int}
  {reason : String} {allowType : BitVec 32} {removeAll : Bool} {record : AllowRecord}
  {resourceConfig : ResourceConfigMap} {condition : BitVec 32} {request : ResourceRequest}

/-- Without entries no type has an end time. -/
@[simp]
theorem endTimeOf?_nil : endTimeOf? k [] = none := rfl

/-- The first entry of a type counts. -/
theorem endTimeOf?_cons :
    endTimeOf? k (time :: times) =
      if time.allowTypeIndex = k then some time.endTime else endTimeOf? k times := by
  rw [endTimeOf?, List.find?_cons]
  by_cases h : time.allowTypeIndex = k
  · rw [if_pos h, beq_iff_eq.2 h]
    rfl
  · rw [if_neg h, beq_false_of_ne h]
    rfl

/-- A type has an end time when it has an entry. -/
theorem endTimeOf?_isSome : (endTimeOf? k times).isSome ↔ k ∈ timeIndices times := by
  induction times with
  | nil => simp [timeIndices]
  | cons time times ih =>
    rw [endTimeOf?_cons, timeIndices, List.map_cons, List.mem_cons]
    by_cases h : time.allowTypeIndex = k
    · simp [h]
    · rw [if_neg h, ih, timeIndices]
      exact ⟨.inr, fun hmem => hmem.resolve_left (Ne.symm h)⟩

/-- A type without an entry has no end time. -/
theorem endTimeOf?_eq_none : endTimeOf? k times = none ↔ k ∉ timeIndices times := by
  rw [← endTimeOf?_isSome, Option.not_isSome_iff_eq_none]

/-- With one entry a type, the end time of a type is that of its entry. -/
theorem endTimeOf?_of_mem (hnodup : (timeIndices times).Nodup) (h : time ∈ times) :
    endTimeOf? time.allowTypeIndex times = some time.endTime := by
  induction times with
  | nil => cases h
  | cons head times ih =>
    obtain ⟨hnotMem, hnodup⟩ := List.nodup_cons.1 hnodup
    rw [endTimeOf?_cons]
    rcases List.mem_cons.1 h with rfl | h
    · rw [if_pos rfl]
    · have hne : head.allowTypeIndex ≠ time.allowTypeIndex := fun heq =>
        hnotMem (heq ▸ List.mem_map_of_mem h)
      rw [if_neg hne, ih hnodup h]

/-- An end time is that of an entry. -/
theorem exists_of_endTimeOf? (h : endTimeOf? k times = some e) :
    ∃ time ∈ times, time.allowTypeIndex = k ∧ time.endTime = e := by
  obtain ⟨time, hfind, he⟩ := Option.map_eq_some_iff.1 h
  have hk : (time.allowTypeIndex == k) = true :=
    List.find?_some (p := fun time : AllowTime => time.allowTypeIndex == k) hfind
  exact ⟨time, List.mem_of_find?_eq_some hfind, beq_iff_eq.1 hk, he⟩

/-! ### Extending -/

/-- The later of an end time that may be missing and another one. -/
def laterEnd (old : Option Int) (e : Int) : Int :=
  (old.map (max · e)).getD e

/-- `extendTime` gives its type the later of the two end times. -/
theorem endTimeOf?_extendTime :
    endTimeOf? k (extendTime i e reason times) =
      if k = i then some (laterEnd (endTimeOf? i times) e) else endTimeOf? k times := by
  induction times with
  | nil =>
    rw [extendTime, endTimeOf?_cons]
    by_cases h : k = i
    · rw [if_pos h.symm, if_pos h]
      rfl
    · rw [if_neg (Ne.symm h), if_neg h]
  | cons time times ih =>
    rw [extendTime]
    by_cases ht : time.allowTypeIndex = i
    · rw [if_pos ht, endTimeOf?_cons, endTimeOf?_cons, endTimeOf?_cons, if_pos ht]
      by_cases h : k = i
      · rw [if_pos h, if_pos (ht.trans h.symm)]
        rfl
      · rw [if_neg h, if_neg fun hk => h (hk.symm.trans ht),
          if_neg fun hk => h (hk.symm.trans ht)]
    · rw [if_neg ht, endTimeOf?_cons, ih, endTimeOf?_cons, endTimeOf?_cons, if_neg ht]
      by_cases h : k = i
      · rw [if_pos h, if_pos h, if_neg fun hk => ht (hk.trans h)]
      · rw [if_neg h, if_neg h]

/-- A type that has no entry gets one at the end of the list. -/
theorem timeIndices_extendTime :
    timeIndices (extendTime i e reason times) =
      if i ∈ timeIndices times then timeIndices times else timeIndices times ++ [i] := by
  induction times with
  | nil => rfl
  | cons time times ih =>
    rw [extendTime]
    by_cases ht : time.allowTypeIndex = i
    · rw [if_pos ht, timeIndices, timeIndices, List.map_cons, List.map_cons,
        if_pos (ht ▸ List.mem_cons_self)]
    · rw [if_neg ht, timeIndices, List.map_cons, ← timeIndices, ih]
      have hiff : i ∈ timeIndices (time :: times) ↔ i ∈ timeIndices times :=
        ⟨fun h => (List.mem_cons.1 h).resolve_left (Ne.symm ht), List.mem_cons_of_mem _⟩
      simp only [hiff]
      split_ifs <;> rfl

/-- An extension keeps the list and the mask together. -/
theorem AllowRecord.WellFormed.extend (h : record.WellFormed) (hi : i < MAX_ALLOW_TYPE_NUM) :
    AllowRecord.WellFormed { record with
      allowTimeList := extendTime i e reason record.allowTimeList
      allowType := record.allowType ||| BitVec.twoPow 32 i } := by
  by_cases hmem : i ∈ timeIndices record.allowTimeList
  · have heq : timeIndices (extendTime i e reason record.allowTimeList) =
        timeIndices record.allowTimeList := by rw [timeIndices_extendTime, if_pos hmem]
    refine ⟨heq ▸ h.nodup, heq ▸ h.inRange, ?_⟩
    rw [heq, ← h.mask, ← and_twoPow_of_bit (h.mask ▸ getLsbD_maskOf.2 ⟨by
      have := h.inRange i hmem
      simp only [MAX_ALLOW_TYPE_NUM, allowTypeName, List.length_cons, List.length_nil] at this
      omega, hmem⟩)]
    refine eq_of_bits fun j _ => ?_
    simp only [BitVec.getLsbD_or, BitVec.getLsbD_and]
    cases record.allowType.getLsbD j <;> simp
  · have heq : timeIndices (extendTime i e reason record.allowTimeList) =
        timeIndices record.allowTimeList ++ [i] := by rw [timeIndices_extendTime, if_neg hmem]
    refine ⟨?_, ?_, ?_⟩
    · rw [heq]
      exact List.nodup_append.2 ⟨h.nodup, List.nodup_cons.2 ⟨List.not_mem_nil, List.nodup_nil⟩,
        fun a ha b hb hab => hmem (List.mem_singleton.1 hb ▸ hab ▸ ha)⟩
    · rw [heq]
      intro j hj
      rcases List.mem_append.1 hj with hj | hj
      · exact h.inRange j hj
      · exact List.mem_singleton.1 hj ▸ hi
    · refine eq_of_bits fun j hj => ?_
      rw [heq, h.mask, BitVec.getLsbD_or, Bool.or_eq_true, getLsbD_maskOf, getLsbD_maskOf,
        BitVec.getLsbD_twoPow, Bool.and_eq_true, decide_eq_true_eq, decide_eq_true_eq,
        List.mem_append, List.mem_singleton]
      constructor
      · rintro (⟨hj, hmem⟩ | ⟨hj, rfl⟩)
        · exact ⟨hj, .inl hmem⟩
        · exact ⟨hj, .inr rfl⟩
      · rintro ⟨hj, hmem | rfl⟩
        · exact .inl ⟨hj, hmem⟩
        · exact .inr ⟨hj, rfl⟩

/-! ### Updating -/

/-- A request has a positive effective duration for a type. -/
def Granted (resourceConfig : ResourceConfigMap) (condition : BitVec 32)
    (request : ResourceRequest) (k : Nat) : Prop :=
  request.allowType.getLsbD k = true ∧ 0 < maxDuration resourceConfig condition request k

instance : Decidable (Granted resourceConfig condition request k) :=
  inferInstanceAs (Decidable (_ ∧ _))

section
variable {acc : AllowRecord × List ReleaseTask}

/-- A type that is granted is extended, and its release is posted. -/
theorem updateType_of_granted (h : Granted resourceConfig condition request i) :
    updateType resourceConfig condition curTime handlerTime request acc i =
      ({ acc.1 with
          allowTimeList := extendTime i (curTime + maxDuration resourceConfig condition request i)
            request.reason acc.1.allowTimeList
          allowType := acc.1.allowType ||| BitVec.twoPow 32 i },
        acc.2 ++ [request.releaseTask
          (handlerTime + maxDuration resourceConfig condition request i)]) := by
  have hbit : request.allowType &&& BitVec.twoPow 32 i ≠ 0 := fun hzero => by
    have := and_twoPow_eq_zero_iff.1 hzero
    rw [h.1] at this
    cases this
  rw [updateType, if_neg hbit, if_neg (not_le.2 h.2), and_twoPow_of_bit h.1]

/-- A type that is not granted is left as it is. -/
theorem updateType_of_not_granted (h : ¬ Granted resourceConfig condition request i) :
    updateType resourceConfig condition curTime handlerTime request acc i = acc := by
  simp only [updateType, and_twoPow_eq_zero_iff]
  split_ifs with hbit hduration
  · rfl
  · rfl
  · exact absurd ⟨Bool.eq_true_of_not_eq_false hbit, not_le.1 hduration⟩ h

/-- What every round of the loop keeps, the loop keeps. -/
theorem updateRecord_induction (P : AllowRecord × List ReleaseTask → Prop)
    (h0 : P (record, []))
    (hstep : ∀ acc i, i < MAX_ALLOW_TYPE_NUM → Granted resourceConfig condition request i → P acc →
      P (updateType resourceConfig condition curTime handlerTime request acc i)) :
    P (updateRecord resourceConfig condition curTime handlerTime request record) := by
  refine List.foldlRecOn (motive := P) _ _ h0 fun acc hacc i hi => ?_
  by_cases hgranted : Granted resourceConfig condition request i
  · exact hstep acc i (List.mem_range.1 hi) hgranted hacc
  · rw [updateType_of_not_granted hgranted]
    exact hacc

end

variable (curTime handlerTime record resourceConfig condition request) in
/-- An update leaves the other fields of a record alone. -/
theorem updateRecord_fields :
    let record' := (updateRecord resourceConfig condition curTime handlerTime request record).1
    record'.uid = record.uid ∧ record'.pid = record.pid ∧ record'.name = record.name ∧
      record'.reasonCode = record.reasonCode :=
  updateRecord_induction
    (fun acc => acc.1.uid = record.uid ∧ acc.1.pid = record.pid ∧ acc.1.name = record.name ∧
      acc.1.reasonCode = record.reasonCode)
    ⟨rfl, rfl, rfl, rfl⟩ fun acc i _ hgranted h => by
      rw [updateType_of_granted hgranted]
      exact h

/-- `UpdateRecord` keeps a record well formed. -/
theorem AllowRecord.WellFormed.updateRecord (h : record.WellFormed) :
    (updateRecord resourceConfig condition curTime handlerTime request record).1.WellFormed :=
  updateRecord_induction (fun acc => acc.1.WellFormed) h fun acc i hi hgranted h => by
    rw [updateType_of_granted hgranted]
    exact h.extend hi

variable (curTime handlerTime record resourceConfig condition request) in
/-- An update clears no type. -/
theorem updateRecord_mask :
    record.allowType &&&
      ~~~(updateRecord resourceConfig condition curTime handlerTime request record).1.allowType =
        0 := by
  refine updateRecord_induction (fun acc => record.allowType &&& ~~~acc.1.allowType = 0)
    and_not_self fun acc i _ hgranted h => ?_
  rw [updateType_of_granted hgranted]
  exact and_not_or h

variable (curTime handlerTime record resourceConfig condition request) in
/-- Every granted type is extended to the time it is granted until, the others stay. -/
theorem endTime?_updateRecord (k : Nat) :
    (updateRecord resourceConfig condition curTime handlerTime request record).1.endTime? k =
      if k < MAX_ALLOW_TYPE_NUM ∧ Granted resourceConfig condition request k then
        some (laterEnd (record.endTime? k)
          (curTime + maxDuration resourceConfig condition request k))
      else record.endTime? k := by
  have hfold : ∀ (l : List Nat) (acc : AllowRecord × List ReleaseTask), l.Nodup →
      (l.foldl (updateType resourceConfig condition curTime handlerTime request) acc).1.endTime? k =
        if k ∈ l ∧ Granted resourceConfig condition request k then
          some (laterEnd (acc.1.endTime? k)
            (curTime + maxDuration resourceConfig condition request k))
        else acc.1.endTime? k := by
    intro l
    induction l with
    | nil => intro acc _; simp
    | cons i l ih =>
      intro acc hnodup
      obtain ⟨hi, hnodup⟩ := List.nodup_cons.1 hnodup
      rw [List.foldl_cons, ih _ hnodup]
      by_cases hgranted : Granted resourceConfig condition request i
      · rw [updateType_of_granted hgranted]
        simp only [AllowRecord.endTime?, endTimeOf?_extendTime]
        by_cases hk : k = i
        · subst hk
          simp [hi, hgranted]
        · simp [hk]
      · rw [updateType_of_not_granted hgranted]
        by_cases hk : k = i
        · subst hk
          simp [hgranted]
        · simp [hk]
  rw [updateRecord, hfold _ _ List.nodup_range]
  simp only [List.mem_range]

/-- An update posts a release of the whole request for every granted type. -/
theorem mem_updateRecord_tasks {k : Nat} (hk : k < MAX_ALLOW_TYPE_NUM)
    (hgranted : Granted resourceConfig condition request k) :
    request.releaseTask (handlerTime + maxDuration resourceConfig condition request k) ∈
      (updateRecord resourceConfig condition curTime handlerTime request record).2 := by
  have hfold : ∀ (l : List Nat) (acc : AllowRecord × List ReleaseTask) (task : ReleaseTask),
      task = request.releaseTask (handlerTime + maxDuration resourceConfig condition request k) →
      k ∈ l ∨ task ∈ acc.2 →
      task ∈
        (l.foldl (updateType resourceConfig condition curTime handlerTime request) acc).2 := by
    intro l
    induction l with
    | nil => exact fun acc task _ h => h.resolve_left List.not_mem_nil
    | cons i l ih =>
      intro acc task htask h
      rw [List.foldl_cons]
      refine ih _ task htask ?_
      by_cases hi : Granted resourceConfig condition request i
      · rw [updateType_of_granted hi]
        rcases h with h | h
        · rcases List.mem_cons.1 h with rfl | h
          · exact .inr (List.mem_append_right _ (htask ▸ List.mem_cons_self))
          · exact .inl h
        · exact .inr (List.mem_append_left _ h)
      · rw [updateType_of_not_granted hi]
        refine h.imp (fun h => (List.mem_cons.1 h).resolve_left ?_) id
        rintro rfl
        exact hi hgranted
  exact hfold _ _ _ rfl (.inl (List.mem_range.2 hk))

/-! ### Releasing -/

/-- A release erases the entry of a type that ends at `e`. -/
def isReleased (allowType : BitVec 32) (removeAll : Bool) (curTime : Int) (k : Nat) (e : Int) :
    Bool :=
  allowType.getLsbD k && (removeAll || decide (e ≤ curTime))

/-- The same of an entry. -/
abbrev AllowTime.isReleased (allowType : BitVec 32) (removeAll : Bool) (curTime : Int)
    (time : AllowTime) : Bool :=
  DeviceStandby.isReleased allowType removeAll curTime time.allowTypeIndex time.endTime

/-- The loop separates the entries that are released from the others. -/
theorem releaseTimes_eq :
    releaseTimes allowType removeAll curTime times =
      (times.filter fun time => !time.isReleased allowType removeAll curTime,
        maskOf 32 (timeIndices
          (times.filter (AllowTime.isReleased allowType removeAll curTime)))) := by
  induction times with
  | nil => rfl
  | cons time times ih =>
    rw [releaseTimes, ih]
    have hiff : (allowType &&& BitVec.twoPow 32 time.allowTypeIndex ≠ 0 ∧
        (removeAll ∨ time.endTime ≤ curTime)) ↔
          time.isReleased allowType removeAll curTime = true := by
      rw [Ne, and_twoPow_eq_zero_iff, Bool.not_eq_false, AllowTime.isReleased,
        DeviceStandby.isReleased, Bool.and_eq_true, Bool.or_eq_true, decide_eq_true_eq]
    simp only [hiff]
    split_ifs with h
    · have hbit : allowType.getLsbD time.allowTypeIndex = true := (Bool.and_eq_true _ _ ▸ h).1
      rw [List.filter_cons_of_neg (by rw [h]; decide), List.filter_cons_of_pos h,
        and_twoPow_of_bit hbit]
      rfl
    · rw [List.filter_cons_of_pos (by rw [Bool.eq_false_of_not_eq_true h]; decide),
        List.filter_cons_of_neg h]

/-- What is left of the entries has the end times that pass the filter. -/
theorem endTimeOf?_filter (hnodup : (timeIndices times).Nodup) (p : Nat → Int → Bool) :
    endTimeOf? k (times.filter fun time => p time.allowTypeIndex time.endTime) =
      (endTimeOf? k times).filter (p k) := by
  induction times with
  | nil => rfl
  | cons time times ih =>
    obtain ⟨hnotMem, hnodup⟩ := List.nodup_cons.1 hnodup
    rw [endTimeOf?_cons]
    by_cases hk : time.allowTypeIndex = k
    · subst hk
      have hnone := endTimeOf?_eq_none.2 hnotMem
      rw [if_pos rfl, List.filter_cons, Option.filter_some]
      split_ifs
      · rw [endTimeOf?_cons, if_pos rfl]
      · rw [ih hnodup, hnone]
        rfl
    · rw [if_neg hk, ← ih hnodup, List.filter_cons]
      split_ifs
      · rw [endTimeOf?_cons, if_neg hk]
      · rfl

/-- The loop erases the end times that it releases. -/
theorem endTimeOf?_releaseTimes (hnodup : (timeIndices times).Nodup) :
    endTimeOf? k (releaseTimes allowType removeAll curTime times).1 =
      (endTimeOf? k times).filter fun e => !isReleased allowType removeAll curTime k e := by
  rw [releaseTimes_eq]
  exact endTimeOf?_filter hnodup fun i e => !isReleased allowType removeAll curTime i e

/-- The types that a release reports are types of the record. -/
theorem AllowRecord.WellFormed.released_le (h : record.WellFormed) :
    (releaseTimes allowType removeAll curTime record.allowTimeList).2 &&& ~~~record.allowType =
      0 := by
  refine eq_zero_iff.2 fun j => ?_
  rw [BitVec.getLsbD_and, BitVec.getLsbD_not, releaseTimes_eq]
  by_cases hj : (maskOf 32 (timeIndices (record.allowTimeList.filter
      (AllowTime.isReleased allowType removeAll curTime)))).getLsbD j = true
  · obtain ⟨hlt, hmem⟩ := getLsbD_maskOf.1 hj
    have hrecord : record.allowType.getLsbD j = true := by
      rw [h.mask, getLsbD_maskOf]
      exact ⟨hlt, (List.filter_sublist.map _).subset hmem⟩
    rw [hrecord, Bool.not_true, Bool.and_false, Bool.and_false]
  · rw [Bool.eq_false_of_not_eq_true hj, Bool.false_and]

/-- A release keeps the list and the mask together. -/
theorem AllowRecord.WellFormed.release (h : record.WellFormed) :
    AllowRecord.WellFormed { record with
      allowTimeList := (releaseTimes allowType removeAll curTime record.allowTimeList).1
      allowType := record.allowType -
        (releaseTimes allowType removeAll curTime record.allowTimeList).2 } := by
  have hsub : (timeIndices (releaseTimes allowType removeAll curTime
      record.allowTimeList).1).Sublist (timeIndices record.allowTimeList) := by
    rw [releaseTimes_eq]
    exact List.filter_sublist.map _
  refine ⟨h.nodup.sublist hsub, fun i hi => h.inRange i (hsub.subset hi), ?_⟩
  rw [sub_eq_and_not h.released_le]
  refine eq_of_bits fun j hj => ?_
  rw [BitVec.getLsbD_and, BitVec.getLsbD_not, decide_eq_true hj, Bool.true_and, Bool.and_eq_true,
    Bool.not_eq_true', ← Bool.not_eq_true, releaseTimes_eq, h.mask]
  simp only [getLsbD_maskOf, hj, true_and]
  constructor
  · rintro ⟨hmem, hnot⟩
    obtain ⟨time, htime, rfl⟩ := List.mem_map.1 hmem
    refine List.mem_map_of_mem (List.mem_filter.2 ⟨htime, ?_⟩)
    rw [Bool.not_eq_true', ← Bool.not_eq_true]
    exact fun hreleased => hnot (List.mem_map_of_mem (List.mem_filter.2 ⟨htime, hreleased⟩))
  · intro hmem
    obtain ⟨time, htime, rfl⟩ := List.mem_map.1 hmem
    obtain ⟨htime, hkept⟩ := List.mem_filter.1 htime
    refine ⟨List.mem_map_of_mem htime, fun hreleased => ?_⟩
    obtain ⟨time', htime', heq⟩ := List.mem_map.1 hreleased
    obtain ⟨htime', hreleased⟩ := List.mem_filter.1 htime'
    have hsame : time' = time := List.inj_on_of_nodup_map h.nodup htime' htime heq
    rw [hsame] at hreleased
    rw [hreleased] at hkept
    cases hkept

end

end DeviceStandby
