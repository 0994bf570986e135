import DeviceStandby.Allow.Record
import DeviceStandby.Lib.AssocMap
import DeviceStandby.Lib.Json

/-!
# Allow records on disk

`AllowRecord::ParseToJson` and `AllowRecord::ParseFromJson`, the document of a whole allow list, and
what is loaded from a document. A record whose numbers fit their fields is read back as it was
written (`parseFromJson_parseToJson`), and so is a list of such records (`lookup_loadRecords`).
-/

open AssocMap Json

namespace DeviceStandby

/-- `allowInfoMap_`. -/
abbrev AllowInfoMap := Map String AllowRecord

/-- An entry, as `ParseToJson` writes it. -/
def AllowTime.parseToJson (time : AllowTime) : Json :=
  .object [("allowTypeIndex", .integer time.allowTypeIndex), ("endTime", .integer time.endTime),
    ("reason", .string time.reason)]

/-- `AllowRecord::ParseToJson`. -/
def AllowRecord.parseToJson (record : AllowRecord) : Json :=
  .object ([("uid", .integer record.uid), ("pid", .integer record.pid),
    ("name", .string record.name), ("allowType", .integer record.allowType.toNat),
    ("reasonCode", .integer record.reasonCode)] ++
    if record.allowTimeList.isEmpty then []
    else [("allowTimeList", .array (record.allowTimeList.map AllowTime.parseToJson))])

/-- `AllowRecord::setAllowTime`: the entry that is appended. -/
def setAllowTime (persistTime : Json) : Option AllowTime := do
  let allowTypeIndex ← persistTime.integer? "allowTypeIndex"
  let endTime ← persistTime.integer? "endTime"
  let reason ← persistTime.string? "reason"
  return { allowTypeIndex := Json.toUInt32 allowTypeIndex, endTime := toInt64 endTime, reason }

/-- `AllowRecord::setAllowRecordField`, of a new record. -/
def setAllowRecordField (value : Json) : Option AllowRecord := do
  let uid ← value.integer? "uid"
  let pid ← value.integer? "pid"
  let name ← value.string? "name"
  let allowType ← value.integer? "allowType"
  let reasonCode ← value.integer? "reasonCode"
  return { uid := toInt32 uid, pid := toInt32 pid, name, allowType := BitVec.ofInt 32 allowType,
           reasonCode := Json.toUInt32 reasonCode }

/-- `AllowRecord::ParseFromJson`, of a new record. The number of entries is an `int32_t`. -/
def parseFromJson (value : Json) : Option AllowRecord :=
  if value.isEmpty then none
  else do
    let record ← setAllowRecordField value
    match value.array? "allowTimeList" with
    | none => return record
    | some allowTimeVal =>
      let allowTimeList ← (allowTimeVal.take (toInt32 allowTimeVal.length).toNat).mapM setAllowTime
      return { record with allowTimeList }

/-- The document that `DumpPersistantData` writes; an empty list is written as null. -/
def AllowInfoMap.parseToJson (allowInfoMap : AllowInfoMap) : Json :=
  if allowInfoMap.entries.isEmpty then .null
  else .object (allowInfoMap.entries.map fun entry => (entry.1, entry.2.parseToJson))

/-- A member of the document, when it is a record, is put under its key unless there is one. -/
def loadRecord (allowInfoMap : AllowInfoMap) (member : String × Json) : AllowInfoMap :=
  match parseFromJson member.2 with
  | none => allowInfoMap
  | some record => allowInfoMap.emplace member.1 record

/-- The first loop of `ParsePersistentData`. -/
def loadRecords (members : List (String × Json)) (allowInfoMap : AllowInfoMap) : AllowInfoMap :=
  members.foldl loadRecord allowInfoMap

/-- The process of a record is in the process table, under its name. -/
def AllowRecord.isRunning (pidNameMap : Map Int String) (record : AllowRecord) : Bool :=
  pidNameMap.lookup record.pid == some record.name

/-- What the platform says of the processes, by pid: the running applications and the system
processes, each unless the query fails. -/
structure Processes where
  allAppProcessInfos : Option (List (Int × String)) := none
  systemProcessInfos : Option (List (Int × String)) := none

/-- `GetPidAndProcName`: the first process of a pid is kept, and the system processes are not asked
for when the applications are not to be had. -/
def Processes.getPidAndProcName (processes : Processes) : Map Int String :=
  match processes.allAppProcessInfos with
  | none => ∅
  | some infos =>
    (infos ++ processes.systemProcessInfos.getD []).foldl
      (fun pidNameMap info => pidNameMap.emplace info.1 info.2) ∅

/-! ## What is written is read back -/

/-- The numbers of an entry fit its fields. -/
structure AllowTime.Fits (time : AllowTime) : Prop where
  allowTypeIndex : time.allowTypeIndex < 2 ^ 32
  endTimeLo : -2 ^ 63 ≤ time.endTime
  endTimeHi : time.endTime < 2 ^ 63

/-- The numbers of a record fit its fields. -/
structure AllowRecord.Fits (record : AllowRecord) : Prop where
  uidLo : -2 ^ 31 ≤ record.uid
  uidHi : record.uid < 2 ^ 31
  pidLo : -2 ^ 31 ≤ record.pid
  pidHi : record.pid < 2 ^ 31
  reasonCode : record.reasonCode < 2 ^ 32
  length : record.allowTimeList.length < 2 ^ 31
  times : ∀ time ∈ record.allowTimeList, time.Fits

section
variable {time : AllowTime} {record : AllowRecord} {allowInfoMap : AllowInfoMap} {key : String}

/-- An entry is read from its document as it was. -/
theorem setAllowTime_parseToJson (h : time.Fits) : setAllowTime time.parseToJson = some time := by
  have hindex : time.parseToJson.integer? "allowTypeIndex" = some (time.allowTypeIndex : Int) := rfl
  have hendTime : time.parseToJson.integer? "endTime" = some time.endTime := rfl
  have hreason : time.parseToJson.string? "reason" = some time.reason := rfl
  simp only [setAllowTime, hindex, hendTime, hreason, Option.bind_eq_bind, Option.bind_some,
    toUInt32_natCast h.allowTypeIndex, toInt64_of_fits h.endTimeLo h.endTimeHi, Option.pure_def]

/-- So is a list of entries. -/
theorem mapM_setAllowTime {times : List AllowTime} (h : ∀ time ∈ times, time.Fits) :
    (times.map AllowTime.parseToJson).mapM setAllowTime = some times := by
  induction times with
  | nil => rfl
  | cons time times ih =>
    rw [List.map_cons, List.mapM_cons, setAllowTime_parseToJson (h time List.mem_cons_self),
      ih fun t ht => h t (List.mem_cons_of_mem _ ht)]
    rfl

/-- So are the other fields of a record. -/
theorem setAllowRecordField_parseToJson (h : record.Fits) :
    setAllowRecordField record.parseToJson = some { record with allowTimeList := [] } := by
  have huid : record.parseToJson.integer? "uid" = some record.uid := rfl
  have hpid : record.parseToJson.integer? "pid" = some record.pid := rfl
  have hname : record.parseToJson.string? "name" = some record.name := rfl
  have hallowType : record.parseToJson.integer? "allowType" = some (record.allowType.toNat : Int) :=
    rfl
  have hreasonCode : record.parseToJson.integer? "reasonCode" = some (record.reasonCode : Int) :=
    rfl
  simp only [setAllowRecordField, huid, hpid, hname, hallowType, hreasonCode, Option.bind_eq_bind,
    Option.bind_some, toInt32_of_fits h.uidLo h.uidHi, toInt32_of_fits h.pidLo h.pidHi,
    toUInt32_natCast h.reasonCode, BitVec.ofInt_natCast, BitVec.ofNat_toNat, BitVec.setWidth_eq,
    Option.pure_def]

/-- A record without entries has no list in its document. -/
theorem array?_parseToJson :
    record.parseToJson.array? "allowTimeList" =
      if record.allowTimeList.isEmpty then none
      else some (record.allowTimeList.map AllowTime.parseToJson) := by
  unfold AllowRecord.parseToJson
  split_ifs <;> rfl

/-- A record is read back as it was written. -/
theorem parseFromJson_parseToJson (h : record.Fits) :
    parseFromJson record.parseToJson = some record := by
  have hne : record.parseToJson.isEmpty = false := rfl
  rw [parseFromJson, hne, if_neg Bool.false_ne_true, setAllowRecordField_parseToJson h,
    array?_parseToJson]
  obtain ⟨uid, pid, name, allowType, times, reasonCode⟩ := record
  cases times with
  | nil => rfl
  | cons time times =>
    have hlength : (time :: times).length < 2 ^ 31 := h.length
    have hsize : (toInt32 ((time :: times).map AllowTime.parseToJson).length).toNat =
        ((time :: times).map AllowTime.parseToJson).length := by
      rw [List.length_map, toInt32_of_fits (by omega) (by omega), Int.toNat_natCast]
    simp only [List.isEmpty_cons, Bool.false_eq_true, if_false]
    rw [hsize, List.take_length, mapM_setAllowTime h.times]
    rfl

/-- What is found after loading: what was there, else the first record under the key. -/
theorem lookup_loadRecords {members : List (String × Json)} :
    (loadRecords members allowInfoMap).lookup key =
      (allowInfoMap.lookup key).or
        (members.findSome? fun member =>
          if member.1 = key then parseFromJson member.2 else none) := by
  induction members generalizing allowInfoMap with
  | nil => simp [loadRecords]
  | cons member members ih =>
    rw [loadRecords, List.foldl_cons, ← loadRecords, ih, loadRecord, List.findSome?_cons]
    cases hparse : parseFromJson member.2 with
    | none => simp
    | some record =>
      simp only [Map.lookup_emplace]
      by_cases hkey : member.1 = key
      · subst hkey
        cases allowInfoMap.lookup member.1 <;> simp
      · rw [if_neg (Ne.symm hkey), if_neg hkey]

/-- Under distinct keys, the first record that is found under a key is the only one. -/
theorem findSome?_parseFromJson {members : List (String × Json)} {key : String}
    (hkeys : (members.map Prod.fst).Nodup) :
    (members.findSome? fun member => if member.1 = key then parseFromJson member.2 else none) =
      some record ↔ ∃ value, (key, value) ∈ members ∧ parseFromJson value = some record := by
  induction members with
  | nil => simp
  | cons member members ih =>
    obtain ⟨hnotMem, hkeys⟩ := List.nodup_cons.1 hkeys
    rw [List.findSome?_cons]
    by_cases hkey : member.1 = key
    · subst hkey
      have hrest : ∀ value, (member.1, value) ∉ members := fun value hvalue =>
        hnotMem (List.mem_map.2 ⟨(member.1, value), hvalue, rfl⟩)
      have hnone : (members.findSome? fun m =>
          if m.1 = member.1 then parseFromJson m.2 else none) = none := by
        refine Option.eq_none_iff_forall_ne_some.2 fun r hr => ?_
        obtain ⟨m, hm, hparse⟩ := List.exists_of_findSome?_eq_some hr
        split_ifs at hparse with heq
        exact hrest m.2 (heq ▸ hm)
      rw [if_pos rfl, hnone]
      constructor
      · intro h
        refine ⟨member.2, List.mem_cons_self, ?_⟩
        cases hparse : parseFromJson member.2 with
        | none =>
          rw [hparse] at h
          cases h
        | some r =>
          rw [hparse] at h
          exact h
      · rintro ⟨value, hvalue, hparse⟩
        rcases List.mem_cons.1 hvalue with heq | hvalue
        · rw [← heq]
          simp only [hparse]
        · exact absurd hvalue (hrest value)
    · rw [if_neg hkey]
      simp only
      rw [ih hkeys]
      constructor
      · rintro ⟨value, hvalue, hparse⟩
        exact ⟨value, List.mem_cons_of_mem _ hvalue, hparse⟩
      · rintro ⟨value, hvalue, hparse⟩
        rcases List.mem_cons.1 hvalue with heq | hvalue
        · exact absurd (congrArg Prod.fst heq).symm hkey
        · exact ⟨value, hvalue, hparse⟩

/-- The members of a written list are its records, as they are read back. -/
theorem findSome?_parseToJson (allowInfoMap : AllowInfoMap) (key : String) :
    ((allowInfoMap.entries.map fun entry => (entry.1, entry.2.parseToJson)).findSome? fun member =>
      if member.1 = key then parseFromJson member.2 else none) =
        (allowInfoMap.lookup key).bind fun record => parseFromJson record.parseToJson := by
  have hkeys : ((allowInfoMap.entries.map fun entry => (entry.1, entry.2.parseToJson)).map
      Prod.fst).Nodup := by
    rw [List.map_map]
    exact allowInfoMap.nodupKeys
  ext record
  rw [findSome?_parseFromJson hkeys, Option.bind_eq_some_iff]
  constructor
  · rintro ⟨value, hvalue, hparse⟩
    obtain ⟨⟨key, found⟩, hfound, heq⟩ := List.mem_map.1 hvalue
    cases heq
    exact ⟨found, Map.lookup_eq_some_iff.2 hfound, hparse⟩
  · rintro ⟨found, hfound, hparse⟩
    exact ⟨_, List.mem_map.2 ⟨⟨key, found⟩, Map.lookup_eq_some_iff.1 hfound, rfl⟩, hparse⟩

/-- Records that fit are read back as they are. -/
theorem findSome?_parseToJson_of_fits (h : allowInfoMap.All fun _ record => record.Fits) :
    ((allowInfoMap.entries.map fun entry => (entry.1, entry.2.parseToJson)).findSome? fun member =>
      if member.1 = key then parseFromJson member.2 else none) = allowInfoMap.lookup key := by
  rw [findSome?_parseToJson]
  cases hlookup : allowInfoMap.lookup key with
  | none => rfl
  | some record => exact parseFromJson_parseToJson (h key record hlookup)

end

/-! ## What a document says -/

/-- A member of a list describes an entry. -/
structure AllowTime.DescribedBy (value : Json) (time : AllowTime) : Prop where
  allowTypeIndex : ∃ n, value.integer? "allowTypeIndex" = some n ∧
    time.allowTypeIndex = Json.toUInt32 n
  endTime : ∃ n, value.integer? "endTime" = some n ∧ time.endTime = toInt64 n
  reason : value.string? "reason" = some time.reason

/-- A value describes a record: its fields have the types of the record's, and their numbers lead to
the record's when they are cut to size. -/
structure AllowRecord.DescribedBy (value : Json) (record : AllowRecord) : Prop where
  uid : ∃ n, value.integer? "uid" = some n ∧ record.uid = toInt32 n
  pid : ∃ n, value.integer? "pid" = some n ∧ record.pid = toInt32 n
  name : value.string? "name" = some record.name
  allowType : ∃ n, value.integer? "allowType" = some n ∧ record.allowType = BitVec.ofInt 32 n
  reasonCode : ∃ n, value.integer? "reasonCode" = some n ∧ record.reasonCode = Json.toUInt32 n
  times : List.Forall₂ AllowTime.DescribedBy
    (((value.array? "allowTimeList").map fun values =>
      values.take (toInt32 values.length).toNat).getD []) record.allowTimeList

section
variable {value : Json} {time : AllowTime} {record : AllowRecord}

/-- An entry is read when the document describes it. -/
theorem setAllowTime_eq_some_iff : setAllowTime value = some time ↔ time.DescribedBy value := by
  simp only [setAllowTime, Option.bind_eq_bind, Option.pure_def, Option.bind_eq_some_iff,
    Option.some.injEq]
  constructor
  · rintro ⟨n, hn, m, hm, reason, hreason, rfl⟩
    exact ⟨⟨n, hn, rfl⟩, ⟨m, hm, rfl⟩, hreason⟩
  · rintro ⟨⟨n, hn, hindex⟩, ⟨m, hm, hend⟩, hreason⟩
    exact ⟨n, hn, m, hm, time.reason, hreason, by rw [← hindex, ← hend]⟩

/-- A list is read when the documents describe its entries one by one. -/
theorem mapM_setAllowTime_eq_some_iff {values : List Json} {times : List AllowTime} :
    values.mapM setAllowTime = some times ↔
      List.Forall₂ AllowTime.DescribedBy values times := by
  induction values generalizing times with
  | nil =>
    constructor
    · rintro ⟨⟩
      exact .nil
    · rintro ⟨⟩
      rfl
  | cons value values ih =>
    simp only [List.mapM_cons, Option.bind_eq_bind, Option.pure_def, Option.bind_eq_some_iff,
      Option.some.injEq]
    constructor
    · rintro ⟨time, htime, times, htimes, rfl⟩
      exact .cons (setAllowTime_eq_some_iff.1 htime) (ih.1 htimes)
    · rintro (_ | ⟨htime, htimes⟩)
      exact ⟨_, setAllowTime_eq_some_iff.2 htime, _, ih.2 htimes, rfl⟩

/-- The parser accepts exactly what describes a record, and returns that record. -/
theorem parseFromJson_eq_some_iff :
    parseFromJson value = some record ↔ record.DescribedBy value := by
  have hfields : ∀ record', setAllowRecordField value = some record' ↔
      ((∃ n, value.integer? "uid" = some n ∧ record'.uid = toInt32 n) ∧
        (∃ n, value.integer? "pid" = some n ∧ record'.pid = toInt32 n) ∧
        value.string? "name" = some record'.name ∧
        (∃ n, value.integer? "allowType" = some n ∧ record'.allowType = BitVec.ofInt 32 n) ∧
        (∃ n, value.integer? "reasonCode" = some n ∧ record'.reasonCode = Json.toUInt32 n)) ∧
        record'.allowTimeList = [] := by
    intro record'
    simp only [setAllowRecordField, Option.bind_eq_bind, Option.pure_def, Option.bind_eq_some_iff,
      Option.some.injEq]
    constructor
    · rintro ⟨uid, huid, pid, hpid, name, hname, allowType, htype, reasonCode, hreason, rfl⟩
      exact ⟨⟨⟨uid, huid, rfl⟩, ⟨pid, hpid, rfl⟩, hname, ⟨allowType, htype, rfl⟩,
        ⟨reasonCode, hreason, rfl⟩⟩, rfl⟩
    · rintro ⟨⟨⟨uid, huid, hu⟩, ⟨pid, hpid, hp⟩, hname, ⟨allowType, htype, ht⟩,
        ⟨reasonCode, hreason, hr⟩⟩, hlist⟩
      refine ⟨uid, huid, pid, hpid, _, hname, allowType, htype, reasonCode, hreason, ?_⟩
      rw [← hu, ← hp, ← ht, ← hr, ← hlist]
  -- a value with fields is not empty
  have hempty : ∀ n, value.integer? "uid" = some n → value.isEmpty = false := by
    intro n hn
    cases value with
    | object members =>
      cases members with
      | nil => cases hn
      | cons => rfl
    | null | array => cases hn
    | boolean | integer | real | string => rfl
  constructor
  · intro h
    rw [parseFromJson] at h
    split_ifs at h
    obtain ⟨record', hrecord, h⟩ := Option.bind_eq_some_iff.1 h
    obtain ⟨⟨huid, hpid, hname, htype, hreason⟩, hlist⟩ := (hfields record').1 hrecord
    cases harray : value.array? "allowTimeList" with
    | none =>
      rw [harray] at h
      cases h
      refine ⟨huid, hpid, hname, htype, hreason, ?_⟩
      rw [harray, hlist, Option.map_none, Option.getD_none]
      exact .nil
    | some values =>
      rw [harray] at h
      obtain ⟨times, htimes, h⟩ := Option.bind_eq_some_iff.1 h
      cases h
      refine ⟨huid, hpid, hname, htype, hreason, ?_⟩
      rw [harray, Option.map_some, Option.getD_some]
      exact mapM_setAllowTime_eq_some_iff.1 htimes
  · intro h
    have hrecord := (hfields { record with allowTimeList := [] }).2
      ⟨⟨h.uid, h.pid, h.name, h.allowType, h.reasonCode⟩, rfl⟩
    obtain ⟨n, hn, -⟩ := h.uid
    have htimes := h.times
    rw [parseFromJson, hempty n hn, if_neg Bool.false_ne_true, hrecord]
    cases harray : value.array? "allowTimeList" with
    | none =>
      rw [harray, Option.map_none, Option.getD_none, List.forall₂_nil_left_iff] at htimes
      simp only [Option.bind_eq_bind, Option.bind_some, Option.pure_def, ← htimes]
    | some values =>
      rw [harray, Option.map_some, Option.getD_some] at htimes
      simp only [Option.bind_eq_bind, Option.bind_some, Option.pure_def,
        mapM_setAllowTime_eq_some_iff.2 htimes]

end

end DeviceStandby
