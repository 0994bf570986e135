import DeviceStandby.Allow.Persist
import DeviceStandby.Config.ResCtrl
import DeviceStandby.State.States

/-!
# Integers in documents

The readers of integers check that a value is an integer and narrow it to the type of their field,
which keeps the low bits. So a number that does not fit is stored as another one, and the sign of a
parameter of `standby` is looked at only after it was narrowed. `Stores` says what a reader makes of
an integer, and `stores_iff` that it is the integer exactly when it fits.
-/

open AssocMap Json

namespace DeviceStandby

open StandbyConfigManager

/-- The readers of integers. -/
inductive Reader where
  | int32FromJsonValue
  | standbyPara
  | interval
  | uid
  | pid
  | allowType
  | reasonCode
  | allowTypeIndex
  | endTime
  deriving DecidableEq

/-- The integers of the field of a reader, which for the parameters are those that are not
negative. -/
def Reader.Fits (n : Int) : Reader → Prop
  | int32FromJsonValue | interval | uid | pid => -2 ^ 31 ≤ n ∧ n < 2 ^ 31
  | standbyPara => 0 ≤ n ∧ n < 2 ^ 31
  | allowType | reasonCode | allowTypeIndex => 0 ≤ n ∧ n < 2 ^ 32
  | endTime => -2 ^ 63 ≤ n ∧ n < 2 ^ 63

/-- There is a document with the integer `n` where the reader finds it, and the reader stores
`m`. -/
inductive Stores : Reader → Int → Int → Prop
  | int32FromJsonValue {jsonValue : Json} {key : String} {n m : Int}
      (hn : jsonValue.integer? key = some n)
      (hm : JsonUtils.getInt32FromJsonValue jsonValue key = some m) :
      Stores .int32FromJsonValue n m
  | standbyPara {n m : Int} (hm : readStandby (.integer n) = .value (.inr m)) :
      Stores .standbyPara n m
  | interval {elements : List Json} {list : List Int} {i : Nat} {n m : Int}
      (hn : elements[i]? = some (.integer n))
      (hread : readArray getInt32? (.array elements) = some (.value list))
      (hm : list[i]? = some m) : Stores .interval n m
  | uid {value : Json} {record : AllowRecord} {n : Int} (hn : value.integer? "uid" = some n)
      (hread : parseFromJson value = some record) : Stores .uid n record.uid
  | pid {value : Json} {record : AllowRecord} {n : Int} (hn : value.integer? "pid" = some n)
      (hread : parseFromJson value = some record) : Stores .pid n record.pid
  | allowType {value : Json} {record : AllowRecord} {n : Int}
      (hn : value.integer? "allowType" = some n) (hread : parseFromJson value = some record) :
      Stores .allowType n record.allowType.toNat
  | reasonCode {value : Json} {record : AllowRecord} {n : Int}
      (hn : value.integer? "reasonCode" = some n) (hread : parseFromJson value = some record) :
      Stores .reasonCode n record.reasonCode
  | allowTypeIndex {persistTime : Json} {time : AllowTime} {n : Int}
      (hn : persistTime.integer? "allowTypeIndex" = some n)
      (hread : setAllowTime persistTime = some time) : Stores .allowTypeIndex n time.allowTypeIndex
  | endTime {persistTime : Json} {time : AllowTime} {n : Int}
      (hn : persistTime.integer? "endTime" = some n)
      (hread : setAllowTime persistTime = some time) : Stores .endTime n time.endTime

/-! ## What the readers store -/

section
variable {n m : Int} {reader : Reader} {value : Json} {record : AllowRecord} {time : AllowTime}

/-- A number keeps its value in an `int32_t` when it fits. -/
theorem toInt32_eq_self_iff : toInt32 n = n ↔ -2 ^ 31 ≤ n ∧ n < 2 ^ 31 := by
  refine ⟨fun h => ?_, fun h => toInt32_of_fits h.1 h.2⟩
  have hlo : -2 ^ 31 ≤ toInt32 n := Int.le_bmod (by decide)
  have hhi : toInt32 n < 2 ^ 31 := Int.bmod_lt (by decide)
  omega

/-- A number keeps its value in an `int64_t` when it fits. -/
theorem toInt64_eq_self_iff : toInt64 n = n ↔ -2 ^ 63 ≤ n ∧ n < 2 ^ 63 := by
  refine ⟨fun h => ?_, fun h => toInt64_of_fits h.1 h.2⟩
  have hlo : -2 ^ 63 ≤ toInt64 n := Int.le_bmod (by decide)
  have hhi : toInt64 n < 2 ^ 63 := Int.bmod_lt (by decide)
  omega

/-- A number keeps its value in a `uint32_t` when it fits. -/
theorem toUInt32_eq_self_iff : (Json.toUInt32 n : Int) = n ↔ 0 ≤ n ∧ n < 2 ^ 32 := by
  unfold Json.toUInt32
  omega

/-- The numbers of a record are those of its document, narrowed. -/
structure Narrowed (value : Json) (record : AllowRecord) : Prop where
  uid : (value.integer? "uid").map toInt32 = some record.uid
  pid : (value.integer? "pid").map toInt32 = some record.pid
  allowType : (value.integer? "allowType").map Json.toUInt32 = some record.allowType.toNat
  reasonCode : (value.integer? "reasonCode").map Json.toUInt32 = some record.reasonCode

/-- The fields of a record are narrowed from the numbers of its document. -/
theorem narrowed_of_setAllowRecordField (h : setAllowRecordField value = some record) :
    Narrowed value record := by
  simp only [setAllowRecordField, Option.bind_eq_bind, Option.bind_eq_some_iff, Option.pure_def,
    Option.some.injEq] at h
  obtain ⟨uid, huid, pid, hpid, name, -, allowType, hallowType, reasonCode, hreasonCode, rfl⟩ := h
  refine ⟨by rw [huid]; rfl, by rw [hpid]; rfl, ?_, by rw [hreasonCode]; rfl⟩
  rw [hallowType, Option.map_some, Json.toUInt32, BitVec.toNat_ofInt]
  rfl

/-- So are those of the record that is read. -/
theorem narrowed_of_parseFromJson (h : parseFromJson value = some record) :
    Narrowed value record := by
  unfold parseFromJson at h
  split_ifs at h
  obtain ⟨fields, hfields, h⟩ := Option.bind_eq_some_iff.1 h
  have hnarrowed := narrowed_of_setAllowRecordField hfields
  cases hlist : value.array? "allowTimeList" with
  | none =>
    rw [hlist] at h
    cases h
    exact hnarrowed
  | some allowTimeVal =>
    rw [hlist] at h
    obtain ⟨allowTimeList, -, h⟩ := Option.bind_eq_some_iff.1 h
    cases h
    exact ⟨hnarrowed.uid, hnarrowed.pid, hnarrowed.allowType, hnarrowed.reasonCode⟩

/-- The numbers of an entry are those of its document, narrowed. -/
theorem narrowed_of_setAllowTime {persistTime : Json} (h : setAllowTime persistTime = some time) :
    (persistTime.integer? "allowTypeIndex").map Json.toUInt32 = some time.allowTypeIndex ∧
      (persistTime.integer? "endTime").map toInt64 = some time.endTime := by
  simp only [setAllowTime, Option.bind_eq_bind, Option.bind_eq_some_iff, Option.pure_def,
    Option.some.injEq] at h
  obtain ⟨allowTypeIndex, hindex, endTime, hendTime, reason, -, rfl⟩ := h
  exact ⟨by rw [hindex]; rfl, by rw [hendTime]; rfl⟩

/-- What is stored of a number that is found. -/
theorem narrow_eq {α : Type} {narrow : Int → α} {found : Option Int} {stored : α}
    (hn : found = some n) (h : found.map narrow = some stored) : narrow n = stored := by
  rw [hn, Option.map_some] at h
  exact Option.some.inj h

/-- An array that is read whole has its elements in their places. -/
theorem map_eq_map_some_of_mapM {α β : Type} {f : α → Option β} {elements : List α} {list : List β}
    (h : elements.mapM f = some list) : elements.map f = list.map some := by
  induction elements generalizing list with
  | nil =>
    cases h
    rfl
  | cons element elements ih =>
    rw [List.mapM_cons] at h
    obtain ⟨value, hvalue, h⟩ := Option.bind_eq_some_iff.1 h
    obtain ⟨values, hvalues, h⟩ := Option.bind_eq_some_iff.1 h
    cases h
    rw [List.map_cons, List.map_cons, hvalue, ih hvalues]

/-- An element of a list is narrowed at its place. -/
theorem toInt32_of_readArray {elements : List Json} {list : List Int} {i : Nat}
    (hread : readArray getInt32? (.array elements) = some (.value list))
    (hn : elements[i]? = some (.integer n)) (hm : list[i]? = some m) : toInt32 n = m := by
  rw [readArray, Option.map_eq_some_iff] at hread
  obtain ⟨list', hlist, heq⟩ := hread
  cases heq
  have hplace := congrArg (fun values => values[i]?) (map_eq_map_some_of_mapM hlist)
  rw [List.getElem?_map, List.getElem?_map, hn, hm] at hplace
  exact Option.some.inj (Option.some.inj hplace)

/-- A parameter is rejected when it is negative as an `int32_t`. -/
theorem readStandby_eq_iff : readStandby (.integer n) = .value (.inr m) ↔
    0 ≤ toInt32 n ∧ toInt32 n = m := by
  rw [readStandby]
  split_ifs with hneg
  · exact iff_of_false (fun h => by cases h) fun h => not_lt.2 h.1 hneg
  · constructor
    · rintro ⟨⟩
      exact ⟨not_lt.1 hneg, rfl⟩
    · rintro ⟨-, rfl⟩
      rfl

/-- What is found of a parameter after its section is parsed: what is stored, or what there was. -/
theorem lookup_standbyParaMap {config config' : StandbyConfigManager} {ret : Bool} {key : String}
    (hn : value.member? key = some (.integer n))
    (h : parseStandbyConfig value config = some (ret, config')) :
    config'.standbyParaMap.lookup key =
      if toInt32 n < 0 then config.standbyParaMap.lookup key else some (toInt32 n) := by
  have hfind := find_parseStandbyConfig h .standbyPara key
  rw [standbyBound, hn, Option.bind_some, readStandby] at hfind
  refine hfind.trans ?_
  split_ifs <;> rfl

/-- What a reader stores is the integer of the document if and only if it fits. -/
theorem Stores.eq_iff (h : Stores reader n m) : m = n ↔ reader.Fits n := by
  cases h with
  | @int32FromJsonValue jsonValue key _ _ hn hm =>
    unfold JsonUtils.getInt32FromJsonValue at hm
    split_ifs at hm
    rw [hn, Option.map_some] at hm
    cases hm
    exact toInt32_eq_self_iff
  | standbyPara hm =>
    obtain ⟨hpos, rfl⟩ := readStandby_eq_iff.1 hm
    rw [toInt32_eq_self_iff, Reader.Fits]
    refine ⟨fun hfits => ⟨?_, hfits.2⟩, fun hfits => ⟨by omega, hfits.2⟩⟩
    rwa [toInt32_of_fits hfits.1 hfits.2] at hpos
  | interval hn hread hm =>
    rw [← toInt32_of_readArray hread hn hm]
    exact toInt32_eq_self_iff
  | uid hn hread =>
    rw [← narrow_eq hn (narrowed_of_parseFromJson hread).uid]
    exact toInt32_eq_self_iff
  | pid hn hread =>
    rw [← narrow_eq hn (narrowed_of_parseFromJson hread).pid]
    exact toInt32_eq_self_iff
  | allowType hn hread =>
    rw [← narrow_eq hn (narrowed_of_parseFromJson hread).allowType]
    exact toUInt32_eq_self_iff
  | reasonCode hn hread =>
    rw [← narrow_eq hn (narrowed_of_parseFromJson hread).reasonCode]
    exact toUInt32_eq_self_iff
  | allowTypeIndex hn hread =>
    rw [← narrow_eq hn (narrowed_of_setAllowTime hread).1]
    exact toUInt32_eq_self_iff
  | endTime hn hread =>
    rw [← narrow_eq hn (narrowed_of_setAllowTime hread).2]
    exact toInt64_eq_self_iff

/-- The milliseconds of a stored parameter fit an `int32_t` up to 2147483 seconds. -/
theorem darkTimeOut_eq_iff {cfg : StandbyConfig} (h : Stores .standbyPara n cfg.darkTimeOut) :
    DarkState.darkTimeOut cfg = cfg.darkTimeOut * msecPerSec ↔ cfg.darkTimeOut ≤ 2147483 := by
  have hpos : 0 ≤ cfg.darkTimeOut := by
    cases h with
    | standbyPara hm =>
      obtain ⟨hpos, heq⟩ := readStandby_eq_iff.1 hm
      exact heq ▸ hpos
  rw [DarkState.darkTimeOut, Int.mul_comm, toInt32_eq_self_iff]
  dsimp only [msecPerSec]
  omega

end

/-! ## When what is stored is what is there -/

/-- Whatever a reader stores of an integer is the integer if and only if it fits the reader, a
parameter is rejected if and only if it is negative as an `int32_t`, and then what there was is
kept, and the timeout of the dark state has the milliseconds of a stored parameter if and only if
this is at most 2147483. -/
theorem stores_iff (n : Int) :
    (∀ reader m, Stores reader n m → (m = n ↔ reader.Fits n)) ∧
    ((¬ ∃ m, Stores .standbyPara n m) ↔ toInt32 n < 0) ∧
    (∀ value (config config' : StandbyConfigManager) ret key,
      value.member? key = some (.integer n) →
      parseStandbyConfig value config = some (ret, config') →
        config'.standbyParaMap.lookup key =
          if toInt32 n < 0 then config.standbyParaMap.lookup key else some (toInt32 n)) ∧
    ∀ cfg : StandbyConfig, Stores .standbyPara n cfg.darkTimeOut →
      (DarkState.darkTimeOut cfg = cfg.darkTimeOut * msecPerSec ↔ cfg.darkTimeOut ≤ 2147483) := by
  refine ⟨fun _ _ h => h.eq_iff, ⟨fun hno => ?_, ?_⟩,
    fun _ _ _ _ _ hn h => lookup_standbyParaMap hn h, fun _ h => darkTimeOut_eq_iff h⟩
  · by_contra hneg
    exact hno ⟨_, .standbyPara (readStandby_eq_iff.2 ⟨not_lt.1 hneg, rfl⟩)⟩
  · rintro hneg ⟨m, hm⟩
    cases hm with
    | standbyPara hm => exact not_lt.2 (readStandby_eq_iff.1 hm).1 hneg

/-- The second of two intervals does not fit, and is stored as another. -/
theorem stores_iff_interval : ∃ list,
    readArray getInt32? (.array [.integer 10, .integer 4294967297]) = some (.value list) ∧
      list[1]? = some 1 ∧ ¬ Reader.Fits 4294967297 .interval := by
  have hstores : Stores .interval 4294967297 1 :=
    @Stores.interval [.integer 10, .integer 4294967297] [10, 1] 1 _ _ rfl rfl rfl
  have hne : (1 : Int) ≠ 4294967297 := by decide
  exact ⟨[10, 1], rfl, rfl, mt ((stores_iff 4294967297).1 .interval 1 hstores).2 hne⟩

/-- A timeout of 4294967297 seconds is stored as one second. -/
theorem not_always_stores_eq : ¬ ∀ reader n m, -2 ^ 63 ≤ n → n < 2 ^ 64 → Stores reader n m →
    m = n := by
  intro h
  have hstores : Stores .standbyPara 4294967297 1 := .standbyPara rfl
  have heq := h .standbyPara 4294967297 1 (by decide) (by decide) hstores
  revert heq
  decide

end DeviceStandby
