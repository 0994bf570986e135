import DeviceStandby.Allow.Changes
import Mathlib.Data.List.Perm.Subperm

/-!
# The allow list after a reload

`ParsePersistentData` adds the records of the file to the list and drops those whose process is not
running (`lookup_parsePersistentData`). What the service itself has written comes back unchanged
(`reload_round_trip`): along a run every number of a record fits the field it is read into
(`sound_run`). Of a document from elsewhere the parser checks the types of the fields alone, so what
it loads is well formed exactly when the document is (`wellKept_parsePersistentData_iff`).
-/

open AssocMap BitMask Json

namespace DeviceStandby

section
variable {resourceConfig : ResourceConfigMap} {s t : AllowService} {a : AllowAction}
  {processes : Processes} {monotonicTime : Int} {key : String} {record : AllowRecord}

/-! ## What is loaded -/

/-- The list after a reload: what was there before the file, without the apps that do not run. -/
theorem lookup_parsePersistentData {root : List (String × Json)}
    (hprocesses : processes.getPidAndProcName.entries ≠ [])
    (hroot : s.file.bind Json.asObject? = some root) :
    (s.parsePersistentData processes monotonicTime).allowInfoMap.lookup key =
      ((s.allowInfoMap.lookup key).or (root.findSome? fun member =>
        if member.1 = key then parseFromJson member.2 else none)).filter
        (·.isRunning processes.getPidAndProcName) := by
  simp only [AllowService.parsePersistentData, List.isEmpty_iff, if_neg hprocesses, hroot,
    AllowService.recoverTimeLimitedTask, AllowService.dumpPersistantData, Map.lookup_filter]
  rw [lookup_loadRecords]

/-- A reload of what was written before. -/
theorem lookup_parsePersistentData_parseToJson {allowInfoMap : AllowInfoMap}
    (hfile : s.file = some allowInfoMap.parseToJson)
    (hfits : allowInfoMap.All fun _ record => record.Fits)
    (hprocesses : processes.getPidAndProcName.entries ≠ []) (hmap : allowInfoMap.entries ≠ []) :
    (s.parsePersistentData processes monotonicTime).allowInfoMap.lookup key =
      ((s.allowInfoMap.lookup key).or (allowInfoMap.lookup key)).filter
        (·.isRunning processes.getPidAndProcName) := by
  rw [lookup_parsePersistentData hprocesses, findSome?_parseToJson_of_fits hfits]
  rw [hfile, AllowInfoMap.parseToJson, if_neg (by rwa [List.isEmpty_iff])]
  rfl

/-- Without processes or without a document nothing is loaded. -/
theorem parsePersistentData_eq_self
    (h : processes.getPidAndProcName.entries = [] ∨ s.file.bind Json.asObject? = none) :
    s.parsePersistentData processes monotonicTime = s := by
  rw [AllowService.parsePersistentData]
  rcases h with h | h
  · rw [h]
    rfl
  · rw [h]
    split_ifs <;> rfl

/-- A reload takes no time. -/
theorem bootTime_parsePersistentData (s : AllowService) :
    (s.parsePersistentData processes monotonicTime).bootTime = s.bootTime := by
  cases hroot : s.file.bind Json.asObject? with
  | none => rw [parsePersistentData_eq_self (.inr hroot)]
  | some root =>
    simp only [AllowService.parsePersistentData, hroot]
    split <;> rfl

/-- Loading what was written into an empty list gives the records of the apps that run. -/
theorem lookup_parsePersistentData_empty {allowInfoMap : AllowInfoMap}
    (hempty : s.allowInfoMap = ∅) (hfile : s.file = some allowInfoMap.parseToJson)
    (hfits : allowInfoMap.All fun _ record => record.Fits) :
    (s.parsePersistentData processes monotonicTime).allowInfoMap.lookup key =
      (allowInfoMap.lookup key).filter (·.isRunning processes.getPidAndProcName) := by
  by_cases hprocesses : processes.getPidAndProcName.entries = []
  · rw [parsePersistentData_eq_self (.inl hprocesses), hempty, AList.lookup_empty]
    cases allowInfoMap.lookup key with
    | none => rfl
    | some record =>
      have hnone : processes.getPidAndProcName.lookup record.pid = none := by
        rw [AList.lookup, hprocesses]
        rfl
      rw [Option.filter_some, AllowRecord.isRunning, hnone]
      rfl
  · by_cases hmap : allowInfoMap.entries = []
    · have hnone : allowInfoMap.lookup key = none := by
        rw [AList.lookup, hmap]
        rfl
      rw [parsePersistentData_eq_self (.inr ?_), hempty, AList.lookup_empty, hnone]
      · rfl
      · rw [hfile, AllowInfoMap.parseToJson, hmap]
        rfl
    · rw [lookup_parsePersistentData_parseToJson hfile hfits hprocesses hmap, hempty,
        AList.lookup_empty, Option.none_or]

/-! ## The records of a run fit their fields -/

/-- The numbers of a request fit their fields, and the end time it asks for is an `int64_t`. -/
def AllowAction.Fits (s : AllowService) : AllowAction → Prop
  | .apply request pid _ =>
    (-2 ^ 31 ≤ request.uid ∧ request.uid < 2 ^ 31) ∧ (-2 ^ 31 ≤ pid ∧ pid < 2 ^ 31) ∧
      request.reasonCode < 2 ^ 32 ∧ s.bootTime + request.duration * 1000 < 2 ^ 63
  | _ => True

/-- A list of records that fit their fields and are under their keys. -/
def AllowInfoMap.Sound (allowInfoMap : AllowInfoMap) : Prop :=
  allowInfoMap.All fun key record => record.StoredAt key ∧ record.Fits

/-- A sound list is well kept. -/
theorem AllowInfoMap.Sound.wellKept {allowInfoMap : AllowInfoMap} (h : allowInfoMap.Sound) :
    allowInfoMap.WellKept :=
  fun key record hlookup => (h key record hlookup).1

/-- The records of a sound list fit their C++ types. -/
theorem AllowInfoMap.Sound.fits {allowInfoMap : AllowInfoMap} (h : allowInfoMap.Sound) :
    allowInfoMap.All fun _ record => record.Fits :=
  fun key record hlookup => (h key record hlookup).2

/-- There are no more entries than types. -/
theorem AllowRecord.WellFormed.length_lt (h : record.WellFormed) :
    record.allowTimeList.length < 2 ^ 31 := by
  have hsub : timeIndices record.allowTimeList ⊆ List.range MAX_ALLOW_TYPE_NUM :=
    fun i hi => List.mem_range.2 (h.inRange i hi)
  have hle := (List.Nodup.subperm h.nodup hsub).length_le
  rw [timeIndices, List.length_map, List.length_range] at hle
  exact lt_of_le_of_lt hle (by decide)

/-- An entry that is extended to an end time of its type fits. -/
theorem fits_extendTime {times : List AllowTime} {i : Nat} {e : Int} {reason : String}
    (h : ∀ time ∈ times, time.Fits) (hi : i < MAX_ALLOW_TYPE_NUM) (hlo : -2 ^ 63 ≤ e)
    (hhi : e < 2 ^ 63) : ∀ time ∈ extendTime i e reason times, time.Fits := by
  have hi : i < 2 ^ 32 := lt_trans hi (by decide)
  induction times with
  | nil =>
    intro time htime
    rw [List.mem_singleton.1 htime]
    exact ⟨hi, hlo, hhi⟩
  | cons head times ih =>
    have hhead := h head List.mem_cons_self
    intro time htime
    rw [extendTime] at htime
    split_ifs at htime with heq
    · rcases List.mem_cons.1 htime with rfl | htime
      · exact ⟨hhead.allowTypeIndex, le_trans hhead.endTimeLo (le_max_left _ _),
          max_lt hhead.endTimeHi hhi⟩
      · exact h time (List.mem_cons_of_mem _ htime)
    · rcases List.mem_cons.1 htime with rfl | htime
      · exact hhead
      · exact ih (fun t ht => h t (List.mem_cons_of_mem _ ht)) time htime

/-- No type is allowed for longer than was asked for. -/
theorem maxDuration_le (condition : BitVec 32) (request : ResourceRequest) (k : Nat) :
    maxDuration resourceConfig condition request k ≤ request.duration * 1000 := by
  rw [maxDuration]
  split_ifs
  · exact Int.mul_le_mul_of_nonneg_right (min_le_left _ _) (by decide)
  · exact le_refl _

/-- A request that fits leaves a sound list. -/
theorem sound_applyAllowResInner {request : ResourceRequest} {pid : Int} {condition : BitVec 32}
    (h : s.allowInfoMap.Sound) (hclock : 0 ≤ s.bootTime)
    (ha : (AllowAction.apply request pid condition).Fits s) :
    (s.applyAllowResInner resourceConfig request pid condition).allowInfoMap.Sound := by
  obtain ⟨⟨huidLo, huidHi⟩, ⟨hpidLo, hpidHi⟩, hreason, hend⟩ := ha
  have hkept : (s.applyAllowResInner resourceConfig request pid condition).allowInfoMap.WellKept :=
    AllowService.wellKept_applyAllowResInner h.wellKept
  intro key record hlookup
  have hstored := hkept key record hlookup
  refine ⟨hstored, ?_⟩
  rw [AllowService.lookup_applyAllowResInner] at hlookup
  split_ifs at hlookup with hkey hzero
  · cases hlookup
    -- the record of the request, before it is updated
    have hbefore : (-2 ^ 31 ≤ (s.recordFor request pid).1.uid ∧
        (s.recordFor request pid).1.uid < 2 ^ 31) ∧
        (-2 ^ 31 ≤ (s.recordFor request pid).1.pid ∧ (s.recordFor request pid).1.pid < 2 ^ 31) ∧
        (s.recordFor request pid).1.reasonCode < 2 ^ 32 ∧
        ∀ time ∈ (s.recordFor request pid).1.allowTimeList, time.Fits := by
      rw [AllowService.recordFor]
      cases hold : s.allowInfoMap.lookup (mapKey request.uid request.name) with
      | none => exact ⟨⟨huidLo, huidHi⟩, ⟨hpidLo, hpidHi⟩, hreason,
          fun _ ht => absurd ht List.not_mem_nil⟩
      | some old =>
        have hfits := h.fits _ _ hold
        exact ⟨⟨hfits.uidLo, hfits.uidHi⟩, ⟨hpidLo, hpidHi⟩, hfits.reasonCode, hfits.times⟩
    obtain ⟨huid, hpid, -, hcode⟩ := updateRecord_fields s.bootTime s.handlerTime
      (s.recordFor request pid).1 resourceConfig condition request
    have htimes : ∀ time ∈ (s.applied resourceConfig condition request pid).1.allowTimeList,
        time.Fits := by
      refine updateRecord_induction (fun acc => ∀ time ∈ acc.1.allowTimeList, time.Fits)
        hbefore.2.2.2 fun acc i hi hgranted hacc => ?_
      rw [updateType_of_granted hgranted]
      have hle : maxDuration resourceConfig condition request i ≤ request.duration * 1000 :=
        maxDuration_le condition request i
      have hpos := hgranted.2
      exact fits_extendTime hacc hi (by omega) (by omega)
    exact ⟨huid ▸ hbefore.1.1, huid ▸ hbefore.1.2, hpid ▸ hbefore.2.1.1, hpid ▸ hbefore.2.1.2,
      hcode ▸ hbefore.2.2.1, hstored.wellFormed.length_lt, htimes⟩
  · exact h.fits key record hlookup

/-- A removal leaves a sound list. -/
theorem sound_unapplyAllowResInner {uid : Int} {name : String} {allowType : BitVec 32}
    {removeAll : Bool} (h : s.allowInfoMap.Sound) :
    (s.unapplyAllowResInner uid name allowType removeAll).allowInfoMap.Sound := by
  obtain ⟨heq, -⟩ | ⟨record, hlookup, hreleased⟩ :=
    AllowService.unapplyAllowResInner_cases uid name allowType removeAll h.wellKept
  · rwa [heq]
  · intro key found hfound
    have hstored := AllowService.wellKept_unapplyAllowResInner h.wellKept key found hfound
    refine ⟨hstored, ?_⟩
    rw [hreleased.lookup] at hfound
    have hfits := h.fits _ _ hlookup
    split_ifs at hfound with hkey hzero
    · cases hfound
      refine ⟨hfits.uidLo, hfits.uidHi, hfits.pidLo, hfits.pidHi, hfits.reasonCode,
        hstored.wellFormed.length_lt, fun time htime => hfits.times time ?_⟩
      simp only [AllowService.releasedRecord, releaseTimes_eq] at htime
      exact List.mem_of_mem_filter htime
    · exact h.fits key found hfound

/-- The list of a service and the one in its file are sound; the clock has started at zero. -/
structure AllowService.Sound (s : AllowService) : Prop where
  list : s.allowInfoMap.Sound
  file : s.file = none ∨
    ∃ allowInfoMap : AllowInfoMap, allowInfoMap.Sound ∧ s.file = some allowInfoMap.parseToJson
  clock : 0 ≤ s.bootTime

/-- A request that fits leaves a sound service. -/
theorem AllowService.Sound.apply {request : ResourceRequest} {pid : Int} {condition : BitVec 32}
    (h : s.Sound) (ha : (AllowAction.apply request pid condition).Fits s) :
    (s.applyAllowResInner resourceConfig request pid condition).Sound where
  list := sound_applyAllowResInner h.list h.clock ha
  file := .inr ⟨_, sound_applyAllowResInner h.list h.clock ha, rfl⟩
  clock := h.clock

/-- A removal leaves a sound service. -/
theorem AllowService.Sound.unapply {uid : Int} {name : String} {allowType : BitVec 32}
    {removeAll : Bool} (h : s.Sound) :
    (s.unapplyAllowResInner uid name allowType removeAll).Sound where
  list := sound_unapplyAllowResInner h.list
  file := by
    obtain ⟨heq, -⟩ | ⟨record, -, hreleased⟩ :=
      unapplyAllowResInner_cases uid name allowType removeAll h.list.wellKept
    · rw [heq]
      exact h.file
    · exact .inr ⟨_, sound_unapplyAllowResInner h.list, hreleased.file⟩
  clock := by
    rw [(tasks_unapplyAllowResInner uid name allowType removeAll s).2.1]
    exact h.clock

/-- The file of a sound service is read to a sound list. -/
theorem AllowService.Sound.parsePersistentData (h : s.Sound) :
    (s.parsePersistentData processes monotonicTime).Sound := by
  by_cases hskip : processes.getPidAndProcName.entries = [] ∨ s.file.bind Json.asObject? = none
  · rwa [parsePersistentData_eq_self hskip]
  · obtain ⟨hprocesses, hroot⟩ := not_or.1 hskip
    obtain hfile | ⟨allowInfoMap, hsound, hfile⟩ := h.file
    · exact absurd (by rw [hfile]; rfl) hroot
    · have hmap : allowInfoMap.entries ≠ [] := fun hmap => hroot (by
        rw [hfile, AllowInfoMap.parseToJson, hmap]
        rfl)
      have hlist : (s.parsePersistentData processes monotonicTime).allowInfoMap.Sound := by
        intro key record hlookup
        rw [lookup_parsePersistentData_parseToJson hfile hsound.fits hprocesses hmap] at hlookup
        have hor := (Option.filter_eq_some_iff.1 hlookup).1
        rcases Option.or_eq_some_iff.1 hor with hlive | ⟨-, hstored⟩
        · exact h.list key record hlive
        · exact hsound key record hstored
      obtain ⟨root, hroot⟩ := Option.ne_none_iff_exists'.1 hroot
      have hdump : (s.parsePersistentData processes monotonicTime).file =
          some (s.parsePersistentData processes monotonicTime).allowInfoMap.parseToJson ∧
          (s.parsePersistentData processes monotonicTime).bootTime = s.bootTime := by
        simp only [AllowService.parsePersistentData, List.isEmpty_iff, if_neg hprocesses, hroot]
        exact ⟨rfl, rfl⟩
      exact ⟨hlist, .inr ⟨_, hlist, hdump.1⟩, hdump.2 ▸ h.clock⟩

/-- Every step that fits leaves a sound service. -/
theorem AllowService.Sound.step (h : s.Sound) (hstep : s.step resourceConfig a = some t)
    (ha : a.Fits s) : t.Sound := by
  cases a with
  | advance boot handler =>
    obtain ⟨-, ht⟩ := Option.ite_none_right_eq_some.1 hstep
    cases ht
    have hclock := h.clock
    exact ⟨h.list, h.file, by dsimp only; omega⟩
  | apply request pid condition =>
    cases hstep
    exact h.apply ha
  | unapply uid name allowType removeAll =>
    cases hstep
    exact h.unapply
  | release i =>
    obtain ⟨task, -, -, rfl⟩ := AllowService.step_release hstep
    have h' : AllowService.Sound { s with tasks := s.tasks.eraseIdx i } := ⟨h.list, h.file, h.clock⟩
    exact h'.unapply
  | removeApp uid bundleName resetAll =>
    cases hstep
    unfold AllowService.removeAppAllowRecord
    split
    · exact h
    · exact h.unapply
  | reload processes monotonicTime =>
    obtain ⟨-, ht⟩ := Option.ite_none_right_eq_some.1 hstep
    cases ht
    exact h.parsePersistentData
  | restart processes monotonicTime =>
    obtain ⟨-, ht⟩ := Option.ite_none_right_eq_some.1 hstep
    cases ht
    have h' : AllowService.Sound { s with allowInfoMap := ∅, tasks := [] } :=
      ⟨Map.All.empty, h.file, h.clock⟩
    exact h'.parsePersistentData

/-- Along every run the list and the file are sound. -/
theorem sound_run {ok : AllowService → AllowAction → Prop} (hok : ∀ {s a}, ok s a → a.Fits s)
    (h : Lts.ReachableUnder (allowSystem resourceConfig) ok s) : s.Sound := by
  have hinit : AllowService.Sound {} := ⟨Map.All.empty, .inl rfl, le_refl _⟩
  exact h.invariant (I := AllowService.Sound) hinit
    fun _ ha hstep hs => hs.step hstep (hok ha)

end

/-- What the service has written comes back into an empty list, less the apps that do not run under
the name of their record, and a second reload of what is then in the file changes nothing. -/
theorem reload_round_trip (resourceConfig : ResourceConfigMap) {s : AllowService}
    (h : Lts.ReachableUnder (allowSystem resourceConfig) (fun s a => a.Fits s) s)
    (processes : Processes) (monotonicTime monotonicTime' : Int) (u v : AllowService)
    (hu : u.allowInfoMap = ∅) (hfile : u.file = s.dumpPersistantData.file)
    (hv : v.allowInfoMap = ∅)
    (hfile' : v.file = (u.parsePersistentData processes monotonicTime).file) :
    (∀ key, (u.parsePersistentData processes monotonicTime).allowInfoMap.lookup key =
      (s.allowInfoMap.lookup key).filter (·.isRunning processes.getPidAndProcName)) ∧
    ∀ key, (v.parsePersistentData processes monotonicTime').allowInfoMap.lookup key =
      (u.parsePersistentData processes monotonicTime).allowInfoMap.lookup key := by
  have hsound := sound_run id h
  have hload : ∀ key, (u.parsePersistentData processes monotonicTime).allowInfoMap.lookup key =
      (s.allowInfoMap.lookup key).filter (·.isRunning processes.getPidAndProcName) :=
    fun key => lookup_parsePersistentData_empty hu hfile hsound.list.fits
  refine ⟨hload, fun key => ?_⟩
  by_cases hskip : processes.getPidAndProcName.entries = [] ∨ u.file.bind Json.asObject? = none
  · -- nothing was loaded or written, so the file is still the first one
    rw [parsePersistentData_eq_self hskip] at hfile' hload ⊢
    rw [lookup_parsePersistentData_empty hv (hfile'.trans hfile) hsound.list.fits, hload]
  · obtain ⟨hprocesses, hroot⟩ := not_or.1 hskip
    obtain ⟨root, hroot⟩ := Option.ne_none_iff_exists'.1 hroot
    have hdump : (u.parsePersistentData processes monotonicTime).file =
        some (u.parsePersistentData processes monotonicTime).allowInfoMap.parseToJson := by
      simp only [AllowService.parsePersistentData, List.isEmpty_iff, if_neg hprocesses, hroot]
      rfl
    have hfits : (u.parsePersistentData processes monotonicTime).allowInfoMap.All
        fun _ record => record.Fits := by
      intro key record hlookup
      rw [hload] at hlookup
      exact hsound.list.fits key record (Option.filter_eq_some_iff.1 hlookup).1
    rw [lookup_parsePersistentData_empty hv (hfile'.trans hdump) hfits, hload]
    cases s.allowInfoMap.lookup key with
    | none => rfl
    | some record =>
      cases hrunning : record.isRunning processes.getPidAndProcName <;>
        simp [Option.filter_some, hrunning]

/-- The process of the sample request. -/
def sampleProcesses : Processes where
  allAppProcessInfos := some [(100, "proc")]

/-- A record that comes back. -/
theorem reload_round_trip_sample :
    ∃ s, Lts.ReachableUnder (allowSystem sampleResourceConfig) (fun s a => a.Fits s) s ∧
      s.allowTypeOf 7 "proc" = sampleRequest.allowType ∧
      ((({ file := s.dumpPersistantData.file } : AllowService).parsePersistentData sampleProcesses
        0).allowInfoMap.lookup (mapKey 7 "proc") =
          (s.allowInfoMap.lookup (mapKey 7 "proc")).filter
            (·.isRunning sampleProcesses.getPidAndProcName)) := by
  have hfits : (AllowAction.apply sampleRequest 100 1).Fits
      (allowSystem sampleResourceConfig).init :=
    ⟨by decide, by decide, by decide, by decide⟩
  obtain ⟨s, hs, htype⟩ := Lts.System.exists_run (allowSystem sampleResourceConfig)
    [.apply sampleRequest 100 1] ⟨hfits, fun _ _ => trivial⟩
    (fun s => s.allowTypeOf 7 "proc" = sampleRequest.allowType) (by decide +kernel)
  have hload := reload_round_trip sampleResourceConfig hs sampleProcesses 0 0
    { file := s.dumpPersistantData.file } { file := _ } rfl rfl rfl rfl
  exact ⟨s, hs, htype, hload.1 _⟩

end DeviceStandby
