import DeviceStandby.Allow.Document

/-!
# The allow list of one uid

An operation on one app leaves the records of the other uids alone, and what it makes of the app's
record depends on that record and on the clocks. So two lists that have the same records for a uid
(`AgreeFor`) still have after an operation on both, and after an operation on one of them for
another uid. The record file is written whole: a restart brings the records of the uid back on both
sides when it reads the process table, and when it does not, a later operation for any uid writes a
file without them (`KeepsRecords`).
-/

open AssocMap Json

namespace DeviceStandby

namespace AllowService

/-- What a release leaves of a record. -/
def unapplied (allowType : BitVec 32) (removeAll : Bool) (s : AllowService)
    (record : AllowRecord) : Option AllowRecord :=
  if allowType &&& record.allowType = 0 ∨
      (releaseTimes allowType removeAll s.bootTime record.allowTimeList).2 = 0 then some record
  else if (s.releasedRecord allowType removeAll record).allowType = 0 then none
  else some (s.releasedRecord allowType removeAll record)

/-- The file has the records that the list has for a uid. -/
def FiledFor (u : Int) (s : AllowService) : Prop :=
  ∃ filed : AllowInfoMap, s.file.getD .null = filed.parseToJson ∧
    ∀ name, filed.lookup (mapKey u name) = s.allowInfoMap.lookup (mapKey u name)

/-- Two services agree on the records of a uid, and on what its records depend on. -/
structure AgreeFor (u : Int) (s t : AllowService) : Prop where
  isServiceReady : s.isServiceReady = t.isServiceReady
  bootTime : s.bootTime = t.bootTime
  handlerTime : s.handlerTime = t.handlerTime
  list : ∀ name, s.allowInfoMap.lookup (mapKey u name) = t.allowInfoMap.lookup (mapKey u name)
  filed : s.FiledFor u
  filed' : t.FiledFor u

/-- The service after its process has died: the file is what it keeps. -/
def died (s : AllowService) : AllowService :=
  { s with allowInfoMap := ∅, tasks := [] }

/-- A restart that cannot read the process table finds no record of the uid. -/
def KeepsRecords (u : Int) (s : AllowService) : AllowAction → Prop
  | .restart processes _ => processes.getPidAndProcName.entries = [] →
      ∀ name, s.allowInfoMap.lookup (mapKey u name) = none
  | _ => True

section
variable {resourceConfig : ResourceConfigMap} {request : ResourceRequest} {pid uid u : Int}
  {condition allowType : BitVec 32} {removeAll : Bool} {name key : String}
  {s s' t t' : AllowService} {processes : Processes} {monotonicTime : Int}

/-! ## Operations on one app -/

/-- A removal writes the record of its uid and name, and no other. -/
theorem lookup_unapplyAllowResInner :
    (s.unapplyAllowResInner uid name allowType removeAll).allowInfoMap.lookup key =
      if key = mapKey uid name then
        (s.allowInfoMap.lookup key).bind (s.unapplied allowType removeAll)
      else s.allowInfoMap.lookup key := by
  have hkept : ∀ record, s.allowInfoMap.lookup (mapKey uid name) = some record →
      s.unapplied allowType removeAll record = some record →
      s.allowInfoMap.lookup key = if key = mapKey uid name then
        (s.allowInfoMap.lookup key).bind (s.unapplied allowType removeAll)
      else s.allowInfoMap.lookup key := by
    intro record hrecord hsame
    split_ifs with hkey
    · rw [hkey, hrecord, Option.bind_some, hsame]
    · rfl
  cases hrecord : s.allowInfoMap.lookup (mapKey uid name) with
  | none =>
    simp only [unapplyAllowResInner, hrecord]
    split_ifs with hkey
    · rw [hkey, hrecord, Option.bind_none]
    · rfl
  | some record =>
    by_cases hnone : allowType &&& record.allowType = 0
    · simp only [unapplyAllowResInner, hrecord, if_pos hnone]
      exact hkept record hrecord (if_pos (.inl hnone))
    · by_cases hzero : (releaseTimes allowType removeAll s.bootTime record.allowTimeList).2 = 0
      · simp only [unapplyAllowResInner, hrecord, if_neg hnone, if_pos hzero]
        exact hkept record hrecord (if_pos (.inr hzero))
      · rw [(released_unapplyAllowResInner hrecord hnone hzero).lookup]
        split_ifs with hkey hempty
        · rw [hkey, hrecord, Option.bind_some, unapplied, if_neg (not_or.2 ⟨hnone, hzero⟩),
            if_pos hempty]
        · rw [hkey, hrecord, Option.bind_some, unapplied, if_neg (not_or.2 ⟨hnone, hzero⟩),
            if_neg hempty]
        · rfl

/-- What a request makes of a record depends on the record and on the clocks. -/
theorem applied_congr (hlist : s.allowInfoMap.lookup (mapKey request.uid request.name) =
      t.allowInfoMap.lookup (mapKey request.uid request.name)) (hboot : s.bootTime = t.bootTime)
    (hhandler : s.handlerTime = t.handlerTime) :
    s.applied resourceConfig condition request pid =
      t.applied resourceConfig condition request pid := by
  rw [applied, applied, recordFor, recordFor, hlist, hboot, hhandler]

/-- So does what a release leaves. -/
theorem unapplied_congr (hboot : s.bootTime = t.bootTime) :
    s.unapplied allowType removeAll = t.unapplied allowType removeAll := by
  funext record
  rw [unapplied, unapplied, releasedRecord, releasedRecord, hboot]

/-- An application files the list. -/
theorem filedFor_applyAllowResInner :
    (s.applyAllowResInner resourceConfig request pid condition).FiledFor u :=
  ⟨_, rfl, fun _ => rfl⟩

/-- A release changes nothing, or the file is written. -/
theorem FiledFor.unapply (h : s.FiledFor u) :
    (s.unapplyAllowResInner uid name allowType removeAll).FiledFor u := by
  unfold unapplyAllowResInner
  dsimp only
  split
  · exact h
  · split_ifs
    · exact h
    · exact h
    · exact ⟨_, rfl, fun _ => rfl⟩
    · exact ⟨_, rfl, fun _ => rfl⟩

/-- A removal does not concern the readiness. -/
theorem isServiceReady_unapply :
    (s.unapplyAllowResInner uid name allowType removeAll).isServiceReady = s.isServiceReady := by
  unfold unapplyAllowResInner
  dsimp only
  split
  · rfl
  · split_ifs <;> rfl

namespace AgreeFor

/-- Lists agree with each other. -/
theorem symm (h : AgreeFor u s t) : AgreeFor u t s where
  isServiceReady := h.isServiceReady.symm
  bootTime := h.bootTime.symm
  handlerTime := h.handlerTime.symm
  list name := (h.list name).symm
  filed := h.filed'
  filed' := h.filed

/-- A request made on both sides. -/
theorem apply (h : AgreeFor u s t) :
    AgreeFor u (s.applyAllowResInner resourceConfig request pid condition)
      (t.applyAllowResInner resourceConfig request pid condition) where
  isServiceReady := h.isServiceReady
  bootTime := h.bootTime
  handlerTime := h.handlerTime
  list name := by
    rw [lookup_applyAllowResInner, lookup_applyAllowResInner]
    by_cases hkey : mapKey u name = mapKey request.uid request.name
    · rw [if_pos hkey, if_pos hkey, applied_congr (hkey ▸ h.list name) h.bootTime h.handlerTime]
    · rw [if_neg hkey, if_neg hkey, h.list name]
  filed := filedFor_applyAllowResInner
  filed' := filedFor_applyAllowResInner

/-- A request for another uid, made on one side. -/
theorem apply_left (h : AgreeFor u s t) (hu : request.uid ≠ u) :
    AgreeFor u (s.applyAllowResInner resourceConfig request pid condition) t where
  isServiceReady := h.isServiceReady
  bootTime := h.bootTime
  handlerTime := h.handlerTime
  list name := by
    rw [lookup_applyAllowResInner, if_neg fun hkey => hu (mapKey_inj hkey).1.symm]
    exact h.list name
  filed := filedFor_applyAllowResInner
  filed' := h.filed'

/-- A release made on both sides. -/
theorem unapply (h : AgreeFor u s t) :
    AgreeFor u (s.unapplyAllowResInner uid name allowType removeAll)
      (t.unapplyAllowResInner uid name allowType removeAll) where
  isServiceReady := by
    rw [isServiceReady_unapply, isServiceReady_unapply, h.isServiceReady]
  bootTime := by
    rw [(tasks_unapplyAllowResInner ..).2.1, (tasks_unapplyAllowResInner ..).2.1, h.bootTime]
  handlerTime := by
    rw [(tasks_unapplyAllowResInner ..).2.2, (tasks_unapplyAllowResInner ..).2.2, h.handlerTime]
  list name := by
    rw [lookup_unapplyAllowResInner, lookup_unapplyAllowResInner, h.list name,
      unapplied_congr h.bootTime]
  filed := h.filed.unapply
  filed' := h.filed'.unapply

/-- A release for another uid, made on one side. -/
theorem unapply_left (h : AgreeFor u s t) (hu : uid ≠ u) :
    AgreeFor u (s.unapplyAllowResInner uid name allowType removeAll) t where
  isServiceReady := isServiceReady_unapply.trans h.isServiceReady
  bootTime := (tasks_unapplyAllowResInner ..).2.1.trans h.bootTime
  handlerTime := (tasks_unapplyAllowResInner ..).2.2.trans h.handlerTime
  list name := by
    rw [lookup_unapplyAllowResInner, if_neg fun hkey => hu (mapKey_inj hkey).1.symm]
    exact h.list name
  filed := h.filed.unapply
  filed' := h.filed'

/-- The tasks that wait have no part in it. -/
theorem withTasks (h : AgreeFor u s t) (tasks tasks' : List ReleaseTask) :
    AgreeFor u { s with tasks } { t with tasks := tasks' } :=
  ⟨h.isServiceReady, h.bootTime, h.handlerTime, h.list, h.filed, h.filed'⟩

end AgreeFor

/-! ## Reading the file -/

/-- A record as it is read back after it was written. -/
def reread (record : AllowRecord) : Option AllowRecord :=
  parseFromJson record.parseToJson

/-- The members of a file that was written with some records: a file without records is null. -/
theorem asObject?_file {filed : AllowInfoMap} (hfile : s.file.getD .null = filed.parseToJson) :
    s.file.bind Json.asObject? = if filed.entries = [] then none
      else some (filed.entries.map fun entry => (entry.1, entry.2.parseToJson)) := by
  have hroot : s.file.bind Json.asObject? = filed.parseToJson.asObject? := by
    rw [← hfile]
    cases s.file <;> rfl
  rw [hroot, AllowInfoMap.parseToJson]
  simp only [List.isEmpty_iff]
  split_ifs <;> rfl

/-- A file without entries has no record. -/
theorem lookup_eq_none_of_entries {filed : AllowInfoMap} (h : filed.entries = []) :
    filed.lookup key = none := by
  rw [AList.lookup, h]
  rfl

/-- A reload from a file that was written with some records, when the list has none that the file
has not. -/
theorem lookup_parsePersistentData_reread {filed : AllowInfoMap}
    (hfile : s.file.getD .null = filed.parseToJson)
    (hprocesses : processes.getPidAndProcName.entries ≠ [])
    (hlist : filed.lookup key = none → s.allowInfoMap.lookup key = none) :
    (s.parsePersistentData processes monotonicTime).allowInfoMap.lookup key =
      ((s.allowInfoMap.lookup key).or ((filed.lookup key).bind reread)).filter
        (·.isRunning processes.getPidAndProcName) := by
  have hroot := asObject?_file hfile
  split_ifs at hroot with hempty
  · have hnone : filed.lookup key = none := lookup_eq_none_of_entries hempty
    rw [parsePersistentData_eq_self (.inr hroot), hlist hnone, hnone]
    rfl
  · rw [lookup_parsePersistentData hprocesses hroot, findSome?_parseToJson]
    rfl

/-- A reload finds no processes or no records, or it writes the file. -/
theorem parsePersistentData_filed (u : Int) (processes : Processes) (monotonicTime : Int)
    (s : AllowService) :
    processes.getPidAndProcName.entries = [] ∨ s.file.bind Json.asObject? = none ∨
      (s.parsePersistentData processes monotonicTime).FiledFor u := by
  by_cases hprocesses : processes.getPidAndProcName.entries = []
  · exact .inl hprocesses
  · cases hroot : s.file.bind Json.asObject? with
    | none => exact .inr (.inl rfl)
    | some root =>
      refine .inr (.inr ?_)
      simp only [parsePersistentData, List.isEmpty_iff, if_neg hprocesses, hroot]
      exact ⟨_, rfl, fun _ => rfl⟩

/-- A reload leaves the clocks alone. -/
theorem parsePersistentData_frame (processes : Processes) (monotonicTime : Int)
    (s : AllowService) :
    (s.parsePersistentData processes monotonicTime).isServiceReady = s.isServiceReady ∧
      (s.parsePersistentData processes monotonicTime).bootTime = s.bootTime ∧
      (s.parsePersistentData processes monotonicTime).handlerTime = s.handlerTime := by
  unfold parsePersistentData
  dsimp only
  split_ifs
  · exact ⟨rfl, rfl, rfl⟩
  · split <;> exact ⟨rfl, rfl, rfl⟩

/-- A reload keeps the records of a uid whose processes run, whatever the other records are. -/
theorem FiledFor.lookup_reload (h : s.FiledFor u)
    (hprocesses : processes.getPidAndProcName.entries ≠ []) (name : String) :
    (s.parsePersistentData processes monotonicTime).allowInfoMap.lookup (mapKey u name) =
      (s.allowInfoMap.lookup (mapKey u name)).filter
        (·.isRunning processes.getPidAndProcName) := by
  obtain ⟨filed, hfile, hlist⟩ := h
  rw [lookup_parsePersistentData_reread hfile hprocesses fun hnone => (hlist name).symm.trans hnone,
    hlist]
  cases s.allowInfoMap.lookup (mapKey u name) with
  | none => rfl
  | some record => rw [Option.some_or]

/-- A restart reads them back. -/
theorem FiledFor.lookup_restart (h : s.FiledFor u)
    (hprocesses : processes.getPidAndProcName.entries ≠ []) (name : String) :
    (s.died.parsePersistentData processes monotonicTime).allowInfoMap.lookup (mapKey u name) =
      ((s.allowInfoMap.lookup (mapKey u name)).bind reread).filter
        (·.isRunning processes.getPidAndProcName) := by
  obtain ⟨filed, hfile, hlist⟩ := h
  have hempty : s.died.allowInfoMap.lookup (mapKey u name) = none := rfl
  rw [lookup_parsePersistentData_reread (s := s.died) hfile hprocesses fun _ => hempty, hempty,
    Option.none_or, hlist]

/-- A list that is read again is filed. -/
theorem FiledFor.reload (h : s.FiledFor u) :
    (s.parsePersistentData processes monotonicTime).FiledFor u := by
  obtain hskip | hskip | hfiled := parsePersistentData_filed u processes monotonicTime s
  · rwa [parsePersistentData_eq_self (.inl hskip)]
  · rwa [parsePersistentData_eq_self (.inr hskip)]
  · exact hfiled

/-- So is one that a restarted process reads. -/
theorem FiledFor.restart (h : s.FiledFor u)
    (hkeeps : s.KeepsRecords u (.restart processes monotonicTime)) :
    (s.died.parsePersistentData processes monotonicTime).FiledFor u := by
  obtain ⟨filed, hfile, hlist⟩ := h
  obtain hskip | hskip | hfiled := parsePersistentData_filed u processes monotonicTime s.died
  · rw [parsePersistentData_eq_self (.inl hskip)]
    exact ⟨filed, hfile, fun name => (hlist name).trans (hkeeps hskip name)⟩
  · -- the file has no record, of this uid either
    rw [parsePersistentData_eq_self (.inr hskip)]
    refine ⟨filed, hfile, fun name => ?_⟩
    rw [asObject?_file (s := s.died) hfile] at hskip
    split_ifs at hskip with hempty
    exact lookup_eq_none_of_entries hempty
  · exact hfiled

namespace AgreeFor

/-- A reload of both sides. -/
theorem reload (h : AgreeFor u s t) :
    AgreeFor u (s.parsePersistentData processes monotonicTime)
      (t.parsePersistentData processes monotonicTime) := by
  obtain ⟨hready, hboot, hhandler⟩ := parsePersistentData_frame processes monotonicTime s
  obtain ⟨hready', hboot', hhandler'⟩ := parsePersistentData_frame processes monotonicTime t
  refine ⟨by rw [hready, hready', h.isServiceReady], by rw [hboot, hboot', h.bootTime],
    by rw [hhandler, hhandler', h.handlerTime], fun name => ?_, h.filed.reload, h.filed'.reload⟩
  by_cases hprocesses : processes.getPidAndProcName.entries = []
  · rw [parsePersistentData_eq_self (.inl hprocesses),
      parsePersistentData_eq_self (.inl hprocesses), h.list]
  · rw [h.filed.lookup_reload hprocesses, h.filed'.lookup_reload hprocesses, h.list]

/-- A restart of both sides that reads the process table, or finds no record of the uid. -/
theorem restart (h : AgreeFor u s t)
    (hkeeps : s.KeepsRecords u (.restart processes monotonicTime)) :
    AgreeFor u (s.died.parsePersistentData processes monotonicTime)
      (t.died.parsePersistentData processes monotonicTime) := by
  have hkeeps' : t.KeepsRecords u (.restart processes monotonicTime) :=
    fun hprocesses name => (h.list name).symm.trans (hkeeps hprocesses name)
  obtain ⟨hready, hboot, hhandler⟩ := parsePersistentData_frame processes monotonicTime s.died
  obtain ⟨hready', hboot', hhandler'⟩ := parsePersistentData_frame processes monotonicTime t.died
  refine ⟨by rw [hready, hready']; exact h.isServiceReady, by rw [hboot, hboot']; exact h.bootTime,
    by rw [hhandler, hhandler']; exact h.handlerTime, fun name => ?_, h.filed.restart hkeeps,
    h.filed'.restart hkeeps'⟩
  by_cases hprocesses : processes.getPidAndProcName.entries = []
  · rw [parsePersistentData_eq_self (.inl hprocesses),
      parsePersistentData_eq_self (.inl hprocesses)]
    rfl
  · rw [h.filed.lookup_restart hprocesses, h.filed'.lookup_restart hprocesses, h.list]

/-- A step of both sides, other than a release. -/
theorem step {a : AllowAction} (h : AgreeFor u s t) (hrelease : ∀ i, a ≠ .release i)
    (hkeeps : s.KeepsRecords u a) (hs : s.step resourceConfig a = some s')
    (ht : t.step resourceConfig a = some t') : AgreeFor u s' t' := by
  cases a with
  | advance boot handler =>
    obtain ⟨-, hs⟩ := Option.ite_none_right_eq_some.1 hs
    obtain ⟨-, ht⟩ := Option.ite_none_right_eq_some.1 ht
    cases hs
    cases ht
    refine ⟨h.isServiceReady, ?_, ?_, h.list, h.filed, h.filed'⟩
    · exact congrArg (· + (boot : Int)) h.bootTime
    · exact congrArg (· + (handler : Int)) h.handlerTime
  | apply request pid condition =>
    cases hs
    cases ht
    exact h.apply
  | unapply uid name allowType removeAll =>
    cases hs
    cases ht
    exact h.unapply
  | release i => exact absurd rfl (hrelease i)
  | removeApp uid bundleName resetAll =>
    cases hs
    cases ht
    unfold removeAppAllowRecord
    rw [h.isServiceReady]
    split_ifs
    · exact h.unapply
    · exact h
  | reload processes monotonicTime =>
    obtain ⟨-, hs⟩ := Option.ite_none_right_eq_some.1 hs
    obtain ⟨-, ht⟩ := Option.ite_none_right_eq_some.1 ht
    cases hs
    cases ht
    exact h.reload
  | restart processes monotonicTime =>
    obtain ⟨-, hs⟩ := Option.ite_none_right_eq_some.1 hs
    obtain ⟨-, ht⟩ := Option.ite_none_right_eq_some.1 ht
    cases hs
    cases ht
    exact h.restart hkeeps

/-- The run of the releases of one task. -/
theorem release {task : ReleaseTask} {i i' : Nat} (h : AgreeFor u s t)
    (htask : s.tasks[i]? = some task) (htask' : t.tasks[i']? = some task)
    (hs : s.step resourceConfig (.release i) = some s')
    (ht : t.step resourceConfig (.release i') = some t') : AgreeFor u s' t' := by
  obtain ⟨_, hfound, -, rfl⟩ := step_release hs
  obtain ⟨_, hfound', -, rfl⟩ := step_release ht
  obtain rfl := Option.some.inj (htask.symm.trans hfound)
  obtain rfl := Option.some.inj (htask'.symm.trans hfound')
  exact (h.withTasks _ _).unapply

/-- A release for another uid on one side. -/
theorem release_left {i : Nat} {task : ReleaseTask} (h : AgreeFor u s t) (hu : task.uid ≠ u)
    (htask : s.tasks[i]? = some task) (hs : s.step resourceConfig (.release i) = some s') :
    AgreeFor u s' t := by
  obtain ⟨_, hfound, -, rfl⟩ := step_release hs
  obtain rfl := Option.some.inj (htask.symm.trans hfound)
  exact (h.withTasks _ t.tasks).unapply_left hu

end AgreeFor

end

end AllowService

end DeviceStandby
