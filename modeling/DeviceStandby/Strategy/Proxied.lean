import DeviceStandby.Strategy.RunningLock

/-!
# What is proxied is recorded

`RunningLockStrategy` lifts a proxy by the record it has of its app. So nothing stays proxied for
ever as long as every proxied running lock belongs to a restricted app of the record, and is proxied
only between the phase that starts the proxy and the state that stops it (`Held`). Three messages
break this, and `KeepsLocks` is what each must avoid: a condition change outside that time proxies
without setting `isProxied_`, the end of a background task is not guarded by it, and a process with
a negative uid is proxied under one key and recorded under another.
-/

namespace DeviceStandby

open ExemptionTypeFlag AssocMap

/-- An app is recorded under a key of its uid. -/
def RecordedUnder (key : String) (info : ProxiedProcInfo) : Prop :=
  ∃ name, key = mapKey info.uid name

namespace ProxyRecord
variable {q : Queries} {r r' : ProxyRecord} {lock : Int × Int}

/-- The record has every app under a key of its uid. -/
def Keyed (r : ProxyRecord) : Prop :=
  r.proxiedAppInfo.All RecordedUnder

/-- The empty record has no app under a wrong key. -/
theorem Keyed.empty : Keyed {} := Map.All.empty

/-- Changing an app in place leaves it under its key. -/
theorem all_modify {apps : Map String ProxiedProcInfo} {key : String}
    {f : ProxiedProcInfo → ProxiedProcInfo} (h : apps.All RecordedUnder)
    (hf : ∀ info, (f info).uid = info.uid) : (apps.modify key f).All RecordedUnder := by
  refine h.modify fun info hk => ?_
  obtain ⟨name, hk⟩ := hk
  exact ⟨name, by rw [hf, hk]⟩

/-- Setting a flag moves no app to another key. -/
theorem Keyed.setFlag (flag : ExemptionFlag) (key : String) (h : Keyed r) :
    Keyed (r.setFlag flag key) :=
  all_modify h fun _ => rfl

/-- `GetAllAppInfos` records an app under a key of its uid. -/
theorem Keyed.addApplication (info : ApplicationInfo) (h : Keyed r) :
    Keyed (r.addApplication info) := by
  have hnew : Map.All RecordedUnder (r.proxiedAppInfo.emplace (mapKey info.uid info.name)
      { name := info.name, uid := info.uid }) := h.emplace ⟨info.name, rfl⟩
  simp only [Keyed, ProxyRecord.addApplication]
  split_ifs
  · exact all_modify hnew fun _ => rfl
  · exact hnew

/-- `GetAllRunningAppInfo` records a process with the app of its uid. -/
theorem Keyed.addProcess (info : RunningProcessInfo) (h : Keyed r) : Keyed (r.addProcess info) := by
  unfold ProxyRecord.addProcess
  split
  · exact h
  · rename_i bundleName _
    exact all_modify (Map.All.emplace h ⟨bundleName, rfl⟩) fun _ => rfl

/-- A continuous task is recorded with the app of its uid. -/
theorem Keyed.addContinuousTask (task : ContinuousTaskCallbackInfo) (h : Keyed r) :
    Keyed (r.addContinuousTask task) := by
  unfold ProxyRecord.addContinuousTask
  split
  · exact h
  · exact h.setFlag _ _

/-- What a loop body keeps, the loop keeps. -/
theorem Keyed.foldl {α : Type} {f : ProxyRecord → α → ProxyRecord}
    (hf : ∀ {r} a, Keyed r → Keyed (f r a)) (l : List α) (h : Keyed r) : Keyed (l.foldl f r) :=
  List.foldlRecOn l f h fun _ hr a _ => hf a hr

/-- `GetAllAppInfos` keeps every app under a key of its uid. -/
theorem Keyed.getAllAppInfos (h : Keyed r) (heq : getAllAppInfos q r = some r') : Keyed r' := by
  obtain ⟨applicationInfos, -, heq⟩ := Option.bind_eq_some_iff.1 heq
  cases heq
  exact h.foldl (fun info h => h.addApplication info) applicationInfos

/-- `GetAllRunningAppInfo` keeps every app under a key of its uid. -/
theorem Keyed.getAllRunningAppInfo (h : Keyed r) (heq : getAllRunningAppInfo q r = some r') :
    Keyed r' := by
  obtain ⟨processes, -, heq⟩ := Option.bind_eq_some_iff.1 heq
  cases heq
  exact Map.All.filter (h.foldl (fun info h => h.addProcess info) processes)

/-- `GetForegroundApplications` keeps every app under a key of its uid. -/
theorem Keyed.getForegroundApplications (h : Keyed r)
    (heq : getForegroundApplications q r = some r') : Keyed r' := by
  obtain ⟨fgApps, -, heq⟩ := Option.bind_eq_some_iff.1 heq
  cases heq
  exact h.foldl (fun _ h => h.setFlag _ _) fgApps

/-- `GetBackgroundTaskApp` keeps every app under a key of its uid. -/
theorem Keyed.getBackgroundTaskApp (h : Keyed r) (heq : getBackgroundTaskApp q r = some r') :
    Keyed r' := by
  obtain ⟨continuousTaskList, -, heq⟩ := Option.bind_eq_some_iff.1 heq
  obtain ⟨transientTaskList, -, heq⟩ := Option.bind_eq_some_iff.1 heq
  cases heq
  exact (h.foldl (fun task h => h.addContinuousTask task) continuousTaskList).foldl
    (fun _ h => h.setFlag _ _) transientTaskList

/-- `GetWorkSchedulerTask` keeps every app under a key of its uid. -/
theorem Keyed.getWorkSchedulerTask (h : Keyed r) (heq : getWorkSchedulerTask q r = some r') :
    Keyed r' := by
  obtain ⟨workInfos, -, heq⟩ := Option.bind_eq_some_iff.1 heq
  cases heq
  exact h.foldl (fun _ h => h.setFlag _ _) workInfos

/-- `GetExemptionConfig` sets flags only. -/
theorem Keyed.getExemptionConfig (h : Keyed r) : Keyed (getExemptionConfig q r) := by
  refine Map.All.mapVals h fun key value hk => ?_
  dsimp only
  split_ifs <;> exact hk

/-- The record that `InitProxiedAppInfo` makes. -/
theorem keyed_initProxiedAppInfo (heq : initProxiedAppInfo q = some r) : Keyed r := by
  obtain ⟨r1, h1, heq⟩ := Option.bind_eq_some_iff.1 heq
  obtain ⟨r2, h2, heq⟩ := Option.bind_eq_some_iff.1 heq
  obtain ⟨r3, h3, heq⟩ := Option.bind_eq_some_iff.1 heq
  obtain ⟨r4, h4, heq⟩ := Option.bind_eq_some_iff.1 heq
  obtain ⟨r5, h5, heq⟩ := Option.bind_eq_some_iff.1 heq
  cases heq
  have h : Keyed r5 := ((((Keyed.empty.getAllAppInfos h1).getAllRunningAppInfo
    h2).getForegroundApplications h3).getBackgroundTaskApp h4).getWorkSchedulerTask h5
  exact h.getExemptionConfig

/-- The locks of an app are those of its processes, each with the uid of the app. -/
theorem mem_proxiedAppList_app {info : ProxiedProcInfo} :
    lock ∈ info.proxiedAppList ↔ lock.1 ∈ info.pids ∧ lock.2 = info.uid := by
  simp only [ProxiedProcInfo.proxiedAppList, Finset.mem_image]
  constructor
  · rintro ⟨pid, hpid, rfl⟩
    exact ⟨hpid, rfl⟩
  · rintro ⟨hpid, huid⟩
    exact ⟨lock.1, hpid, by rw [← huid]⟩

/-- The list holds the processes of the restricted apps. -/
theorem mem_proxiedAppList : lock ∈ r.proxiedAppList ↔
    ∃ key info, r.proxiedAppInfo.lookup key = some info ∧ info.restricted = true ∧
      lock ∈ info.proxiedAppList := by
  have hfold : ∀ values : List ProxiedProcInfo,
      lock ∈ values.foldr (fun value l => value.proxiedAppList ∪ l) ∅ ↔
        ∃ info ∈ values, lock ∈ info.proxiedAppList := by
    intro values
    induction values with
    | nil => simp
    | cons value values ih => simp [ih]
  simp only [proxiedAppList, hfold, List.mem_filter, Map.mem_values]
  constructor
  · rintro ⟨info, ⟨⟨key, hkey⟩, hres⟩, hlock⟩
    exact ⟨key, info, hkey, hres, hlock⟩
  · rintro ⟨key, info, hkey, hres, hlock⟩
    exact ⟨info, ⟨⟨key, hkey⟩, hres⟩, hlock⟩

/-- A lock that a changed app still has stays in the list. -/
theorem mem_proxiedAppList_modify {key : String} {f : ProxiedProcInfo → ProxiedProcInfo}
    (hlock : lock ∈ r.proxiedAppList)
    (hf : ∀ info, r.proxiedAppInfo.lookup key = some info → info.restricted = true →
      lock ∈ info.proxiedAppList → (f info).restricted = true ∧ lock ∈ (f info).proxiedAppList) :
    lock ∈ { r with proxiedAppInfo := r.proxiedAppInfo.modify key f }.proxiedAppList := by
  obtain ⟨k, info, hk, hres, hmem⟩ := mem_proxiedAppList.1 hlock
  rw [mem_proxiedAppList]
  by_cases heq : k = key
  · subst heq
    obtain ⟨hres', hmem'⟩ := hf info hk hres hmem
    exact ⟨k, f info, by rw [Map.lookup_modify, if_pos rfl, hk]; rfl, hres', hmem'⟩
  · exact ⟨k, info, by rw [Map.lookup_modify, if_neg heq, hk], hres, hmem⟩

/-- The uid in a key is the app's. -/
theorem Keyed.uid (h : Keyed r) {uid : Int} {name : String} {info : ProxiedProcInfo}
    (hkey : r.proxiedAppInfo.lookup (mapKey uid name) = some info) : info.uid = uid := by
  obtain ⟨name', hname⟩ := h _ info hkey
  exact (mapKey_inj hname).1.symm

/-- A process of the app under a key has died: the app is without it, and gone with its last. -/
def WithoutPid (key : String) (info : ProxiedProcInfo) (pid : Int) (r r' : ProxyRecord) : Prop :=
  ∀ key', r'.proxiedAppInfo.lookup key' =
    if key' = key then
      if info.pids.erase pid = ∅ then none else some { info with pids := info.pids.erase pid }
    else r.proxiedAppInfo.lookup key'

section
variable {key : String} {info : ProxiedProcInfo} {pid : Int}

/-- An app whose last process has died is erased. -/
theorem withoutPid_erase (hlast : info.pids.erase pid = ∅) :
    WithoutPid key info pid r { r with proxiedAppInfo := r.proxiedAppInfo.erase key } := by
  intro key'
  split_ifs with hkey
  · rw [hkey]
    exact AList.lookup_erase _ _
  · exact AList.lookup_erase_ne hkey

/-- An app that has another process loses the one that has died. -/
theorem withoutPid_modify (hinfo : r.proxiedAppInfo.lookup key = some info)
    (hlast : info.pids.erase pid ≠ ∅) :
    WithoutPid key info pid r { r with
      proxiedAppInfo := r.proxiedAppInfo.modify key fun app =>
        { app with pids := app.pids.erase pid } } := by
  intro key'
  rw [Map.lookup_modify, if_neg hlast]
  split_ifs with hkey
  · rw [hkey, hinfo]
    rfl
  · rfl

/-- The other apps, and the app without the process, stay under their keys. -/
theorem WithoutPid.keyed (h : WithoutPid key info pid r r')
    (hinfo : r.proxiedAppInfo.lookup key = some info) (hkeyed : r.Keyed) : r'.Keyed := by
  intro key' app happ
  rw [h key'] at happ
  split_ifs at happ with hkey
  · cases happ
    rw [hkey]
    exact hkeyed key info hinfo
  · exact hkeyed key' app happ

/-- The restricted apps have the locks that they had, but for the one of the process. -/
theorem WithoutPid.exists_lock_iff (h : WithoutPid key info pid r r')
    (hinfo : r.proxiedAppInfo.lookup key = some info) {key' : String} :
    (∃ app, r'.proxiedAppInfo.lookup key' = some app ∧ app.restricted = true ∧
        lock ∈ app.proxiedAppList) ↔
      (∃ app, r.proxiedAppInfo.lookup key' = some app ∧ app.restricted = true ∧
        lock ∈ app.proxiedAppList) ∧ (key' = key → lock ≠ (pid, info.uid)) := by
  rw [h key']
  by_cases hkey : key' = key
  · subst hkey
    have hlocks : lock.1 ∈ info.pids.erase pid ∧ lock.2 = info.uid ↔
        lock ∈ info.proxiedAppList ∧ lock ≠ (pid, info.uid) := by
      obtain ⟨p, u⟩ := lock
      simp only [mem_proxiedAppList_app, Finset.mem_erase, Ne, Prod.mk.injEq]
      tauto
    rw [if_pos rfl, hinfo]
    split_ifs with hlast
    · rw [hlast] at hlocks
      refine iff_of_false (fun ⟨_, happ, _⟩ => nomatch happ) ?_
      rintro ⟨⟨app, happ, -, hlock⟩, hne⟩
      cases happ
      exact absurd (hlocks.2 ⟨hlock, hne rfl⟩).1 (Finset.notMem_empty _)
    · simp only [Option.some.injEq, exists_eq_left', forall_const, and_assoc, ← hlocks]
      rw [mem_proxiedAppList_app]
      exact Iff.rfl
  · rw [if_neg hkey]
    exact (and_iff_left fun heq => absurd heq hkey).symm

end

end ProxyRecord

/-! ## The invariant -/

namespace RunningLockStrategy
variable {scfg : StrategyConfig} {q : Queries} {s : RunningLockStrategy} {seen : StandbyState}

/-- A running lock is proxied only while the strategy proxies and no maintenance window is open, and
belongs to a restricted app of the record. -/
structure Held (s : RunningLockStrategy) : Prop where
  keyed : s.record.Keyed
  locks : ∀ lock ∈ s.proxied, s.isProxied = true ∧ s.isIdleMaintence = false ∧
    lock ∈ s.record.proxiedAppList

/-- What a message must avoid. -/
def KeepsLocks (q : Queries) (s : RunningLockStrategy) : StandbyMessage → Prop
  /- A condition change comes while the strategy proxies, or finds the platform unavailable. -/
  | .resCtrlConditionChanged _ =>
    s.isProxied = true ∨ ProxyRecord.initProxiedAppInfo q = none
  /- The end of a task outside that time does not restrict an app that is still recorded. -/
  | .bgTaskStatusChange type false uid bundleName _ =>
    s.isProxied = true ∨ ∀ flag, bgtaskExemptionFlagMap type = some flag →
      ∀ info, s.record.proxiedAppInfo.lookup
          (mapKey uid (if bundleName = "" then q.clientBundleName uid else bundleName)) =
        some info → info.restricted = true ∨ (info.removeFlag flag).restricted = false
  /- A created process has a uid that is not negative. -/
  | .processStateChanged uid _ _ true => s.isProxied = true → toUInt32 uid = uid
  | _ => True

/-- Nothing is proxied. -/
theorem Held.of_empty (hkeyed : s.record.Keyed) (h : s.proxied = ∅) : Held s :=
  ⟨hkeyed, fun lock hmem => absurd (h ▸ hmem) (Finset.notMem_empty lock)⟩

/-- The calls of the power manager change what is proxied, and nothing else. -/
theorem proxyRunningLockList_frame (isProxied : Bool) (l : Finset (Int × Int))
    (s : RunningLockStrategy) : ∃ proxied,
    s.proxyRunningLockList isProxied l = { s with proxied := proxied } := by
  unfold proxyRunningLockList
  split_ifs <;> exact ⟨_, rfl⟩

/-- Up to calls of the power manager, an app gets a flag while the strategy proxies. -/
theorem addExemptionFlag_frame (s : RunningLockStrategy) (uid : Int) (name : String)
    (flag : ExemptionFlag) : ∃ proxied, s.addExemptionFlag uid name flag =
      { (if s.isProxied then s.modifyApp (mapKey uid name) (·.addFlag flag) else s) with
        proxied := proxied } := by
  unfold addExemptionFlag
  by_cases hproxied : s.isProxied = true
  · rw [if_neg (not_not.2 hproxied), if_pos hproxied]
    cases hlookup : s.record.proxiedAppInfo.lookup (mapKey uid name) with
    | none =>
      refine ⟨s.proxied, ?_⟩
      rw [modifyApp, Map.modify_of_lookup_eq_none hlookup]
    | some info =>
      dsimp only
      split_ifs
      · exact proxyRunningLockList_frame _ _ _
      · exact ⟨_, rfl⟩
  · rw [if_pos hproxied, if_neg hproxied]
    exact ⟨_, rfl⟩

/-- While the strategy proxies, setting a flag changes the app under its key and what is proxied. -/
theorem addExemptionFlag_frame_of_proxied (hproxied : s.isProxied = true) (uid : Int)
    (name : String) (flag : ExemptionFlag) : ∃ proxied, s.addExemptionFlag uid name flag =
      { s.modifyApp (mapKey uid name) (·.addFlag flag) with proxied := proxied } := by
  obtain ⟨proxied, heq⟩ := addExemptionFlag_frame s uid name flag
  rw [if_pos hproxied] at heq
  exact ⟨proxied, heq⟩

/-- Up to calls of the power manager, an app loses a flag. -/
theorem removeExemptionFlag_frame (s : RunningLockStrategy) (uid : Int) (name : String)
    (flag : ExemptionFlag) : ∃ proxied, s.removeExemptionFlag uid name flag =
      { s.modifyApp (mapKey uid name) (·.removeFlag flag) with proxied := proxied } := by
  unfold removeExemptionFlag
  cases hlookup : s.record.proxiedAppInfo.lookup (mapKey uid name) with
  | none =>
    refine ⟨s.proxied, ?_⟩
    rw [modifyApp, Map.modify_of_lookup_eq_none hlookup]
  | some info =>
    dsimp only
    split_ifs
    · exact ⟨_, rfl⟩
    · exact proxyRunningLockList_frame _ _ _

/-- Outside a maintenance window the locks of a list are proxied, or not any more. -/
theorem mem_proxyRunningLockList {isProxied : Bool} {l : Finset (Int × Int)} {lock : Int × Int} :
    lock ∈ (s.proxyRunningLockList isProxied l).proxied ↔
      if s.isIdleMaintence then lock ∈ s.proxied
      else if isProxied then lock ∈ s.proxied ∨ lock ∈ l
      else lock ∈ s.proxied ∧ lock ∉ l := by
  unfold proxyRunningLockList
  by_cases hl : l = ∅
  · subst hl
    simp
  · cases s.isIdleMaintence <;> cases isProxied <;> simp [hl]

/-- What is proxied after a call to proxy was proxied before or is in the list. -/
theorem mem_proxyRunningLockList_true {l : Finset (Int × Int)} {lock : Int × Int}
    (h : lock ∈ (s.proxyRunningLockList true l).proxied) :
    lock ∈ s.proxied ∨ s.isIdleMaintence = false ∧ lock ∈ l := by
  rw [mem_proxyRunningLockList] at h
  cases hidle : s.isIdleMaintence <;> simp_all

/-- What is proxied after a call to lift was proxied before and, but for a maintenance window, is
not in the list. -/
theorem mem_proxyRunningLockList_false {l : Finset (Int × Int)} {lock : Int × Int}
    (h : lock ∈ (s.proxyRunningLockList false l).proxied) :
    lock ∈ s.proxied ∧ (s.isIdleMaintence = false → lock ∉ l) := by
  rw [mem_proxyRunningLockList] at h
  cases hidle : s.isIdleMaintence <;> simp_all

/-- Lifting the proxies of the record leaves none. -/
theorem Held.stop (h : Held s) : (s.proxyAppAndProcess false).proxied = ∅ := by
  refine Finset.eq_empty_of_forall_notMem fun lock hmem => ?_
  obtain ⟨hp, hnot⟩ := mem_proxyRunningLockList_false hmem
  obtain ⟨-, hidle, hlist⟩ := h.locks lock hp
  exact hnot hidle hlist

/-- `StopProxyInner` lifts every proxy that is held. -/
theorem Held.stopProxyInner (h : Held s) : Held s.stopProxyInner ∧
    s.stopProxyInner.proxied = ∅ ∧ s.stopProxyInner.isProxied = s.isProxied := by
  obtain ⟨proxied, hframe⟩ := proxyRunningLockList_frame false s.record.proxiedAppList s
  have hempty : s.stopProxyInner.proxied = ∅ := h.stop
  refine ⟨.of_empty .empty hempty, hempty, ?_⟩
  simp only [RunningLockStrategy.stopProxyInner, proxyAppAndProcess, hframe, clearProxyRecord]

/-- Starting the proxy with nothing proxied: it fails, or what is proxied is what the new record
restricts. -/
theorem startProxyInner_spec (q : Queries) (hempty : s.proxied = ∅) :
    (ProxyRecord.initProxiedAppInfo q = none ∧
      startProxyInner q s = (false, { s with record := {} })) ∨
    ∃ record proxied, ProxyRecord.initProxiedAppInfo q = some record ∧ record.Keyed ∧
      (∀ lock, lock ∈ proxied ↔ s.isIdleMaintence = false ∧ lock ∈ record.proxiedAppList) ∧
      startProxyInner q s = (true, { s with record := record, proxied := proxied }) := by
  unfold startProxyInner
  cases hinit : ProxyRecord.initProxiedAppInfo q with
  | none => exact .inl ⟨rfl, rfl⟩
  | some record =>
    right
    dsimp only
    obtain ⟨proxied, hframe⟩ := proxyRunningLockList_frame true record.proxiedAppList
      { s.clearProxyRecord with record := record }
    refine ⟨record, proxied, rfl, ProxyRecord.keyed_initProxiedAppInfo hinit,
      fun lock => ?_, ?_⟩
    · have hmem : lock ∈ ({ s.clearProxyRecord with record := record }.proxyRunningLockList true
          record.proxiedAppList).proxied ↔ _ := mem_proxyRunningLockList
      rw [hframe] at hmem
      rw [hmem]
      simp only [clearProxyRecord, hempty]
      cases s.isIdleMaintence <;> simp
    · unfold proxyAppAndProcess
      rw [hframe]
      rfl

/-- The record does not change when locks are proxied or lifted. -/
@[simp] theorem proxyRunningLockList_record (isProxied : Bool) (l : Finset (Int × Int)) :
    (s.proxyRunningLockList isProxied l).record = s.record := by
  obtain ⟨_, h⟩ := proxyRunningLockList_frame isProxied l s
  rw [h]

/-- Nor does `isProxied_`. -/
@[simp] theorem proxyRunningLockList_isProxied (isProxied : Bool) (l : Finset (Int × Int)) :
    (s.proxyRunningLockList isProxied l).isProxied = s.isProxied := by
  obtain ⟨_, h⟩ := proxyRunningLockList_frame isProxied l s
  rw [h]

/-- Nor does `isIdleMaintence_`. -/
@[simp] theorem proxyRunningLockList_isIdleMaintence (isProxied : Bool) (l : Finset (Int × Int)) :
    (s.proxyRunningLockList isProxied l).isIdleMaintence = s.isIdleMaintence := by
  obtain ⟨_, h⟩ := proxyRunningLockList_frame isProxied l s
  rw [h]

/-- Lifting proxies keeps the others held. -/
theorem Held.lift (h : Held s) (l : Finset (Int × Int)) :
    Held (s.proxyRunningLockList false l) where
  keyed := by
    rw [proxyRunningLockList_record]
    exact h.keyed
  locks lock hmem := by
    simpa using h.locks lock (mem_proxyRunningLockList_false hmem).1

/-- Proxying locks that the record restricts keeps all held. -/
theorem Held.proxy (h : Held s) {l : Finset (Int × Int)} (hproxied : s.isProxied = true)
    (hl : ∀ lock ∈ l, lock ∈ s.record.proxiedAppList) : Held (s.proxyRunningLockList true l) where
  keyed := by
    rw [proxyRunningLockList_record]
    exact h.keyed
  locks lock hmem := by
    rw [proxyRunningLockList_isProxied, proxyRunningLockList_isIdleMaintence,
      proxyRunningLockList_record]
    rcases mem_proxyRunningLockList_true hmem with hp | ⟨hidle, hlist⟩
    · exact h.locks lock hp
    · exact ⟨hproxied, hidle, hl lock hlist⟩

/-- An app that is changed in place keeps the locks that are proxied for it. -/
theorem Held.modifyApp (h : Held s) {key : String} {f : ProxiedProcInfo → ProxiedProcInfo}
    (huid : ∀ info, (f info).uid = info.uid)
    (hf : ∀ lock ∈ s.proxied, ∀ info, s.record.proxiedAppInfo.lookup key = some info →
      info.restricted = true → lock ∈ info.proxiedAppList →
        (f info).restricted = true ∧ lock ∈ (f info).proxiedAppList) :
    Held (s.modifyApp key f) where
  keyed := ProxyRecord.all_modify h.keyed huid
  locks lock hmem := by
    obtain ⟨hproxied, hidle, hlist⟩ := h.locks lock hmem
    exact ⟨hproxied, hidle, ProxyRecord.mem_proxiedAppList_modify hlist (hf lock hmem)⟩

/-- Calls of the power manager do not read the record. -/
theorem modifyApp_proxyRunningLockList (key : String) (f : ProxiedProcInfo → ProxiedProcInfo)
    (isProxied : Bool) (l : Finset (Int × Int)) :
    (s.modifyApp key f).proxyRunningLockList isProxied l =
      (s.proxyRunningLockList isProxied l).modifyApp key f := by
  unfold proxyRunningLockList RunningLockStrategy.modifyApp
  dsimp only
  split_ifs <;> rfl

/-- Adding flags to an app lifts its proxies when it becomes exempted. -/
theorem Held.addExemptionFlag (h : Held s) (uid : Int) (name : String) (flag : ExemptionFlag) :
    Held (s.addExemptionFlag uid name flag) := by
  unfold RunningLockStrategy.addExemptionFlag
  split
  · exact h
  split
  · exact h
  · rename_i info hkey
    dsimp only
    by_cases hlift : info.restricted = true ∧ ¬ (info.addFlag flag).restricted = true
    · -- no lock of the app is proxied any more
      rw [if_pos hlift, modifyApp_proxyRunningLockList]
      refine (h.lift info.proxiedAppList).modifyApp (fun _ => rfl) ?_
      intro lock hlock info' hkey' _ hlist
      rw [proxyRunningLockList_record] at hkey'
      obtain rfl : info' = info := Option.some.inj (hkey'.symm.trans hkey)
      obtain ⟨hp, hnot⟩ := mem_proxyRunningLockList_false hlock
      exact absurd hlist (hnot (h.locks lock hp).2.1)
    · rw [if_neg hlift]
      refine h.modifyApp (fun _ => rfl) fun lock _ info' hkey' hres hlist => ?_
      obtain rfl : info' = info := Option.some.inj (hkey'.symm.trans hkey)
      refine ⟨?_, hlist⟩
      by_contra hnot
      exact hlift ⟨hres, hnot⟩

/-- Taking flags other than RESTRICTED from an app leaves it restricted. -/
theorem restricted_removeFlag {info : ProxiedProcInfo} {flag : ExemptionFlag}
    (hflag : flag &&& RESTRICTED = 0) (h : info.restricted = true) :
    (info.removeFlag flag).restricted = true := by
  simp only [ProxiedProcInfo.restricted, Bool.not_eq_true', ProxiedProcInfo.removeFlag] at h ⊢
  by_contra hex
  rw [isExempted_of_remove hflag (by simpa using hex)] at h
  cases h

/-- Taking flags from an app proxies it when it is no longer exempted, which must happen while the
strategy proxies. -/
theorem Held.removeExemptionFlag (h : Held s) {uid : Int} {name : String} {flag : ExemptionFlag}
    (hflag : flag &&& RESTRICTED = 0)
    (hok : s.isProxied = true ∨ ∀ info,
      s.record.proxiedAppInfo.lookup (mapKey uid name) = some info →
        info.restricted = true ∨ (info.removeFlag flag).restricted = false) :
    Held (s.removeExemptionFlag uid name flag) := by
  unfold RunningLockStrategy.removeExemptionFlag
  split
  · exact h
  · rename_i info hkey
    dsimp only
    have hmod : Held (s.modifyApp (mapKey uid name) (·.removeFlag flag)) := by
      refine h.modifyApp (fun _ => rfl) fun lock _ info' hkey' hres hlist => ?_
      obtain rfl : info' = info := Option.some.inj (hkey'.symm.trans hkey)
      exact ⟨restricted_removeFlag hflag hres, hlist⟩
    by_cases hnew : ¬ (info.removeFlag flag).restricted = true ∨ info.restricted = true
    · rw [if_pos hnew]
      exact hmod
    · rw [if_neg hnew]
      obtain ⟨hres, hold⟩ := not_or.1 hnew
      have hproxied : s.isProxied = true := hok.resolve_right fun hall => by
        rcases hall info hkey with h1 | h1
        · exact hold h1
        · exact hres (by simp [h1])
      refine hmod.proxy hproxied fun lock hlist => ?_
      refine ProxyRecord.mem_proxiedAppList.2
        ⟨mapKey uid name, info.removeFlag flag, ?_, by simpa using hres, hlist⟩
      simp only [RunningLockStrategy.modifyApp, Map.lookup_modify, if_true, hkey]
      rfl

/-- The record after a process was created has it in its app. -/
theorem getAndCreateAppInfo_spec (q : Queries) {r : ProxyRecord} {uid : Int} (pid : Int)
    (name : String)
    (hkeyed : r.Keyed) (huid : toUInt32 uid = uid) :
    (r.getAndCreateAppInfo q uid pid name).Keyed ∧
    (∀ lock ∈ r.proxiedAppList, lock ∈ (r.getAndCreateAppInfo q uid pid name).proxiedAppList) ∧
    ∃ info, (r.getAndCreateAppInfo q uid pid name).proxiedAppInfo.lookup (mapKey uid name) =
      some info ∧ (pid, uid) ∈ info.proxiedAppList := by
  unfold ProxyRecord.getAndCreateAppInfo
  rw [huid]
  dsimp only
  split
  · rename_i info hkey
    have huid' : info.uid = uid := hkeyed.uid hkey
    refine ⟨ProxyRecord.all_modify hkeyed fun _ => rfl, fun lock hlock => ?_, ?_⟩
    · refine ProxyRecord.mem_proxiedAppList_modify hlock fun info' _ hres hlist => ⟨hres, ?_⟩
      rw [ProxyRecord.mem_proxiedAppList_app] at hlist ⊢
      exact ⟨Finset.mem_insert_of_mem hlist.1, hlist.2⟩
    · refine ⟨{ info with pids := insert pid info.pids }, ?_, ?_⟩
      · rw [Map.lookup_modify, if_pos rfl, hkey]
        rfl
      · exact ProxyRecord.mem_proxiedAppList_app.2 ⟨Finset.mem_insert_self _ _, huid'.symm⟩
  · rename_i hkey
    generalize happ : ProxyRecord.getExemptionConfigForApp q name _ = app
    have hfields : app.uid = uid ∧ app.pids = {pid} := by
      rw [← happ]
      unfold ProxyRecord.getExemptionConfigForApp
      dsimp only
      split_ifs <;> exact ⟨rfl, rfl⟩
    refine ⟨fun k v hmem => ?_, fun lock hlock => ?_, app, AList.lookup_insert _, ?_⟩
    · by_cases hk : k = mapKey uid name
      · subst hk
        rw [AList.lookup_insert] at hmem
        cases hmem
        exact ⟨name, by rw [hfields.1]⟩
      · rw [AList.lookup_insert_ne hk] at hmem
        exact hkeyed k v hmem
    · obtain ⟨k, info, hk, hres, hlist⟩ := ProxyRecord.mem_proxiedAppList.1 hlock
      refine ProxyRecord.mem_proxiedAppList.2 ⟨k, info, ?_, hres, hlist⟩
      have hne : k ≠ mapKey uid name := by
        rintro rfl
        rw [hkey] at hk
        cases hk
      rw [AList.lookup_insert_ne hne]
      exact hk
    · rw [ProxyRecord.mem_proxiedAppList_app, hfields.1, hfields.2]
      exact ⟨Finset.mem_singleton_self _, rfl⟩

/-- Another record that restricts what the record restricts holds the same locks. -/
theorem Held.withRecord (h : Held s) {record : ProxyRecord} (hkeyed : record.Keyed)
    (hsub : ∀ lock ∈ s.proxied, lock ∈ s.record.proxiedAppList → lock ∈ record.proxiedAppList) :
    Held { s with record := record } where
  keyed := hkeyed
  locks lock hmem := by
    obtain ⟨hproxied, hidle, hlist⟩ := h.locks lock hmem
    exact ⟨hproxied, hidle, hsub lock hmem hlist⟩

/-- A strategy that does not proxy ignores processes. -/
theorem handleProcessStatusChanged_of_not_proxied (q : Queries) {uid pid : Int} {name : String}
    {isCreated : Bool} (h : ¬ s.isProxied = true) :
    handleProcessStatusChanged q uid pid name isCreated s = s := by
  unfold handleProcessStatusChanged
  rw [if_pos h]

/-- When a process is created, the record has it in its app, and its lock is proxied when the app is
restricted. -/
theorem processCreated_eq (q : Queries) {uid pid : Int} {name : String} {info : ProxiedProcInfo}
    (hproxied : s.isProxied = true)
    (hinfo : (s.record.getAndCreateAppInfo q uid pid name).proxiedAppInfo.lookup
      (mapKey uid name) = some info) :
    handleProcessStatusChanged q uid pid name true s =
      if info.restricted = true then
        { s with record := s.record.getAndCreateAppInfo q uid pid name }.proxyRunningLockList true
          {(pid, uid)}
      else { s with record := s.record.getAndCreateAppInfo q uid pid name } := by
  -- the app is under its key, so `operator[]` inserts nothing
  have hemplace : (s.record.getAndCreateAppInfo q uid pid name).proxiedAppInfo.emplace
      (mapKey uid name) {} = (s.record.getAndCreateAppInfo q uid pid name).proxiedAppInfo := by
    unfold Map.emplace
    rw [if_pos (AList.lookup_isSome.1 (by rw [hinfo]; rfl))]
  unfold handleProcessStatusChanged
  dsimp only
  rw [if_neg (not_not.2 hproxied), if_pos rfl, hemplace, hinfo]

/-- A process that is created is proxied only with the restricted app that it is recorded with. -/
theorem Held.processCreated (h : Held s) {uid pid : Int} {name : String}
    (huid : s.isProxied = true → toUInt32 uid = uid) :
    Held (handleProcessStatusChanged q uid pid name true s) := by
  by_cases hproxied : s.isProxied = true
  · obtain ⟨hkeyed, hsub, info, hkey, hlock⟩ :=
      getAndCreateAppInfo_spec q pid name h.keyed (huid hproxied)
    rw [processCreated_eq q hproxied hkey]
    have hnew := h.withRecord hkeyed fun lock _ hlist => hsub lock hlist
    split_ifs with hres
    · refine hnew.proxy hproxied fun lock hmem => ?_
      rw [Finset.mem_singleton.1 hmem]
      exact ProxyRecord.mem_proxiedAppList.2 ⟨_, info, hkey, hres, hlock⟩
    · exact hnew
  · rw [handleProcessStatusChanged_of_not_proxied q hproxied]
    exact h

/-- When a process of an app dies, the app is without it, and its lock is not proxied any more,
unless the app is not restricted or a maintenance window is open. -/
theorem processDied_frame (q : Queries) {uid pid : Int} {name : String} {info : ProxiedProcInfo}
    (hproxied : s.isProxied = true)
    (hinfo : s.record.proxiedAppInfo.lookup (mapKey uid name) = some info) :
    ∃ record proxied, handleProcessStatusChanged q uid pid name false s =
        { s with record := record, proxied := proxied } ∧
      ProxyRecord.WithoutPid (mapKey uid name) info pid s.record record ∧
      ∀ lock, lock ∈ proxied ↔ lock ∈ s.proxied ∧
        (lock = (pid, uid) → s.isIdleMaintence = true ∨ info.restricted = false) := by
  obtain ⟨proxied, hcall, hmem⟩ : ∃ proxied,
      (if info.restricted = true then s.proxyRunningLockList false {(pid, uid)} else s) =
        { s with proxied := proxied } ∧
      ∀ lock, lock ∈ proxied ↔ lock ∈ s.proxied ∧
        (lock = (pid, uid) → s.isIdleMaintence = true ∨ info.restricted = false) := by
    split_ifs with hres
    · obtain ⟨proxied, hframe⟩ := proxyRunningLockList_frame false {(pid, uid)} s
      refine ⟨proxied, hframe, fun lock => ?_⟩
      have hmem : lock ∈ (s.proxyRunningLockList false {(pid, uid)}).proxied ↔ _ :=
        mem_proxyRunningLockList
      rw [hframe] at hmem
      rw [hmem]
      cases s.isIdleMaintence <;> simp [hres]
    · exact ⟨s.proxied, rfl, fun lock => by simp [hres]⟩
  unfold handleProcessStatusChanged
  dsimp only
  rw [if_neg (not_not.2 hproxied), if_neg Bool.false_ne_true, hinfo]
  dsimp only
  rw [hcall]
  by_cases hlast : info.pids.erase pid = ∅
  · rw [if_pos hlast]
    exact ⟨_, proxied, rfl, ProxyRecord.withoutPid_erase hlast, hmem⟩
  · rw [if_neg hlast]
    exact ⟨_, proxied, rfl, ProxyRecord.withoutPid_modify hinfo hlast, hmem⟩

/-- The death of a process changes nothing for a strategy that does not proxy, or does not have its
app. -/
theorem processDied_of_none (q : Queries) {uid pid : Int} {name : String}
    (h : s.isProxied = true → s.record.proxiedAppInfo.lookup (mapKey uid name) = none) :
    handleProcessStatusChanged q uid pid name false s = s := by
  by_cases hproxied : s.isProxied = true
  · unfold handleProcessStatusChanged
    rw [if_neg (not_not.2 hproxied), if_neg Bool.false_ne_true, h hproxied]
  · exact handleProcessStatusChanged_of_not_proxied q hproxied

/-- A process that has died takes its proxy with it. -/
theorem Held.processDied (h : Held s) {uid pid : Int} {name : String} :
    Held (handleProcessStatusChanged q uid pid name false s) := by
  by_cases happ : s.isProxied = true → s.record.proxiedAppInfo.lookup (mapKey uid name) = none
  · rw [processDied_of_none q happ]
    exact h
  obtain ⟨hproxied, hsome⟩ := Classical.not_imp.1 happ
  obtain ⟨info, hinfo⟩ := Option.ne_none_iff_exists'.1 hsome
  obtain ⟨record, proxied, hframe, hwithout, hmem⟩ := processDied_frame q hproxied hinfo
  rw [hframe]
  refine ⟨hwithout.keyed hinfo h.keyed, fun lock hlock => ?_⟩
  obtain ⟨hlock, hgone⟩ := (hmem lock).1 hlock
  obtain ⟨-, hidle, hlist⟩ := h.locks lock hlock
  refine ⟨hproxied, hidle, ?_⟩
  rw [ProxyRecord.mem_proxiedAppList] at hlist ⊢
  obtain ⟨key, hkey⟩ := hlist
  refine ⟨key, (hwithout.exists_lock_iff hinfo).2 ⟨hkey, ?_⟩⟩
  -- the process of a restricted app is not proxied any more
  rintro rfl heq
  rw [h.keyed.uid hinfo] at heq
  obtain ⟨app, happ, hres, -⟩ := hkey
  obtain rfl := Option.some.inj (hinfo.symm.trans happ)
  rcases hgone heq with hopen | hfree
  · exact Bool.false_ne_true (hidle.symm.trans hopen)
  · exact Bool.false_ne_true (hfree.symm.trans hres)

/-- Two states of the strategy agree on whether it proxies. -/
def SameMode (s t : RunningLockStrategy) : Prop :=
  t.isProxied = s.isProxied ∧ t.isIdleMaintence = s.isIdleMaintence

/-- Setting a flag does not change whether the strategy proxies. -/
theorem sameMode_addExemptionFlag (uid : Int) (name : String) (flag : ExemptionFlag) :
    SameMode s (s.addExemptionFlag uid name flag) := by
  unfold RunningLockStrategy.addExemptionFlag
  split
  · exact ⟨rfl, rfl⟩
  split
  · exact ⟨rfl, rfl⟩
  · dsimp only
    split_ifs
    · exact ⟨proxyRunningLockList_isProxied _ _, proxyRunningLockList_isIdleMaintence _ _⟩
    · exact ⟨rfl, rfl⟩

/-- Nor does taking one. -/
theorem sameMode_removeExemptionFlag (uid : Int) (name : String) (flag : ExemptionFlag) :
    SameMode s (s.removeExemptionFlag uid name flag) := by
  unfold RunningLockStrategy.removeExemptionFlag
  split
  · exact ⟨rfl, rfl⟩
  · dsimp only
    split_ifs
    · exact ⟨rfl, rfl⟩
    · exact ⟨proxyRunningLockList_isProxied _ _, proxyRunningLockList_isIdleMaintence _ _⟩

/-- Nor does the death of a task manager, for one app. -/
theorem sameMode_resetBgTaskFlag (key : String) : SameMode s (s.resetBgTaskFlag key) := by
  unfold resetBgTaskFlag
  dsimp only
  split
  · exact ⟨rfl, rfl⟩
  · split_ifs
    · exact ⟨rfl, rfl⟩
    · exact sameMode_removeExemptionFlag _ _ _

/-- `ResetProxyStatus` keeps what the removals of its loop keep. They are made while the strategy
proxies, and none is of RESTRICTED. -/
theorem resetProxyStatus_keeps {P : RunningLockStrategy → Prop}
    (hstep : ∀ u, P u → u.isProxied = true → ∀ uid name flag, flag &&& RESTRICTED = 0 →
      P (u.removeExemptionFlag uid name flag)) (h : P s) (isAdded : Bool) (saId : Int) :
    P (resetProxyStatus scfg isAdded saId s) := by
  have hone : ∀ u, P u → u.isProxied = true → ∀ key, P (u.resetBgTaskFlag key) := by
    intro u hu hproxied key
    unfold resetBgTaskFlag
    dsimp only
    split
    · exact hu
    · split_ifs
      · exact hu
      · refine hstep u hu hproxied _ _ _ ?_
        rw [BitVec.and_assoc]
        exact BitVec.and_zero
  unfold RunningLockStrategy.resetProxyStatus
  split_ifs with hactive
  · exact h
  · exact h
  · exact h
  · have hproxied : s.isProxied = true := by simpa using (not_or.1 hactive).1
    have hloop := List.foldlRecOn (motive := fun u => P u ∧ u.isProxied = true)
      s.record.proxiedAppInfo.keys resetBgTaskFlag ⟨h, hproxied⟩ fun u hu key _ =>
        ⟨hone u hu.1 hu.2 key, (sameMode_resetBgTaskFlag key).1.trans hu.2⟩
    exact hloop.1

/-- `ResetProxyStatus` restricts apps of the record only while the strategy proxies. -/
theorem Held.resetProxyStatus (h : Held s) (isAdded : Bool) (saId : Int) :
    Held (resetProxyStatus scfg isAdded saId s) :=
  resetProxyStatus_keeps
    (fun _ hu hproxied _ _ _ hflag => hu.removeExemptionFlag hflag (.inl hproxied)) h _ _

/-- A condition change that comes in its time, or finds nothing, proxies apps of the new record. -/
theorem Held.updateResourceConfig (h : Held s)
    (hok : s.isProxied = true ∨ ProxyRecord.initProxiedAppInfo q = none) :
    Held (updateResourceConfig q s) := by
  obtain ⟨-, hempty, hproxied⟩ := h.stopProxyInner
  unfold RunningLockStrategy.updateResourceConfig
  rcases startProxyInner_spec q hempty with ⟨-, heq⟩ | ⟨record, proxied, hinit, hkeyed, hlocks, heq⟩
  · rw [heq]
    exact .of_empty .empty hempty
  · rw [heq]
    have hproxied : s.stopProxyInner.isProxied = true := by
      rw [hproxied]
      exact hok.resolve_right fun hnone => by
        rw [hinit] at hnone
        cases hnone
    refine Held.mk hkeyed fun lock hmem => ?_
    exact ⟨hproxied, (hlocks lock).1 hmem⟩

/-- While the strategy does not proxy, nothing is proxied. -/
theorem Held.free (h : Held s) (hproxied : ¬ s.isProxied = true) : s.proxied = ∅ :=
  Finset.eq_empty_of_forall_notMem fun lock hmem => hproxied (h.locks lock hmem).1

/-- `StartProxy` proxies the restricted apps of the record. -/
theorem Held.startProxy (h : Held s) (curState : StandbyState) (curPhase : Nat) :
    Held (startProxy q curState curPhase s) := by
  unfold RunningLockStrategy.startProxy
  split
  · exact h
  · rename_i hproxied
    split_ifs
    · exact h
    · rcases startProxyInner_spec q (h.free hproxied) with
        ⟨-, heq⟩ | ⟨record, proxied, -, hkeyed, hlocks, heq⟩
      · rw [heq]
        exact .of_empty .empty (h.free hproxied)
      · rw [heq]
        exact ⟨hkeyed, fun lock hmem => ⟨rfl, rfl, ((hlocks lock).1 hmem).2⟩⟩

/-- `StopProxy` lifts the proxies, for good or for a maintenance window. -/
theorem Held.stopProxy (h : Held s) (preState curState : StandbyState) :
    Held (s.stopProxy preState curState) := by
  unfold RunningLockStrategy.stopProxy
  split
  · exact h
  · rename_i hproxied
    split_ifs with hmaint hresume hend
    · refine .of_empty ?_ h.stop
      unfold proxyAppAndProcess
      dsimp only
      rw [proxyRunningLockList_record]
      exact h.keyed
    · -- what is proxied on the way back from maintenance is the record's list
      have hopen : Held { s with isIdleMaintence := false } :=
        ⟨h.keyed, fun lock hmem => ⟨(h.locks lock hmem).1, rfl, (h.locks lock hmem).2.2⟩⟩
      exact hopen.proxy (by simpa using hproxied) fun _ hlist => hlist
    · exact .of_empty .empty h.stopProxyInner.2.1
    · exact h

/-- `OnDestroy` lifts every proxy. -/
theorem Held.onDestroy (h : Held s) : Held s.onDestroy ∧ s.onDestroy.proxied = ∅ := by
  have hempty : s.onDestroy.proxied = ∅ := by
    unfold RunningLockStrategy.onDestroy
    dsimp only
    split_ifs with hproxied
    · exact h.stop
    · exact Finset.eq_empty_of_forall_notMem fun lock hmem => hproxied
        ⟨(h.locks lock hmem).1, by simp [(h.locks lock hmem).2.1]⟩
  refine ⟨.of_empty ?_ hempty, hempty⟩
  unfold RunningLockStrategy.onDestroy
  dsimp only
  split_ifs
  · unfold proxyAppAndProcess
    rw [proxyRunningLockList_record]
    exact h.keyed
  · exact h.keyed

/-- A message that avoids the defects keeps every proxied running lock held. -/
theorem Held.handleEvent (h : Held s) {message : StandbyMessage} (hok : KeepsLocks q s message) :
    Held (handleEvent scfg q message s) := by
  cases message with
  | allowListChanged uid name allowType added =>
    unfold RunningLockStrategy.handleEvent updateExemptionList
    dsimp only
    split_ifs with htype hproxied
    · exact h
    · exact h.addExemptionFlag _ _ _
    · exact h.removeExemptionFlag rfl (.inl hproxied)
    · exact h
  | resCtrlConditionChanged => exact h.updateResourceConfig hok
  | phaseTransit curState _ curPhase => exact h.startProxy curState curPhase
  | stateTransit preState curState => exact h.stopProxy preState curState
  | bgTaskStatusChange type started uid bundleName =>
    unfold RunningLockStrategy.handleEvent updateBgTaskAppStatus
    dsimp only
    split
    · exact h
    · rename_i flag hflag
      cases started with
      | true => exact h.addExemptionFlag _ _ _
      | false =>
        exact h.removeExemptionFlag (bgtaskExemptionFlagMap_restricted hflag)
          (hok.imp_right fun hok => hok flag hflag)
  | processStateChanged uid pid name isCreated =>
    cases isCreated with
    | true => exact h.processCreated hok
    | false => exact h.processDied
  | sysAbilityStatusChanged isAdded saId => exact h.resetProxyStatus isAdded saId
  | commonEvent | screenOffHalfHour | deviceNetIdlePolicyTransit | other => exact h

/-! ## When the strategy proxies -/

/-- The strategy proxies only while the reader of the messages is at SLEEP, or at the maintenance
window that it has noted. -/
structure Follows (seen : StandbyState) (s : RunningLockStrategy) : Prop where
  proxying : s.isProxied = true → s.isIdleMaintence = false → seen = .sleep
  idle : s.isIdleMaintence = true → s.isProxied = true ∧ seen = .maintenance

/-- What does not change whether the strategy proxies follows the same state. -/
theorem Follows.of_sameMode {t : RunningLockStrategy} (h : Follows seen s) (hsame : SameMode s t) :
    Follows seen t := by
  obtain ⟨hproxied, hidle⟩ := hsame
  exact ⟨by rw [hproxied, hidle]; exact h.proxying, by rw [hproxied, hidle]; exact h.idle⟩

/-- A strategy that does not proxy follows any state. -/
theorem Follows.of_free (hproxied : s.isProxied = false) (hidle : s.isIdleMaintence = false) :
    Follows seen s where
  proxying h := by
    rw [hproxied] at h
    cases h
  idle h := by
    rw [hidle] at h
    cases h

/-- No maintenance window is noted while the strategy does not proxy. -/
theorem Follows.not_idle (h : Follows seen s) (hproxied : ¬ s.isProxied = true) :
    s.isIdleMaintence = false := by
  by_contra hidle
  exact hproxied (h.idle (by simpa using hidle)).1

/-- The messages that do not change whether the strategy proxies. -/
theorem sameMode_handleEvent (scfg : StrategyConfig) (q : Queries) (s : RunningLockStrategy)
    (message : StandbyMessage)
    (hphase : ∀ curState prePhase curPhase, message ≠ .phaseTransit curState prePhase curPhase)
    (hstate : ∀ preState curState, message ≠ .stateTransit preState curState) :
    SameMode s (handleEvent scfg q message s) := by
  cases message with
  | phaseTransit => exact absurd rfl (hphase _ _ _)
  | stateTransit => exact absurd rfl (hstate _ _)
  | allowListChanged =>
    unfold RunningLockStrategy.handleEvent updateExemptionList
    dsimp only
    split_ifs
    · exact ⟨rfl, rfl⟩
    · exact sameMode_addExemptionFlag _ _ _
    · exact sameMode_removeExemptionFlag _ _ _
    · exact ⟨rfl, rfl⟩
  | resCtrlConditionChanged =>
    unfold RunningLockStrategy.handleEvent RunningLockStrategy.updateResourceConfig
      RunningLockStrategy.stopProxyInner startProxyInner proxyAppAndProcess
    dsimp only
    split
    · simp [SameMode, clearProxyRecord]
    · simp [SameMode, clearProxyRecord]
  | bgTaskStatusChange _ started =>
    unfold RunningLockStrategy.handleEvent updateBgTaskAppStatus
    dsimp only
    split
    · exact ⟨rfl, rfl⟩
    · cases started with
      | true => exact sameMode_addExemptionFlag _ _ _
      | false => exact sameMode_removeExemptionFlag _ _ _
  | processStateChanged _ _ _ isCreated =>
    unfold RunningLockStrategy.handleEvent handleProcessStatusChanged
    dsimp only
    split
    · exact ⟨rfl, rfl⟩
    · split
      · split
        · exact ⟨rfl, rfl⟩
        · split_ifs <;> simp [SameMode]
      · split
        · exact ⟨rfl, rfl⟩
        · split_ifs <;> simp [SameMode, RunningLockStrategy.modifyApp]
  | sysAbilityStatusChanged =>
    refine resetProxyStatus_keeps (P := SameMode s) (fun u hu _ uid name flag _ => ?_)
      ⟨rfl, rfl⟩ _ _
    obtain ⟨hproxied, hidle⟩ := sameMode_removeExemptionFlag (s := u) uid name flag
    exact ⟨hproxied.trans hu.1, hidle.trans hu.2⟩
  | commonEvent | screenOffHalfHour | deviceNetIdlePolicyTransit | other => exact ⟨rfl, rfl⟩

/-- A flag that is gone is not taken again. -/
theorem removeFlag_removeFlag (info : ProxiedProcInfo) (flag : ExemptionFlag) :
    (info.removeFlag flag).removeFlag flag = info.removeFlag flag := by
  simp [ProxiedProcInfo.removeFlag, BitVec.and_assoc]

/-- `RemoveExemptionFlag` takes the flag from the app of the uid and the name. -/
theorem removeExemptionFlag_lookup (uid : Int) (name : String) (flag : ExemptionFlag) :
    (s.removeExemptionFlag uid name flag).record.proxiedAppInfo.lookup (mapKey uid name) =
      (s.record.proxiedAppInfo.lookup (mapKey uid name)).map (·.removeFlag flag) := by
  have hmod : (s.modifyApp (mapKey uid name) (·.removeFlag flag)).record.proxiedAppInfo.lookup
      (mapKey uid name) =
        (s.record.proxiedAppInfo.lookup (mapKey uid name)).map (·.removeFlag flag) := by
    simp only [RunningLockStrategy.modifyApp, Map.lookup_modify, if_true]
  unfold RunningLockStrategy.removeExemptionFlag
  split
  · rename_i hnone
    rw [hnone]
    rfl
  · dsimp only
    split_ifs
    · exact hmod
    · rw [proxyRunningLockList_record]
      exact hmod

/-- A message that may be handled may be handled again. -/
theorem KeepsLocks.handleEvent {message : StandbyMessage} (h : KeepsLocks q s message) :
    KeepsLocks q (handleEvent scfg q message s) message := by
  cases message with
  | resCtrlConditionChanged condition =>
    have hmode := sameMode_handleEvent scfg q s
      (.resCtrlConditionChanged condition) nofun nofun
    exact h.imp_left fun hp => hmode.1.trans hp
  | processStateChanged uid pid name isCreated =>
    cases isCreated with
    | true =>
      have hmode := sameMode_handleEvent scfg q s
        (.processStateChanged uid pid name true) nofun nofun
      exact fun hp => h (hmode.1.symm.trans hp)
    | false => trivial
  | bgTaskStatusChange type started uid bundleName typeId =>
    cases started with
    | true => trivial
    | false =>
      have hmode := sameMode_handleEvent scfg q s
        (.bgTaskStatusChange type false uid bundleName typeId) nofun nofun
      refine h.elim (fun hp => .inl (hmode.1.trans hp)) fun hkeep => ?_
      by_cases hp : s.isProxied = true
      · exact .inl (hmode.1.trans hp)
      · -- the flag is gone already
        refine .inr fun flag hflag info hinfo => ?_
        simp only [RunningLockStrategy.handleEvent, updateBgTaskAppStatus, hflag,
          Bool.false_eq_true, if_false, removeExemptionFlag_lookup] at hinfo
        obtain ⟨info, -, rfl⟩ := Option.map_eq_some_iff.1 hinfo
        rw [removeFlag_removeFlag]
        cases (info.removeFlag flag).restricted with
        | true => exact .inl rfl
        | false => exact .inr rfl
  | allowListChanged | phaseTransit | stateTransit | sysAbilityStatusChanged | commonEvent
  | screenOffHalfHour | deviceNetIdlePolicyTransit | other => trivial

/-- The strategy starts to proxy in SLEEP. -/
theorem Follows.startProxy (h : Follows .sleep s) (curPhase : Nat) :
    Follows .sleep (startProxy q .sleep curPhase s) := by
  unfold RunningLockStrategy.startProxy
  split
  · exact h
  · rename_i hproxied
    split_ifs
    · exact h
    · unfold startProxyInner
      dsimp only
      split
      · rename_i heq
        split at heq
        · cases heq
        · exact ⟨fun _ _ => rfl, fun hidle => by cases heq; cases hidle⟩
      · rename_i heq
        split at heq
        · cases heq
          exact .of_free (by simpa [clearProxyRecord] using hproxied) (h.not_idle hproxied)
        · cases heq

/-- A message of a transition leaves the strategy at the new state, whichever of the two it had
followed. -/
theorem Follows.stopProxy {preState curState : StandbyState}
    (h : Follows preState s ∨ Follows curState s) :
    Follows curState (s.stopProxy preState curState) := by
  unfold RunningLockStrategy.stopProxy
  split
  · rename_i hproxied
    refine .of_free (by simpa using hproxied) ?_
    exact h.elim (·.not_idle hproxied) (·.not_idle hproxied)
  · rename_i hproxied
    have hproxied : s.isProxied = true := by simpa using hproxied
    split_ifs with hmaint hresume hend
    · refine Follows.mk nofun fun _ => ⟨?_, hmaint.1⟩
      simpa [proxyAppAndProcess] using hproxied
    · refine ⟨fun _ _ => hresume.1, fun hidle => ?_⟩
      simp [proxyAppAndProcess] at hidle
    · exact .of_free rfl rfl
    · -- the strategy does not proxy at another state
      refine h.resolve_left fun h => hend ?_
      cases hidle : s.isIdleMaintence with
      | false => exact .inl (h.proxying hproxied hidle)
      | true => exact .inr (h.idle hidle).2

/-- A message that may be read leaves the strategy at the state that it reports. The strategy may
have read the message before. -/
theorem Follows.handleEvent {message : StandbyMessage} (hfits : message.FitsAt seen)
    (h : Follows seen s ∨ Follows (message.after seen) s) :
    Follows (message.after seen) (handleEvent scfg q message s) := by
  cases message with
  | stateTransit preState curState =>
    obtain rfl : preState = seen := hfits
    exact Follows.stopProxy h
  | phaseTransit curState prePhase curPhase =>
    replace h : Follows seen s := h.elim id id
    by_cases hcur : curState = .sleep
    · subst hcur
      obtain rfl : seen = .sleep := hfits
      exact h.startProxy curPhase
    · simp only [RunningLockStrategy.handleEvent, RunningLockStrategy.startProxy, ne_eq, hcur,
        not_false_eq_true, true_or, if_true, ite_self]
      exact h
  | allowListChanged | resCtrlConditionChanged | bgTaskStatusChange | processStateChanged
  | sysAbilityStatusChanged | commonEvent | screenOffHalfHour | deviceNetIdlePolicyTransit
  | other =>
    exact (h.elim id id).of_sameMode (sameMode_handleEvent _ _ _ _ nofun nofun)

end RunningLockStrategy

end DeviceStandby
