import DeviceStandby.Strategy.Network
import DeviceStandby.Strategy.RunningLock

/-!
# What a rebuilt record holds

Both strategies build their record of apps from what the platform reports, in loops over its lists.
Here the result is said app by app: what is found under a uid, or under a key, is the app with the
flags that the lists give it (`lookup_initNetLimitedAppInfo`, `lookup_initProxiedAppInfo`).
-/

namespace DeviceStandby

open ExemptionTypeFlag AssocMap

/-- A flag under a condition. -/
def flagIf (p : Prop) [Decidable p] (flag : ExemptionFlag) : ExemptionFlag :=
  if p then flag else 0

/-- A flag is set under equivalent conditions alike. -/
theorem flagIf_congr {p p' : Prop} [Decidable p] [Decidable p'] (flag : ExemptionFlag)
    (h : p ↔ p') : flagIf p flag = flagIf p' flag := by
  unfold flagIf
  simp only [h]

/-- Setting flags twice is setting them once. -/
theorem NetLimtedAppInfo.addFlag_addFlag (flag flag' : ExemptionFlag) (info : NetLimtedAppInfo) :
    (info.addFlag flag).addFlag flag' = info.addFlag (flag ||| flag') := by
  simp only [NetLimtedAppInfo.addFlag, BitVec.or_assoc]

/-- Flags that are set one after the other are set together. -/
theorem ProxiedProcInfo.addFlag_addFlag (flag flag' : ExemptionFlag) (info : ProxiedProcInfo) :
    (info.addFlag flag).addFlag flag' = info.addFlag (flag ||| flag') := by
  simp only [ProxiedProcInfo.addFlag, BitVec.or_assoc]

/-- A flag is set under a condition. -/
theorem NetLimtedAppInfo.addFlag_flagIf (p : Prop) [Decidable p] (flag : ExemptionFlag)
    (info : NetLimtedAppInfo) :
    info.addFlag (flagIf p flag) = if p then info.addFlag flag else info := by
  unfold flagIf
  split_ifs
  · rfl
  · simp [NetLimtedAppInfo.addFlag]

/-- A flag is set under a condition. -/
theorem ProxiedProcInfo.addFlag_flagIf (p : Prop) [Decidable p] (flag : ExemptionFlag)
    (info : ProxiedProcInfo) :
    info.addFlag (flagIf p flag) = if p then info.addFlag flag else info := by
  unfold flagIf
  split_ifs
  · rfl
  · simp [ProxiedProcInfo.addFlag]

/-! ## The apps of the network strategy -/

namespace NetLimitedApps
variable {scfg : StrategyConfig} {q : Queries} {apps apps' : NetLimitedApps} {uid : Int}

/-- A loop that sets a flag of the apps of a list. -/
theorem lookup_addFlags {α : Type} (flag : ExemptionFlag) (key : α → Int) (l : List α) :
    (l.foldl (fun apps a => addExemptionFlagByUid flag apps (key a)) apps).lookup uid =
      (apps.lookup uid).map (·.addFlag (flagIf (uid ∈ l.map key) flag)) := by
  have hidem : ∀ info : NetLimtedAppInfo, (info.addFlag flag).addFlag flag = info.addFlag flag := by
    intro info
    rw [NetLimtedAppInfo.addFlag_addFlag, BitVec.or_self]
  unfold addExemptionFlagByUid
  rw [Map.lookup_foldl_modify key hidem]
  refine congrArg (Option.map · _) (funext fun info => ?_)
  rw [NetLimtedAppInfo.addFlag_flagIf]

/-- The flags of an app by what the platform reports. -/
def platformFlag (q : Queries) (uid : Int) : ExemptionFlag :=
  flagIf (uid ∈ (q.applicationInfosSpecial.filter (·.isSystemApp)).map (·.uid)) UNRESTRICTED |||
  (flagIf (uid ∈ (q.foregroundApplications.getD []).map (·.uid)) FOREGROUND_APP |||
  (flagIf (uid ∈ ((q.continuousTaskApps.getD []).filter (exemptsContinuousTask q)).map
    (·.creatorUid)) CONTINUOUS_TASK |||
  (flagIf (uid ∈ (q.transientTaskApps.getD []).map (·.uid)) TRANSIENT_TASK |||
  flagIf (uid ∈ (q.runningWorks.getD []).map (·.uid)) WORK_SCHEDULER)))

/-- An app with its name, its flags and the exemptions of the configuration. -/
def appOf (scfg : StrategyConfig) (q : Queries) (name : String) (flag : ExemptionFlag) :
    NetLimtedAppInfo :=
  getExemptionConfigForApp scfg q name { name := name, appExemptionFlag := flag }

/-- The record has an app for every uid that runs, with the flags that the platform and the
configuration give it. -/
theorem lookup_initNetLimitedAppInfo (h : (initNetLimitedAppInfo scfg q ∅).1 = true) (uid : Int) :
    (initNetLimitedAppInfo scfg q ∅).2.lookup uid =
      ((q.runningProcesses.getD []).find? fun info => info.uid = uid).map fun info =>
        appOf scfg q info.processName (platformFlag q uid) := by
  unfold initNetLimitedAppInfo at h ⊢
  cases hprocesses : q.runningProcesses with
  | none => simp [runStages, getAllRunningAppInfo, hprocesses] at h
  | some processes =>
  cases hinfos : q.applicationInfos with
  | none => simp [runStages, getAllRunningAppInfo, addSystemApps, hprocesses, hinfos] at h
  | some infos =>
  cases hfg : q.foregroundApplications with
  | none =>
    simp [runStages, getAllRunningAppInfo, addSystemApps, getForegroundApplications, hprocesses,
      hinfos, hfg] at h
  | some fgApps =>
  cases hcontinuous : q.continuousTaskApps with
  | none =>
    simp [runStages, getAllRunningAppInfo, addSystemApps, getForegroundApplications,
      getBackgroundTaskApp, hprocesses, hinfos, hfg, hcontinuous] at h
  | some continuousTaskList =>
  cases htransient : q.transientTaskApps with
  | none =>
    simp [runStages, getAllRunningAppInfo, addSystemApps, getForegroundApplications,
      getBackgroundTaskApp, hprocesses, hinfos, hfg, hcontinuous, htransient] at h
  | some transientTaskList =>
  cases hworks : q.runningWorks with
  | none =>
    simp [runStages, getAllRunningAppInfo, addSystemApps, getForegroundApplications,
      getBackgroundTaskApp, getWorkSchedulerTask, hprocesses, hinfos, hfg, hcontinuous, htransient,
      hworks] at h
  | some workInfos =>
  clear h
  simp only [runStages, getAllRunningAppInfo, addSystemApps, getForegroundApplications,
    getBackgroundTaskApp, getWorkSchedulerTask, getExemptionConfig, hprocesses, hinfos, hfg,
    hcontinuous, htransient, hworks, Option.bind_eq_bind, Option.bind_some, Option.pure_def,
    Map.lookup_mapVals, lookup_addFlags, Map.lookup_foldl_emplace, AList.lookup_empty,
    Option.none_or, Option.map_map, Option.getD_some]
  refine congrArg (Option.map · _) (funext fun info => ?_)
  simp only [Function.comp_apply, NetLimtedAppInfo.addFlag_addFlag, appOf]
  simp only [NetLimtedAppInfo.addFlag, platformFlag, hfg, hcontinuous, htransient, hworks,
    Option.getD_some, BitVec.or_assoc]
  exact congrArg (fun flag => getExemptionConfigForApp scfg q info.processName
    { name := info.processName, appExemptionFlag := flag }) BitVec.zero_or

end NetLimitedApps

/-! ## The apps of the running lock strategy -/

namespace ProxyRecord
variable {q : Queries} {r r' : ProxyRecord} {key : String}

/-- A loop that sets a flag of the apps under the keys of a list changes no names. -/
theorem foldl_setFlag {α : Type} (flag : ExemptionFlag) (f : α → String) (l : List α) :
    l.foldl (fun r a => r.setFlag flag (f a)) r =
      { r with
        proxiedAppInfo := l.foldl (fun apps a => apps.modify (f a) (·.addFlag flag))
          r.proxiedAppInfo } := by
  induction l generalizing r with
  | nil => rfl
  | cons a l ih =>
    rw [List.foldl_cons, ih]
    rfl

/-- What that loop sets. -/
theorem lookup_setFlags {α : Type} (flag : ExemptionFlag) (f : α → String) (l : List α) :
    (l.foldl (fun r a => r.setFlag flag (f a)) r).proxiedAppInfo.lookup key =
      (r.proxiedAppInfo.lookup key).map (·.addFlag (flagIf (key ∈ l.map f) flag)) := by
  have hidem : ∀ info : ProxiedProcInfo, (info.addFlag flag).addFlag flag = info.addFlag flag := by
    intro info
    rw [ProxiedProcInfo.addFlag_addFlag, BitVec.or_self]
  rw [foldl_setFlag, Map.lookup_foldl_modify f hidem]
  refine congrArg (Option.map · _) (funext fun info => ?_)
  rw [ProxiedProcInfo.addFlag_flagIf]

/-- The key of an app that is known by its uid. -/
def keyOfUid (r : ProxyRecord) (uid : Int) : Option String :=
  (r.uidBundleNmeMap.lookup uid).map (mapKey uid)

/-- The continuous tasks set their flag under the keys of their creators. -/
theorem foldl_addContinuousTask (l : List ContinuousTaskCallbackInfo) :
    l.foldl addContinuousTask r =
      (l.filterMap fun task => r.keyOfUid task.creatorUid).foldl
        (fun r key => r.setFlag CONTINUOUS_TASK key) r := by
  induction l generalizing r with
  | nil => rfl
  | cons task l ih =>
    rw [List.foldl_cons, ih, List.filterMap_cons, addContinuousTask, keyOfUid]
    cases hname : r.uidBundleNmeMap.lookup task.creatorUid with
    | none => rfl
    | some bundleName => rfl

/-- The names and the apps after the platform's apps were added: the first app of a key, with the
flag of the system apps. -/
theorem lookup_addApplications (l : List ApplicationInfo) :
    (l.foldl addApplication r).proxiedAppInfo.lookup key =
      ((r.proxiedAppInfo.lookup key).or
        ((l.find? fun info => mapKey info.uid info.name = key).map fun info =>
          { name := info.name, uid := info.uid })).map
        (·.addFlag (flagIf
          (key ∈ (l.filter (·.isSystemApp)).map fun info => mapKey info.uid info.name)
          UNRESTRICTED)) := by
  induction l generalizing r with
  | nil =>
    simp only [List.foldl_nil, List.find?_nil, Option.map_none, Option.or_none, List.filter_nil,
      List.map_nil, List.not_mem_nil, ProxiedProcInfo.addFlag_flagIf, if_false]
    exact Option.map_id'.symm
  | cons info l ih =>
    have hadded : (r.addApplication info).proxiedAppInfo.lookup key =
        if key = mapKey info.uid info.name then
          some (((r.proxiedAppInfo.lookup key).getD { name := info.name, uid := info.uid }).addFlag
            (flagIf (info.isSystemApp = true) UNRESTRICTED))
        else r.proxiedAppInfo.lookup key := by
      unfold addApplication
      dsimp only
      by_cases hk : key = mapKey info.uid info.name
      · subst hk
        rw [if_pos rfl, ProxiedProcInfo.addFlag_flagIf]
        split_ifs
        · rw [Map.lookup_modify, if_pos rfl, Map.lookup_emplace, if_pos rfl]
          rfl
        · rw [Map.lookup_emplace, if_pos rfl]
      · rw [if_neg hk]
        split_ifs
        · rw [Map.lookup_modify, if_neg hk, Map.lookup_emplace, if_neg hk]
        · rw [Map.lookup_emplace, if_neg hk]
    rw [List.foldl_cons, ih, hadded, List.find?_cons]
    by_cases hk : key = mapKey info.uid info.name
    · subst hk
      cases hsystem : info.isSystemApp <;> cases r.proxiedAppInfo.lookup (mapKey info.uid info.name)
      all_goals
        simp only [if_true, Option.some_or, Option.none_or, Option.map_some, Option.getD_some,
          Option.getD_none, decide_true, hsystem, List.filter_cons, Bool.false_eq_true, if_false,
          List.map_cons, List.mem_cons, true_or, ProxiedProcInfo.addFlag_flagIf]
      all_goals
        split_ifs
        · rw [ProxiedProcInfo.addFlag_addFlag, BitVec.or_self]
        · rfl
    · have hne : ¬ mapKey info.uid info.name = key := fun h => hk h.symm
      cases hsystem : info.isSystemApp <;>
        simp only [hk, hne, hsystem, if_false, decide_false, List.filter_cons, Bool.false_eq_true,
          if_true, List.map_cons, List.mem_cons, false_or]

/-- A uid has the name of the first application that has it. -/
theorem lookup_addApplications_name (l : List ApplicationInfo) (uid : Int) :
    (l.foldl addApplication r).uidBundleNmeMap.lookup uid =
      (r.uidBundleNmeMap.lookup uid).or ((l.find? fun info => info.uid = uid).map (·.name)) := by
  have hfold : (l.foldl addApplication r).uidBundleNmeMap =
      l.foldl (fun names info => names.emplace info.uid info.name) r.uidBundleNmeMap := by
    induction l generalizing r with
    | nil => rfl
    | cons info l ih =>
      rw [List.foldl_cons, ih]
      rfl
  rw [hfold, Map.lookup_foldl_emplace]

/-- Every app that is known by a uid is in the record. -/
def Named (r : ProxyRecord) : Prop :=
  ∀ uid key, r.keyOfUid uid = some key → key ∈ r.proxiedAppInfo

/-- The processes of a list that belong to the app under a key. -/
def processesOf (r : ProxyRecord) (l : List RunningProcessInfo) (key : String) : Finset Int :=
  ((l.filter fun info => r.keyOfUid info.uid = some key).map (·.pid)).toFinset

/-- The loop over the processes gives every app its own, and adds no app. -/
theorem lookup_addProcesses (h : r.Named) (l : List RunningProcessInfo) :
    (l.foldl addProcess r).uidBundleNmeMap = r.uidBundleNmeMap ∧
    ∀ key, (l.foldl addProcess r).proxiedAppInfo.lookup key =
      (r.proxiedAppInfo.lookup key).map fun app =>
        { app with pids := app.pids ∪ r.processesOf l key } := by
  induction l generalizing r with
  | nil =>
    refine ⟨rfl, fun key => ?_⟩
    simp only [List.foldl_nil, processesOf, List.filter_nil, List.map_nil, List.toFinset_nil,
      Finset.union_empty]
    exact Option.map_id'.symm
  | cons info l ih =>
    have hadded : (r.addProcess info).uidBundleNmeMap = r.uidBundleNmeMap ∧
        ∀ key, (r.addProcess info).proxiedAppInfo.lookup key =
          (r.proxiedAppInfo.lookup key).map fun app =>
            if r.keyOfUid info.uid = some key then { app with pids := insert info.pid app.pids }
            else app := by
      unfold addProcess
      split
      · rename_i hname
        refine ⟨rfl, fun key => ?_⟩
        simp only [keyOfUid, hname, Option.map_none, reduceCtorEq, if_false]
        exact Option.map_id'.symm
      · rename_i bundleName hname
        refine ⟨rfl, fun key => ?_⟩
        have hkey : r.keyOfUid info.uid = some (mapKey info.uid bundleName) := by
          rw [keyOfUid, hname, Option.map_some]
        -- the app is there, so nothing is emplaced
        have hemplace : r.proxiedAppInfo.emplace (mapKey info.uid bundleName)
            { name := info.processName, uid := info.uid } = r.proxiedAppInfo :=
          if_pos (h _ _ hkey)
        dsimp only
        rw [hemplace, Map.lookup_modify, hkey]
        by_cases hk : key = mapKey info.uid bundleName
        · subst hk
          simp only [if_true]
        · have hne : ¬ mapKey info.uid bundleName = key := fun heq => hk heq.symm
          simp only [hk, hne, Option.some.injEq, if_false]
          exact Option.map_id'.symm
    have hkeys : (r.addProcess info).keyOfUid = r.keyOfUid := by
      unfold keyOfUid
      rw [hadded.1]
    have hnamed : (r.addProcess info).Named := by
      intro uid key hkey
      rw [hkeys] at hkey
      have hmem := AList.lookup_isSome.2 (h uid key hkey)
      rw [← AList.lookup_isSome, hadded.2]
      simpa using hmem
    obtain ⟨hnames, happs⟩ := ih hnamed
    refine ⟨hnames.trans hadded.1, fun key => ?_⟩
    rw [List.foldl_cons, happs, hadded.2, Option.map_map]
    refine congrArg (Option.map · _) (funext fun app => ?_)
    simp only [Function.comp_apply, processesOf, hkeys, List.filter_cons]
    by_cases hk : r.keyOfUid info.uid = some key
    · simp only [hk, if_true, decide_true, List.map_cons, List.toFinset_cons, Finset.insert_union,
        Finset.union_insert]
    · simp only [hk, if_false, decide_false, Bool.false_eq_true]

/-! ### The record -/

/-- The key of an application. -/
def keyOf (info : ApplicationInfo) : String :=
  mapKey info.uid info.name

/-- The key of the first application with a uid. -/
def firstKey (q : Queries) (uid : Int) : Option String :=
  (((q.applicationInfos.getD []).find? fun info => info.uid = uid).map (·.name)).map (mapKey uid)

/-- The flags of an app by what the platform reports. -/
def platformFlag (q : Queries) (key : String) : ExemptionFlag :=
  flagIf (key ∈ ((q.applicationInfos.getD []).filter (·.isSystemApp)).map keyOf) UNRESTRICTED |||
  (flagIf (key ∈ (q.foregroundApplications.getD []).map fun info =>
    mapKey info.uid info.bundleName) FOREGROUND_APP |||
  (flagIf (key ∈ (q.continuousTaskApps.getD []).filterMap fun task => firstKey q task.creatorUid)
    CONTINUOUS_TASK |||
  (flagIf (key ∈ (q.transientTaskApps.getD []).map fun task => mapKey task.uid task.packageName)
    TRANSIENT_TASK |||
  flagIf (key ∈ (q.runningWorks.getD []).map fun task => mapKey task.uid task.bundleName)
    WORK_SCHEDULER)))

/-- The exemptions of the configuration. -/
def configFlag (q : Queries) (name : String) : ExemptionFlag :=
  flagIf (name ∈ q.allowNameList .runningLock) EXEMPTION |||
    flagIf (name ∈ q.restrictSet .runningLock) RESTRICTED

/-- The running processes that the record gives the app under a key: those of the first application
of their uid. -/
def runningPids (q : Queries) (key : String) : Finset Int :=
  (((q.runningProcesses.getD []).filter fun info => firstKey q info.uid = some key).map
    (·.pid)).toFinset

/-- An application of the record. -/
def appOf (q : Queries) (info : ApplicationInfo) : ProxiedProcInfo where
  name := info.name
  uid := info.uid
  pids := runningPids q (keyOf info)
  appExemptionFlag := platformFlag q (keyOf info) ||| configFlag q info.name

/-- Every application that is known by its uid is in the record. -/
theorem named_addApplications (infos : List ApplicationInfo) :
    (infos.foldl addApplication {}).Named := by
  intro uid key hkey
  obtain ⟨name, hname, rfl⟩ := Option.map_eq_some_iff.1 hkey
  rw [lookup_addApplications_name] at hname
  obtain ⟨info, hinfo, rfl⟩ := Option.map_eq_some_iff.1 hname
  have huid : info.uid = uid := by simpa using List.find?_some hinfo
  subst huid
  have hsome : (infos.find? fun i => mapKey i.uid i.name = mapKey info.uid info.name).isSome :=
    List.find?_isSome.2 ⟨info, List.mem_of_find?_eq_some hinfo, by simp⟩
  rw [← AList.lookup_isSome, lookup_addApplications]
  simpa using hsome

/-- A stage that sets a flag of the apps under some keys. -/
structure SetsFlag (keys : List String) (flag : ExemptionFlag) (r r' : ProxyRecord) : Prop where
  names : r'.uidBundleNmeMap = r.uidBundleNmeMap
  apps : ∀ key, r'.proxiedAppInfo.lookup key =
    (r.proxiedAppInfo.lookup key).map (·.addFlag (flagIf (key ∈ keys) flag))

/-- A list of keys is given the flag one after the other. -/
theorem setsFlag_foldl {α : Type} (flag : ExemptionFlag) (f : α → String) (l : List α)
    (r : ProxyRecord) :
    SetsFlag (l.map f) flag r (l.foldl (fun r a => r.setFlag flag (f a)) r) :=
  ⟨by rw [foldl_setFlag], fun _ => lookup_setFlags flag f l⟩

/-- `GetForegroundApplications` flags the applications that the platform reports. -/
theorem getForegroundApplications_spec (h : getForegroundApplications q r = some r') :
    SetsFlag ((q.foregroundApplications.getD []).map fun info => mapKey info.uid info.bundleName)
      FOREGROUND_APP r r' := by
  obtain ⟨fgApps, hfg, h⟩ := Option.bind_eq_some_iff.1 h
  cases h
  rw [hfg]
  exact setsFlag_foldl _ _ fgApps r

/-- `GetWorkSchedulerTask` flags the apps whose works run. -/
theorem getWorkSchedulerTask_spec (h : getWorkSchedulerTask q r = some r') :
    SetsFlag ((q.runningWorks.getD []).map fun task => mapKey task.uid task.bundleName)
      WORK_SCHEDULER r r' := by
  obtain ⟨workInfos, hworks, h⟩ := Option.bind_eq_some_iff.1 h
  cases h
  rw [hworks]
  exact setsFlag_foldl _ _ workInfos r

/-- `GetBackgroundTaskApp` flags the apps with continuous tasks, then those with transient ones. -/
theorem getBackgroundTaskApp_spec (h : getBackgroundTaskApp q r = some r') :
    ∃ r1, SetsFlag ((q.continuousTaskApps.getD []).filterMap fun task => r.keyOfUid task.creatorUid)
        CONTINUOUS_TASK r r1 ∧
      SetsFlag ((q.transientTaskApps.getD []).map fun task => mapKey task.uid task.packageName)
        TRANSIENT_TASK r1 r' := by
  obtain ⟨continuousTaskList, hcontinuous, h⟩ := Option.bind_eq_some_iff.1 h
  obtain ⟨transientTaskList, htransient, h⟩ := Option.bind_eq_some_iff.1 h
  cases h
  rw [hcontinuous, htransient]
  refine ⟨_, ?_, setsFlag_foldl _ _ transientTaskList _⟩
  rw [foldl_addContinuousTask]
  have hsets := setsFlag_foldl CONTINUOUS_TASK id
    (continuousTaskList.filterMap fun task => r.keyOfUid task.creatorUid) r
  rwa [List.map_id] at hsets

/-- `GetAllAppInfos` records the applications, system apps with their flag. -/
theorem getAllAppInfos_spec (h : getAllAppInfos q {} = some r) :
    r.keyOfUid = firstKey q ∧ r.Named ∧ ∀ key, r.proxiedAppInfo.lookup key =
      ((q.applicationInfos.getD []).find? fun info => keyOf info = key).map fun info =>
        { name := info.name, uid := info.uid, appExemptionFlag :=
            flagIf (key ∈ ((q.applicationInfos.getD []).filter (·.isSystemApp)).map keyOf)
              UNRESTRICTED } := by
  obtain ⟨infos, hinfos, h⟩ := Option.bind_eq_some_iff.1 h
  cases h
  refine ⟨?_, named_addApplications infos, fun key => ?_⟩
  · funext uid
    rw [keyOfUid, firstKey, lookup_addApplications_name, hinfos, Option.getD_some]
    rfl
  · rw [lookup_addApplications, hinfos, Option.getD_some]
    show (Option.or none _).map _ = _
    rw [Option.none_or, Option.map_map]
    refine congrArg (Option.map · _) (funext fun info => ?_)
    simp only [Function.comp_apply, ProxiedProcInfo.addFlag]
    exact congrArg (fun flag => ({ name := info.name, uid := info.uid, appExemptionFlag := flag } :
      ProxiedProcInfo)) BitVec.zero_or

/-- `GetAllRunningAppInfo` keeps the apps that run, with their processes. -/
theorem getAllRunningAppInfo_spec (hnamed : r.Named) (h : getAllRunningAppInfo q r = some r') :
    r'.uidBundleNmeMap = r.uidBundleNmeMap ∧ ∀ key, r'.proxiedAppInfo.lookup key =
      ((r.proxiedAppInfo.lookup key).filter fun app =>
        app.uid ∈ (q.runningProcesses.getD []).map (·.uid) ∧ app.uid ∈ r.uidBundleNmeMap).map
          fun app => { app with
            pids := app.pids ∪ r.processesOf (q.runningProcesses.getD []) key } := by
  obtain ⟨processes, hprocesses, h⟩ := Option.bind_eq_some_iff.1 h
  cases h
  obtain ⟨hnames, happs⟩ := lookup_addProcesses hnamed processes
  refine ⟨hnames, fun key => ?_⟩
  rw [hprocesses, Map.lookup_filter, happs, Option.getD_some]
  cases r.proxiedAppInfo.lookup key with
  | none => rfl
  | some app =>
    simp only [Option.map_some, Option.filter_some, List.mem_filter, decide_eq_true_eq]
    split_ifs <;> rfl

/-- `GetExemptionConfig` sets the flags of the lists on every app. -/
theorem lookup_getExemptionConfig :
    (getExemptionConfig q r).proxiedAppInfo.lookup key =
      (r.proxiedAppInfo.lookup key).map fun app => app.addFlag (configFlag q app.name) := by
  rw [getExemptionConfig, Map.lookup_mapVals]
  refine congrArg (Option.map · _) (funext fun app => ?_)
  rw [configFlag, ← ProxiedProcInfo.addFlag_addFlag, ProxiedProcInfo.addFlag_flagIf,
    ProxiedProcInfo.addFlag_flagIf]
  by_cases hallow : app.name ∈ q.allowNameList .runningLock <;>
    by_cases hrestrict : app.name ∈ q.restrictSet .runningLock <;>
    simp [ProxiedProcInfo.addFlag, hallow, hrestrict]

/-- The record has every application with a running uid. -/
theorem lookup_initProxiedAppInfo (h : initProxiedAppInfo q = some r) (key : String) :
    r.proxiedAppInfo.lookup key =
      (((q.applicationInfos.getD []).find? fun info => keyOf info = key).filter fun info =>
        info.uid ∈ (q.runningProcesses.getD []).map (·.uid)).map (appOf q) := by
  obtain ⟨r1, h1, h⟩ := Option.bind_eq_some_iff.1 h
  obtain ⟨r2, h2, h⟩ := Option.bind_eq_some_iff.1 h
  obtain ⟨r3, h3, h⟩ := Option.bind_eq_some_iff.1 h
  obtain ⟨r4, h4, h⟩ := Option.bind_eq_some_iff.1 h
  obtain ⟨r5, h5, h⟩ := Option.bind_eq_some_iff.1 h
  cases h
  obtain ⟨hfirst, hnamed, happs1⟩ := getAllAppInfos_spec h1
  obtain ⟨hnames2, happs2⟩ := getAllRunningAppInfo_spec hnamed h2
  have hfg := getForegroundApplications_spec h3
  obtain ⟨r3', hcontinuous, htransient⟩ := getBackgroundTaskApp_spec h4
  have hworks := getWorkSchedulerTask_spec h5
  have hkeys : ∀ uid, r3.keyOfUid uid = firstKey q uid := by
    intro uid
    rw [← hfirst]
    unfold keyOfUid
    rw [hfg.names, hnames2]
  simp only [lookup_getExemptionConfig, hworks.apps, htransient.apps, hcontinuous.apps, hkeys,
    hfg.apps, happs2, happs1]
  cases hfind : (q.applicationInfos.getD []).find? fun info => keyOf info = key with
  | none => rfl
  | some info =>
    have hkey : keyOf info = key := by simpa using List.find?_some hfind
    subst hkey
    -- an application is known by its uid
    have hknown : info.uid ∈ r1.uidBundleNmeMap := by
      have hsome : ((q.applicationInfos.getD []).find? fun i => i.uid = info.uid).isSome :=
        List.find?_isSome.2 ⟨info, List.mem_of_find?_eq_some hfind, by simp⟩
      have hkeyOf : (r1.keyOfUid info.uid).isSome := by
        rw [hfirst, firstKey]
        simpa using hsome
      rw [keyOfUid, Option.isSome_map] at hkeyOf
      exact AList.lookup_isSome.1 hkeyOf
    have hpids : r1.processesOf (q.runningProcesses.getD []) (keyOf info) =
        runningPids q (keyOf info) := by
      rw [processesOf, hfirst, runningPids]
    simp only [Option.map_some, Option.filter_some, hknown, and_true, hpids]
    split_ifs with hrun
    · simp only [Option.map_some, ProxiedProcInfo.addFlag_addFlag, Finset.empty_union]
      rw [appOf, platformFlag]
      simp only [ProxiedProcInfo.addFlag, BitVec.or_assoc]
    · rfl

/-! ### An app whose process is created -/

/-- The exemptions of the configuration for an app whose process is created: those of the
network. -/
def networkFlag (q : Queries) (name : String) : ExemptionFlag :=
  flagIf (name ∈ q.allowNameList .network) EXEMPTION |||
    flagIf (name ∈ q.restrictSet .network) RESTRICTED

/-- The app that is recorded for a created process. -/
def createdApp (q : Queries) (uid pid : Int) (name : String) : ProxiedProcInfo where
  name := name
  uid := uid
  pids := {pid}
  appExemptionFlag :=
    flagIf (q.isSystemAppByUid uid = true) UNRESTRICTED ||| networkFlag q name

/-- `GetExemptionConfigForApp` sets the flags of the lists for the network. -/
theorem getExemptionConfigForApp_eq (name : String) (app : ProxiedProcInfo) :
    getExemptionConfigForApp q name app = app.addFlag (networkFlag q name) := by
  rw [networkFlag, ← ProxiedProcInfo.addFlag_addFlag, ProxiedProcInfo.addFlag_flagIf,
    ProxiedProcInfo.addFlag_flagIf]
  rfl

/-- A process of an app that is not recorded. -/
theorem getAndCreateAppInfo_of_none {uid pid : Int} {name : String}
    (h : r.proxiedAppInfo.lookup (mapKey (toUInt32 uid) name) = none) :
    r.getAndCreateAppInfo q uid pid name =
      { r with
        proxiedAppInfo := r.proxiedAppInfo.insert (mapKey (toUInt32 uid) name)
          (createdApp q uid pid name) } := by
  unfold getAndCreateAppInfo
  dsimp only
  rw [h, getExemptionConfigForApp_eq, ← ProxiedProcInfo.addFlag_flagIf]
  dsimp only [ProxiedProcInfo.addFlag, createdApp]
  rw [show (0 : ExemptionFlag) ||| flagIf (q.isSystemAppByUid uid = true) UNRESTRICTED = _ from
    BitVec.zero_or]

/-- The record after a process was created: its app has it beside its others, or is created. -/
theorem lookup_getAndCreateAppInfo {uid pid : Int} {name : String} (key : String) :
    (r.getAndCreateAppInfo q uid pid name).proxiedAppInfo.lookup key =
      if key = mapKey (toUInt32 uid) name then
        some (((r.proxiedAppInfo.lookup (mapKey (toUInt32 uid) name)).map fun app =>
          { app with pids := insert pid app.pids }).getD (createdApp q uid pid name))
      else r.proxiedAppInfo.lookup key := by
  cases hlookup : r.proxiedAppInfo.lookup (mapKey (toUInt32 uid) name) with
  | none =>
    rw [getAndCreateAppInfo_of_none hlookup]
    split_ifs with hk
    · rw [hk, AList.lookup_insert]
      rfl
    · exact AList.lookup_insert_ne hk
  | some info =>
    unfold getAndCreateAppInfo
    dsimp only
    rw [hlookup]
    dsimp only
    rw [Map.lookup_modify]
    split_ifs with hk
    · rw [hk, hlookup]
      rfl
    · rfl

end ProxyRecord

end DeviceStandby
