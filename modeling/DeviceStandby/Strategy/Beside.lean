import DeviceStandby.Strategy.AllowList
import DeviceStandby.Strategy.Firewall
import DeviceStandby.Strategy.Proxied

/-!
# A strategy beside two allow lists

Two runs of a strategy get the same messages, from a platform that says the same of the apps, while
the allow list says different names. What they hold for the apps of a uid then stays the same as
long as the names that they look up on behalf of the uid (`Reads`) are listed alike. The record of
the running lock strategy is visited by its keys, so the two runs also have the same keys for the
apps of the other uids, whose flags differ in the exemption and the restriction alone (`AlikeAt`).
-/

namespace DeviceStandby

open ExemptionTypeFlag AssocMap

/-- The platform answers alike, whatever the allow list says. -/
def Queries.Beside (q q' : Queries) : Prop :=
  q' = { q with allowNameList := q'.allowNameList, restrictSet := q'.restrictSet }

/-- The allow list says the same of a name. -/
def Queries.ListsAlike (q q' : Queries) (t : AllowType) (name : String) : Prop :=
  (name ∈ q.allowNameList t ↔ name ∈ q'.allowNameList t) ∧
    (name ∈ q.restrictSet t ↔ name ∈ q'.restrictSet t)

/-- An application of the uid has the name, and the uid runs. -/
def Queries.RunsApplication (q : Queries) (u : Int) (name : String) : Prop :=
  (∃ info ∈ q.applicationInfos.getD [], info.uid = u ∧ info.name = name) ∧
    u ∈ (q.runningProcesses.getD []).map (·.uid)

/-- The first running process of the uid has the name. -/
def Queries.ShowsProcess (q : Queries) (u : Int) (name : String) : Prop :=
  ∃ info, (q.runningProcesses.getD []).find? (fun info => info.uid = u) = some info ∧
    info.processName = name

/-- The strategy, which restricts, has no app of a uid and is told of one: it creates it. -/
def NetworkStrategy.CreatesApp (u uid : Int) (s : NetworkStrategy) : Prop :=
  s.isFirewallEnabled = true ∧ uid = u ∧ s.netLimitedAppInfo.lookup u = none

/-- The flags that the platform gives an app. -/
def platformBits (flag : ExemptionFlag) : ExemptionFlag :=
  flag &&& ~~~(EXEMPTION ||| RESTRICTED)

section
variable {q q' : Queries} {flag flag' other : ExemptionFlag} {t : AllowType} {name : String}

/-- Two allow lists that say the same of a name do so in either order. -/
theorem Queries.ListsAlike.symm (h : q.ListsAlike q' t name) : q'.ListsAlike q t name :=
  ⟨h.1.symm, h.2.symm⟩

/-- The platform gives the bits of two flags together as it gives them one by one. -/
theorem platformBits_or :
    platformBits (flag ||| other) = platformBits flag ||| platformBits other := by
  rw [platformBits, BitVec.and_comm, BitVec.and_or_distrib_left, BitVec.and_comm,
    BitVec.and_comm _ other]
  rfl

/-- A flag that is taken away is taken away from what the platform gives. -/
theorem platformBits_remove :
    platformBits (flag &&& ~~~other) = platformBits flag &&& ~~~other := by
  rw [platformBits, platformBits, BitVec.and_assoc, BitVec.and_comm (~~~other), BitVec.and_assoc]

/-- An allowance is not given by the platform. -/
theorem platformBits_exemption : ∀ flag : ExemptionFlag,
    platformBits (flag ||| EXEMPTION) = platformBits flag ∧
      platformBits (flag &&& ~~~EXEMPTION) = platformBits flag := by
  decide

/-- A flag of which the platform gives nothing leaves nothing when it depends on a condition. -/
theorem platformBits_flagIf {p : Prop} [Decidable p] (h : platformBits flag = 0) :
    platformBits (flagIf p flag) = 0 := by
  unfold flagIf
  split_ifs
  · exact h
  · rfl

/-- What is looked up in the lists of names, an exemption and a restriction, is nothing that the
platform gives. -/
theorem platformBits_lists (p r : Prop) [Decidable p] [Decidable r] :
    platformBits (flagIf p EXEMPTION ||| flagIf r RESTRICTED) = 0 := by
  rw [platformBits_or, platformBits_flagIf (by decide), platformBits_flagIf (by decide)]
  rfl

/-- The flags of background tasks are given by the platform. -/
theorem bgTaskFlag_of_platformBits : ∀ flag : ExemptionFlag,
    flag &&& (TRANSIENT_TASK ||| WORK_SCHEDULER) =
      platformBits flag &&& (TRANSIENT_TASK ||| WORK_SCHEDULER) := by
  decide

end

/-! ## The running lock strategy -/

/-- The same app in two runs: the flags are the same when the key is one of the uid, and those of
the platform are. -/
structure ProxiedProcInfo.AlikeAt (u : Int) (key : String) (value value' : ProxiedProcInfo) :
    Prop where
  name : value.name = value'.name
  uid : value.uid = value'.uid
  pids : value.pids = value'.pids
  platform : platformBits value.appExemptionFlag = platformBits value'.appExemptionFlag
  own : ∀ name, key = mapKey u name → value.appExemptionFlag = value'.appExemptionFlag

namespace ProxiedProcInfo
variable {u : Int} {key : String} {value value' : ProxiedProcInfo}

/-- An app is like itself. -/
theorem AlikeAt.refl : AlikeAt u key value value := ⟨rfl, rfl, rfl, rfl, fun _ _ => rfl⟩

/-- Which of the two runs comes first does not matter for an app. -/
theorem AlikeAt.symm (h : AlikeAt u key value value') : AlikeAt u key value' value :=
  ⟨h.name.symm, h.uid.symm, h.pids.symm, h.platform.symm, fun name hkey => (h.own name hkey).symm⟩

/-- An app stays alike when both runs give it a flag. -/
theorem AlikeAt.addFlag (h : AlikeAt u key value value') (flag : ExemptionFlag) :
    AlikeAt u key (value.addFlag flag) (value'.addFlag flag) where
  name := h.name
  uid := h.uid
  pids := h.pids
  platform := by
    rw [ProxiedProcInfo.addFlag, ProxiedProcInfo.addFlag, platformBits_or, platformBits_or,
      h.platform]
  own name hkey := congrArg (· ||| flag) (h.own name hkey)

/-- An app stays alike when both runs take a flag from it. -/
theorem AlikeAt.removeFlag (h : AlikeAt u key value value') (flag : ExemptionFlag) :
    AlikeAt u key (value.removeFlag flag) (value'.removeFlag flag) where
  name := h.name
  uid := h.uid
  pids := h.pids
  platform := by
    rw [ProxiedProcInfo.removeFlag, ProxiedProcInfo.removeFlag, platformBits_remove,
      platformBits_remove, h.platform]
  own name hkey := congrArg (· &&& ~~~flag) (h.own name hkey)

/-- An app stays alike when its processes change in the same way in both runs. -/
theorem AlikeAt.withPids (h : AlikeAt u key value value') (f : Finset Int → Finset Int) :
    AlikeAt u key { value with pids := f value.pids } { value' with pids := f value'.pids } :=
  ⟨h.name, h.uid, congrArg f h.pids, h.platform, h.own⟩

/-- An allowance of one app begins or ends in one run. -/
theorem AlikeAt.exemption_left (h : AlikeAt u key value value')
    (hkey : ∀ name, key ≠ mapKey u name) :
    AlikeAt u key (value.addFlag EXEMPTION) value' ∧
      AlikeAt u key (value.removeFlag EXEMPTION) value' := by
  obtain ⟨hadd, hremove⟩ := platformBits_exemption value.appExemptionFlag
  exact ⟨⟨h.name, h.uid, h.pids, hadd.trans h.platform, fun name hn => absurd hn (hkey name)⟩,
    ⟨h.name, h.uid, h.pids, hremove.trans h.platform, fun name hn => absurd hn (hkey name)⟩⟩

end ProxiedProcInfo

namespace ProxyRecord
variable {q q' : Queries} {u uid pid : Int} {name : String} {r r' : ProxyRecord}

/-- The record before the allow list is asked. -/
def platformRecord (q : Queries) : Option ProxyRecord := do
  let r ← getAllAppInfos q {}
  let r ← getAllRunningAppInfo q r
  let r ← getForegroundApplications q r
  let r ← getBackgroundTaskApp q r
  getWorkSchedulerTask q r

/-- `InitProxiedAppInfo` asks the platform first and the allow list last, so that only its last
stage can differ between two runs. -/
theorem initProxiedAppInfo_eq (q : Queries) :
    initProxiedAppInfo q = (platformRecord q).map fun r =>
      { getExemptionConfig q r with uidBundleNmeMap := ∅ } := by
  simp only [initProxiedAppInfo, platformRecord, Option.bind_eq_bind, Option.map_eq_bind,
    Option.bind_assoc, Option.pure_def, Function.comp_def]

/-- Two records with the same keys and alike apps. -/
abbrev AlikeFor (u : Int) (r r' : ProxyRecord) : Prop :=
  Map.Related (ProxiedProcInfo.AlikeAt u) r.proxiedAppInfo r'.proxiedAppInfo

/-- Two records that are built anew are alike when the apps of the uid are listed alike. -/
theorem initProxiedAppInfo_beside (hq : q.Beside q')
    (hreads : ∀ name, q.RunsApplication u name → q.ListsAlike q' .runningLock name) :
    (initProxiedAppInfo q = none ∧ initProxiedAppInfo q' = none) ∨
      ∃ r r', initProxiedAppInfo q = some r ∧ initProxiedAppInfo q' = some r' ∧
        AlikeFor u r r' := by
  have hplatform : platformRecord q' = platformRecord q := by
    rw [hq]
    rfl
  cases hrecord : platformRecord q with
  | none =>
    refine .inl ⟨?_, ?_⟩
    · rw [initProxiedAppInfo_eq, hrecord]
      rfl
    · rw [initProxiedAppInfo_eq, hplatform, hrecord]
      rfl
  | some r =>
    have hr : initProxiedAppInfo q = some { getExemptionConfig q r with uidBundleNmeMap := ∅ } := by
      rw [initProxiedAppInfo_eq, hrecord]
      rfl
    have hr' : initProxiedAppInfo q' =
        some { getExemptionConfig q' r with uidBundleNmeMap := ∅ } := by
      rw [initProxiedAppInfo_eq, hplatform, hrecord]
      rfl
    refine .inr ⟨_, _, hr, hr', ?_, fun key value value' hvalue hvalue' => ?_⟩
    · exact (Map.keys_mapVals _ _).trans (Map.keys_mapVals _ _).symm
    rw [lookup_initProxiedAppInfo hr] at hvalue
    rw [lookup_initProxiedAppInfo hr'] at hvalue'
    obtain ⟨info, hinfo, rfl⟩ := Option.map_eq_some_iff.1 hvalue
    have hsame : ((q'.applicationInfos.getD []).find? fun info => keyOf info = key).filter
        (fun info => info.uid ∈ (q'.runningProcesses.getD []).map (·.uid)) = some info := by
      rw [hq]
      exact hinfo
    rw [hsame] at hvalue'
    cases hvalue'
    have hflag : platformFlag q' (keyOf info) = platformFlag q (keyOf info) := by
      rw [hq]
      rfl
    refine ⟨rfl, rfl, ?_, ?_, fun name hkey => ?_⟩
    · rw [hq]
      rfl
    · rw [appOf, appOf, platformBits_or, platformBits_or, hflag, configFlag, configFlag,
        platformBits_lists, platformBits_lists]
    · obtain ⟨hfind, hruns⟩ := Option.filter_eq_some_iff.1 hinfo
      have hinfoKey : keyOf info = key := by simpa using List.find?_some hfind
      have huid : info.uid = u := (mapKey_inj (hinfoKey.trans hkey)).1
      obtain ⟨hallow, hrestrict⟩ := hreads info.name
        ⟨⟨info, List.mem_of_find?_eq_some hfind, huid, rfl⟩, huid ▸ by simpa using hruns⟩
      rw [appOf, appOf, hflag, configFlag, configFlag, flagIf_congr _ hallow,
        flagIf_congr _ hrestrict]

/-- A process of an app is created in two records. -/
theorem AlikeFor.getAndCreateAppInfo (h : AlikeFor u r r') (hq : q.Beside q') (pid : Int)
    (hreads : toUInt32 uid = u → r.proxiedAppInfo.lookup (mapKey u name) = none →
      q.ListsAlike q' .network name) :
    AlikeFor u (r.getAndCreateAppInfo q uid pid name) (r'.getAndCreateAppInfo q' uid pid name) := by
  obtain ⟨hnone, hnone'⟩ | ⟨value, value', hvalue, hvalue', -⟩ :=
    h.cases (mapKey (toUInt32 uid) name)
  · rw [getAndCreateAppInfo_of_none hnone, getAndCreateAppInfo_of_none hnone']
    have hsystem : q'.isSystemAppByUid = q.isSystemAppByUid := by
      rw [hq]
    refine h.insert ⟨rfl, rfl, rfl, ?_, fun n hkey => ?_⟩
    · rw [createdApp, createdApp, platformBits_or, platformBits_or, hsystem, networkFlag,
        networkFlag, platformBits_lists, platformBits_lists]
    · obtain ⟨huid, rfl⟩ := mapKey_inj hkey
      obtain ⟨hallow, hrestrict⟩ := hreads huid (huid ▸ hnone)
      rw [createdApp, createdApp, hsystem, networkFlag, networkFlag, flagIf_congr _ hallow,
        flagIf_congr _ hrestrict]
  · simp only [ProxyRecord.getAndCreateAppInfo, hvalue, hvalue']
    exact h.modify _ fun _ _ halike => halike.withPids (insert pid)

end ProxyRecord

namespace RunningLockStrategy
variable {scfg : StrategyConfig} {q q' : Queries} {u uid pid : Int} {name : String}
  {s s' t : RunningLockStrategy}

/-- The names that the strategy looks up on behalf of a uid while it handles a message, each in the
list of a type. -/
def Reads (q : Queries) (u : Int) (s : RunningLockStrategy) (message : StandbyMessage)
    (type : AllowType) (name : String) : Prop :=
  match message with
  | .resCtrlConditionChanged _ => type = .runningLock ∧ q.RunsApplication u name
  | .phaseTransit curState _ curPhase =>
    type = .runningLock ∧ s.isProxied = false ∧ curState = .sleep ∧
      curPhase = SleepStatePhase.APP_RES_DEEP ∧ q.RunsApplication u name
  | .processStateChanged uid _ bundleName true =>
    type = .network ∧ s.isProxied = true ∧ toUInt32 uid = u ∧ name = bundleName ∧
      s.record.proxiedAppInfo.lookup (mapKey u name) = none
  | _ => False

/-- Two runs that are in the same mode, with alike records. -/
structure AlikeFor (u : Int) (s t : RunningLockStrategy) : Prop where
  isProxied : s.isProxied = t.isProxied
  isIdleMaintence : s.isIdleMaintence = t.isIdleMaintence
  record : ProxyRecord.AlikeFor u s.record t.record

namespace AlikeFor

/-- The strategies of two services that have just been created are alike. -/
theorem init : AlikeFor u {} {} := ⟨rfl, rfl, .refl fun _ _ => .refl⟩

/-- Which of the two runs comes first does not matter for the strategy. -/
theorem symm (h : AlikeFor u s t) : AlikeFor u t s :=
  ⟨h.isProxied.symm, h.isIdleMaintence.symm, h.record.symm fun _ _ _ halike => halike.symm⟩

/-- What is proxied has no part in it. -/
theorem withProxied (h : AlikeFor u s t) (proxied proxied' : Finset (Int × Int)) :
    AlikeFor u { s with proxied } { t with proxied := proxied' } :=
  ⟨h.isProxied, h.isIdleMaintence, h.record⟩

/-- Both runs change the record of one app, in ways that keep it alike. -/
theorem modifyApp (h : AlikeFor u s t) (key : String) {f f' : ProxiedProcInfo → ProxiedProcInfo}
    (hf : ∀ value value', ProxiedProcInfo.AlikeAt u key value value' →
      ProxiedProcInfo.AlikeAt u key (f value) (f' value')) :
    AlikeFor u (s.modifyApp key f) (t.modifyApp key f') :=
  ⟨h.isProxied, h.isIdleMaintence, h.record.modify key hf⟩

/-- One run changes the record of an app in a way that keeps it like the other run's. This is how an
app of another uid may come to differ. -/
theorem modifyApp_left (h : AlikeFor u s t) (key : String) {f : ProxiedProcInfo → ProxiedProcInfo}
    (hf : ∀ value value', ProxiedProcInfo.AlikeAt u key value value' →
      ProxiedProcInfo.AlikeAt u key (f value) value') : AlikeFor u (s.modifyApp key f) t :=
  ⟨h.isProxied, h.isIdleMaintence, h.record.modify_left key hf⟩

/-- `ProxyRunningLockList` calls the power manager and changes the proxied locks alone, which are
not compared, whatever list each run passes. -/
theorem proxyRunningLockList (h : AlikeFor u s t) (isProxied isProxied' : Bool)
    (l l' : Finset (Int × Int)) :
    AlikeFor u (s.proxyRunningLockList isProxied l) (t.proxyRunningLockList isProxied' l') := by
  obtain ⟨proxied, heq⟩ := proxyRunningLockList_frame isProxied l s
  obtain ⟨proxied', heq'⟩ := proxyRunningLockList_frame isProxied' l' t
  rw [heq, heq']
  exact h.withProxied _ _

/-- A call that both runs or one of them may make. -/
theorem proxyRunningLockList_if (h : AlikeFor u s t) (p p' : Prop) [Decidable p] [Decidable p']
    (isProxied isProxied' : Bool) (l l' : Finset (Int × Int)) :
    AlikeFor u (if p then s.proxyRunningLockList isProxied l else s)
      (if p' then t.proxyRunningLockList isProxied' l' else t) := by
  have hnone : ∀ (isProxied : Bool) (s : RunningLockStrategy),
      s.proxyRunningLockList isProxied ∅ = s := fun _ _ => if_pos rfl
  have hs : (if p then s.proxyRunningLockList isProxied l else s) =
      s.proxyRunningLockList isProxied (if p then l else ∅) := by
    split_ifs
    · rfl
    · rw [hnone]
  have ht : (if p' then t.proxyRunningLockList isProxied' l' else t) =
      t.proxyRunningLockList isProxied' (if p' then l' else ∅) := by
    split_ifs
    · rfl
    · rw [hnone]
  rw [hs, ht]
  exact h.proxyRunningLockList _ _ _ _

/-- An exemption begins for an app in both runs. The flag is recorded in both or in none, as they
are in the same mode. -/
theorem addExemptionFlag (h : AlikeFor u s t) (uid : Int) (name : String) (flag : ExemptionFlag) :
    AlikeFor u (s.addExemptionFlag uid name flag) (t.addExemptionFlag uid name flag) := by
  obtain ⟨proxied, heq⟩ := addExemptionFlag_frame s uid name flag
  obtain ⟨proxied', heq'⟩ := addExemptionFlag_frame t uid name flag
  rw [heq, heq', h.isProxied]
  by_cases hproxied : t.isProxied = true
  · rw [if_pos hproxied, if_pos hproxied]
    exact (h.modifyApp _ fun _ _ halike => halike.addFlag flag).withProxied _ _
  · rw [if_neg hproxied, if_neg hproxied]
    exact h.withProxied _ _

/-- An exemption ends for an app in both runs. -/
theorem removeExemptionFlag (h : AlikeFor u s t) (uid : Int) (name : String)
    (flag : ExemptionFlag) :
    AlikeFor u (s.removeExemptionFlag uid name flag) (t.removeExemptionFlag uid name flag) := by
  obtain ⟨proxied, heq⟩ := removeExemptionFlag_frame s uid name flag
  obtain ⟨proxied', heq'⟩ := removeExemptionFlag_frame t uid name flag
  rw [heq, heq']
  exact (h.modifyApp _ fun _ _ halike => halike.removeFlag flag).withProxied _ _

/-- An allowance of an app of another uid begins or ends in one run. -/
theorem updateExemptionList_left (h : AlikeFor u s t) (hu : uid ≠ u) (name : String)
    (allowType : BitVec 32) (added : Bool) :
    AlikeFor u (s.updateExemptionList uid name allowType added) t := by
  have hkey : ∀ n, mapKey uid name ≠ mapKey u n := fun n heq => hu (mapKey_inj heq).1
  unfold updateExemptionList
  split_ifs with hnone hproxied
  · exact h
  · obtain ⟨proxied, heq⟩ := addExemptionFlag_frame s uid name EXEMPTION
    rw [heq, if_pos hproxied]
    have hadded := h.modifyApp_left _ fun _ _ halike => (halike.exemption_left hkey).1
    exact hadded.withProxied _ t.proxied
  · obtain ⟨proxied, heq⟩ := removeExemptionFlag_frame s uid name EXEMPTION
    rw [heq]
    have hremoved := h.modifyApp_left _ fun _ _ halike => (halike.exemption_left hkey).2
    exact hremoved.withProxied _ t.proxied
  · exact h

/-- An allowance begins or ends in both runs. -/
theorem updateExemptionList (h : AlikeFor u s t) (uid : Int) (name : String)
    (allowType : BitVec 32) (added : Bool) :
    AlikeFor u (s.updateExemptionList uid name allowType added)
      (t.updateExemptionList uid name allowType added) := by
  unfold RunningLockStrategy.updateExemptionList
  rw [h.isProxied]
  split_ifs
  · exact h
  · exact h.addExemptionFlag uid name EXEMPTION
  · exact h.removeExemptionFlag uid name EXEMPTION
  · exact h

/-- Both runs call the power manager for all apps of their records. -/
theorem proxyAppAndProcess (h : AlikeFor u s t) (isProxied : Bool) :
    AlikeFor u (s.proxyAppAndProcess isProxied) (t.proxyAppAndProcess isProxied) :=
  h.proxyRunningLockList _ _ _ _

/-- Two records that are cleared are alike. -/
theorem clearProxyRecord (h : AlikeFor u s t) : AlikeFor u s.clearProxyRecord t.clearProxyRecord :=
  ⟨h.isProxied, h.isIdleMaintence, .refl fun _ _ => .refl⟩

/-- Both runs lift their restrictions and clear their records. -/
theorem stopProxyInner (h : AlikeFor u s t) : AlikeFor u s.stopProxyInner t.stopProxyInner :=
  (h.proxyAppAndProcess false).clearProxyRecord

/-- Two runs enter the same mode. -/
theorem withMode (h : AlikeFor u s t) (isProxied isIdleMaintence : Bool) :
    AlikeFor u { s with isProxied, isIdleMaintence } { t with isProxied, isIdleMaintence } :=
  ⟨rfl, rfl, h.record⟩

/-- The record is built in both runs, or in none. -/
theorem startProxyInner (h : AlikeFor u s t) (hq : q.Beside q')
    (hreads : ∀ name, q.RunsApplication u name → q.ListsAlike q' .runningLock name) :
    (startProxyInner q s).1 = (startProxyInner q' t).1 ∧
      AlikeFor u (startProxyInner q s).2 (startProxyInner q' t).2 := by
  unfold RunningLockStrategy.startProxyInner
  obtain ⟨hnone, hnone'⟩ | ⟨r, r', hr, hr', hrecord⟩ :=
    ProxyRecord.initProxiedAppInfo_beside hq hreads
  · rw [hnone, hnone']
    exact ⟨rfl, h.clearProxyRecord⟩
  · rw [hr, hr']
    have hbuilt : AlikeFor u { s.clearProxyRecord with record := r }
        { t.clearProxyRecord with record := r' } := ⟨h.isProxied, h.isIdleMaintence, hrecord⟩
    exact ⟨rfl, hbuilt.proxyAppAndProcess true⟩

/-- Both runs start to restrict when SLEEP enters `APP_RES_DEEP`. The names are looked up only where
the record is built. -/
theorem startProxy (h : AlikeFor u s t) (hq : q.Beside q') (curState : StandbyState)
    (curPhase : Nat) (hreads : s.isProxied = false → curState = .sleep →
      curPhase = SleepStatePhase.APP_RES_DEEP → ∀ name, q.RunsApplication u name →
        q.ListsAlike q' .runningLock name) :
    AlikeFor u (startProxy q curState curPhase s) (startProxy q' curState curPhase t) := by
  unfold RunningLockStrategy.startProxy
  rw [h.isProxied] at hreads ⊢
  by_cases hproxied : t.isProxied = true
  · rw [if_pos hproxied, if_pos hproxied]
    exact h
  · rw [if_neg hproxied, if_neg hproxied]
    by_cases hphase : curState ≠ .sleep ∨ curPhase ≠ SleepStatePhase.APP_RES_DEEP
    · rw [if_pos hphase, if_pos hphase]
      exact h
    · rw [if_neg hphase, if_neg hphase]
      rw [not_or, not_not, not_not] at hphase
      obtain ⟨hok, hstarted⟩ := h.startProxyInner hq
        (hreads (Bool.eq_false_of_not_eq_true hproxied) hphase.1 hphase.2)
      revert hok hstarted
      generalize RunningLockStrategy.startProxyInner q s = started
      generalize RunningLockStrategy.startProxyInner q' t = started'
      obtain ⟨ok, s⟩ := started
      obtain ⟨ok', t⟩ := started'
      rintro rfl hstarted
      cases ok
      · exact hstarted
      · exact hstarted.withMode true false

/-- Both runs pause, resume or stop on the same transition. -/
theorem stopProxy (h : AlikeFor u s t) (preState curState : StandbyState) :
    AlikeFor u (s.stopProxy preState curState) (t.stopProxy preState curState) := by
  unfold RunningLockStrategy.stopProxy
  by_cases hproxied : t.isProxied = true
  · rw [if_neg (not_not.2 hproxied), if_neg (not_not.2 (h.isProxied.trans hproxied))]
    split_ifs
    · have hstopped := h.proxyAppAndProcess false
      exact ⟨hstopped.isProxied, rfl, hstopped.record⟩
    · have hresumed : AlikeFor u { s with isIdleMaintence := false }
          { t with isIdleMaintence := false } := ⟨h.isProxied, rfl, h.record⟩
      exact hresumed.proxyAppAndProcess true
    · exact h.stopProxyInner.withMode false false
    · exact h
  · rw [if_pos hproxied, if_pos (h.isProxied ▸ hproxied : ¬ s.isProxied = true)]
    exact h

/-- `OnCreated` forgets the locks that were proxied before. -/
theorem onCreated (h : AlikeFor u s t) : AlikeFor u s.onCreated t.onCreated :=
  h.withProxied ∅ ∅

/-- `OnDestroy` lifts the restrictions and leaves the record as it is. -/
theorem onDestroy (h : AlikeFor u s t) : AlikeFor u s.onDestroy t.onDestroy := by
  unfold RunningLockStrategy.onDestroy
  exact (h.proxyRunningLockList_if _ _ false false _ _).withMode false false

/-- The apps of both runs lose the flags of the tasks that they have in both. -/
theorem resetBgTaskFlag (h : AlikeFor u s t) (key : String) :
    AlikeFor u (s.resetBgTaskFlag key) (t.resetBgTaskFlag key) := by
  unfold RunningLockStrategy.resetBgTaskFlag
  obtain ⟨hnone, hnone'⟩ | ⟨value, value', hvalue, hvalue', halike⟩ := h.record.cases key
  · simp only [hnone, hnone']
    exact h
  · have hflag : value.appExemptionFlag &&& (TRANSIENT_TASK ||| WORK_SCHEDULER) =
        value'.appExemptionFlag &&& (TRANSIENT_TASK ||| WORK_SCHEDULER) := by
      rw [bgTaskFlag_of_platformBits, halike.platform, ← bgTaskFlag_of_platformBits]
    simp only [hvalue, hvalue', hflag, halike.name, halike.uid]
    split_ifs
    · exact h
    · exact h.removeExemptionFlag _ _ _

/-- When a manager of background tasks dies both runs visit the same keys, and take the same flags
at each. -/
theorem resetProxyStatus (h : AlikeFor u s t) (isAdded : Bool) (saId : Int) :
    AlikeFor u (resetProxyStatus scfg isAdded saId s) (resetProxyStatus scfg isAdded saId t) := by
  have hloop : ∀ (keys : List String) {s t : RunningLockStrategy}, AlikeFor u s t →
      AlikeFor u (keys.foldl RunningLockStrategy.resetBgTaskFlag s)
        (keys.foldl RunningLockStrategy.resetBgTaskFlag t) := by
    intro keys
    induction keys with
    | nil => exact fun h => h
    | cons key keys ih => exact fun h => ih (h.resetBgTaskFlag key)
  unfold RunningLockStrategy.resetProxyStatus
  rw [h.isProxied, h.isIdleMaintence, h.record.keys]
  split_ifs
  · exact h
  · exact h
  · exact h
  · exact hloop _ h

/-- A background task is reported to both runs, under the same name. -/
theorem updateBgTaskAppStatus (h : AlikeFor u s t) (hq : q.Beside q') (type : String)
    (started : Bool) (uid : Int) (bundleName : String) :
    AlikeFor u (updateBgTaskAppStatus q type started uid bundleName s)
      (updateBgTaskAppStatus q' type started uid bundleName t) := by
  have hclient : q'.clientBundleName = q.clientBundleName := by
    rw [hq]
  unfold RunningLockStrategy.updateBgTaskAppStatus
  rw [hclient]
  cases bgtaskExemptionFlagMap type with
  | none => exact h
  | some flag =>
    cases started
    · exact h.removeExemptionFlag _ _ _
    · exact h.addExemptionFlag _ _ _

/-- A process of an app is created in both runs. -/
theorem processCreated (h : AlikeFor u s t) (hq : q.Beside q')
    (hreads : s.isProxied = true → toUInt32 uid = u →
      s.record.proxiedAppInfo.lookup (mapKey u name) = none → q.ListsAlike q' .network name) :
    AlikeFor u (handleProcessStatusChanged q uid pid name true s)
      (handleProcessStatusChanged q' uid pid name true t) := by
  unfold RunningLockStrategy.handleProcessStatusChanged
  by_cases hproxied : s.isProxied = true
  · have hproxied' : t.isProxied = true := h.isProxied.symm.trans hproxied
    rw [if_neg (not_not.2 hproxied), if_neg (not_not.2 hproxied'), if_pos rfl, if_pos rfl]
    have happ : ProxiedProcInfo.AlikeAt u (mapKey uid name) {} {} := .refl
    have hcreated := (h.record.getAndCreateAppInfo hq pid (hreads hproxied)).emplace happ
    obtain ⟨hnone, hnone'⟩ | ⟨value, value', hvalue, hvalue', -⟩ := hcreated.cases (mapKey uid name)
    · simp only [hnone, hnone']
      exact ⟨h.isProxied, h.isIdleMaintence, hcreated⟩
    · simp only [hvalue, hvalue']
      refine proxyRunningLockList_if ?_ _ _ _ _ _ _
      exact ⟨h.isProxied, h.isIdleMaintence, hcreated⟩
  · have hproxied' : ¬ t.isProxied = true := fun ht => hproxied (h.isProxied.trans ht)
    rw [if_pos hproxied, if_pos hproxied']
    exact h

/-- A process of an app dies in both runs. -/
theorem processDied (h : AlikeFor u s t) :
    AlikeFor u (handleProcessStatusChanged q uid pid name false s)
      (handleProcessStatusChanged q' uid pid name false t) := by
  unfold RunningLockStrategy.handleProcessStatusChanged
  rw [h.isProxied]
  by_cases hproxied : t.isProxied = true
  · rw [if_neg (not_not.2 hproxied), if_neg (not_not.2 hproxied), if_neg Bool.false_ne_true,
      if_neg Bool.false_ne_true]
    obtain ⟨hnone, hnone'⟩ | ⟨value, value', hvalue, hvalue', halike⟩ :=
      h.record.cases (mapKey uid name)
    · simp only [hnone, hnone']
      exact h
    · simp only [hvalue, hvalue', halike.pids]
      have hcalled := h.proxyRunningLockList_if (value.restricted = true)
        (value'.restricted = true) false false {(pid, uid)} {(pid, uid)}
      by_cases hempty : value'.pids.erase pid = ∅
      · rw [if_pos hempty, if_pos hempty]
        exact ⟨hcalled.isProxied, hcalled.isIdleMaintence, hcalled.record.erase _⟩
      · rw [if_neg hempty, if_neg hempty]
        exact hcalled.modifyApp _ fun _ _ halike => halike.withPids (Finset.erase · pid)
  · rw [if_pos hproxied, if_pos hproxied]
    exact h

/-- Both runs handle a message. -/
theorem handleEvent {message : StandbyMessage} (h : AlikeFor u s t) (hq : q.Beside q')
    (hreads : ∀ type name, s.Reads q u message type name → q.ListsAlike q' type name) :
    AlikeFor u (handleEvent scfg q message s) (handleEvent scfg q' message t) := by
  cases message with
  | allowListChanged uid name allowType added => exact h.updateExemptionList _ _ _ _
  | resCtrlConditionChanged =>
    exact (h.stopProxyInner.startProxyInner hq fun name hruns => hreads _ _ ⟨rfl, hruns⟩).2
  | phaseTransit curState _ curPhase =>
    exact h.startProxy hq _ _ fun hproxied hstate hphase name hruns =>
      hreads _ _ ⟨rfl, hproxied, hstate, hphase, hruns⟩
  | stateTransit preState curState => exact h.stopProxy _ _
  | bgTaskStatusChange type started uid bundleName =>
    exact h.updateBgTaskAppStatus hq _ _ _ _
  | processStateChanged uid pid name isCreated =>
    cases isCreated with
    | true =>
      exact h.processCreated hq fun hproxied huid hnone =>
        hreads _ _ ⟨rfl, hproxied, huid, rfl, hnone⟩
    | false => exact h.processDied
  | sysAbilityStatusChanged isAdded saId => exact h.resetProxyStatus _ _
  | commonEvent | screenOffHalfHour | deviceNetIdlePolicyTransit | other => exact h

end AlikeFor

end RunningLockStrategy

/-! ## The network strategy -/

namespace NetLimitedApps
variable {scfg : StrategyConfig} {q q' : Queries} {u uid : Int} {name : String}
  {apps apps' : NetLimitedApps}

/-- The stages before the allow list is asked. -/
def platformStages (q : Queries) : List (NetLimitedApps → Option NetLimitedApps) :=
  [getAllRunningAppInfo q, addSystemApps q, getForegroundApplications q, getBackgroundTaskApp q,
    getWorkSchedulerTask q]

/-- A last stage that does not fail. -/
theorem runStages_append (stages : List (NetLimitedApps → Option NetLimitedApps))
    (f : NetLimitedApps → NetLimitedApps) (apps : NetLimitedApps) :
    runStages (stages ++ [fun apps => some (f apps)]) apps =
      ((runStages stages apps).1,
        if (runStages stages apps).1 then f (runStages stages apps).2
        else (runStages stages apps).2) := by
  induction stages generalizing apps with
  | nil => rfl
  | cons stage stages ih =>
    rw [List.cons_append, runStages, runStages]
    cases stage apps with
    | none => rfl
    | some apps => exact ih apps

/-- `GetExemptionConfigForApp` asks for one name, and is the same when the name is listed alike. -/
theorem getExemptionConfigForApp_beside (h : q.ListsAlike q' .network name)
    (app : NetLimtedAppInfo) :
    getExemptionConfigForApp scfg q name app = getExemptionConfigForApp scfg q' name app := by
  unfold getExemptionConfigForApp
  simp only [h.1, h.2]

/-- The apps are built anew in both runs, or in none, and an app that is listed alike is the same
in both. -/
theorem initNetLimitedAppInfo_beside (scfg : StrategyConfig) (hq : q.Beside q')
    (hreads : ∀ name, q.ShowsProcess u name → q.ListsAlike q' .network name) :
    (initNetLimitedAppInfo scfg q ∅).1 = (initNetLimitedAppInfo scfg q' ∅).1 ∧
      (initNetLimitedAppInfo scfg q ∅).2.lookup u =
        (initNetLimitedAppInfo scfg q' ∅).2.lookup u := by
  have hinit : ∀ q, initNetLimitedAppInfo scfg q ∅ =
      ((runStages (platformStages q) ∅).1, if (runStages (platformStages q) ∅).1 then
        getExemptionConfig scfg q (runStages (platformStages q) ∅).2
        else (runStages (platformStages q) ∅).2) :=
    fun q => runStages_append (platformStages q) (getExemptionConfig scfg q) ∅
  have hstages : platformStages q' = platformStages q := by
    rw [hq]
    rfl
  by_cases hok : (runStages (platformStages q) ∅).1 = true
  · have hok₁ : (initNetLimitedAppInfo scfg q ∅).1 = true := by rw [hinit, hok]
    have hok₂ : (initNetLimitedAppInfo scfg q' ∅).1 = true := by rw [hinit, hstages, hok]
    have hprocesses : q'.runningProcesses = q.runningProcesses := by rw [hq]
    have hflag : platformFlag q' u = platformFlag q u := by
      rw [hq]
      rfl
    refine ⟨hok₁.trans hok₂.symm, ?_⟩
    rw [lookup_initNetLimitedAppInfo hok₁, lookup_initNetLimitedAppInfo hok₂, hprocesses, hflag]
    cases hfind : (q.runningProcesses.getD []).find? fun info => info.uid = u with
    | none => rfl
    | some info =>
      exact congrArg some (getExemptionConfigForApp_beside (hreads _ ⟨info, hfind, rfl⟩) _)
  · rw [hinit, hinit, hstages, if_neg hok, if_neg hok]
    exact ⟨rfl, rfl⟩

/-- An app that is created for a name that is listed alike is the same in both runs. -/
theorem createdApp_beside (hq : q.Beside q') (h : q.ListsAlike q' .network name) :
    createdApp scfg q uid name = createdApp scfg q' uid name := by
  have hsystem : q'.isSystemAppByUid = q.isSystemAppByUid := by rw [hq]
  rw [createdApp, createdApp, hsystem, appOf, appOf, getExemptionConfigForApp_beside h]

/-- The app that is found or recorded for the uid is the same in both runs. -/
theorem getD_createdApp_beside (hq : q.Beside q') (happs : apps.lookup u = apps'.lookup u)
    (hreads : apps.lookup u = none → q.ListsAlike q' .network name) :
    (apps.lookup u).getD (createdApp scfg q u name) =
      (apps'.lookup u).getD (createdApp scfg q' u name) := by
  rw [← happs]
  cases hlookup : apps.lookup u with
  | none => exact createdApp_beside hq (hreads hlookup)
  | some info => rfl

end NetLimitedApps

/-- The record of an app is its name and its flags. -/
theorem NetLimtedAppInfo.eq_iff {info info' : NetLimtedAppInfo} :
    info = info' ↔ info.name = info'.name ∧ info.appExemptionFlag = info'.appExemptionFlag := by
  obtain ⟨name, flag⟩ := info
  obtain ⟨name', flag'⟩ := info'
  simp

namespace NetworkStrategy
variable {scfg : StrategyConfig} {q q' : Queries} {u uid : Int} {name : String}
  {flag : ExemptionFlag} {s s' t : NetworkStrategy}

/-- The names that the strategy looks up on behalf of a uid while it handles a message, each in the
list of a type. -/
def Reads (q : Queries) (u : Int) (s : NetworkStrategy) (message : StandbyMessage)
    (type : AllowType) (name : String) : Prop :=
  type = .network ∧
  match message with
  | .resCtrlConditionChanged _ => q.ShowsProcess u name
  | .phaseTransit curState _ curPhase =>
    s.isFirewallEnabled = false ∧ curState = .sleep ∧ curPhase = SleepStatePhase.APP_RES_DEEP ∧
      q.ShowsProcess u name
  | .allowListChanged uid bundleName allowType true =>
    allowType &&& AllowType.network.mask ≠ 0 ∧ s.CreatesApp u uid ∧ name = bundleName
  | .bgTaskStatusChange type true uid bundleName typeId =>
    bgtaskExemptionFlagMap type ≠ none ∧ skipsStartedTask q type typeId s = false ∧
      s.CreatesApp u uid ∧ name = if bundleName = "" then q.clientBundleName uid else bundleName
  | .processStateChanged uid _ bundleName true => s.CreatesApp u uid ∧ name = bundleName
  | _ => False

/-- Two runs that both restrict or do not, and have the same app for the uid. -/
structure AlikeFor (u : Int) (s t : NetworkStrategy) : Prop where
  isFirewallEnabled : s.isFirewallEnabled = t.isFirewallEnabled
  isNightSleepMode : s.isNightSleepMode = t.isNightSleepMode
  app : s.netLimitedAppInfo.lookup u = t.netLimitedAppInfo.lookup u

namespace AlikeFor

/-- The strategies of two services that have just been created are alike. -/
theorem init : AlikeFor u {} {} := ⟨rfl, rfl, rfl⟩

/-- Which of the two runs comes first does not matter for the strategy. -/
theorem symm (h : AlikeFor u s t) : AlikeFor u t s :=
  ⟨h.isFirewallEnabled.symm, h.isNightSleepMode.symm, h.app.symm⟩

/-- The calls of the net policy service have no part in it. -/
theorem setFirewallAllowedList (h : AlikeFor u s t) (uids uids' : Finset Int)
    (isAdded isAdded' : Bool) :
    AlikeFor u (s.setFirewallAllowedList uids isAdded)
      (t.setFirewallAllowedList uids' isAdded') := by
  obtain ⟨trustlist, heq⟩ := setFirewallAllowedList_frame uids isAdded s
  obtain ⟨trustlist', heq'⟩ := setFirewallAllowedList_frame uids' isAdded' t
  rw [heq, heq']
  exact ⟨h.isFirewallEnabled, h.isNightSleepMode, h.app⟩

/-- The firewall is switched alike in both runs. The lists that are sent may differ, but they are no
part of the records. -/
theorem setFirewallStatus (h : AlikeFor u s t) (enableFirewall : Bool) :
    AlikeFor u (setFirewallStatus q enableFirewall s) (setFirewallStatus q' enableFirewall t) := by
  cases enableFirewall with
  | true =>
    have hallowed : AlikeFor u (setNetAllowApps q true s) (setNetAllowApps q' true t) :=
      h.setFirewallAllowedList _ _ _ _
    exact ⟨hallowed.isFirewallEnabled, hallowed.isNightSleepMode, hallowed.app⟩
  | false =>
    have hpolicy : AlikeFor u (s.handleDeviceIdlePolicy false) (t.handleDeviceIdlePolicy false) :=
      ⟨h.isFirewallEnabled, h.isNightSleepMode, h.app⟩
    exact hpolicy.setFirewallAllowedList _ _ _ _

/-- Both runs switch the policy off and empty the trust list, which are no part of the records. -/
theorem resetFirewallAllowList (h : AlikeFor u s t) :
    AlikeFor u s.resetFirewallAllowList t.resetFirewallAllowList :=
  ⟨h.isFirewallEnabled, h.isNightSleepMode, h.app⟩

/-- Both runs switch the firewall and note it. -/
theorem switchFirewall (h : AlikeFor u s t) (q q' : Queries)
    (isFirewallEnabled isIdleMaintence isIdleMaintence' : Bool) :
    AlikeFor u
      { NetworkStrategy.setFirewallStatus q isFirewallEnabled s with
        isFirewallEnabled, isIdleMaintence }
      { NetworkStrategy.setFirewallStatus q' isFirewallEnabled t with
        isFirewallEnabled, isIdleMaintence := isIdleMaintence' } := by
  have hset : AlikeFor u (NetworkStrategy.setFirewallStatus q isFirewallEnabled s)
      (NetworkStrategy.setFirewallStatus q' isFirewallEnabled t) :=
    h.setFirewallStatus isFirewallEnabled
  exact ⟨rfl, hset.isNightSleepMode, hset.app⟩

/-- The apps are built in both runs, or in none. -/
theorem initApps (h : AlikeFor u s t) (scfg : StrategyConfig) (hq : q.Beside q')
    (hreads : ∀ name, q.ShowsProcess u name → q.ListsAlike q' .network name) :
    ∃ ok s' t', NetworkStrategy.initApps scfg q s = (ok, s') ∧
      NetworkStrategy.initApps scfg q' t = (ok, t') ∧ AlikeFor u s' t' := by
  obtain ⟨hok, hlookup⟩ := NetLimitedApps.initNetLimitedAppInfo_beside scfg hq hreads
  exact ⟨_, _, _, rfl, Prod.ext hok.symm rfl,
    ⟨h.isFirewallEnabled, h.isNightSleepMode, hlookup⟩⟩

/-- When the condition changes both runs build their records anew, and switch the firewall on if
this succeeds. -/
theorem updateFirewallAllowList (h : AlikeFor u s t) (hq : q.Beside q')
    (hreads : ∀ name, q.ShowsProcess u name → q.ListsAlike q' .network name) :
    AlikeFor u (updateFirewallAllowList scfg q s) (updateFirewallAllowList scfg q' t) := by
  unfold NetworkStrategy.updateFirewallAllowList
  obtain ⟨ok, s', t', hs, ht, hinit⟩ := h.resetFirewallAllowList.initApps scfg hq hreads
  rw [hs, ht]
  cases ok
  · exact hinit
  · exact hinit.switchFirewall q q' true _ _

/-- Both runs start to restrict when SLEEP enters `APP_RES_DEEP`. The names are looked up only where
the records are built. -/
theorem startNetLimit (h : AlikeFor u s t) (hq : q.Beside q') (curState : StandbyState)
    (curPhase : Nat) (hreads : s.isFirewallEnabled = false → curState = .sleep →
      curPhase = SleepStatePhase.APP_RES_DEEP → ∀ name, q.ShowsProcess u name →
        q.ListsAlike q' .network name) :
    AlikeFor u (startNetLimit scfg q curState curPhase s)
      (startNetLimit scfg q' curState curPhase t) := by
  unfold NetworkStrategy.startNetLimit NetworkStrategy.enableNetworkFirewall
  by_cases hphase : curState ≠ .sleep ∨ curPhase ≠ SleepStatePhase.APP_RES_DEEP
  · rw [if_pos hphase, if_pos hphase]
    exact h
  · rw [if_neg hphase, if_neg hphase]
    rw [not_or, not_not, not_not] at hphase
    by_cases henabled : s.isFirewallEnabled = true
    · rw [if_pos henabled, if_pos (h.isFirewallEnabled.symm.trans henabled)]
      exact h
    · have henabled' : ¬ t.isFirewallEnabled = true :=
        fun ht => henabled (h.isFirewallEnabled.trans ht)
      rw [if_neg henabled, if_neg henabled']
      obtain ⟨ok, s', t', hs, ht, hinit⟩ := h.initApps scfg hq
        (hreads (Bool.eq_false_of_not_eq_true henabled) hphase.1 hphase.2)
      rw [hs, ht]
      cases ok
      · exact hinit
      · exact hinit.switchFirewall q q' true _ _

/-- Both runs pause, resume or stop on the same transition. -/
theorem disableNetworkFirewall (h : AlikeFor u s t) (preState curState : StandbyState) :
    AlikeFor u (disableNetworkFirewall q preState curState s)
      (disableNetworkFirewall q' preState curState t) := by
  unfold NetworkStrategy.disableNetworkFirewall
  split_ifs
  · exact h.switchFirewall q q' false _ _
  · have hresumed : AlikeFor u { s with isIdleMaintence := false }
        { t with isIdleMaintence := false } := ⟨h.isFirewallEnabled, h.isNightSleepMode, h.app⟩
    exact hresumed.switchFirewall q q' true _ _
  · exact ⟨rfl, h.isNightSleepMode, rfl⟩
  · exact h

/-! ### Messages about one app -/

/-- An exemption of an app of another uid begins in one run. -/
theorem addExemptionFlag_left (h : AlikeFor u s t) (hu : uid ≠ u) (name : String)
    (hgrant : IsGrant flag) : AlikeFor u (addExemptionFlag scfg q uid name flag s) t := by
  cases henabled : s.isFirewallEnabled with
  | false =>
    unfold NetworkStrategy.addExemptionFlag
    rwa [if_pos (by simp [henabled])]
  | true =>
    obtain ⟨_, _, -, -, -, apps, trustlist, happs, -, heq⟩ :=
      addExemptionFlag_eq scfg q uid name henabled hgrant
    rw [heq]
    exact ⟨h.isFirewallEnabled, h.isNightSleepMode, (happs u).trans ((if_neg hu.symm).trans h.app)⟩

/-- An exemption of an app of another uid ends in one run. -/
theorem removeExemptionFlag_left (h : AlikeFor u s t) (hu : uid ≠ u) (flag : ExemptionFlag) :
    AlikeFor u (removeExemptionFlag scfg q uid flag s) t := by
  cases henabled : s.isFirewallEnabled with
  | false =>
    unfold NetworkStrategy.removeExemptionFlag
    rwa [if_pos (by simp [henabled])]
  | true =>
    cases hinfo : s.netLimitedAppInfo.lookup uid with
    | none =>
      unfold NetworkStrategy.removeExemptionFlag
      rwa [if_neg (by simp [henabled]), hinfo]
    | some info =>
      obtain ⟨_, -, -, apps, trustlist, happs, -, heq⟩ :=
        removeExemptionFlag_eq scfg q henabled hinfo flag
      rw [heq]
      exact ⟨h.isFirewallEnabled, h.isNightSleepMode,
        (happs u).trans ((if_neg hu.symm).trans h.app)⟩

/-- An allowance of an app of another uid begins or ends in one run. -/
theorem updateExemptionList_left (h : AlikeFor u s t) (hu : uid ≠ u) (name : String)
    (allowType : BitVec 32) (added : Bool) :
    AlikeFor u (updateExemptionList scfg q uid name allowType added s) t := by
  unfold NetworkStrategy.updateExemptionList
  split_ifs
  · exact h
  · exact h.addExemptionFlag_left hu name .exemption
  · exact h.removeExemptionFlag_left hu EXEMPTION
  · exact h

/-- An exemption begins in both runs. For the uid the app may have to be created, for which its name
is looked up; the exemption of another uid begins in each run alone. -/
theorem addExemptionFlag (h : AlikeFor u s t) (hq : q.Beside q') (hgrant : IsGrant flag)
    (hreads : s.CreatesApp u uid → q.ListsAlike q' .network name) :
    AlikeFor u (addExemptionFlag scfg q uid name flag s)
      (addExemptionFlag scfg q' uid name flag t) := by
  by_cases hu : uid = u
  · subst hu
    cases henabled : s.isFirewallEnabled with
    | false =>
      unfold NetworkStrategy.addExemptionFlag
      rw [if_pos (by simp [henabled]), if_pos (by simp [← h.isFirewallEnabled, henabled])]
      exact h
    | true =>
      obtain ⟨info, changed, hinfo, hflag, hname, apps, _, happs, -, heq⟩ :=
        addExemptionFlag_eq scfg q uid name henabled hgrant
      obtain ⟨info', changed', hinfo', hflag', hname', apps', _, happs', -, heq'⟩ :=
        addExemptionFlag_eq scfg q' uid name (h.isFirewallEnabled.symm.trans henabled) hgrant
      have hfound : info = info' := by
        rw [hinfo, hinfo']
        exact NetLimitedApps.getD_createdApp_beside hq h.app fun hnone =>
          hreads ⟨henabled, rfl, hnone⟩
      have hsame : changed = changed' := by
        rw [NetLimtedAppInfo.eq_iff, hname, hname', hflag, hflag', hfound]
        exact ⟨rfl, rfl⟩
      rw [heq, heq']
      refine ⟨h.isFirewallEnabled, h.isNightSleepMode, ?_⟩
      rw [happs, happs', if_pos rfl, if_pos rfl, hsame]
  · exact ((h.addExemptionFlag_left hu name hgrant).symm.addExemptionFlag_left hu name hgrant).symm

/-- An exemption ends in both runs. No name is looked up, as an app that has no record is left
alone. -/
theorem removeExemptionFlag (h : AlikeFor u s t) (hq : q.Beside q') (uid : Int)
    (flag : ExemptionFlag) :
    AlikeFor u (removeExemptionFlag scfg q uid flag s)
      (removeExemptionFlag scfg q' uid flag t) := by
  by_cases hu : uid = u
  · subst hu
    have hcondition : q'.condition = q.condition := by rw [hq]
    unfold NetworkStrategy.removeExemptionFlag
    by_cases henabled : s.isFirewallEnabled = true
    · have henabled' : t.isFirewallEnabled = true := h.isFirewallEnabled.symm.trans henabled
      rw [if_neg (not_not.2 henabled), if_neg (not_not.2 henabled'), ← h.app, hcondition]
      cases hinfo : s.netLimitedAppInfo.lookup uid with
      | none => exact h
      | some info =>
        have hchanged : AlikeFor uid
            { s with netLimitedAppInfo := s.netLimitedAppInfo.modify uid fun _ =>
              NetLimitedApps.restrictConditionally scfg info.name (info.removeFlag flag) }
            { t with netLimitedAppInfo := t.netLimitedAppInfo.modify uid fun _ =>
              NetLimitedApps.restrictConditionally scfg info.name (info.removeFlag flag) } := by
          refine ⟨h.isFirewallEnabled, h.isNightSleepMode, ?_⟩
          rw [Map.lookup_modify, Map.lookup_modify, h.app]
        dsimp only
        split_ifs
        · exact hchanged.setFirewallAllowedList _ _ _ _
        · exact hchanged
    · rw [if_pos henabled, if_pos (fun ht => henabled (h.isFirewallEnabled.trans ht))]
      exact h
  · exact ((h.removeExemptionFlag_left hu flag).symm.removeExemptionFlag_left hu flag).symm

/-- An allowance begins or ends in both runs. -/
theorem updateExemptionList (h : AlikeFor u s t) (hq : q.Beside q') (allowType : BitVec 32)
    (added : Bool) (hreads : added = true → allowType &&& AllowType.network.mask ≠ 0 →
      s.CreatesApp u uid → q.ListsAlike q' .network name) :
    AlikeFor u (updateExemptionList scfg q uid name allowType added s)
      (updateExemptionList scfg q' uid name allowType added t) := by
  unfold NetworkStrategy.updateExemptionList
  by_cases htype : allowType &&& AllowType.network.mask = 0
  · rw [if_pos htype, if_pos htype]
    exact h
  · rw [if_neg htype, if_neg htype, h.isFirewallEnabled]
    split_ifs with henabled hadded
    · exact h.addExemptionFlag hq .exemption (hreads hadded htype)
    · exact h.removeExemptionFlag hq uid EXEMPTION
    · exact h

/-- A background task is reported to both runs, which skip it or record it alike. -/
theorem updateBgTaskAppStatus (h : AlikeFor u s t) (hq : q.Beside q') (type : String)
    (started : Bool) (uid : Int) (bundleName : String) (typeId : Int)
    (hreads : started = true → bgtaskExemptionFlagMap type ≠ none →
      skipsStartedTask q type typeId s = false → s.CreatesApp u uid →
        q.ListsAlike q' .network (if bundleName = "" then q.clientBundleName uid else bundleName)) :
    AlikeFor u (updateBgTaskAppStatus scfg q type started uid bundleName typeId s)
      (updateBgTaskAppStatus scfg q' type started uid bundleName typeId t) := by
  have hclient : q'.clientBundleName = q.clientBundleName := by rw [hq]
  have hskips : skipsStartedTask q' type typeId t = skipsStartedTask q type typeId s := by
    rw [skipsStartedTask, skipsStartedTask, h.isNightSleepMode, hq]
  unfold NetworkStrategy.updateBgTaskAppStatus
  rw [hclient, hskips]
  by_cases henabled : s.isFirewallEnabled = true
  · have henabled' : t.isFirewallEnabled = true := h.isFirewallEnabled.symm.trans henabled
    rw [if_neg (not_not.2 henabled), if_neg (not_not.2 henabled')]
    cases hflag : bgtaskExemptionFlagMap type with
    | none => exact h
    | some flag =>
      dsimp only
      by_cases hskip : started = true ∧ skipsStartedTask q type typeId s = true
      · rw [if_pos hskip, if_pos hskip]
        exact h
      · rw [if_neg hskip, if_neg hskip]
        cases started with
        | true =>
          have hnot : skipsStartedTask q type typeId s = false :=
            Bool.eq_false_of_not_eq_true fun hs => hskip ⟨rfl, hs⟩
          refine h.addExemptionFlag hq (isGrant_of_bgtask hflag) (hreads rfl ?_ hnot)
          rw [hflag]
          exact Option.some_ne_none flag
        | false => exact h.removeExemptionFlag hq uid flag
  · rw [if_pos henabled, if_pos (fun ht => henabled (h.isFirewallEnabled.trans ht))]
    exact h

/-- A process of an app is created in both runs. -/
theorem processCreated (h : AlikeFor u s t) (hq : q.Beside q')
    (hreads : s.CreatesApp u uid → q.ListsAlike q' .network name) :
    AlikeFor u (handleProcessStatusChanged scfg q uid name true s)
      (handleProcessStatusChanged scfg q' uid name true t) := by
  by_cases henabled : s.isFirewallEnabled = true
  · have henabled' : t.isFirewallEnabled = true := h.isFirewallEnabled.symm.trans henabled
    obtain ⟨trustlist, heq⟩ := processCreated_frame scfg q uid name henabled
    obtain ⟨trustlist', heq'⟩ := processCreated_frame scfg q' uid name henabled'
    rw [heq, heq']
    refine ⟨h.isFirewallEnabled, h.isNightSleepMode, ?_⟩
    dsimp only
    rw [NetLimitedApps.getAndCreateAppInfo_lookup, NetLimitedApps.getAndCreateAppInfo_lookup]
    split_ifs with hu
    · subst hu
      rw [NetLimitedApps.getD_createdApp_beside hq h.app fun hnone =>
        hreads ⟨henabled, rfl, hnone⟩]
    · exact h.app
  · unfold NetworkStrategy.handleProcessStatusChanged
    rw [if_pos henabled, if_pos (fun ht => henabled (h.isFirewallEnabled.trans ht))]
    exact h

/-- A process of an app dies in both runs. -/
theorem processDied (h : AlikeFor u s t) (hq : q.Beside q') (uid : Int) (name : String) :
    AlikeFor u (handleProcessStatusChanged scfg q uid name false s)
      (handleProcessStatusChanged scfg q' uid name false t) := by
  have hstate : q'.appRunningState = q.appRunningState := by rw [hq]
  by_cases henabled : s.isFirewallEnabled = true
  · have henabled' : t.isFirewallEnabled = true := h.isFirewallEnabled.symm.trans henabled
    obtain ⟨apps, trustlist, happs, heq⟩ := processDied_frame scfg q uid name henabled
    obtain ⟨apps', trustlist', happs', heq'⟩ := processDied_frame scfg q' uid name henabled'
    rw [heq, heq']
    refine ⟨h.isFirewallEnabled, h.isNightSleepMode, ?_⟩
    dsimp only
    rw [happs, happs', hstate, h.app]
  · unfold NetworkStrategy.handleProcessStatusChanged
    rw [if_pos henabled, if_pos (fun ht => henabled (h.isFirewallEnabled.trans ht))]
    exact h

/-- Both runs handle a message. -/
theorem handleEvent {message : StandbyMessage} (h : AlikeFor u s t) (hq : q.Beside q')
    (hreads : ∀ type name, s.Reads q u message type name → q.ListsAlike q' type name) :
    AlikeFor u (handleEvent scfg q message s) (handleEvent scfg q' message t) := by
  cases message with
  | allowListChanged uid name allowType added =>
    refine h.updateExemptionList hq allowType added fun hadded htype hcreates => ?_
    subst hadded
    exact hreads _ _ ⟨rfl, htype, hcreates, rfl⟩
  | resCtrlConditionChanged =>
    exact h.updateFirewallAllowList hq fun name hshows => hreads _ _ ⟨rfl, hshows⟩
  | phaseTransit curState _ curPhase =>
    exact h.startNetLimit hq _ _ fun henabled hstate hphase name hshows =>
      hreads _ _ ⟨rfl, henabled, hstate, hphase, hshows⟩
  | stateTransit preState curState => exact h.disableNetworkFirewall _ _
  | bgTaskStatusChange type started uid bundleName typeId =>
    refine h.updateBgTaskAppStatus hq _ _ _ _ _ fun hstarted hflag hskips hcreates => ?_
    subst hstarted
    exact hreads _ _ ⟨rfl, hflag, hskips, hcreates, rfl⟩
  | processStateChanged uid pid name isCreated =>
    cases isCreated with
    | true => exact h.processCreated hq fun hcreates => hreads _ _ ⟨rfl, hcreates, rfl⟩
    | false => exact h.processDied hq uid name
  | sysAbilityStatusChanged | commonEvent | screenOffHalfHour | deviceNetIdlePolicyTransit
  | other => exact h

end AlikeFor

end NetworkStrategy

end DeviceStandby
