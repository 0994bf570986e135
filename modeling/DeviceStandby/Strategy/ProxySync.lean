import DeviceStandby.Lib.Transition
import DeviceStandby.Strategy.Adapter
import DeviceStandby.Strategy.Rebuild

/-!
# What is proxied is exactly what the record restricts

`RunningLockStrategy` sends its proxy calls piece by piece, while apps, processes and exemptions
change. Here the strategy runs alone, on any sequence of messages, creations and destructions
(`proxySystem`). What the power manager then holds is exactly the running locks of the restricted
apps of the record while the strategy proxies outside a maintenance window, and nothing otherwise,
in every run whose calls avoid what `SyncsLocks` names.
-/

namespace DeviceStandby

open ExemptionTypeFlag AssocMap

namespace ProxyRecord
variable {q : Queries} {r r' : ProxyRecord} {key : String} {info : ProxiedProcInfo}
  {lock : Int × Int}

/-- The app under a key is restricted and has the lock. -/
def At (r : ProxyRecord) (key : String) (lock : Int × Int) : Prop :=
  ∃ info, r.proxiedAppInfo.lookup key = some info ∧ info.restricted = true ∧
    lock ∈ info.proxiedAppList

/-- Another app is restricted and has the lock. -/
def Elsewhere (r : ProxyRecord) (key : String) (lock : Int × Int) : Prop :=
  ∃ key', key' ≠ key ∧ r.At key' lock

/-- The list seen from one app. -/
theorem mem_proxiedAppList_iff (key : String) :
    lock ∈ r.proxiedAppList ↔ r.At key lock ∨ r.Elsewhere key lock := by
  rw [mem_proxiedAppList]
  constructor
  · rintro ⟨key', info, hinfo⟩
    by_cases hk : key' = key
    · exact .inl ⟨info, hk ▸ hinfo⟩
    · exact .inr ⟨key', hk, info, hinfo⟩
  · rintro (⟨info, hinfo⟩ | ⟨key', -, info, hinfo⟩)
    · exact ⟨key, info, hinfo⟩
    · exact ⟨key', info, hinfo⟩

/-- Two records that differ in one app. -/
def DiffersAt (key : String) (r r' : ProxyRecord) : Prop :=
  ∀ key' ≠ key, r'.proxiedAppInfo.lookup key' = r.proxiedAppInfo.lookup key'

/-- The locks of the other apps are those of the other record. -/
theorem DiffersAt.elsewhere (h : DiffersAt key r r') :
    r'.Elsewhere key lock ↔ r.Elsewhere key lock := by
  constructor
  · rintro ⟨key', hne, info, hinfo, hat⟩
    exact ⟨key', hne, info, (h key' hne).symm.trans hinfo, hat⟩
  · rintro ⟨key', hne, info, hinfo, hat⟩
    exact ⟨key', hne, info, (h key' hne).trans hinfo, hat⟩

/-- A change in place is a difference in one app. -/
theorem differsAt_modify (key : String) (f : ProxiedProcInfo → ProxiedProcInfo) :
    DiffersAt key r { r with proxiedAppInfo := r.proxiedAppInfo.modify key f } := by
  intro key' hne
  rw [Map.lookup_modify, if_neg hne]

/-- A recorded app has a lock when it is restricted and one of its processes holds it. -/
theorem at_of_lookup (h : r.proxiedAppInfo.lookup key = some info) :
    r.At key lock ↔ info.restricted = true ∧ lock ∈ info.proxiedAppList := by
  constructor
  · rintro ⟨info', hinfo', hat⟩
    obtain rfl : info' = info := Option.some.inj (hinfo'.symm.trans h)
    exact hat
  · exact fun hat => ⟨info, h, hat⟩

/-- No two apps have a lock in common. -/
def Apart (r : ProxyRecord) : Prop :=
  ∀ key key' info info' lock, r.proxiedAppInfo.lookup key = some info →
    r.proxiedAppInfo.lookup key' = some info' → lock ∈ info.proxiedAppList →
      lock ∈ info'.proxiedAppList → key = key'

/-- The empty record has no lock at all. -/
theorem Apart.empty : Apart {} := fun _ _ _ _ _ h => nomatch h

/-- A lock of an app is not elsewhere. -/
theorem Apart.not_elsewhere (h : r.Apart) (hinfo : r.proxiedAppInfo.lookup key = some info)
    (hlock : lock ∈ info.proxiedAppList) : ¬ r.Elsewhere key lock := by
  rintro ⟨key', hne, info', hinfo', -, hlock'⟩
  exact hne (h key' key info' info lock hinfo' hinfo hlock' hlock)

/-- One app may lose locks, or get locks that no other app has. -/
theorem Apart.of_differsAt (h : r.Apart) (hdiffers : DiffersAt key r r')
    (hown : ∀ info', r'.proxiedAppInfo.lookup key = some info' → ∀ lock ∈ info'.proxiedAppList,
      ∀ key' info, r.proxiedAppInfo.lookup key' = some info → lock ∈ info.proxiedAppList →
        key' = key) : r'.Apart := by
  intro k k' i i' lock hk hk' hlock hlock'
  by_cases heq : k = key
  · subst heq
    by_cases heq' : k' = k
    · exact heq'.symm
    · rw [hdiffers k' heq'] at hk'
      exact (hown i hk lock hlock k' i' hk' hlock').symm
  · rw [hdiffers k heq] at hk
    by_cases heq' : k' = key
    · subst heq'
      exact hown i' hk' lock hlock' k i hk hlock
    · rw [hdiffers k' heq'] at hk'
      exact h k k' i i' lock hk hk' hlock hlock'

section
variable {pid : Int}

/-- The death of a process is a difference in one app. -/
theorem WithoutPid.differsAt (h : WithoutPid key info pid r r') : DiffersAt key r r' :=
  fun key' hne => by rw [h key', if_neg hne]

/-- The app of a process that died gets no locks. -/
theorem WithoutPid.apart (h : WithoutPid key info pid r r')
    (hinfo : r.proxiedAppInfo.lookup key = some info) (hapart : r.Apart) : r'.Apart := by
  refine hapart.of_differsAt h.differsAt fun info' hinfo' lock hlock key' app happ hlock' => ?_
  rw [h key, if_pos rfl] at hinfo'
  split_ifs at hinfo'
  cases hinfo'
  rw [mem_proxiedAppList_app] at hlock
  exact hapart key' key app info lock happ hinfo hlock'
    (mem_proxiedAppList_app.2 ⟨Finset.mem_of_mem_erase hlock.1, hlock.2⟩)

end

/-- A rebuilt record gives every process to one app. -/
theorem apart_initProxiedAppInfo (h : initProxiedAppInfo q = some r) : r.Apart := by
  have hlocks : ∀ key info lock, r.proxiedAppInfo.lookup key = some info →
      lock ∈ info.proxiedAppList → firstKey q lock.2 = some key := by
    intro key info lock hinfo hlock
    rw [lookup_initProxiedAppInfo h] at hinfo
    obtain ⟨app, happ, rfl⟩ := Option.map_eq_some_iff.1 hinfo
    have hfind := (Option.filter_eq_some_iff.1 happ).1
    have hkey : keyOf app = key := by simpa using List.find?_some hfind
    subst hkey
    obtain ⟨hpid, huid⟩ := mem_proxiedAppList_app.1 hlock
    simp only [appOf, runningPids, List.mem_toFinset, List.mem_map, List.mem_filter,
      decide_eq_true_eq] at hpid
    obtain ⟨process, ⟨-, hfirst⟩, -⟩ := hpid
    -- the uid of the process is the one in the key
    obtain ⟨name, -, hname⟩ := Option.map_eq_some_iff.1 hfirst
    rw [huid, appOf, ← (mapKey_inj hname).1]
    exact hfirst
  intro key key' info info' lock hinfo hinfo' hlock hlock'
  have hkey := hlocks key info lock hinfo hlock
  rw [hlocks key' info' lock hinfo' hlock'] at hkey
  exact (Option.some.inj hkey).symm

end ProxyRecord

/-! ## The strategy alone -/

/-- What is called on the strategy. -/
inductive ProxyCall where
  | handleEvent (q : Queries) (message : StandbyMessage)
  | onCreated
  | onDestroy

/-- The strategy as a transition system. -/
def proxySystem (scfg : StrategyConfig) : Lts.System RunningLockStrategy ProxyCall where
  init := {}
  step s call :=
    match call with
    | .handleEvent q message => some (s.handleEvent scfg q message)
    | .onCreated => some s.onCreated
    | .onDestroy => some s.onDestroy

namespace RunningLockStrategy
variable {scfg : StrategyConfig} {q : Queries} {s t : RunningLockStrategy} {key : String}

/-- The strategy proxies, outside a maintenance window. -/
def Proxying (s : RunningLockStrategy) : Prop :=
  s.isProxied = true ∧ s.isIdleMaintence = false

/-- What a call must avoid. -/
def SyncsLocks (s : RunningLockStrategy) : ProxyCall → Prop
  /- A condition change comes while the strategy proxies, or finds nothing to restrict. -/
  | .handleEvent q (.resCtrlConditionChanged _) =>
    s.isProxied = true ∨ ∀ r, ProxyRecord.initProxiedAppInfo q = some r → r.proxiedAppList = ∅
  /- The end of a task outside that time does not restrict a running app that is still recorded. -/
  | .handleEvent q (.bgTaskStatusChange type false uid bundleName _) =>
    s.isProxied = true ∨ ∀ flag, bgtaskExemptionFlagMap type = some flag →
      ∀ info, s.record.proxiedAppInfo.lookup
          (mapKey uid (if bundleName = "" then q.clientBundleName uid else bundleName)) =
        some info → info.restricted = true ∨ (info.removeFlag flag).restricted = false ∨
          info.pids = ∅
  /- A created process has a uid that is not negative and is recorded under no other app, and so is
  a process that dies, if its app is recorded. -/
  | .handleEvent _ (.processStateChanged uid pid name isCreated) =>
    s.isProxied = true → (isCreated = true → toUInt32 uid = uid) ∧
      (isCreated = true ∨ mapKey uid name ∈ s.record.proxiedAppInfo →
        ∀ key info, s.record.proxiedAppInfo.lookup key = some info →
          (pid, uid) ∈ info.proxiedAppList → key = mapKey uid name)
  /- The strategy is not created again while it proxies something. -/
  | .onCreated => s.Proxying → s.record.proxiedAppList = ∅
  | _ => True

/-- What is proxied is what the record restricts. -/
structure Synced (s : RunningLockStrategy) : Prop where
  keyed : s.record.Keyed
  apart : s.record.Apart
  idle : s.isIdleMaintence = true → s.isProxied = true
  locks : ∀ lock, lock ∈ s.proxied ↔ s.Proxying ∧ lock ∈ s.record.proxiedAppList

/-- Outside the time in which the strategy proxies nothing is proxied. -/
theorem Synced.free (h : Synced s) (hnot : ¬ s.Proxying) : s.proxied = ∅ :=
  Finset.eq_empty_of_forall_notMem fun lock hmem => hnot ((h.locks lock).1 hmem).1

/-- A strategy that proxies nothing, and has nothing to proxy, is in step. -/
theorem Synced.of_free (hkeyed : s.record.Keyed) (hapart : s.record.Apart)
    (hidle : s.isIdleMaintence = true → s.isProxied = true)
    (hnot : s.Proxying → s.record.proxiedAppList = ∅) (hempty : s.proxied = ∅) : Synced s where
  keyed := hkeyed
  apart := hapart
  idle := hidle
  locks lock := by
    rw [hempty]
    refine iff_of_false (Finset.notMem_empty lock) ?_
    rintro ⟨hproxying, hmem⟩
    rw [hnot hproxying] at hmem
    exact absurd hmem (Finset.notMem_empty lock)

/-- What does not change the mode does not change whether the strategy proxies. -/
theorem SameMode.proxying (h : SameMode s t) : t.Proxying ↔ s.Proxying := by
  unfold Proxying
  rw [h.1, h.2]

/-- A call that changes one app and, while the strategy proxies, its locks. -/
theorem Synced.change (h : Synced s) (key : String) (hmode : SameMode s t) (hkeyed : t.record.Keyed)
    (hapart : t.record.Apart) (hdiffers : ProxyRecord.DiffersAt key s.record t.record)
    (hfree : ¬ s.Proxying → t.proxied = s.proxied)
    (hlocks : s.Proxying → ∀ lock, lock ∈ t.proxied ↔
      t.record.At key lock ∨ s.record.Elsewhere key lock) : Synced t where
  keyed := hkeyed
  apart := hapart
  idle := by
    rw [hmode.1, hmode.2]
    exact h.idle
  locks lock := by
    rw [hmode.proxying]
    by_cases hproxying : s.Proxying
    · rw [hlocks hproxying, t.record.mem_proxiedAppList_iff key, hdiffers.elsewhere]
      exact (and_iff_right hproxying).symm
    · rw [hfree hproxying, h.free hproxying]
      exact iff_of_false (Finset.notMem_empty lock) fun hand => hproxying hand.1

/-- What is proxied, seen from one app of the record. -/
theorem Proxying.mem_proxied (h : Synced s) (hproxying : s.Proxying) (key : String)
    (lock : Int × Int) :
    lock ∈ s.proxied ↔ s.record.At key lock ∨ s.record.Elsewhere key lock := by
  rw [h.locks, and_iff_right hproxying, s.record.mem_proxiedAppList_iff key]

/-! ### Flags -/

/-- An app whose flags change keeps its locks: they are proxied when it becomes restricted, and
lifted when it becomes exempted. -/
theorem Synced.modifyApp (h : Synced s) {info : ProxiedProcInfo}
    (hinfo : s.record.proxiedAppInfo.lookup key = some info) {f : ProxiedProcInfo → ProxiedProcInfo}
    (huid : ∀ info, (f info).uid = info.uid) (hpids : ∀ info, (f info).pids = info.pids)
    {proxied : Finset (Int × Int)} (hfree : ¬ s.Proxying → proxied = s.proxied)
    (hlocks : s.Proxying → ∀ lock, lock ∈ proxied ↔
      if lock ∈ info.proxiedAppList then (f info).restricted = true else lock ∈ s.proxied) :
    Synced { s.modifyApp key f with proxied := proxied } := by
  have hdiffers : ProxyRecord.DiffersAt key s.record (s.modifyApp key f).record :=
    ProxyRecord.differsAt_modify key f
  have hlookup : (s.modifyApp key f).record.proxiedAppInfo.lookup key = some (f info) := by
    simp only [RunningLockStrategy.modifyApp, Map.lookup_modify, if_true, hinfo, Option.map_some]
  have hlist : (f info).proxiedAppList = info.proxiedAppList := by
    rw [ProxiedProcInfo.proxiedAppList, hpids, huid]
    rfl
  refine h.change key ⟨rfl, rfl⟩ (ProxyRecord.all_modify h.keyed huid) ?_ hdiffers hfree
    fun hproxying lock => ?_
  · refine h.apart.of_differsAt hdiffers
      fun info' hinfo' lock hlock key' info'' hinfo'' hlock' => ?_
    obtain rfl := Option.some.inj (hlookup.symm.trans hinfo')
    rw [hlist] at hlock
    exact h.apart key' key info'' info lock hinfo'' hinfo hlock' hlock
  · rw [hlocks hproxying, ProxyRecord.at_of_lookup hlookup, hlist]
    by_cases hlock : lock ∈ info.proxiedAppList
    · rw [if_pos hlock, and_iff_left hlock]
      exact (or_iff_left (h.apart.not_elsewhere hinfo hlock)).symm
    · rw [if_neg hlock, hproxying.mem_proxied h key, ProxyRecord.at_of_lookup hinfo]
      simp only [hlock, and_false]

/-- A running lock of a recorded app is proxied when the app is restricted. -/
theorem Synced.mem_proxied (h : Synced s) (hproxying : s.Proxying) {info : ProxiedProcInfo}
    (hinfo : s.record.proxiedAppInfo.lookup key = some info) {lock : Int × Int}
    (hlock : lock ∈ info.proxiedAppList) : lock ∈ s.proxied ↔ info.restricted = true := by
  rw [hproxying.mem_proxied h key, ProxyRecord.at_of_lookup hinfo, and_iff_left hlock]
  exact or_iff_left (h.apart.not_elsewhere hinfo hlock)

/-- A change of flags that keeps the app restricted, or exempted. -/
theorem Synced.modifyApp_same (h : Synced s) {info : ProxiedProcInfo}
    (hinfo : s.record.proxiedAppInfo.lookup key = some info) {f : ProxiedProcInfo → ProxiedProcInfo}
    (huid : ∀ info, (f info).uid = info.uid) (hpids : ∀ info, (f info).pids = info.pids)
    (hsame : s.Proxying → (f info).restricted = info.restricted) : Synced (s.modifyApp key f) := by
  refine h.modifyApp hinfo huid hpids (fun _ => rfl) fun hproxying lock => ?_
  split_ifs with hlock
  · rw [hsame hproxying]
    exact h.mem_proxied hproxying hinfo hlock
  · exact Iff.rfl

/-- A change of flags with the call that it takes, which does nothing in a maintenance window. -/
theorem Synced.modifyApp_call (h : Synced s) {info : ProxiedProcInfo}
    (hinfo : s.record.proxiedAppInfo.lookup key = some info) {f : ProxiedProcInfo → ProxiedProcInfo}
    (huid : ∀ info, (f info).uid = info.uid) (hpids : ∀ info, (f info).pids = info.pids)
    (hok : s.isProxied = true ∨ info.pids = ∅) :
    Synced ((s.modifyApp key f).proxyRunningLockList (f info).restricted info.proxiedAppList) := by
  rw [modifyApp_proxyRunningLockList]
  obtain ⟨proxied, hframe⟩ := proxyRunningLockList_frame (f info).restricted info.proxiedAppList s
  have hmem : ∀ lock, lock ∈ proxied ↔
      if s.isIdleMaintence then lock ∈ s.proxied
      else if (f info).restricted then lock ∈ s.proxied ∨ lock ∈ info.proxiedAppList
      else lock ∈ s.proxied ∧ lock ∉ info.proxiedAppList := by
    intro lock
    rw [← mem_proxyRunningLockList, hframe]
  rw [hframe]
  refine h.modifyApp hinfo huid hpids (fun hnot => ?_) fun hproxying lock => ?_
  · ext lock
    rw [hmem]
    split_ifs with hidle
    · exact Iff.rfl
    all_goals
      -- the strategy does not proxy, and the list is empty
      have hempty : info.proxiedAppList = ∅ := by
        rw [ProxiedProcInfo.proxiedAppList,
          hok.resolve_left fun hproxied => hnot ⟨hproxied, by simpa using hidle⟩,
          Finset.image_empty]
      simp [hempty]
  · rw [hmem, hproxying.2]
    cases (f info).restricted <;> by_cases hlock : lock ∈ info.proxiedAppList <;> simp [hlock]

/-- Setting a flag lifts the proxies of its app when it becomes exempted. -/
theorem Synced.addExemptionFlag (h : Synced s) (uid : Int) (name : String) {flag : ExemptionFlag}
    (hflag : flag &&& RESTRICTED = 0) : Synced (s.addExemptionFlag uid name flag) := by
  unfold RunningLockStrategy.addExemptionFlag
  split
  · exact h
  · rename_i hproxied
    split
    · exact h
    · rename_i info hinfo
      have hcall := h.modifyApp_call hinfo (f := (·.addFlag flag)) (fun _ => rfl) (fun _ => rfl)
        (.inl (by simpa using hproxied))
      dsimp only at hcall ⊢
      split_ifs with hlift
      · rwa [Bool.eq_false_iff.2 hlift.2] at hcall
      · refine h.modifyApp_same hinfo (fun _ => rfl) (fun _ => rfl) fun _ => ?_
        cases hres : info.restricted with
        | true =>
          by_contra hnew
          exact hlift ⟨hres, hnew⟩
        | false =>
          simp only [ProxiedProcInfo.restricted, Bool.not_eq_false'] at hres ⊢
          exact isExempted_of_add hflag hres

/-- Taking flags from an app may proxy it while the strategy does not proxy. -/
theorem Synced.removeExemptionFlag (h : Synced s) {uid : Int} {name : String} {flag : ExemptionFlag}
    (hflag : flag &&& RESTRICTED = 0)
    (hok : s.isProxied = true ∨ ∀ info,
      s.record.proxiedAppInfo.lookup (mapKey uid name) = some info →
        info.restricted = true ∨ (info.removeFlag flag).restricted = false ∨ info.pids = ∅) :
    Synced (s.removeExemptionFlag uid name flag) := by
  unfold RunningLockStrategy.removeExemptionFlag
  split
  · exact h
  · rename_i info hinfo
    dsimp only
    split_ifs with hsame
    · refine h.modifyApp_same hinfo (fun _ => rfl) (fun _ => rfl) fun _ => ?_
      cases hres : info.restricted with
      | true => exact restricted_removeFlag hflag hres
      | false => exact Bool.eq_false_iff.2 (hsame.resolve_right (by simp [hres]))
    · obtain ⟨hnew, hold⟩ := not_or.1 hsame
      have hcall := h.modifyApp_call hinfo (f := (·.removeFlag flag)) (fun _ => rfl) (fun _ => rfl)
        (hok.imp_right fun hok => ((hok info hinfo).resolve_left hold).resolve_left
          fun hres => hnew (by simp [hres]))
      rwa [not_not.1 hnew] at hcall

/-! ### The phases of the strategy -/

/-- `StopProxyInner` lifts all that is proxied. -/
theorem Synced.stopProxyInner (h : Synced s) :
    s.stopProxyInner.proxied = ∅ ∧ SameMode s s.stopProxyInner := by
  obtain ⟨proxied, hframe⟩ := proxyRunningLockList_frame false s.record.proxiedAppList s
  refine ⟨?_, ?_⟩
  · show (s.proxyRunningLockList false s.record.proxiedAppList).proxied = ∅
    refine Finset.eq_empty_of_forall_notMem fun lock hmem => ?_
    obtain ⟨hp, hnot⟩ := mem_proxyRunningLockList_false hmem
    obtain ⟨⟨-, hidle⟩, hlist⟩ := (h.locks lock).1 hp
    exact hnot hidle hlist
  · unfold RunningLockStrategy.stopProxyInner proxyAppAndProcess
    rw [hframe]
    exact ⟨rfl, rfl⟩

/-- A condition change proxies the restricted apps of the new record in place of the old ones. -/
theorem Synced.updateResourceConfig (h : Synced s)
    (hok : s.isProxied = true ∨
      ∀ r, ProxyRecord.initProxiedAppInfo q = some r → r.proxiedAppList = ∅) :
    Synced (updateResourceConfig q s) := by
  obtain ⟨hempty, hmode⟩ := h.stopProxyInner
  have hidle : s.stopProxyInner.isIdleMaintence = true → s.stopProxyInner.isProxied = true := by
    rw [hmode.1, hmode.2]
    exact h.idle
  unfold RunningLockStrategy.updateResourceConfig
  rcases startProxyInner_spec q hempty with
    ⟨-, heq⟩ | ⟨record, proxied, hinit, hkeyed, hlocks, heq⟩
  · rw [heq]
    exact .of_free .empty .empty hidle (fun _ => rfl) hempty
  · rw [heq]
    refine ⟨hkeyed, ProxyRecord.apart_initProxiedAppInfo hinit, hidle, fun lock => ?_⟩
    refine (hlocks lock).trans ?_
    rcases hok with hproxied | hnone
    · have hproxied : s.stopProxyInner.isProxied = true := hmode.1.trans hproxied
      exact ⟨fun hand => ⟨⟨hproxied, hand.1⟩, hand.2⟩, fun hand => ⟨hand.1.2, hand.2⟩⟩
    · have hlist := hnone record hinit
      constructor <;>
      · rintro ⟨-, hmem⟩
        rw [hlist] at hmem
        exact absurd hmem (Finset.notMem_empty lock)

/-- No maintenance window is noted while the strategy does not proxy. -/
theorem Synced.not_idle (h : Synced s) (hproxied : ¬ s.isProxied = true) :
    s.isIdleMaintence = false := by
  by_contra hidle
  exact hproxied (h.idle (by simpa using hidle))

/-- `StartProxy` proxies the restricted apps of the record that it builds. -/
theorem Synced.startProxy (h : Synced s) (curState : StandbyState) (curPhase : Nat) :
    Synced (startProxy q curState curPhase s) := by
  unfold RunningLockStrategy.startProxy
  split
  · exact h
  · rename_i hproxied
    have hempty : s.proxied = ∅ := h.free fun hproxying => hproxied hproxying.1
    split_ifs
    · exact h
    · rcases startProxyInner_spec q hempty with
        ⟨-, heq⟩ | ⟨record, proxied, hinit, hkeyed, hlocks, heq⟩
      · rw [heq]
        exact .of_free .empty .empty h.idle (fun _ => rfl) hempty
      · rw [heq]
        refine ⟨hkeyed, ProxyRecord.apart_initProxiedAppInfo hinit, by simp, fun lock => ?_⟩
        refine (hlocks lock).trans ?_
        rw [h.not_idle hproxied]
        exact ⟨fun hand => ⟨⟨rfl, rfl⟩, hand.2⟩, fun hand => ⟨rfl, hand.2⟩⟩

/-- `StopProxy` lifts the proxies, and proxies them again after a maintenance window. -/
theorem Synced.stopProxy (h : Synced s) (preState curState : StandbyState) :
    Synced (s.stopProxy preState curState) := by
  unfold RunningLockStrategy.stopProxy
  split
  · exact h
  · rename_i hproxied
    have hproxied : s.isProxied = true := by simpa using hproxied
    split_ifs with hmaint hresume hend
    · -- a maintenance window opens
      have hempty : (s.proxyAppAndProcess false).proxied = ∅ := h.stopProxyInner.1
      obtain ⟨proxied, hframe⟩ := proxyRunningLockList_frame false s.record.proxiedAppList s
      unfold proxyAppAndProcess at hempty ⊢
      rw [hframe] at hempty ⊢
      exact .of_free h.keyed h.apart (fun _ => hproxied) (by simp [Proxying]) hempty
    · -- it closes, and what the record then restricts is proxied
      obtain ⟨proxied, hframe⟩ := proxyRunningLockList_frame true s.record.proxiedAppList
        { s with isIdleMaintence := false }
      unfold proxyAppAndProcess
      refine ⟨?_, ?_, ?_, fun lock => ?_⟩
      · rw [proxyRunningLockList_record]
        exact h.keyed
      · rw [proxyRunningLockList_record]
        exact h.apart
      · rw [proxyRunningLockList_isIdleMaintence]
        simp
      · rw [mem_proxyRunningLockList, proxyRunningLockList_record, Proxying,
          proxyRunningLockList_isProxied, proxyRunningLockList_isIdleMaintence]
        simp only [hproxied, h.locks, Proxying, Bool.false_eq_true, if_false, if_true, and_self,
          true_and]
        exact or_iff_right_of_imp And.right
    · exact .of_free .empty .empty (by simp) (fun _ => rfl) h.stopProxyInner.1
    · exact h

/-- `OnDestroy` lifts all that is proxied and empties the record. -/
theorem Synced.onDestroy (h : Synced s) : Synced s.onDestroy := by
  have hempty : s.onDestroy.proxied = ∅ := by
    unfold RunningLockStrategy.onDestroy
    dsimp only
    split_ifs with hproxying
    · exact h.stopProxyInner.1
    · exact h.free fun hp => hproxying ⟨hp.1, by simp [hp.2]⟩
  have hrecord : s.onDestroy.record = s.record := by
    unfold RunningLockStrategy.onDestroy
    dsimp only
    split_ifs
    · exact proxyRunningLockList_record _ _
    · rfl
  exact .of_free (by rw [hrecord]; exact h.keyed) (by rw [hrecord]; exact h.apart)
    (by simp [RunningLockStrategy.onDestroy]) (by simp [Proxying, RunningLockStrategy.onDestroy])
    hempty

/-- `ResetProxyStatus` takes the task flags of one app after the other. -/
theorem Synced.resetProxyStatus (h : Synced s) (isAdded : Bool) (saId : Int) :
    Synced (resetProxyStatus scfg isAdded saId s) :=
  resetProxyStatus_keeps
    (fun _ hu hproxied _ _ _ hflag => hu.removeExemptionFlag hflag (.inl hproxied)) h _ _

/-! ### Processes -/

/-- The record after a process was created: its app has the new lock beside those it had. -/
theorem getAndCreateAppInfo_sync (q : Queries) {r : ProxyRecord} {uid pid : Int} {name : String}
    (hkeyed : r.Keyed) (hapart : r.Apart) (huid : toUInt32 uid = uid)
    (hown : ∀ key info, r.proxiedAppInfo.lookup key = some info →
      (pid, uid) ∈ info.proxiedAppList → key = mapKey uid name) :
    (r.getAndCreateAppInfo q uid pid name).Apart ∧
    ProxyRecord.DiffersAt (mapKey uid name) r (r.getAndCreateAppInfo q uid pid name) ∧
    ∃ info', (r.getAndCreateAppInfo q uid pid name).proxiedAppInfo.lookup (mapKey uid name) =
        some info' ∧
      (∀ lock, (r.getAndCreateAppInfo q uid pid name).At (mapKey uid name) lock ↔
        info'.restricted = true ∧ lock = (pid, uid) ∨ r.At (mapKey uid name) lock) := by
  have hlookup : ∀ key, (r.getAndCreateAppInfo q uid pid name).proxiedAppInfo.lookup key =
      if key = mapKey uid name then
        some (((r.proxiedAppInfo.lookup (mapKey uid name)).map fun app =>
          { app with pids := insert pid app.pids }).getD (ProxyRecord.createdApp q uid pid name))
      else r.proxiedAppInfo.lookup key := fun key => by
    rw [ProxyRecord.lookup_getAndCreateAppInfo, huid]
  have hdiffers : ProxyRecord.DiffersAt (mapKey uid name) r
      (r.getAndCreateAppInfo q uid pid name) := fun key hne => (hlookup key).trans (if_neg hne)
  -- the app gets a lock that no other app has, and keeps its flags
  obtain ⟨info', hinfo', hlocks, hres⟩ : ∃ info' : ProxiedProcInfo,
      (r.getAndCreateAppInfo q uid pid name).proxiedAppInfo.lookup (mapKey uid name) =
        some info' ∧
      (∀ lock, lock ∈ info'.proxiedAppList ↔ lock = (pid, uid) ∨
        ∃ info, r.proxiedAppInfo.lookup (mapKey uid name) = some info ∧
          lock ∈ info.proxiedAppList) ∧
      ∀ info, r.proxiedAppInfo.lookup (mapKey uid name) = some info →
        info.restricted = info'.restricted := by
    refine ⟨_, (hlookup _).trans (if_pos rfl), ?_⟩
    cases hold : r.proxiedAppInfo.lookup (mapKey uid name) with
    | some info =>
      have hinfoUid : info.uid = uid := hkeyed.uid hold
      refine ⟨fun ⟨p, u⟩ => ?_, fun info'' hinfo'' => ?_⟩
      · simp only [Option.map_some, Option.getD_some, ProxyRecord.mem_proxiedAppList_app,
          Finset.mem_insert, hinfoUid, Option.some.injEq, exists_eq_left', Prod.mk.injEq]
        exact or_and_right
      · obtain rfl := Option.some.inj hinfo''
        rfl
    | none =>
      refine ⟨fun ⟨p, u⟩ => ?_, fun info h => nomatch h⟩
      simp only [Option.map_none, Option.getD_none, ProxyRecord.mem_proxiedAppList_app,
        ProxyRecord.createdApp, Finset.mem_singleton, reduceCtorEq, false_and, exists_false,
        or_false, Prod.mk.injEq]
  refine ⟨?_, hdiffers, info', hinfo', fun lock => ?_⟩
  · refine hapart.of_differsAt hdiffers fun info'' hinfo'' lock hlock key' info hinfo hlock' => ?_
    obtain rfl := Option.some.inj (hinfo'.symm.trans hinfo'')
    rcases (hlocks lock).1 hlock with rfl | ⟨info1, hinfo1, hlock1⟩
    · exact hown key' info hinfo hlock'
    · exact hapart key' _ info info1 lock hinfo hinfo1 hlock' hlock1
  · rw [ProxyRecord.at_of_lookup hinfo', hlocks, and_or_left]
    refine or_congr_right ?_
    constructor
    · rintro ⟨hrestricted, info, hinfo, hlock⟩
      exact ⟨info, hinfo, (hres info hinfo).trans hrestricted, hlock⟩
    · rintro ⟨info, hinfo, hrestricted, hlock⟩
      exact ⟨(hres info hinfo).symm.trans hrestricted, info, hinfo, hlock⟩

/-- A process that is created is proxied with its app when that is restricted, and with no other
app. -/
theorem Synced.processCreated (h : Synced s) {uid pid : Int} {name : String}
    (hok : s.isProxied = true → toUInt32 uid = uid ∧
      ∀ key info, s.record.proxiedAppInfo.lookup key = some info →
        (pid, uid) ∈ info.proxiedAppList → key = mapKey uid name) :
    Synced (handleProcessStatusChanged q uid pid name true s) := by
  by_cases hproxied : s.isProxied = true
  · obtain ⟨huid, hown⟩ := hok hproxied
    have hkeyed := (getAndCreateAppInfo_spec q pid name h.keyed huid).1
    obtain ⟨hapart, hdiffers, info, hinfo, hat⟩ :=
      getAndCreateAppInfo_sync q h.keyed h.apart huid hown
    rw [processCreated_eq q hproxied hinfo]
    split_ifs with hres
    · obtain ⟨proxied, hframe⟩ := proxyRunningLockList_frame true {(pid, uid)}
        { s with record := s.record.getAndCreateAppInfo q uid pid name }
      have hmem : ∀ lock, lock ∈ proxied ↔ if s.isIdleMaintence then lock ∈ s.proxied
          else lock ∈ s.proxied ∨ lock = (pid, uid) := by
        intro lock
        have hmem : lock ∈ ({ s with
            record := s.record.getAndCreateAppInfo q uid pid name }.proxyRunningLockList true
              {(pid, uid)}).proxied ↔ _ := mem_proxyRunningLockList
        rw [hframe] at hmem
        simpa using hmem
      rw [hframe]
      refine h.change (mapKey uid name) ⟨rfl, rfl⟩ hkeyed hapart hdiffers (fun hnot => ?_)
        fun hproxying lock => ?_
      · ext lock
        rw [hmem, if_pos]
        by_contra hidle
        exact hnot ⟨hproxied, by simpa using hidle⟩
      · rw [hmem, hproxying.2, hproxying.mem_proxied h (mapKey uid name)]
        dsimp only
        rw [hat]
        simp only [Bool.false_eq_true, if_false, hres, true_and]
        rw [or_comm, or_assoc]
    · refine h.change (mapKey uid name) ⟨rfl, rfl⟩ hkeyed hapart hdiffers (fun _ => rfl)
        fun hproxying lock => ?_
      rw [hproxying.mem_proxied h (mapKey uid name)]
      dsimp only
      rw [hat]
      simp only [hres, Bool.false_eq_true, false_and, false_or]
  · rw [handleProcessStatusChanged_of_not_proxied q hproxied]
    exact h

/-- The proxy of a process that has died is lifted with its entry. -/
theorem Synced.processDied (h : Synced s) {uid pid : Int} {name : String}
    (hok : s.isProxied = true → mapKey uid name ∈ s.record.proxiedAppInfo →
      ∀ key info, s.record.proxiedAppInfo.lookup key = some info →
        (pid, uid) ∈ info.proxiedAppList → key = mapKey uid name) :
    Synced (handleProcessStatusChanged q uid pid name false s) := by
  by_cases happ : s.isProxied = true → s.record.proxiedAppInfo.lookup (mapKey uid name) = none
  · rw [processDied_of_none q happ]
    exact h
  obtain ⟨hproxied, hsome⟩ := Classical.not_imp.1 happ
  obtain ⟨info, hinfo⟩ := Option.ne_none_iff_exists'.1 hsome
  obtain ⟨record, proxied, hframe, hwithout, hmem⟩ := processDied_frame q hproxied hinfo
  have huid : info.uid = uid := h.keyed.uid hinfo
  have hat : ∀ lock, record.At (mapKey uid name) lock ↔
      s.record.At (mapKey uid name) lock ∧ lock ≠ (pid, uid) := fun lock => by
    rw [ProxyRecord.At, hwithout.exists_lock_iff hinfo, huid, imp_iff_right rfl]
    exact Iff.rfl
  -- no other app has the lock
  have helsewhere : ¬ s.record.Elsewhere (mapKey uid name) (pid, uid) := by
    rintro ⟨key, hne, info', hinfo', -, hlock⟩
    exact hne (hok hproxied (AList.lookup_isSome.1 (by rw [hinfo]; rfl)) key info' hinfo' hlock)
  rw [hframe]
  refine h.change (mapKey uid name) ⟨rfl, rfl⟩ (hwithout.keyed hinfo h.keyed)
    (hwithout.apart hinfo h.apart) hwithout.differsAt (fun hnot => ?_) fun hproxying lock => ?_
  · -- in a maintenance window nothing is given up
    ext lock
    have hidle : s.isIdleMaintence = true := by
      by_contra hidle
      exact hnot ⟨hproxied, Bool.eq_false_of_not_eq_true hidle⟩
    exact (hmem lock).trans (and_iff_left fun _ => .inl hidle)
  · rw [hmem, hproxying.2, hproxying.mem_proxied h (mapKey uid name), hat]
    by_cases hlock : lock = (pid, uid)
    · subst hlock
      have hrestricted : s.record.At (mapKey uid name) (pid, uid) → info.restricted = true :=
        fun hat => ((ProxyRecord.at_of_lookup hinfo).1 hat).1
      simp only [helsewhere, or_false, ne_eq, not_true_eq_false, and_false, iff_false, not_and,
        forall_const, Bool.false_eq_true, false_or]
      intro hat hfree
      exact Bool.false_ne_true (hfree.symm.trans (hrestricted hat))
    · simp only [hlock, ne_eq, not_false_eq_true, and_true, false_imp_iff]

/-- A call that avoids the defects keeps what is proxied in step with the record. -/
theorem Synced.handleEvent (h : Synced s) {message : StandbyMessage}
    (hok : SyncsLocks s (.handleEvent q message)) : Synced (handleEvent scfg q message s) := by
  cases message with
  | allowListChanged =>
    unfold RunningLockStrategy.handleEvent updateExemptionList
    dsimp only
    split_ifs with htype hproxied
    · exact h
    · exact h.addExemptionFlag _ _ rfl
    · exact h.removeExemptionFlag rfl (.inl hproxied)
    · exact h
  | resCtrlConditionChanged => exact h.updateResourceConfig hok
  | phaseTransit => exact h.startProxy _ _
  | stateTransit => exact h.stopProxy _ _
  | bgTaskStatusChange type started =>
    unfold RunningLockStrategy.handleEvent updateBgTaskAppStatus
    dsimp only
    split
    · exact h
    · rename_i flag hflag
      cases started with
      | true => exact h.addExemptionFlag _ _ (bgtaskExemptionFlagMap_restricted hflag)
      | false =>
        exact h.removeExemptionFlag (bgtaskExemptionFlagMap_restricted hflag)
          (hok.imp_right fun hok => hok flag hflag)
  | processStateChanged uid pid name isCreated =>
    cases isCreated with
    | true =>
      exact h.processCreated fun hproxied => ⟨(hok hproxied).1 rfl, (hok hproxied).2 (.inl rfl)⟩
    | false => exact h.processDied fun hproxied hmem => (hok hproxied).2 (.inr hmem)
  | sysAbilityStatusChanged => exact h.resetProxyStatus _ _
  | commonEvent | screenOffHalfHour | deviceNetIdlePolicyTransit | other => exact h

/-- `OnCreated` lifts the proxies and notes that there are none. -/
theorem Synced.onCreated (h : Synced s) (hok : SyncsLocks s .onCreated) : Synced s.onCreated :=
  .of_free h.keyed h.apart h.idle hok rfl

/-- In every run whose calls avoid the defects: while the strategy proxies outside a maintenance
window, what the power manager has proxied is the list of the restricted apps, and otherwise it has
proxied nothing. -/
theorem proxied_eq_of_syncsLocks (h : Lts.ReachableUnder (proxySystem scfg) SyncsLocks s) :
    s.proxied = if s.isProxied ∧ ¬ s.isIdleMaintence then s.record.proxiedAppList else ∅ := by
  have hsynced : Synced s := by
    refine h.invariant (I := Synced) (.of_free .empty .empty (by simp [proxySystem])
      (fun _ => rfl) rfl) fun {s t call} _ hok hs hi => ?_
    cases call with
    | handleEvent q message =>
      cases hs
      exact hi.handleEvent hok
    | onCreated =>
      cases hs
      exact hi.onCreated hok
    | onDestroy =>
      cases hs
      exact hi.onDestroy
  ext lock
  rw [hsynced.locks, Proxying]
  split_ifs with hproxying
  · exact and_iff_right ⟨hproxying.1, by simpa using hproxying.2⟩
  · refine iff_of_false ?_ (Finset.notMem_empty lock)
    rintro ⟨⟨hproxied, hidle⟩, -⟩
    exact hproxying ⟨hproxied, by simp [hidle]⟩

/-- A test that suffices for `SyncsLocks`. -/
def syncsLocksTest (s : RunningLockStrategy) : ProxyCall → Bool
  | .handleEvent _ (.resCtrlConditionChanged _) => s.isProxied
  | .handleEvent _ (.bgTaskStatusChange _ false _ _ _) => s.isProxied
  | .handleEvent _ (.processStateChanged uid pid name _) =>
    toUInt32 uid = uid ∧ ∀ entry ∈ s.record.proxiedAppInfo.entries,
      (pid, uid) ∈ entry.2.proxiedAppList → entry.1 = mapKey uid name
  | .onCreated => !s.isProxied
  | _ => true

/-- The test suffices. -/
theorem syncsLocks_of_test (s : RunningLockStrategy) (call : ProxyCall)
    (h : syncsLocksTest s call = true) : SyncsLocks s call := by
  cases call with
  | onDestroy => trivial
  | onCreated =>
    intro hproxying
    simp [syncsLocksTest, hproxying.1] at h
  | handleEvent q message =>
    cases message with
    | resCtrlConditionChanged => exact .inl h
    | bgTaskStatusChange _ started =>
      cases started with
      | true => trivial
      | false => exact .inl h
    | processStateChanged =>
      obtain ⟨huid, hown⟩ := of_decide_eq_true h
      exact fun _ => ⟨fun _ => huid, fun _ key info hinfo hlock =>
        hown _ (Map.lookup_eq_some_iff.1 hinfo) hlock⟩
    | _ => trivial

/-- The restrictions start, a process of another app is created, and a task of the first one starts
and ends. -/
theorem proxied_eq_of_sampleCalls : ∃ s,
    Lts.Reachable (proxySystem sampleStrategies) s ∧
      s.record.proxiedAppList = {(7, 10), (8, 11)} ∧
      s.proxied = if s.isProxied ∧ ¬ s.isIdleMaintence then s.record.proxiedAppList else ∅ := by
  obtain ⟨s, hr, hs⟩ := (proxySystem sampleStrategies).exists_check SyncsLocks syncsLocksTest
    syncsLocks_of_test (fun s => s.record.proxiedAppList = {(7, 10), (8, 11)})
    [.onCreated, .handleEvent sampleQueries (.phaseTransit .sleep 0 1),
      .handleEvent sampleQueries (.bgTaskStatusChange "transient_task" true 10 "app" 0),
      .handleEvent sampleQueries (.processStateChanged 11 8 "other" true),
      .handleEvent sampleQueries (.bgTaskStatusChange "transient_task" false 10 "app" 0)]
    (by decide)
  exact ⟨s, hr.reachable, of_decide_eq_true hs, proxied_eq_of_syncsLocks hr⟩

/-- Not in every run: a condition change before the restrictions start proxies an app. -/
theorem proxied_before_start : ¬ ∀ (scfg : StrategyConfig) (s : RunningLockStrategy),
    Lts.Reachable (proxySystem scfg) s →
      s.proxied = if s.isProxied ∧ ¬ s.isIdleMaintence then s.record.proxiedAppList else ∅ := by
  intro h
  obtain ⟨s, hr, hproxied, hmem⟩ := (proxySystem sampleStrategies).exists_run
    [.handleEvent sampleQueries (.resCtrlConditionChanged .nightStandby)]
    (Lts.System.runMeets_of_forall (fun _ _ => True) fun _ _ _ => trivial)
    (fun s => s.isProxied = false ∧ s.proxied = {(7, 10)}) (by decide)
  have heq := h _ s hr
  rw [hproxied, hmem, if_neg (by simp)] at heq
  exact absurd heq (by decide)

end RunningLockStrategy

end DeviceStandby
