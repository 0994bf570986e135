import DeviceStandby.Lib.BitMask
import DeviceStandby.Strategy.Adapter
import DeviceStandby.Strategy.Rebuild

/-!
# The exemptions of a task manager that died

When the work scheduler or the background task manager dies, the tasks that it managed are gone, and
the strategies should take back the exemptions they gave for them. The network strategy never does:
its dispatch table lacks the message. The running lock strategy does while it proxies outside a
maintenance window, for every app that is recorded under its own key.
-/

namespace DeviceStandby

open ExemptionTypeFlag AssocMap

/-- The flags of the tasks whose managers are watched. -/
abbrev bgTaskFlag : ExemptionFlag := TRANSIENT_TASK ||| WORK_SCHEDULER

/-- No app has a flag of such a task. -/
structure Standby.NoTaskExemption (s : Standby) : Prop where
  network : ∀ uid info, s.network.netLimitedAppInfo.lookup uid = some info →
    info.appExemptionFlag &&& bgTaskFlag = 0
  runningLock : ∀ key info, s.runningLock.record.proxiedAppInfo.lookup key = some info →
    info.appExemptionFlag &&& bgTaskFlag = 0

/-- The app is recorded under its own key. -/
def ProxiedProcInfo.OwnKey (info : ProxiedProcInfo) (key : String) : Prop :=
  key = mapKey info.uid info.name

/-- When the strategies take the exemptions back: the network strategy has none to take, and what
the running lock strategy has it takes, because it proxies and finds the app. -/
structure Standby.TakesBack (s : Standby) : Prop where
  network : ∀ uid info, s.network.netLimitedAppInfo.lookup uid = some info →
    info.appExemptionFlag &&& bgTaskFlag = 0
  runningLock : ∀ key info, s.runningLock.record.proxiedAppInfo.lookup key = some info →
    info.appExemptionFlag &&& bgTaskFlag ≠ 0 →
      .runningLock ∈ s.strategyList ∧ s.runningLock.isProxied = true ∧
        s.runningLock.isIdleMaintence = false ∧ info.OwnKey key

/-! ## Under which keys the flags are -/

/-- An app is under its own key; or it is the default value that the lookup of a created process
leaves; or it was created with a negative uid, and no message finds it to set a flag. -/
def Found (key : String) (info : ProxiedProcInfo) : Prop :=
  info.OwnKey key ∨ (info.uid = -1 ∧ info.name = "") ∨
    (info.appExemptionFlag &&& bgTaskFlag = 0 ∧ ∃ uid name, 2 ^ 31 ≤ uid ∧ key = mapKey uid name)

section
variable {info : ProxiedProcInfo} {key : String} {flag mask : ExemptionFlag}

/-- Taking flags away does not give the flags of background tasks. -/
theorem and_not_and (h : flag &&& bgTaskFlag = 0) : flag &&& ~~~mask &&& bgTaskFlag = 0 := by
  rw [BitVec.and_assoc, BitVec.and_comm (~~~mask), ← BitVec.and_assoc, h]
  exact BitVec.zero_and

/-- Where an app is found does not depend on the flags that it loses. -/
theorem Found.removeFlag (h : Found key info) (flag : ExemptionFlag) :
    Found key (info.removeFlag flag) :=
  h.imp_right fun h => h.imp_right fun h => ⟨and_not_and h.1, h.2⟩

/-- A uid of a message that is not negative is the uid of a key. -/
theorem Found.addFlag {uid : Int} {name : String} (h : Found (mapKey uid name) info)
    (huid : IsInt32 uid) (flag : ExemptionFlag) : Found (mapKey uid name) (info.addFlag flag) := by
  rcases h with h | h | ⟨-, uid', name', hlarge, hkey⟩
  · exact .inl h
  · exact .inr (.inl h)
  · have heq := (mapKey_inj hkey).1
    unfold IsInt32 at huid
    omega

end

namespace ProxyRecord
variable {q : Queries} {r : ProxyRecord}

/-- A record that is built anew has every app under its own key. -/
theorem found_initProxiedAppInfo (h : initProxiedAppInfo q = some r) :
    r.proxiedAppInfo.All Found := by
  intro key info hlookup
  rw [lookup_initProxiedAppInfo h] at hlookup
  obtain ⟨app, happ, rfl⟩ := Option.map_eq_some_iff.1 hlookup
  have hfind := (Option.filter_eq_some_iff.1 happ).1
  have hkey : keyOf app = key := by simpa using List.find?_some hfind
  exact .inl hkey.symm

/-- No task exempts an app from the start. -/
theorem createdApp_bgTaskFlag (uid pid : Int) (name : String) :
    (createdApp q uid pid name).appExemptionFlag &&& bgTaskFlag = 0 := by
  unfold createdApp networkFlag flagIf
  dsimp only
  split_ifs <;> decide

/-- A created process puts its app under the key of its uid as `uint32_t`, which is another key than
its own when the uid is negative; but there it has no flag of a background task. -/
theorem found_getAndCreateAppInfo (h : r.proxiedAppInfo.All Found) {uid : Int} (huid : IsInt32 uid)
    (pid : Int) (name : String) :
    (r.getAndCreateAppInfo q uid pid name).proxiedAppInfo.All Found := by
  intro key info hlookup
  rw [lookup_getAndCreateAppInfo] at hlookup
  split_ifs at hlookup with hk
  · subst hk
    cases happ : r.proxiedAppInfo.lookup (mapKey (toUInt32 uid) name) with
    | some app =>
      rw [happ] at hlookup
      cases hlookup
      exact h _ app happ
    | none =>
      rw [happ] at hlookup
      cases hlookup
      rcases lt_or_ge uid 0 with hneg | hpos
      · exact .inr (.inr ⟨createdApp_bgTaskFlag uid pid name, _, _, toUInt32_of_neg huid hneg, rfl⟩)
      · rw [toUInt32_of_nonneg huid hpos]
        exact .inl rfl
  · exact h key info hlookup

end ProxyRecord

namespace RunningLockStrategy
variable {scfg : StrategyConfig} {q : Queries} {s : RunningLockStrategy}

/-- Every app of the record is found. -/
def AllFound (s : RunningLockStrategy) : Prop :=
  s.record.proxiedAppInfo.All Found

/-- A message sets a flag of the app under the key of its uid, which is not the key of a negative
one. -/
theorem AllFound.addExemptionFlag (h : AllFound s) {uid : Int} (huid : IsInt32 uid) (name : String)
    (flag : ExemptionFlag) : AllFound (s.addExemptionFlag uid name flag) := by
  have hmod : AllFound (s.modifyApp (mapKey uid name) (·.addFlag flag)) :=
    Map.All.modify h fun _ hk => hk.addFlag huid flag
  unfold RunningLockStrategy.addExemptionFlag
  split
  · exact h
  split
  · exact h
  · dsimp only
    split_ifs
    · rwa [AllFound, proxyRunningLockList_record]
    · exact hmod

/-- Taking a flag leaves the apps where they are. -/
theorem AllFound.removeExemptionFlag (h : AllFound s) (uid : Int) (name : String)
    (flag : ExemptionFlag) : AllFound (s.removeExemptionFlag uid name flag) := by
  have hmod : AllFound (s.modifyApp (mapKey uid name) (·.removeFlag flag)) :=
    Map.All.modify h fun _ hk => hk.removeFlag flag
  unfold RunningLockStrategy.removeExemptionFlag
  split
  · exact h
  · dsimp only
    split_ifs
    · exact hmod
    · rwa [AllFound, proxyRunningLockList_record]

/-- The body of the loop leaves the apps where they are. -/
theorem AllFound.resetBgTaskFlag (h : AllFound s) (key : String) :
    AllFound (s.resetBgTaskFlag key) := by
  unfold RunningLockStrategy.resetBgTaskFlag
  dsimp only
  split
  · exact h
  · split_ifs
    · exact h
    · exact h.removeExemptionFlag _ _ _

/-- So does the loop. -/
theorem AllFound.resetProxyStatus (h : AllFound s) (isAdded : Bool) (saId : Int) :
    AllFound (resetProxyStatus scfg isAdded saId s) :=
  resetProxyStatus_keeps (fun _ hu _ uid name flag _ => hu.removeExemptionFlag uid name flag) h _ _

/-- `StartProxyInner` clears the record and builds it anew. -/
theorem allFound_startProxyInner : AllFound (startProxyInner q s).2 := by
  unfold startProxyInner
  dsimp only
  split
  · exact Map.All.empty
  · rename_i hinit
    rw [AllFound, proxyAppAndProcess, proxyRunningLockList_record]
    exact ProxyRecord.found_initProxiedAppInfo hinit

/-- A phase of SLEEP leaves the record, or has it built anew. -/
theorem AllFound.startProxy (h : AllFound s) (curState : StandbyState) (curPhase : Nat) :
    AllFound (startProxy q curState curPhase s) := by
  have hinner : AllFound (startProxyInner q s).2 := allFound_startProxyInner
  unfold RunningLockStrategy.startProxy
  split_ifs
  · exact h
  · exact h
  · split <;> rename_i heq <;> rw [heq] at hinner <;> exact hinner

/-- A transition leaves the record, or clears it. -/
theorem AllFound.stopProxy (h : AllFound s) (preState curState : StandbyState) :
    AllFound (s.stopProxy preState curState) := by
  unfold RunningLockStrategy.stopProxy
  split
  · exact h
  · split_ifs
    · unfold AllFound proxyAppAndProcess
      dsimp only
      rwa [proxyRunningLockList_record]
    · rwa [AllFound, proxyAppAndProcess, proxyRunningLockList_record]
    · exact Map.All.empty
    · exact h

/-- A created process adds its app, and the default value that the lookup leaves; a process that
dies may take its app away. -/
theorem AllFound.handleProcessStatusChanged (h : AllFound s) {uid : Int} (huid : IsInt32 uid)
    (pid : Int) (name : String) (isCreated : Bool) :
    AllFound (handleProcessStatusChanged q uid pid name isCreated s) := by
  unfold RunningLockStrategy.handleProcessStatusChanged
  dsimp only
  split
  · exact h
  split
  · have hnew : Map.All Found ((s.record.getAndCreateAppInfo q uid pid name).proxiedAppInfo.emplace
        (mapKey uid name) {}) :=
      (ProxyRecord.found_getAndCreateAppInfo h huid pid name).emplace (.inr (.inl ⟨rfl, rfl⟩))
    split
    · exact hnew
    · split_ifs
      · rwa [AllFound, proxyRunningLockList_record]
      · exact hnew
  · split
    · exact h
    · rename_i info _
      generalize hlift : (if info.restricted = true then s.proxyRunningLockList false {(pid, uid)}
        else s) = u
      have hu : AllFound u := by
        rw [← hlift]
        split_ifs
        · rwa [AllFound, proxyRunningLockList_record]
        · exact h
      split_ifs
      · exact Map.All.erase hu _
      · exact Map.All.modify hu fun _ hk => hk

/-- No message puts an app where it is not found. -/
theorem AllFound.handleEvent (h : AllFound s) {message : StandbyMessage} (hok : message.WellTyped) :
    AllFound (handleEvent scfg q message s) := by
  cases message with
  | allowListChanged =>
    unfold RunningLockStrategy.handleEvent updateExemptionList
    dsimp only
    split_ifs
    · exact h
    · exact h.addExemptionFlag hok _ _
    · exact h.removeExemptionFlag _ _ _
    · exact h
  | resCtrlConditionChanged => exact allFound_startProxyInner
  | phaseTransit => exact h.startProxy _ _
  | stateTransit => exact h.stopProxy _ _
  | bgTaskStatusChange =>
    unfold RunningLockStrategy.handleEvent updateBgTaskAppStatus
    dsimp only
    split
    · exact h
    · split
      · exact h.addExemptionFlag hok _ _
      · exact h.removeExemptionFlag _ _ _
  | processStateChanged => exact h.handleProcessStatusChanged hok _ _ _
  | sysAbilityStatusChanged => exact h.resetProxyStatus _ _
  | commonEvent | screenOffHalfHour | deviceNetIdlePolicyTransit | other => exact h

/-- The strategy keeps its record when it is destroyed. -/
theorem AllFound.onDestroy (h : AllFound s) : AllFound s.onDestroy := by
  unfold RunningLockStrategy.onDestroy
  dsimp only
  split_ifs
  · rwa [AllFound, proxyAppAndProcess, proxyRunningLockList_record]
  · exact h

/-! ## What the loop takes -/

/-- Flags may be taken, and nothing else changes in the record. -/
def Lowers (s t : RunningLockStrategy) : Prop :=
  ∀ key, ∃ mask, t.record.proxiedAppInfo.lookup key =
    (s.record.proxiedAppInfo.lookup key).map (·.removeFlag mask)

/-- No flag need be taken. -/
theorem Lowers.refl (s : RunningLockStrategy) : Lowers s s := by
  refine fun key => ⟨0, ?_⟩
  have hid : (fun info : ProxiedProcInfo => info.removeFlag 0) = id := by
    funext info
    exact congrArg (fun flag => { info with appExemptionFlag := flag }) BitVec.and_allOnes
  rw [hid, Option.map_id_fun, id]

/-- Flags are taken one after the other. -/
theorem Lowers.trans {t u : RunningLockStrategy} (h : Lowers s t) (h' : Lowers t u) :
    Lowers s u := by
  intro key
  obtain ⟨mask, hmask⟩ := h key
  obtain ⟨mask', hmask'⟩ := h' key
  refine ⟨mask ||| mask', ?_⟩
  rw [hmask', hmask, Option.map_map]
  refine congrArg (Option.map · _) (funext fun info => ?_)
  simp only [Function.comp_apply, ProxiedProcInfo.removeFlag, BitVec.and_assoc, BitVec.not_or]

/-- Taking a flag of one app leaves the others alone. -/
theorem removeExemptionFlag_lookup_ne {uid : Int} {name key : String} (flag : ExemptionFlag)
    (hne : key ≠ mapKey uid name) :
    (s.removeExemptionFlag uid name flag).record.proxiedAppInfo.lookup key =
      s.record.proxiedAppInfo.lookup key := by
  have hmod : (s.modifyApp (mapKey uid name) (·.removeFlag flag)).record.proxiedAppInfo.lookup key =
      s.record.proxiedAppInfo.lookup key := by
    simp only [RunningLockStrategy.modifyApp, Map.lookup_modify, if_neg hne]
  unfold RunningLockStrategy.removeExemptionFlag
  split
  · rfl
  · dsimp only
    split_ifs
    · exact hmod
    · rwa [proxyRunningLockList_record]

/-- The body of the loop only takes flags. It takes those of the app under the key that the looked
up app would have, which need not be the key that was looked up. -/
theorem lowers_resetBgTaskFlag (key : String) : Lowers s (s.resetBgTaskFlag key) := by
  unfold RunningLockStrategy.resetBgTaskFlag
  dsimp only
  split
  · exact .refl s
  · rename_i value _
    split_ifs
    · exact .refl s
    · intro key'
      by_cases hk : key' = mapKey value.uid value.name
      · subst hk
        exact ⟨_, removeExemptionFlag_lookup _ _ _⟩
      · rw [removeExemptionFlag_lookup_ne _ hk]
        exact Lowers.refl s key'

/-- The loop only takes flags. -/
theorem lowers_foldl (keys : List String) : Lowers s (keys.foldl resetBgTaskFlag s) :=
  List.foldlRecOn (motive := Lowers s) keys _ (.refl s) fun _ hu key _ =>
    hu.trans (lowers_resetBgTaskFlag key)

/-- An app without the flags does not get them back. -/
theorem Lowers.bgTaskFlag_eq_zero {t : RunningLockStrategy} {key : String} {info : ProxiedProcInfo}
    (h : Lowers s t) (hlookup : t.record.proxiedAppInfo.lookup key = some info)
    (hzero : ∀ info, s.record.proxiedAppInfo.lookup key = some info →
      info.appExemptionFlag &&& bgTaskFlag = 0) :
    info.appExemptionFlag &&& bgTaskFlag = 0 := by
  obtain ⟨mask, hmask⟩ := h key
  rw [hmask] at hlookup
  obtain ⟨info', hinfo', rfl⟩ := Option.map_eq_some_iff.1 hlookup
  exact and_not_and (hzero info' hinfo')

/-- The loop takes the flags of an app that it meets under its own key. -/
theorem foldl_resetBgTaskFlag_own {keys : List String} {key : String} (hkey : key ∈ keys)
    (hown : ∀ info, s.record.proxiedAppInfo.lookup key = some info → info.OwnKey key)
    {info : ProxiedProcInfo}
    (hlookup : (keys.foldl resetBgTaskFlag s).record.proxiedAppInfo.lookup key = some info) :
    info.appExemptionFlag &&& bgTaskFlag = 0 := by
  induction keys generalizing s with
  | nil => cases hkey
  | cons key' keys ih =>
    rw [List.foldl_cons] at hlookup
    by_cases hmem : key ∈ keys
    · -- the app is met again, still under its own key
      refine ih hmem (fun info' hinfo' => ?_) hlookup
      obtain ⟨mask, hmask⟩ := lowers_resetBgTaskFlag (s := s) key' key
      rw [hmask] at hinfo'
      obtain ⟨info'', hinfo'', rfl⟩ := Option.map_eq_some_iff.1 hinfo'
      exact hown info'' hinfo''
    · obtain rfl : key = key' := (List.mem_cons.1 hkey).resolve_right hmem
      refine (lowers_foldl keys).bgTaskFlag_eq_zero hlookup fun info' hinfo' => ?_
      unfold RunningLockStrategy.resetBgTaskFlag at hinfo'
      dsimp only at hinfo'
      split at hinfo'
      · rename_i hnone
        rw [hnone] at hinfo'
        cases hinfo'
      · rename_i value hvalue
        have hvalueKey := hown value hvalue
        split_ifs at hinfo' with hzero
        · rw [hvalue] at hinfo'
          cases hinfo'
          exact hzero
        · unfold ProxiedProcInfo.OwnKey at hvalueKey
          rw [hvalueKey, removeExemptionFlag_lookup, ← hvalueKey, hvalue] at hinfo'
          cases hinfo'
          exact BitMask.and_not_and_self

/-- The loop does not change an app under another key. -/
theorem resetBgTaskFlag_lookup_of_not_own (h : AllFound s) {key : String} {info : ProxiedProcInfo}
    (hlookup : s.record.proxiedAppInfo.lookup key = some info) (hown : ¬ info.OwnKey key)
    (key' : String) :
    (s.resetBgTaskFlag key').record.proxiedAppInfo.lookup key = some info := by
  unfold RunningLockStrategy.resetBgTaskFlag
  dsimp only
  split
  · exact hlookup
  · rename_i value hvalue
    split_ifs with hzero
    · exact hlookup
    · rw [removeExemptionFlag_lookup_ne _ fun heq => ?_]
      · exact hlookup
      -- the key that the loop looks up is a key under which only its own app can be
      · rcases h key' value hvalue with hvalueKey | ⟨huid, hname⟩ | ⟨hzero', -⟩
        · have hkeys : key = key' := heq.trans hvalueKey.symm
          subst hkeys
          obtain rfl : value = info := Option.some.inj (hvalue.symm.trans hlookup)
          exact hown hvalueKey
        · rw [huid, hname] at heq
          rcases h key info hlookup with hk | ⟨huid', hname'⟩ | ⟨-, uid, name, hlarge, hk⟩
          · exact hown hk
          · exact hown (by rw [ProxiedProcInfo.OwnKey, huid', hname', heq])
          · have := (mapKey_inj (hk.symm.trans heq)).1
            omega
        · exact hzero hzero'

/-- The message of a dead manager takes the flags exactly of the apps under their own keys, while
the strategy proxies outside a maintenance window. -/
theorem resetProxyStatus_spec (h : AllFound s) {saId : Int}
    (hsa : saId = scfg.workScheduleServiceId ∨ saId = scfg.backgroundTaskManagerServiceId) :
    Lowers s (resetProxyStatus scfg false saId s) ∧
    (∀ key info, s.record.proxiedAppInfo.lookup key = some info →
      ¬ (s.isProxied = true ∧ s.isIdleMaintence = false ∧ info.OwnKey key) →
        (resetProxyStatus scfg false saId s).record.proxiedAppInfo.lookup key = some info) ∧
    ∀ key info, s.record.proxiedAppInfo.lookup key = some info →
      s.isProxied = true ∧ s.isIdleMaintence = false ∧ info.OwnKey key →
        ∀ info', (resetProxyStatus scfg false saId s).record.proxiedAppInfo.lookup key =
          some info' → info'.appExemptionFlag &&& bgTaskFlag = 0 := by
  have hsaId : ¬ (saId ≠ scfg.workScheduleServiceId ∧
      saId ≠ scfg.backgroundTaskManagerServiceId) := by
    rintro ⟨h1, h2⟩
    exact hsa.elim h1 h2
  unfold RunningLockStrategy.resetProxyStatus
  by_cases hactive : ¬ s.isProxied = true ∨ s.isIdleMaintence = true
  · rw [if_pos hactive]
    refine ⟨.refl s, fun _ _ hlookup _ => hlookup, ?_⟩
    rintro key info - ⟨hproxied, hidle, -⟩
    rw [hidle] at hactive
    exact absurd hproxied (hactive.resolve_right Bool.false_ne_true)
  · rw [if_neg hactive, if_neg Bool.false_ne_true, if_neg hsaId]
    obtain ⟨hproxied, hidle⟩ := not_or.1 hactive
    refine ⟨lowers_foldl _, fun key info hlookup hnot => ?_, fun key info hlookup hown => ?_⟩
    · have hown : ¬ info.OwnKey key := fun hown =>
        hnot ⟨by simpa using hproxied, by simpa using hidle, hown⟩
      have hloop := List.foldlRecOn (motive := fun u => AllFound u ∧
        u.record.proxiedAppInfo.lookup key = some info) s.record.proxiedAppInfo.keys _
        ⟨h, hlookup⟩ fun u hu key' _ => ⟨hu.1.resetBgTaskFlag key',
          resetBgTaskFlag_lookup_of_not_own hu.1 hu.2 hown key'⟩
      exact hloop.2
    · intro info' hinfo'
      have hmem : key ∈ s.record.proxiedAppInfo.keys := AList.lookup_isSome.1 (by rw [hlookup]; rfl)
      refine foldl_resetBgTaskFlag_own hmem (fun info'' hinfo'' => ?_) hinfo'
      obtain rfl : info'' = info := Option.some.inj (hinfo''.symm.trans hlookup)
      exact hown.2.2

/-- The strategy does this as often as it is registered, which changes nothing more. -/
theorem iterate_resetProxyStatus (h : AllFound s) {saId : Int}
    (hsa : saId = scfg.workScheduleServiceId ∨ saId = scfg.backgroundTaskManagerServiceId)
    (n : Nat) :
    let t := (resetProxyStatus scfg false saId)^[n] s
    t.AllFound ∧ Lowers s t ∧ SameMode s t ∧
      ∀ key info, s.record.proxiedAppInfo.lookup key = some info →
        ¬ (s.isProxied = true ∧ s.isIdleMaintence = false ∧ info.OwnKey key) →
          t.record.proxiedAppInfo.lookup key = some info := by
  induction n with
  | zero => exact ⟨h, .refl _, ⟨rfl, rfl⟩, fun _ _ hlookup _ => hlookup⟩
  | succ n ih =>
    obtain ⟨hfound, hlowers, hmode, hkeep⟩ := ih
    dsimp only
    rw [Function.iterate_succ_apply']
    obtain ⟨hlowers', hkeep', -⟩ := resetProxyStatus_spec hfound hsa
    have hmode' := sameMode_handleEvent scfg sampleQueries
      ((resetProxyStatus scfg false saId)^[n] s) (.sysAbilityStatusChanged false saId) (by simp)
      (by simp)
    refine ⟨hfound.resetProxyStatus false saId, hlowers.trans hlowers',
      ⟨hmode'.1.trans hmode.1, hmode'.2.trans hmode.2⟩, fun key info hlookup hnot => ?_⟩
    refine hkeep' key info (hkeep key info hlookup hnot) ?_
    rw [hmode.1, hmode.2]
    exact hnot

end RunningLockStrategy

/-! ## The delivery to the strategies -/

/-- The message that a turn hands to the strategies carries a uid of its type. -/
def HandlesTyped (s : Standby) (turn : Turn) : Prop :=
  ∀ p message queue, turn.action = .dispatch p → s.service.handler.queue = message :: queue →
    message.WellTyped

section
variable {cfg : StandbyConfig} {scfg : StrategyConfig} {s t : Standby} {turn : Turn}

/-- A step of the service delivers a message to each registered instance of the strategy, or
registers or destroys them. -/
theorem allFound_step (h : s.runningLock.AllFound)
    (hs : (standbySystem cfg scfg).step s turn = some t) (hok : HandlesTyped s turn) :
    t.runningLock.AllFound := by
  obtain ⟨hact, -⟩ := Option.filter_eq_some_iff.1 hs
  rcases s.act_cases hact with ⟨p, message, queue, service, ha, hqueue, -, rfl⟩ |
    ⟨service, -, -, rfl⟩
  · unfold StrategyManagerAdapter.handleEvent
    rw [Standby.forEach_eq]
    exact Function.Iterate.rec RunningLockStrategy.AllFound h
      (fun _ hr => hr.handleEvent (hok p message queue ha hqueue)) _
  · show RunningLockStrategy.AllFound (s.prepare scfg turn.action).runningLock
    rcases s.prepare_cases turn.action with heq | heq | heq <;> rw [heq]
    · exact h
    · unfold StrategyManagerAdapter.init Standby.flush
      dsimp only
      rw [Standby.forEach_eq]
      exact Function.Iterate.rec RunningLockStrategy.AllFound h
        (fun r (hr : r.AllFound) => show r.onCreated.AllFound from hr) _
    · unfold StrategyManagerAdapter.unInit Standby.flush
      dsimp only
      rw [Standby.forEach_eq]
      exact Function.Iterate.rec RunningLockStrategy.AllFound h (fun _ hr => hr.onDestroy) _

/-- After the death of a manager was delivered to the strategies, no app has a flag of its tasks
exactly when the strategies take the flags back: in every reachable state. -/
theorem noTaskExemption_iff_takesBack (queries : Strategy → Queries) {saId : Int}
    (h : Lts.ReachableUnder (standbySystem cfg scfg) HandlesTyped s)
    (hsa : saId = scfg.workScheduleServiceId ∨ saId = scfg.backgroundTaskManagerServiceId) :
    (StrategyManagerAdapter.handleEvent scfg queries (.sysAbilityStatusChanged false saId)
      s).NoTaskExemption ↔ s.TakesBack := by
  have hfound : s.runningLock.AllFound := h.invariant (I := fun s => s.runningLock.AllFound)
    Map.All.empty fun _ hok hs hi => allFound_step hi hs hok
  have hnetwork : ∀ n, (NetworkStrategy.handleEvent scfg (queries .network)
      (.sysAbilityStatusChanged false saId))^[n] s.network = s.network := fun n =>
    Function.iterate_fixed rfl n
  have hdelivered : StrategyManagerAdapter.handleEvent scfg queries
      (.sysAbilityStatusChanged false saId) s =
        { s with runningLock := (RunningLockStrategy.resetProxyStatus scfg false
            saId)^[s.strategyList.count .runningLock] s.runningLock } := by
    unfold StrategyManagerAdapter.handleEvent
    rw [Standby.forEach_eq, hnetwork]
    rfl
  rw [hdelivered]
  obtain ⟨n, hn⟩ : ∃ n, s.strategyList.count .runningLock = n := ⟨_, rfl⟩
  rw [hn]
  constructor
  · intro hnone
    refine ⟨hnone.network, fun key info hlookup hflag => ?_⟩
    obtain ⟨-, -, -, hkeep⟩ := RunningLockStrategy.iterate_resetProxyStatus hfound hsa n
    have hactive : s.runningLock.isProxied = true ∧ s.runningLock.isIdleMaintence = false ∧
        info.OwnKey key := by
      by_contra hnot
      exact hflag (hnone.runningLock key info (hkeep key info hlookup hnot))
    refine ⟨?_, hactive⟩
    by_contra hmem
    rw [List.count_eq_zero.2 hmem] at hn
    subst hn
    exact hflag (hnone.runningLock key info hlookup)
  · intro htakes
    refine ⟨htakes.network, fun key info hlookup => ?_⟩
    by_cases hbefore : ∀ info, s.runningLock.record.proxiedAppInfo.lookup key = some info →
        info.appExemptionFlag &&& bgTaskFlag = 0
    · obtain ⟨-, hlowers, -⟩ := RunningLockStrategy.iterate_resetProxyStatus hfound hsa n
      exact hlowers.bgTaskFlag_eq_zero hlookup hbefore
    · -- the first time the strategy takes the flags, and they do not come back
      push Not at hbefore
      obtain ⟨info', hinfo', hflag⟩ := hbefore
      obtain ⟨hmem, hactive⟩ := htakes.runningLock key info' hinfo' hflag
      obtain ⟨m, rfl⟩ : ∃ m, n = m + 1 :=
        Nat.exists_eq_succ_of_ne_zero (by rw [← hn]; exact (List.count_pos_iff.2 hmem).ne')
      obtain ⟨-, -, htaken⟩ := RunningLockStrategy.resetProxyStatus_spec hfound hsa
      obtain ⟨-, hlowers, -⟩ := RunningLockStrategy.iterate_resetProxyStatus
        (hfound.resetProxyStatus false saId) hsa m
      rw [Function.iterate_succ_apply] at hlookup
      exact hlowers.bgTaskFlag_eq_zero hlookup (htaken key info' hinfo' hactive)

/-- Only the running lock strategy is configured. -/
def lockStrategies : StrategyConfig :=
  { sampleStrategies with strategyConfigList := ["RUNNING_LOCK"] }

/-- A test that suffices for `TakesBack`. -/
def takesBackTest (s : Standby) : Bool :=
  s.network.netLimitedAppInfo.entries = [] ∧ .runningLock ∈ s.strategyList ∧
    s.runningLock.isProxied = true ∧ s.runningLock.isIdleMaintence = false ∧
      ∀ entry ∈ s.runningLock.record.proxiedAppInfo.entries,
        entry.1 = mapKey entry.2.uid entry.2.name

/-- The test reads the entries of the records, and so suffices. -/
theorem takesBack_of_test (h : takesBackTest s = true) : s.TakesBack := by
  obtain ⟨hnetwork, hmem, hproxied, hidle, hown⟩ := of_decide_eq_true h
  refine ⟨fun uid info hlookup => ?_, fun key info hlookup _ => ?_⟩
  · rw [Map.lookup_eq_some_iff, hnetwork] at hlookup
    cases hlookup
  · exact ⟨hmem, hproxied, hidle, hown _ (Map.lookup_eq_some_iff.1 hlookup)⟩

/-- A test that suffices for `HandlesTyped`. -/
def typedTest (s : Standby) (turn : Turn) : Bool :=
  match turn.action, s.service.handler.queue with
  | .dispatch _, .allowListChanged .. :: _ | .dispatch _, .processStateChanged .. :: _ => false
  | .dispatch _, .bgTaskStatusChange _ _ uid _ _ :: _ => -2 ^ 31 ≤ uid ∧ uid < 2 ^ 31
  | _, _ => true

/-- The test reads the head of the queue, and so suffices. -/
theorem handlesTyped_of_test (s : Standby) (turn : Turn) (h : typedTest s turn = true) :
    HandlesTyped s turn := by
  intro p message queue ha hqueue
  unfold typedTest at h
  rw [ha, hqueue] at h
  cases message with
  | bgTaskStatusChange =>
    have huid := of_decide_eq_true h
    exact huid
  | allowListChanged | processStateChanged => cases h
  | _ => trivial

/-- The running lock strategy takes back the exemption of a transient task. -/
theorem noTaskExemption_of_lockStrategies : ∃ s,
    Lts.Reachable (standbySystem sampleConfig lockStrategies) s ∧
    s.runningLock.record.proxiedAppInfo.lookup "10_app" = some ⟨"app", 10, {7}, TRANSIENT_TASK⟩ ∧
    (StrategyManagerAdapter.handleEvent lockStrategies (fun _ => sampleQueries)
      (.sysAbilityStatusChanged false 1903) s).NoTaskExemption := by
  obtain ⟨s, hr, hs⟩ := (standbySystem sampleConfig lockStrategies).exists_check HandlesTyped
    typedTest handlesTyped_of_test
    (fun s => takesBackTest s ∧
      s.runningLock.record.proxiedAppInfo.lookup "10_app" = some ⟨"app", 10, {7}, TRANSIENT_TASK⟩)
    (sampleTurns (.initReadyState samplePlatform :: handling .enterForceSleep samplePlatform ++
      [.runTask (.transitToSleepPhase true) samplePlatform] ++ dispatching 2 ++
      [.post (.bgTaskStatusChange "transient_task" true 10 "app" 0)] ++ dispatching 1))
    (by decide)
  obtain ⟨htest, hlookup⟩ := of_decide_eq_true hs
  exact ⟨s, hr.reachable, hlookup,
    (noTaskExemption_iff_takesBack (fun _ => sampleQueries) hr (.inr rfl)).2
      (takesBack_of_test htest)⟩

/-- Not in every state: the network strategy keeps the exemption of an app whose transient task was
reported in SLEEP. -/
theorem not_always_noTaskExemption : ¬ ∀ (cfg : StandbyConfig) (scfg : StrategyConfig)
    (s : Standby) (queries : Strategy → Queries) (saId : Int),
    Lts.Reachable (standbySystem cfg scfg) s →
      s.service.curState = .sleep → s.network.isFirewallEnabled = true →
        s.runningLock.isProxied = true →
          saId = scfg.workScheduleServiceId ∨ saId = scfg.backgroundTaskManagerServiceId →
            (StrategyManagerAdapter.handleEvent scfg queries (.sysAbilityStatusChanged false saId)
              s).NoTaskExemption := by
  intro h
  obtain ⟨s, hr, hcur, hfirewall, hproxied, hflag⟩ :=
    (standbySystem sampleConfig sampleStrategies).exists_run
    (sampleTurns (.initReadyState samplePlatform :: handling .enterForceSleep samplePlatform ++
      [.runTask (.transitToSleepPhase true) samplePlatform] ++ dispatching 3 ++
      [.post (.bgTaskStatusChange "transient_task" true 10 "app" 0)] ++ dispatching 1))
    (Lts.System.runMeets_of_forall (fun _ _ => True) fun _ _ _ => trivial)
    (fun s => s.service.curState = .sleep ∧ s.network.isFirewallEnabled = true ∧
      s.runningLock.isProxied = true ∧
      (StrategyManagerAdapter.handleEvent sampleStrategies (fun _ => sampleQueries)
        (.sysAbilityStatusChanged false 1903) s).network.netLimitedAppInfo.lookup 10 =
          some ⟨"app", TRANSIENT_TASK⟩) (by decide)
  have hnone := (h _ _ s (fun _ => sampleQueries) 1903 hr hcur hfirewall hproxied
    (.inr rfl)).network 10 _ hflag
  exact absurd hnone (by decide)

end

end DeviceStandby
