import DeviceStandby.Strategy.NetworkDecisions
import DeviceStandby.Strategy.Proxied

/-!
# Decisions that follow the messages

The running lock strategy beside the network strategy: in every run that avoids what its own
`KeepsDecisions` names, its record has the installed apps that run, with their processes, and with
flags that agree with those of a record built anew. For both strategies the decisions held are then
those that a record built anew would hold (`decisions_eq_rebuilt`).
-/

namespace DeviceStandby

open ExemptionTypeFlag AssocMap

namespace RunningLockStrategy
variable {scfg : StrategyConfig} {w : World} {s : RunningLockStrategy} {e e' : External}
  {uid : Int}

/-- The key of the app of a uid. -/
abbrev keyAt (w : World) (uid : Int) : String :=
  mapKey uid (w.bundleOf uid)

/-- The flags held for an app agree with what the external state gives it. -/
def AgreesAt (w : World) (e : External) (uid : Int) (held : ExemptionFlag) : Prop :=
  Agrees (w.bundleOf uid ∈ w.allowNames e .runningLock) (w.bundleOf uid ∈ w.restricted .runningLock)
    False (w.reported True e uid) held

/-- The app of a uid is recorded as it runs. -/
def Tracks (w : World) (r : ProxyRecord) (e : External) (uid : Int) : Prop :=
  if e.Runs uid then ∃ info, r.proxiedAppInfo.lookup (keyAt w uid) = some info ∧
    info.uid = uid ∧ info.pids = World.pidsOf e uid ∧ AgreesAt w e uid info.appExemptionFlag
  else r.proxiedAppInfo.lookup (keyAt w uid) = none

/-- The strategy proxies, and its record has the installed apps that run, with flags that agree. -/
structure Settled (w : World) (s : RunningLockStrategy × External) : Prop where
  proxied : s.1.isProxied = true
  keys : ∀ key info, s.1.record.proxiedAppInfo.lookup key = some info →
    ∃ uid ∈ w.installed, key = keyAt w uid
  tracks : ∀ uid ∈ w.installed, Tracks w s.1.record s.2 uid

/-- What a rebuild makes of an app agrees with the external state. -/
theorem agreesAt_lockApp : AgreesAt w e uid (w.lockApp e uid).appExemptionFlag :=
  @agrees_configured (w.bundleOf uid ∈ w.allowNames e .runningLock)
    (w.bundleOf uid ∈ w.restricted .runningLock) False (w.reported True e uid) _ _ _

/-- The decisions held are those of a record built anew. -/
theorem Settled.decides {s : RunningLockStrategy × External} (h : Settled w s) {key : String}
    {info : ProxiedProcInfo} (hinfo : s.1.record.proxiedAppInfo.lookup key = some info) :
    info.restricted = true ↔
      ∃ app, (w.lockApps s.2).proxiedAppInfo.lookup key = some app ∧ app.restricted = true := by
  obtain ⟨uid, hinstalled, rfl⟩ := h.keys key info hinfo
  have htracks := h.tracks uid hinstalled
  unfold Tracks at htracks
  split_ifs at htracks with hruns
  · obtain ⟨info', hinfo', -, -, hheld⟩ := htracks
    obtain rfl := Option.some.inj (hinfo.symm.trans hinfo')
    rw [World.lookup_lockApps, if_pos ⟨hinstalled, hruns⟩]
    simp only [Option.some.injEq, exists_eq_left', ProxiedProcInfo.restricted,
      (hheld.decides w.condition agreesAt_lockApp).1]
  · rw [htracks] at hinfo
    cases hinfo

/-- What a message must avoid. -/
def KeepsDecisions (w : World) (s : RunningLockStrategy × External) (message : StandbyMessage) :
    Prop :=
  match message with
  | .allowListChanged uid name allowType added =>
    allowType &&& AllowType.runningLock.mask ≠ 0 →
      /- No other app that runs has the bundle, when it is allowed now or not any more. -/
      ((name ∈ w.allowNames (s.2.update message) .runningLock ↔
          name ∈ w.allowNames s.2 .runningLock) ∨
        ∀ uid', s.2.Runs uid' → w.bundleOf uid' = name → uid' = uid) ∧
      /- An app whose allowance ends is not allowed otherwise, and restricted if it is listed. -/
      (added = false → ∀ info, s.1.record.proxiedAppInfo.lookup (mapKey uid name) = some info →
        name ∉ w.allowNames (s.2.update message) .runningLock ∧
        (name ∈ w.restricted .runningLock → info.appExemptionFlag &&& RESTRICTED ≠ 0))
  /- An app that stops a task has no other of the type. -/
  | .bgTaskStatusChange type false uid _ _ =>
    ∀ flag, bgtaskExemptionFlagMap type = some flag → s.2.Runs uid →
      w.reported True (s.2.update message) uid &&& flag = 0
  /- A started app is installed under a uid that is not negative. It has no task and is not in the
  foreground, and the network has it on the same lists, unless it runs already. -/
  | .processStateChanged uid _ name true =>
    toUInt32 uid = uid ∧ uid ∈ w.installed ∧ (¬ s.2.Runs uid →
      w.reported True s.2 uid &&& ~~~UNRESTRICTED = 0 ∧
      (name ∈ w.allowNames s.2 .network ↔ name ∈ w.allowNames s.2 .runningLock) ∧
      (name ∈ w.restricted .network ∧ name ∉ w.allowNames s.2 .network ↔
        name ∈ w.restricted .runningLock ∧ name ∉ w.allowNames s.2 .runningLock))
  | _ => True

/-! ### One message -/

/-- Every uid has its own key. -/
theorem keyAt_inj {uid' : Int} : keyAt w uid' = keyAt w uid ↔ uid' = uid :=
  ⟨fun heq => (mapKey_inj heq).1, fun heq => by rw [heq]⟩

/-- Flags agree with every external state that says the same of their app. -/
theorem AgreesAt.congr {held : ExemptionFlag} (h : AgreesAt w e uid held)
    (hallow : w.bundleOf uid ∈ w.allowNames e' .runningLock ↔
      w.bundleOf uid ∈ w.allowNames e .runningLock)
    (hreported : w.reported True e' uid = w.reported True e uid) : AgreesAt w e' uid held := by
  unfold AgreesAt at h ⊢
  rw [hreported]
  simp only [hallow]
  exact h

/-- A record tracks an app that neither it nor the external state has changed. -/
theorem Tracks.congr {r r' : ProxyRecord} (h : Tracks w r e uid)
    (hlookup : r'.proxiedAppInfo.lookup (keyAt w uid) = r.proxiedAppInfo.lookup (keyAt w uid))
    (hruns : e'.Runs uid ↔ e.Runs uid) (hpids : World.pidsOf e' uid = World.pidsOf e uid)
    (hagrees : e.Runs uid → ∀ held, AgreesAt w e uid held → AgreesAt w e' uid held) :
    Tracks w r' e' uid := by
  unfold Tracks at h ⊢
  rw [hlookup, hpids]
  simp only [hruns]
  split_ifs at h ⊢ with hrun
  · obtain ⟨info, hinfo, huid, hown, hheld⟩ := h
    exact ⟨info, hinfo, huid, hown, hagrees hrun _ hheld⟩
  · exact h

/-- One app changes, and the others are tracked as before. -/
theorem Settled.change (h : Settled w (s, e)) (uid : Int) {r : ProxyRecord}
    {proxied : Finset (Int × Int)}
    (hkeys : ∀ info, r.proxiedAppInfo.lookup (keyAt w uid) = some info → uid ∈ w.installed)
    (hlookup : ∀ key ≠ keyAt w uid, r.proxiedAppInfo.lookup key =
      s.record.proxiedAppInfo.lookup key)
    (hother : ∀ uid' ≠ uid, (e'.Runs uid' ↔ e.Runs uid') ∧
      World.pidsOf e' uid' = World.pidsOf e uid' ∧
      (e.Runs uid' → ∀ held, AgreesAt w e uid' held → AgreesAt w e' uid' held))
    (hown : uid ∈ w.installed → Tracks w r e' uid) :
    Settled w ({ s with record := r, proxied := proxied }, e') where
  proxied := h.proxied
  keys key info hinfo := by
    by_cases hk : key = keyAt w uid
    · subst hk
      exact ⟨uid, hkeys info hinfo, rfl⟩
    · exact h.keys key info ((hlookup key hk).symm.trans hinfo)
  tracks uid' hinstalled := by
    by_cases hk : uid' = uid
    · subst hk
      exact hown hinstalled
    · obtain ⟨hruns, hpids, hagrees⟩ := hother uid' hk
      exact (h.tracks uid' hinstalled).congr (hlookup _ fun heq => hk (keyAt_inj.1 heq)) hruns hpids
        hagrees

/-- The flags of one app are edited, and no process changes. -/
theorem Settled.edit (h : Settled w (s, e)) (f : ProxiedProcInfo → ProxiedProcInfo)
    (hprocesses : e'.processes = e.processes) (huid : ∀ info, (f info).uid = info.uid)
    (hpids : ∀ info, (f info).pids = info.pids)
    (hother : ∀ uid' ≠ uid, e.Runs uid' → ∀ held, AgreesAt w e uid' held → AgreesAt w e' uid' held)
    (hown : ∀ info, s.record.proxiedAppInfo.lookup (keyAt w uid) = some info → e.Runs uid →
      AgreesAt w e uid info.appExemptionFlag → AgreesAt w e' uid (f info).appExemptionFlag)
    {t : RunningLockStrategy}
    (ht : ∃ proxied, t = { s.modifyApp (keyAt w uid) f with proxied := proxied }) :
    Settled w (t, e') := by
  have hruns : ∀ uid', e'.Runs uid' ↔ e.Runs uid' := fun uid' => by
    rw [External.Runs, hprocesses, External.Runs]
  have hpidsOf : ∀ uid', World.pidsOf e' uid' = World.pidsOf e uid' := fun uid' => by
    rw [World.pidsOf, hprocesses, World.pidsOf]
  obtain ⟨proxied, rfl⟩ := ht
  have hlookup : (s.modifyApp (keyAt w uid) f).record.proxiedAppInfo.lookup (keyAt w uid) =
      (s.record.proxiedAppInfo.lookup (keyAt w uid)).map f := by
    simp only [RunningLockStrategy.modifyApp, Map.lookup_modify, if_true]
  refine h.change uid (fun info hinfo => ?_) (fun key hk => ?_)
    (fun uid' hk => ⟨hruns uid', hpidsOf uid', hother uid' hk⟩) fun hinstalled => ?_
  · rw [hlookup] at hinfo
    obtain ⟨info', hinfo', -⟩ := Option.map_eq_some_iff.1 hinfo
    obtain ⟨uid', hinstalled, heq⟩ := h.keys _ info' hinfo'
    rwa [keyAt_inj.1 heq]
  · simp only [RunningLockStrategy.modifyApp, Map.lookup_modify, if_neg hk]
  · have htracks := h.tracks uid hinstalled
    unfold Tracks at htracks ⊢
    rw [hlookup, hpidsOf]
    simp only [hruns]
    split_ifs at htracks ⊢ with hrun
    · obtain ⟨info, hinfo, hinfoUid, hinfoPids, hheld⟩ := htracks
      refine ⟨f info, by rw [hinfo, Option.map_some], ?_, ?_, hown info hinfo hrun hheld⟩
      · rw [huid]
        exact hinfoUid
      · rw [hpids]
        exact hinfoPids
    · rw [htracks, Option.map_none]

/-- A change of the allow list that meets its condition leaves the record settled. -/
theorem Settled.allowListChanged (h : Settled w (s, e)) {name : String}
    {allowType : BitVec 32} {added : Bool}
    (hnamed : w.describes (.allowListChanged uid name allowType added) = true)
    (hok : KeepsDecisions w (s, e) (.allowListChanged uid name allowType added)) :
    Settled w (report scfg w (s, e) (.allowListChanged uid name allowType added)) := by
  obtain ⟨e', he'⟩ : ∃ e', e' = e.update (.allowListChanged uid name allowType added) := ⟨_, rfl⟩
  have hprocesses : e'.processes = e.processes := by
    rw [he', External.update]
  have hreported : ∀ uid', w.reported True e' uid' = w.reported True e uid' := fun uid' => by
    rw [he']
    rfl
  obtain rfl : name = w.bundleOf uid := of_decide_eq_true hnamed
  have hreport : report scfg w (s, e) (.allowListChanged uid (w.bundleOf uid) allowType added) =
      (s.updateExemptionList uid (w.bundleOf uid) allowType added, e') := by
    rw [he']
    rfl
  rw [hreport]
  unfold updateExemptionList
  by_cases hmask : allowType &&& AllowType.runningLock.mask = 0
  · rw [if_pos hmask]
    have hallow : ∀ name, name ∈ w.allowNames e' .runningLock ↔
        name ∈ w.allowNames e .runningLock :=
      fun name => by rw [he', World.allowNames_of_mask hmask]
    exact ⟨h.proxied, h.keys, fun uid' hinstalled => (h.tracks uid' hinstalled).congr rfl
      (by rw [External.Runs, hprocesses, External.Runs])
      (by rw [World.pidsOf, hprocesses, World.pidsOf])
      fun _ held hheld => hheld.congr (hallow _) (hreported uid')⟩
  · obtain ⟨hshared, hended⟩ := hok hmask
    rw [if_neg hmask, if_neg (by simpa using h.proxied)]
    have hother : ∀ uid' ≠ uid, e.Runs uid' → ∀ held, AgreesAt w e uid' held →
        AgreesAt w e' uid' held := by
      intro uid' hk hruns held hheld
      refine hheld.congr ?_ (hreported uid')
      rw [he']
      exact World.allowNames_shared hshared hk hruns
    cases added with
    | true =>
      rw [if_pos rfl]
      refine h.edit (·.addFlag EXEMPTION) hprocesses (fun _ => rfl) (fun _ => rfl) hother
        (fun info _ _ hheld => ?_)
        (addExemptionFlag_frame_of_proxied h.proxied _ _ _)
      unfold AgreesAt
      rw [hreported]
      refine hheld.grantExemption (World.isReported_reported _ _ _ _) ?_
      rw [he']
      exact World.mem_allowNames_added hmask
    | false =>
      rw [if_neg Bool.false_ne_true]
      refine h.edit (·.removeFlag EXEMPTION) hprocesses (fun _ => rfl) (fun _ => rfl) hother
        (fun info hinfo _ hheld => ?_)
        (removeExemptionFlag_frame s _ _ _)
      obtain ⟨hnot, hlisted⟩ := hended rfl info hinfo
      have hrevoked := hheld.revokeExemption (World.isReported_reported _ _ _ _) hnot
        fun hl => .inl (hlisted hl)
      unfold AgreesAt
      rw [hreported, he']
      exact hrevoked

/-- What is held of another app agrees after a report about a task as before. -/
theorem AgreesAt.taskMoved {type : String} {uid' : Int} {held : ExemptionFlag}
    (h : AgreesAt w e uid' held) (hmoved : w.TaskMoved type uid e e') (hk : uid' ≠ uid) :
    AgreesAt w e' uid' held :=
  h.congr (by rw [hmoved.allowNames]) (hmoved.reported_of_ne hk)

/-- A task that does not count leaves the record settled. -/
theorem Settled.taskIgnored (h : Settled w (s, e)) {type : String}
    (hmoved : w.TaskMoved type uid e e')
    (hsame : ∀ uid', w.reported True e' uid' = w.reported True e uid') : Settled w (s, e') :=
  ⟨h.proxied, h.keys, fun uid' hinstalled => (h.tracks uid' hinstalled).congr rfl
    (hmoved.runs uid') (by rw [World.pidsOf, hmoved.processes, World.pidsOf])
    fun _ held hheld => hheld.congr (by rw [hmoved.allowNames]) (hsame uid')⟩

/-- The start of a task sets its flag. -/
theorem Settled.taskStarted (h : Settled w (s, e)) {type : String} {flag : ExemptionFlag}
    (hmoved : w.TaskMoved type uid e e') (hflag : bgtaskExemptionFlagMap type = some flag)
    (hself : e'.HasTask type uid) :
    Settled w (s.addExemptionFlag uid (w.bundleOf uid) flag, e') := by
  refine h.edit (·.addFlag flag) hmoved.processes (fun _ => rfl) (fun _ => rfl)
    (fun uid' hk _ held hheld => hheld.taskMoved hmoved hk) (fun info _ _ hheld => ?_)
    (addExemptionFlag_frame_of_proxied h.proxied _ _ _)
  unfold AgreesAt
  rw [hmoved.reported_start hflag (fun _ => trivial) hself, hmoved.allowNames]
  exact hheld.grantTask (isTaskFlag_of_bgtask hflag) (World.isReported_reported _ _ _ _)
    fun hlists => hlists.1

/-- The stop of the last task of a type takes its flag. -/
theorem Settled.taskStopped (h : Settled w (s, e)) {type : String} {flag : ExemptionFlag}
    (hmoved : w.TaskMoved type uid e e') (hflag : bgtaskExemptionFlagMap type = some flag)
    (hlast : e.Runs uid → w.reported True e' uid &&& flag = 0) :
    Settled w (s.removeExemptionFlag uid (w.bundleOf uid) flag, e') := by
  refine h.edit (·.removeFlag flag) hmoved.processes (fun _ => rfl) (fun _ => rfl)
    (fun uid' hk _ held hheld => hheld.taskMoved hmoved hk) (fun info _ hruns hheld => ?_)
    (removeExemptionFlag_frame s _ _ _)
  have hrevoked := hheld.revokeTask (isTaskFlag_of_bgtask hflag)
  unfold AgreesAt
  rw [hmoved.reported_stop hflag (hlast hruns), hmoved.allowNames]
  rwa [revokedFlag, if_neg fun hc => hc.1] at hrevoked

/-- A report about a task that meets its condition leaves the record settled. -/
theorem Settled.bgTaskStatusChange (h : Settled w (s, e)) {type bundleName : String}
    {started : Bool} {typeId : Int}
    (hnamed : w.describes (.bgTaskStatusChange type started uid bundleName typeId) = true)
    (hok : KeepsDecisions w (s, e) (.bgTaskStatusChange type started uid bundleName typeId)) :
    Settled w (report scfg w (s, e) (.bgTaskStatusChange type started uid bundleName typeId)) := by
  have hmoved := w.taskMoved_update e type bundleName started uid typeId
  have hname : bundleName = "" ∨ bundleName = w.bundleOf uid := of_decide_eq_true hnamed
  have hreport : report scfg w (s, e) (.bgTaskStatusChange type started uid bundleName typeId) =
      (updateBgTaskAppStatus
          (w.queries (e.update (.bgTaskStatusChange type started uid bundleName typeId)))
          type started uid bundleName s,
        e.update (.bgTaskStatusChange type started uid bundleName typeId)) := rfl
  rw [hreport]
  unfold updateBgTaskAppStatus
  rw [NetworkStrategy.taskName_eq hname]
  cases hflag : bgtaskExemptionFlagMap type with
  | none =>
    refine h.taskIgnored hmoved (hmoved.reported_of_uncounted fun flag hflag' => ?_)
    rw [hflag] at hflag'
    cases hflag'
  | some flag =>
    dsimp only
    cases started with
    | true =>
      rw [if_pos rfl]
      exact h.taskStarted hmoved hflag ((External.hasTask_start _ _).2 (.inl ⟨rfl, rfl⟩))
    | false =>
      rw [if_neg Bool.false_ne_true]
      exact h.taskStopped hmoved hflag (hok flag hflag)

/-- What is created for an app that the platform reports nothing of agrees, when the network has the
app on the same lists. -/
theorem agreesAt_createdApp (pid : Int)
    (h : w.reported True e uid &&& ~~~UNRESTRICTED = 0)
    (hallow : w.bundleOf uid ∈ w.allowNames e .network ↔
      w.bundleOf uid ∈ w.allowNames e .runningLock)
    (hrestrict : w.Restricts e .network (w.bundleOf uid) ↔
      w.Restricts e .runningLock (w.bundleOf uid)) :
    AgreesAt w e uid (ProxyRecord.createdApp (w.queries e) uid pid
      (w.bundleOf uid)).appExemptionFlag := by
  have hagrees : AgreesAt w e uid (w.lockApp e uid).appExemptionFlag := agreesAt_lockApp
  have hflag : (w.lockApp e uid).appExemptionFlag =
      (ProxyRecord.createdApp (w.queries e) uid pid (w.bundleOf uid)).appExemptionFlag := by
    unfold World.lockApp configuredFlag ProxyRecord.createdApp ProxyRecord.networkFlag
    dsimp only
    rw [if_neg fun hc => hc.1, World.reported_eq_of_unrestricted h, BitVec.or_assoc,
      ← flagIf_congr EXEMPTION hallow, ← flagIf_congr RESTRICTED hrestrict]
    refine congrArg₂ _ (flagIf_congr _ decide_eq_true_iff.symm) (congrArg₂ _ rfl ?_)
    exact flagIf_congr _ World.mem_restrictSet.symm
  rwa [hflag] at hagrees

/-- So does a process that is created. -/
theorem Settled.processCreated (h : Settled w (s, e)) {pid : Int} {name : String}
    (hnamed : w.describes (.processStateChanged uid pid name true) = true)
    (hok : KeepsDecisions w (s, e) (.processStateChanged uid pid name true)) :
    Settled w (report scfg w (s, e) (.processStateChanged uid pid name true)) := by
  obtain ⟨e', he'⟩ : ∃ e', e' = e.update (.processStateChanged uid pid name true) := ⟨_, rfl⟩
  have hruns : ∀ uid', e'.Runs uid' ↔ uid' = uid ∨ e.Runs uid' := fun uid' => by
    rw [he', External.runs_created]
  have hallow : ∀ t, w.allowNames e' t = w.allowNames e t := fun t => by
    rw [he', World.allowNames_created]
  have hreported : ∀ uid', w.reported True e' uid' = w.reported True e uid' := fun uid' => by
    rw [he', World.reported_created]
  obtain rfl : name = w.bundleOf uid := of_decide_eq_true hnamed
  obtain ⟨huid, hinstalled, hnew⟩ := hok
  have hlookup : ∀ key, (s.record.getAndCreateAppInfo (w.queries e') uid pid
      (w.bundleOf uid)).proxiedAppInfo.lookup key = if key = keyAt w uid then
        some (((s.record.proxiedAppInfo.lookup (keyAt w uid)).map fun app =>
          { app with pids := insert pid app.pids }).getD
            (ProxyRecord.createdApp (w.queries e') uid pid (w.bundleOf uid)))
      else s.record.proxiedAppInfo.lookup key := fun key => by
    rw [ProxyRecord.lookup_getAndCreateAppInfo, huid]
  have hreport : report scfg w (s, e) (.processStateChanged uid pid (w.bundleOf uid) true) =
      (handleProcessStatusChanged (w.queries e') uid pid (w.bundleOf uid) true s, e') := by
    rw [he']
    rfl
  have hframe : ∃ proxied, handleProcessStatusChanged (w.queries e') uid pid (w.bundleOf uid)
      true s = { s with
        record := s.record.getAndCreateAppInfo (w.queries e') uid pid (w.bundleOf uid)
        proxied := proxied } := by
    rw [processCreated_eq (w.queries e') h.proxied ((hlookup _).trans (if_pos rfl))]
    split_ifs
    · exact proxyRunningLockList_frame _ _ _
    · exact ⟨_, rfl⟩
  obtain ⟨proxied, hframe⟩ := hframe
  rw [hreport, hframe]
  refine h.change uid (fun _ _ => hinstalled) (fun key hk => by rw [hlookup, if_neg hk])
    (fun uid' hk => ⟨?_, ?_, fun _ held hheld => ?_⟩) fun _ => ?_
  · rw [hruns]
    exact or_iff_right hk
  · rw [he', World.pidsOf_created, if_neg hk]
  · exact hheld.congr (by rw [hallow]) (hreported uid')
  · have htracks := h.tracks uid hinstalled
    unfold Tracks at htracks ⊢
    rw [if_pos ((hruns uid).2 (.inl rfl)), hlookup, if_pos rfl]
    have hpids : World.pidsOf e' uid = insert pid (World.pidsOf e uid) := by
      rw [he', World.pidsOf_created, if_pos rfl]
    refine ⟨_, rfl, ?_⟩
    split_ifs at htracks with hrun
    · obtain ⟨info, hinfo, hinfoUid, hinfoPids, hheld⟩ := htracks
      rw [hinfo, Option.map_some, Option.getD_some, hpids]
      exact ⟨hinfoUid, congrArg (insert pid) hinfoPids,
        hheld.congr (by rw [hallow]) (hreported uid)⟩
    · obtain ⟨hnone, hallowed, hrestricted⟩ := hnew hrun
      rw [htracks, Option.map_none, Option.getD_none, hpids,
        World.pidsOf_eq_empty_iff.2 hrun]
      refine ⟨rfl, rfl, agreesAt_createdApp pid ?_ ?_ ?_⟩
      · rw [hreported]
        exact hnone
      · rw [hallow, hallow]
        exact hallowed
      · rw [World.Restricts, World.Restricts, hallow, hallow]
        exact hrestricted

/-- So does a process that dies. -/
theorem Settled.processDied (h : Settled w (s, e)) {pid : Int} {name : String}
    (hnamed : w.describes (.processStateChanged uid pid name false) = true) :
    Settled w (report scfg w (s, e) (.processStateChanged uid pid name false)) := by
  obtain ⟨e', he'⟩ : ∃ e', e' = e.update (.processStateChanged uid pid name false) := ⟨_, rfl⟩
  have hagrees : ∀ uid' held, AgreesAt w e uid' held → AgreesAt w e' uid' held := by
    intro uid' held hheld
    rw [he']
    exact hheld
  have hother : ∀ uid' ≠ uid, (e'.Runs uid' ↔ e.Runs uid') ∧
      World.pidsOf e' uid' = World.pidsOf e uid' ∧
      (e.Runs uid' → ∀ held, AgreesAt w e uid' held → AgreesAt w e' uid' held) := by
    intro uid' hk
    refine ⟨?_, ?_, fun _ held => hagrees uid' held⟩
    · rw [he', External.runs_died hk]
    · rw [he', World.pidsOf_died, if_neg hk]
  have hpids : World.pidsOf e' uid = (World.pidsOf e uid).erase pid := by
    rw [he', World.pidsOf_died, if_pos rfl]
  obtain rfl : name = w.bundleOf uid := of_decide_eq_true hnamed
  have hreport : report scfg w (s, e) (.processStateChanged uid pid (w.bundleOf uid) false) =
      (handleProcessStatusChanged (w.queries e') uid pid (w.bundleOf uid) false s, e') := by
    rw [he']
    rfl
  rw [hreport]
  cases hinfo : s.record.proxiedAppInfo.lookup (mapKey uid (w.bundleOf uid)) with
  | none =>
    rw [processDied_of_none _ fun _ => hinfo]
    refine h.change uid (fun info hinfo' => ?_) (fun _ _ => rfl) hother fun hinstalled => ?_
    · rw [hinfo] at hinfo'
      cases hinfo'
    · have htracks := h.tracks uid hinstalled
      unfold Tracks at htracks ⊢
      split_ifs at htracks with hrun
      · obtain ⟨info, hinfo', -⟩ := htracks
        rw [hinfo] at hinfo'
        cases hinfo'
      · rw [if_neg, htracks]
        rw [← World.pidsOf_eq_empty_iff, hpids, World.pidsOf_eq_empty_iff.2 hrun]
        exact Finset.erase_eq_of_notMem (Finset.notMem_empty pid)
  | some info =>
    obtain ⟨uid', hinstalled, heq⟩ := h.keys _ info hinfo
    obtain rfl : uid = uid' := keyAt_inj.1 heq
    have htracks := h.tracks uid hinstalled
    unfold Tracks at htracks
    split_ifs at htracks with hrun
    · obtain ⟨info', hinfo', hinfoUid, hinfoPids, hheld⟩ := htracks
      obtain rfl := Option.some.inj (hinfo.symm.trans hinfo')
      obtain ⟨record, proxied, hframe, hwithout, -⟩ :=
        processDied_frame (w.queries e') h.proxied hinfo
      rw [hframe]
      refine h.change uid (fun _ _ => hinstalled) (fun key hk => (hwithout key).trans (if_neg hk))
        hother fun _ => ?_
      have hlookup := hwithout (mapKey uid (w.bundleOf uid))
      rw [if_pos rfl, hinfoPids, ← hpids] at hlookup
      unfold Tracks
      split_ifs at hlookup with hlast
      · rw [if_neg (World.pidsOf_eq_empty_iff.1 hlast)]
        exact hlookup
      · rw [if_pos (not_not.1 (mt World.pidsOf_eq_empty_iff.2 hlast))]
        exact ⟨_, hlookup, hinfoUid, rfl, hagrees uid _ hheld⟩
    · rw [show s.record.proxiedAppInfo.lookup (mapKey uid (w.bundleOf uid)) = none from htracks]
        at hinfo
      cases hinfo

/-- What a message must avoid suffices. -/
theorem Settled.report {s : RunningLockStrategy × External} (h : Settled w s)
    {message : StandbyMessage} (hnamed : w.describes message = true)
    (hok : KeepsDecisions w s message) : Settled w (report scfg w s message) := by
  obtain ⟨s, e⟩ := s
  cases message with
  | allowListChanged => exact h.allowListChanged hnamed hok
  | bgTaskStatusChange => exact h.bgTaskStatusChange hnamed hok
  | processStateChanged uid pid name isCreated =>
    cases isCreated with
    | true => exact h.processCreated hnamed hok
    | false => exact h.processDied hnamed
  | _ => cases hnamed

/-! ### Every run -/

/-- The strategy follows messages about the apps of the world. -/
def reportSystem (scfg : StrategyConfig) (w : World) (s : RunningLockStrategy × External) :
    Lts.System (RunningLockStrategy × External) StandbyMessage where
  init := s
  step s message := if w.describes message then some (report scfg w s message) else none

/-- The phase that starts the proxy builds the record from what is reported then. -/
def started (scfg : StrategyConfig) (w : World) (e : External) (s : RunningLockStrategy) :
    RunningLockStrategy :=
  s.handleEvent scfg (w.queries e) (.phaseTransit .sleep 0 SleepStatePhase.APP_RES_DEEP)

/-- What the start of the proxy leaves. -/
theorem started_eq (scfg : StrategyConfig) (w : World) (e : External)
    (hproxied : s.isProxied = false) : ∃ proxied, started scfg w e s =
      { s with
        isProxied := true
        isIdleMaintence := false
        record := w.lockApps e
        proxied := proxied } := by
  unfold started handleEvent startProxy
  dsimp only
  rw [if_neg (by simp [hproxied]), if_neg (by simp)]
  unfold startProxyInner
  dsimp only
  rw [World.lockApps_ok]
  dsimp only
  obtain ⟨proxied, hcall⟩ := proxyRunningLockList_frame true (w.lockApps e).proxiedAppList
    { s.clearProxyRecord with record := w.lockApps e }
  unfold proxyAppAndProcess
  rw [hcall]
  exact ⟨proxied, rfl⟩

/-- An app that the strategy builds anew is installed. -/
theorem key_of_lockApps {key : String} {info : ProxiedProcInfo}
    (hinfo : (w.lockApps e).proxiedAppInfo.lookup key = some info) :
    ∃ uid ∈ w.installed, key = keyAt w uid := by
  rw [ProxyRecord.lookup_initProxiedAppInfo (World.lockApps_ok w e)] at hinfo
  obtain ⟨app, happ, -⟩ := Option.map_eq_some_iff.1 hinfo
  have hfind := (Option.filter_eq_some_iff.1 happ).1
  have hkey : ProxyRecord.keyOf app = key := by simpa using List.find?_some hfind
  obtain ⟨uid, hinstalled, rfl⟩ := List.mem_map.1 (List.mem_of_find?_eq_some hfind)
  exact ⟨uid, hinstalled, hkey.symm⟩

/-- The strategy starts settled. -/
theorem settled_started (scfg : StrategyConfig) (w : World) (e : External)
    (hproxied : s.isProxied = false) : Settled w (started scfg w e s, e) := by
  obtain ⟨proxied, heq⟩ := started_eq scfg w e hproxied
  rw [heq]
  refine ⟨rfl, fun key info hinfo => key_of_lockApps hinfo, fun uid hinstalled => ?_⟩
  unfold Tracks
  dsimp only
  rw [World.lookup_lockApps]
  by_cases hruns : e.Runs uid
  · rw [if_pos hruns, if_pos ⟨hinstalled, hruns⟩]
    exact ⟨_, rfl, rfl, rfl, agreesAt_lockApp⟩
  · rw [if_neg hruns, if_neg fun hand => hruns hand.2]

/-- It stays settled over every run whose messages meet their condition. -/
theorem settled_reachable {start s : RunningLockStrategy × External} (hstart : Settled w start)
    (h : Lts.ReachableUnder (reportSystem scfg w start) (KeepsDecisions w) s) : Settled w s := by
  refine h.invariant hstart fun {s t message} _ hok hs hi => ?_
  simp only [reportSystem, Option.ite_none_right_eq_some, Option.some.injEq] at hs
  obtain ⟨hnamed, rfl⟩ := hs
  exact hi.report hnamed hok

/-- A test that suffices for what a message must avoid. -/
def keepsDecisionsTest (w : World) (s : RunningLockStrategy × External)
    (message : StandbyMessage) : Bool :=
  match message with
  | .allowListChanged uid name _ added =>
    (∀ info ∈ s.2.processes, w.bundleOf info.uid = name → info.uid = uid) ∧
      (added ∨ name ∉ w.allowNames (s.2.update message) .runningLock ∧
        name ∉ w.restricted .runningLock)
  | .bgTaskStatusChange _ true _ _ _ => true
  | .bgTaskStatusChange type false uid _ _ =>
    match bgtaskExemptionFlagMap type with
    | none => true
    | some flag => w.reported True (s.2.update message) uid &&& flag = 0
  | .processStateChanged uid _ name true =>
    (toUInt32 uid = uid ∧ uid ∈ w.installed ∧ w.reported True s.2 uid &&& ~~~UNRESTRICTED = 0) ∧
      ∀ t ∈ [AllowType.network, AllowType.runningLock],
        name ∉ w.allowNames s.2 t ∧ name ∉ w.restricted t
  | .processStateChanged _ _ _ false => true
  | _ => false

/-- The test suffices. -/
theorem keepsDecisions_of_test (w : World) (s : RunningLockStrategy × External)
    (message : StandbyMessage) (h : keepsDecisionsTest w s message = true) :
    KeepsDecisions w s message := by
  cases message with
  | allowListChanged uid name allowType added =>
    obtain ⟨hshared, h⟩ := of_decide_eq_true h
    refine fun _ => ⟨.inr ?_, ?_⟩
    · rintro uid' ⟨info, hmem, rfl⟩ hbundle
      exact hshared info hmem hbundle
    · rintro rfl info -
      obtain ⟨hnot, hlisted⟩ := h.resolve_left Bool.false_ne_true
      exact ⟨hnot, fun hl => absurd hl hlisted⟩
  | bgTaskStatusChange type started uid bundleName typeId =>
    cases started with
    | true => trivial
    | false =>
      intro flag hflag _
      unfold keepsDecisionsTest at h
      dsimp only at h
      rw [hflag] at h
      exact of_decide_eq_true h
  | processStateChanged uid pid name isCreated =>
    cases isCreated with
    | true =>
      obtain ⟨⟨huid, hinstalled, hreported⟩, hlists⟩ := of_decide_eq_true h
      obtain ⟨hnet, hnetListed⟩ := hlists .network (by simp)
      obtain ⟨hlock, hlockListed⟩ := hlists .runningLock (by simp)
      exact ⟨huid, hinstalled, fun _ => ⟨hreported, iff_of_false hnet hlock,
        iff_of_false (fun hl => hnetListed hl.1) fun hl => hlockListed hl.1⟩⟩
    | false => trivial
  | _ => cases h

end RunningLockStrategy

/-- In every run of messages that avoid the defects, from a record built from what was reported when
the strategy began to restrict: the decision that a strategy holds for an app of its record is the
one that a record built anew would hold, where an app that is not in that record is neither on the
trust list nor proxied. -/
theorem decisions_eq_rebuilt (scfg : StrategyConfig) (w : World) (e : External)
    (hnamed : w.Named e) (n : NetworkStrategy) (hdisabled : n.isFirewallEnabled = false)
    (hnightSleep : n.isNightSleepMode = false) (r : RunningLockStrategy)
    (hproxied : r.isProxied = false) :
    (∀ s, Lts.ReachableUnder (NetworkStrategy.reportSystem scfg w (n.enabled scfg w e, e))
        (NetworkStrategy.KeepsDecisions scfg w) s →
      ∀ uid info, s.1.netLimitedAppInfo.lookup uid = some info →
        (isFlagExempted w.condition info.appExemptionFlag = true ↔
          (w.netApps scfg s.2).Exempts w.condition uid)) ∧
    (∀ s, Lts.ReachableUnder (RunningLockStrategy.reportSystem scfg w (r.started scfg w e, e))
        (RunningLockStrategy.KeepsDecisions w) s →
      ∀ key info, s.1.record.proxiedAppInfo.lookup key = some info →
        (info.restricted = true ↔ ∃ app,
          (w.lockApps s.2).proxiedAppInfo.lookup key = some app ∧ app.restricted = true)) := by
  constructor
  · intro s h uid info hinfo
    have hstart := NetworkStrategy.settled_enabled scfg hdisabled hnightSleep hnamed
    exact (NetworkStrategy.settled_reachable hstart h).decides hinfo
  · intro s h key info hinfo
    have hstart := RunningLockStrategy.settled_started scfg w e hproxied
    exact (RunningLockStrategy.settled_reachable hstart h).decides hinfo

/-- An app is allowed and not any more, has a task and ends it, and another app is started. -/
def sampleMessages : List StandbyMessage :=
  [.allowListChanged 10 "app" 3 true, .bgTaskStatusChange "transient_task" true 10 "app" 0,
    .allowListChanged 10 "app" 3 false, .processStateChanged 11 8 "other" true,
    .bgTaskStatusChange "transient_task" false 10 "app" 0]

/-- The decisions that both strategies hold after these messages. -/
theorem decisions_of_sampleMessages :
    (∃ s, s.2.granted .network = [] ∧ s.1.netLimitedAppInfo.lookup 10 = some ⟨"app", 0⟩ ∧
      Lts.Reachable (NetworkStrategy.reportSystem sampleStrategies sampleWorld
        (NetworkStrategy.enabled sampleStrategies sampleWorld sampleExternal {},
          sampleExternal)) s ∧
      ¬ (sampleWorld.netApps sampleStrategies s.2).Exempts .dayStandby 10) ∧
    ∃ s, s.2.granted .runningLock = [] ∧
      Lts.Reachable (RunningLockStrategy.reportSystem sampleStrategies sampleWorld
        (RunningLockStrategy.started sampleStrategies sampleWorld sampleExternal {},
          sampleExternal)) s ∧
      ∃ app, (sampleWorld.lockApps s.2).proxiedAppInfo.lookup (mapKey 10 "app") = some app ∧
        app.restricted = true := by
  have hnamed : sampleWorld.Named sampleExternal := by
    unfold World.Named
    decide
  obtain ⟨hnet, hlock⟩ := decisions_eq_rebuilt sampleStrategies sampleWorld sampleExternal hnamed
    {} rfl rfl {} rfl
  constructor
  · obtain ⟨s, hr, hs⟩ := (NetworkStrategy.reportSystem sampleStrategies sampleWorld
      (NetworkStrategy.enabled sampleStrategies sampleWorld sampleExternal {},
        sampleExternal)).exists_check (NetworkStrategy.KeepsDecisions sampleStrategies sampleWorld)
      (NetworkStrategy.keepsDecisionsTest sampleStrategies sampleWorld)
      (NetworkStrategy.keepsDecisions_of_test sampleStrategies sampleWorld)
      (fun s => s.2.granted .network = [] ∧ s.1.netLimitedAppInfo.lookup 10 = some ⟨"app", 0⟩)
      sampleMessages (by decide)
    obtain ⟨hgranted, hinfo⟩ := of_decide_eq_true hs
    refine ⟨s, hgranted, hinfo, hr.reachable, fun hex => ?_⟩
    have hheld := (hnet s hr 10 _ hinfo).2 hex
    cases hheld
  · obtain ⟨s, hr, hs⟩ := (RunningLockStrategy.reportSystem sampleStrategies sampleWorld
      (RunningLockStrategy.started sampleStrategies sampleWorld sampleExternal {},
        sampleExternal)).exists_check (RunningLockStrategy.KeepsDecisions sampleWorld)
      (RunningLockStrategy.keepsDecisionsTest sampleWorld)
      (RunningLockStrategy.keepsDecisions_of_test sampleWorld)
      (fun s => s.2.granted .runningLock = [] ∧
        s.1.record.proxiedAppInfo.lookup (mapKey 10 "app") = some ⟨"app", 10, {7}, 0⟩)
      sampleMessages (by decide)
    obtain ⟨hgranted, hinfo⟩ := of_decide_eq_true hs
    exact ⟨s, hgranted, hr.reachable, (hlock s hr _ _ hinfo).1 rfl⟩

/-- The configuration allows the app. -/
def persistWorld : World :=
  { sampleWorld with persistAllowed := fun _ => ["app"] }

/-- Not in every run, for neither strategy: the end of a temporary allowance takes the exemption of
an app that the configuration allows. -/
theorem not_always_decisions_eq :
    (¬ ∀ (scfg : StrategyConfig) (w : World) (e : External), w.Named e → ∀ s,
      Lts.Reachable (NetworkStrategy.reportSystem scfg w
        (NetworkStrategy.enabled scfg w e {}, e)) s →
      ∀ uid info, s.1.netLimitedAppInfo.lookup uid = some info →
        (isFlagExempted w.condition info.appExemptionFlag = true ↔
          (w.netApps scfg s.2).Exempts w.condition uid)) ∧
    ¬ ∀ (scfg : StrategyConfig) (w : World) (e : External), w.Named e → ∀ s,
      Lts.Reachable (RunningLockStrategy.reportSystem scfg w
        (RunningLockStrategy.started scfg w e {}, e)) s →
      ∀ key info, s.1.record.proxiedAppInfo.lookup key = some info →
        (info.restricted = true ↔ ∃ app,
          (w.lockApps s.2).proxiedAppInfo.lookup key = some app ∧ app.restricted = true) := by
  have hnamed : persistWorld.Named sampleExternal := by
    unfold World.Named
    decide
  constructor
  · intro h
    obtain ⟨s, hr, hinfo, happ⟩ := (NetworkStrategy.reportSystem sampleStrategies persistWorld
      (NetworkStrategy.enabled sampleStrategies persistWorld sampleExternal {},
        sampleExternal)).exists_run
      [.allowListChanged 10 "app" 3 true, .allowListChanged 10 "app" 3 false]
      (Lts.System.runMeets_of_forall (fun _ _ => True) fun _ _ _ => trivial)
      (fun s => s.1.netLimitedAppInfo.lookup 10 = some ⟨"app", 0⟩ ∧
        (persistWorld.netApps sampleStrategies s.2).lookup 10 = some ⟨"app", 32⟩) (by decide)
    have hheld := (h _ _ _ hnamed s hr 10 _ hinfo).2 ⟨_, happ, by decide⟩
    revert hheld
    decide
  · intro h
    obtain ⟨s, hr, hinfo, happ⟩ := (RunningLockStrategy.reportSystem sampleStrategies persistWorld
      (RunningLockStrategy.started sampleStrategies persistWorld sampleExternal {},
        sampleExternal)).exists_run
      [.allowListChanged 10 "app" 3 true, .allowListChanged 10 "app" 3 false]
      (Lts.System.runMeets_of_forall (fun _ _ => True) fun _ _ _ => trivial)
      (fun s => s.1.record.proxiedAppInfo.lookup (mapKey 10 "app") = some ⟨"app", 10, {7}, 0⟩ ∧
        (persistWorld.lockApps s.2).proxiedAppInfo.lookup (mapKey 10 "app") =
          some ⟨"app", 10, {7}, 32⟩) (by decide)
    obtain ⟨app, happ', hres⟩ := (h _ _ _ hnamed s hr _ _ hinfo).1 (by decide)
    rw [happ] at happ'
    cases happ'
    revert hres
    decide

end DeviceStandby
