import DeviceStandby.Lib.Transition
import DeviceStandby.Strategy.Agreement

/-!
# What the network strategy decides, and what it would decide anew

While the firewall is enabled, the strategy follows messages about allowances, tasks and processes.
In every run that avoids what `KeepsDecisions` names, its record has the apps that run, with flags
that agree with those of a record built anew (`Settled`).
-/

namespace DeviceStandby

open ExemptionTypeFlag AssocMap

namespace NetworkStrategy
variable {scfg : StrategyConfig} {w : World} {s : NetworkStrategy} {e e' : External} {uid : Int}

/-- The flags held for an app agree with what the external state gives it. -/
def AgreesAt (scfg : StrategyConfig) (w : World) (e : External) (uid : Int)
    (held : ExemptionFlag) : Prop :=
  Agrees (w.bundleOf uid ∈ w.allowNames e .network) (w.bundleOf uid ∈ w.restricted .network)
    (w.bundleOf uid ∈ scfg.conditionalRestrictNetApp)
    (w.reported (w.condition = .dayStandby) e uid) held

/-- The strategy enforces, and its record has the apps that run, with flags that agree. -/
structure Settled (scfg : StrategyConfig) (w : World) (s : NetworkStrategy × External) : Prop where
  enabled : s.1.isFirewallEnabled = true
  nightSleep : s.1.isNightSleepMode = false
  named : w.Named s.2
  tracked : ∀ uid, uid ∈ s.1.netLimitedAppInfo ↔ s.2.Runs uid
  agrees : ∀ uid info, s.1.netLimitedAppInfo.lookup uid = some info →
    info.name = w.bundleOf uid ∧ AgreesAt scfg w s.2 uid info.appExemptionFlag

/-- The record that the strategy builds anew has the running apps. -/
theorem lookup_netApps_of_named (scfg : StrategyConfig) (hnamed : w.Named e) (uid : Int) :
    (w.netApps scfg e).lookup uid =
      if e.Runs uid then some (w.netApp scfg e uid (w.bundleOf uid)) else none := by
  rw [World.lookup_netApps]
  cases hfind : e.processes.find? fun info => info.uid = uid with
  | none =>
    have hnone : ¬ e.Runs uid := by
      rintro ⟨info, hmem, huid⟩
      exact List.find?_eq_none.1 hfind info hmem (decide_eq_true huid)
    rw [if_neg hnone]
    rfl
  | some info =>
    have huid : info.uid = uid := by simpa using List.find?_some hfind
    have hmem := List.mem_of_find?_eq_some hfind
    rw [if_pos ⟨info, hmem, huid⟩, Option.map_some, hnamed info hmem, huid]

/-- What a rebuild makes of an app agrees with the external state. -/
theorem agreesAt_netApp : AgreesAt scfg w e uid
    (w.netApp scfg e uid (w.bundleOf uid)).appExemptionFlag :=
  agrees_configured

/-- The decisions held are those of a record built anew. -/
theorem Settled.decides {s : NetworkStrategy × External} (h : Settled scfg w s)
    {info : NetLimtedAppInfo} (hinfo : s.1.netLimitedAppInfo.lookup uid = some info) :
    isFlagExempted w.condition info.appExemptionFlag = true ↔
      (w.netApps scfg s.2).Exempts w.condition uid := by
  have hruns : s.2.Runs uid := (h.tracked uid).1 (AList.lookup_isSome.1 (by rw [hinfo]; rfl))
  have hrebuilt := lookup_netApps_of_named scfg h.named uid
  rw [if_pos hruns] at hrebuilt
  rw [exempts_of_lookup hrebuilt,
    ((h.agrees uid info hinfo).2.decides w.condition agreesAt_netApp).2]

/-! ### What a message must avoid -/

/-- What a message must avoid. -/
def KeepsDecisions (scfg : StrategyConfig) (w : World) (s : NetworkStrategy × External)
    (message : StandbyMessage) : Prop :=
  match message with
  | .allowListChanged uid name allowType added =>
    allowType &&& AllowType.network.mask ≠ 0 →
      /- An app that is allowed runs. -/
      (added = true → s.2.Runs uid) ∧
      /- No other app that runs has its bundle, when the bundle is allowed now or not any more. -/
      ((name ∈ w.allowNames (s.2.update message) .network ↔ name ∈ w.allowNames s.2 .network) ∨
        ∀ uid', s.2.Runs uid' → w.bundleOf uid' = name → uid' = uid) ∧
      /- An app whose allowance ends is not allowed otherwise, and restricted if it is listed. -/
      (added = false → ∀ info, s.1.netLimitedAppInfo.lookup uid = some info →
        name ∉ w.allowNames (s.2.update message) .network ∧
        (name ∈ w.restricted .network → info.appExemptionFlag &&& RESTRICTED ≠ 0 ∨
          name ∈ scfg.conditionalRestrictNetApp ∧
            w.reported (w.condition = .dayStandby) s.2 uid &&& ~~~UNRESTRICTED = 0))
  /- An app that starts a task runs, and is not restricted by both lists. -/
  | .bgTaskStatusChange type true uid _ typeId =>
    ∀ flag, bgtaskExemptionFlagMap type = some flag →
      skipsStartedTask (w.queries s.2) type typeId s.1 = false →
        s.2.Runs uid ∧ ¬ (w.bundleOf uid ∈ scfg.conditionalRestrictNetApp ∧
          w.Restricts s.2 .network (w.bundleOf uid))
  /- An app that stops a task has no other of the type. -/
  | .bgTaskStatusChange type false uid _ _ =>
    ∀ flag, bgtaskExemptionFlagMap type = some flag → s.2.Runs uid →
      w.reported (w.condition = .dayStandby) (s.2.update message) uid &&& flag = 0
  /- An app that is started has no task, and is not in the foreground. -/
  | .processStateChanged uid _ _ true => ¬ s.2.Runs uid →
    w.reported (w.condition = .dayStandby) s.2 uid &&& ~~~UNRESTRICTED = 0
  /- An app that ends leaves no other app of its bundle running. -/
  | .processStateChanged uid _ name false => s.2.Runs uid →
    (∃ uid', (s.2.update message).Runs uid' ∧ w.bundleOf uid' = name) →
      (s.2.update message).Runs uid
  | _ => True

/-! ### One message -/

/-- Flags agree with every external state that says the same of their app. -/
theorem AgreesAt.congr {held : ExemptionFlag} (h : AgreesAt scfg w e uid held)
    (hallow : w.bundleOf uid ∈ w.allowNames e' .network ↔ w.bundleOf uid ∈ w.allowNames e .network)
    (hreported : w.reported (w.condition = .dayStandby) e' uid =
      w.reported (w.condition = .dayStandby) e uid) : AgreesAt scfg w e' uid held := by
  unfold AgreesAt at h ⊢
  rw [hreported]
  simp only [hallow]
  exact h

/-- One app changes, and the others agree as before. -/
theorem Settled.change (h : Settled scfg w (s, e)) (uid : Int) (hnamed : w.Named e')
    {apps : NetLimitedApps} {trustlist : Finset Int}
    (hlookup : ∀ uid' ≠ uid, apps.lookup uid' = s.netLimitedAppInfo.lookup uid')
    (hruns : ∀ uid' ≠ uid, e'.Runs uid' ↔ e.Runs uid')
    (hagrees : ∀ uid' ≠ uid, e.Runs uid' → ∀ held, AgreesAt scfg w e uid' held →
      AgreesAt scfg w e' uid' held)
    (hself : uid ∈ apps ↔ e'.Runs uid)
    (hown : ∀ info, apps.lookup uid = some info →
      info.name = w.bundleOf uid ∧ AgreesAt scfg w e' uid info.appExemptionFlag) :
    Settled scfg w ({ s with netLimitedAppInfo := apps, trustlist := trustlist }, e') where
  enabled := h.enabled
  nightSleep := h.nightSleep
  named := hnamed
  tracked uid' := by
    by_cases hk : uid' = uid
    · subst hk
      exact hself
    · rw [hruns uid' hk, ← h.tracked uid', ← AList.lookup_isSome, ← AList.lookup_isSome,
        hlookup uid' hk]
  agrees uid' info hinfo := by
    by_cases hk : uid' = uid
    · subst hk
      exact hown info hinfo
    · have hinfo : s.netLimitedAppInfo.lookup uid' = some info := (hlookup uid' hk).symm.trans hinfo
      have hruns' : e.Runs uid' :=
        (h.tracked uid').1 (AList.lookup_isSome.1 (by rw [hinfo]; rfl))
      obtain ⟨hname, hheld⟩ := h.agrees uid' info hinfo
      exact ⟨hname, hagrees uid' hk hruns' _ hheld⟩

/-- An app that runs is recorded, under its bundle, with flags that agree. -/
theorem Settled.lookup (h : Settled scfg w (s, e)) (hruns : e.Runs uid) :
    ∃ info, s.netLimitedAppInfo.lookup uid = some info ∧ info.name = w.bundleOf uid ∧
      AgreesAt scfg w e uid info.appExemptionFlag := by
  obtain ⟨info, hinfo⟩ := Option.isSome_iff_exists.1
    (AList.lookup_isSome.2 ((h.tracked uid).2 hruns))
  exact ⟨info, hinfo, h.agrees uid info hinfo⟩

/-- An app that does not run is not recorded. -/
theorem Settled.lookup_none (h : Settled scfg w (s, e)) (hruns : ¬ e.Runs uid) :
    s.netLimitedAppInfo.lookup uid = none :=
  AList.lookup_eq_none.2 fun hmem => hruns ((h.tracked uid).1 hmem)

/-- A flag is set of a running app. -/
theorem Settled.add (h : Settled scfg w (s, e)) (q : Queries) (hnamed : w.Named e')
    (hprocesses : e'.processes = e.processes) (hruns : e.Runs uid) {flag : ExemptionFlag}
    (hgrant : IsGrant flag)
    (hagrees : ∀ uid' ≠ uid, e.Runs uid' → ∀ held, AgreesAt scfg w e uid' held →
      AgreesAt scfg w e' uid' held)
    (hown : ∀ held, AgreesAt scfg w e uid held → AgreesAt scfg w e' uid
      (grantedFlag (w.bundleOf uid ∈ scfg.conditionalRestrictNetApp) flag held)) :
    Settled scfg w (addExemptionFlag scfg q uid (w.bundleOf uid) flag s, e') := by
  obtain ⟨info, hinfo, hname, hheld⟩ := h.lookup hruns
  obtain ⟨_, changed, rfl, hflag, hchanged, apps, trustlist, happs, -, hframe⟩ :=
    addExemptionFlag_eq scfg q uid (w.bundleOf uid) h.enabled hgrant
  rw [hinfo, Option.getD_some] at hflag hchanged
  rw [hframe]
  have hruns' : ∀ uid', e'.Runs uid' ↔ e.Runs uid' := fun uid' => by
    rw [External.Runs, hprocesses, External.Runs]
  refine h.change uid hnamed (fun uid' hk => by rw [happs, if_neg hk])
    (fun uid' _ => hruns' uid') hagrees ?_ fun info' hinfo' => ?_
  · rw [hruns', ← AList.lookup_isSome, happs, if_pos rfl]
    exact iff_of_true rfl hruns
  · rw [happs, if_pos rfl] at hinfo'
    cases hinfo'
    rw [hchanged, hflag]
    exact ⟨hname, hown _ hheld⟩

/-- A flag is taken from an app. -/
theorem Settled.remove (h : Settled scfg w (s, e)) (q : Queries) (hnamed : w.Named e')
    (hprocesses : e'.processes = e.processes) {flag : ExemptionFlag}
    (hagrees : ∀ uid' ≠ uid, e.Runs uid' → ∀ held, AgreesAt scfg w e uid' held →
      AgreesAt scfg w e' uid' held)
    (hown : ∀ info, s.netLimitedAppInfo.lookup uid = some info → e.Runs uid →
      AgreesAt scfg w e uid info.appExemptionFlag → AgreesAt scfg w e' uid
        (revokedFlag (w.bundleOf uid ∈ scfg.conditionalRestrictNetApp) flag
          info.appExemptionFlag)) :
    Settled scfg w (removeExemptionFlag scfg q uid flag s, e') := by
  have hruns' : ∀ uid', e'.Runs uid' ↔ e.Runs uid' := fun uid' => by
    rw [External.Runs, hprocesses, External.Runs]
  by_cases hruns : e.Runs uid
  · obtain ⟨info, hinfo, hname, hheld⟩ := h.lookup hruns
    obtain ⟨changed, hflag, hchanged, apps, trustlist, happs, -, hframe⟩ :=
      removeExemptionFlag_eq scfg q h.enabled hinfo flag
    rw [hframe]
    refine h.change uid hnamed (fun uid' hk => by rw [happs, if_neg hk])
      (fun uid' _ => hruns' uid') hagrees ?_ fun info' hinfo' => ?_
    · rw [hruns', ← AList.lookup_isSome, happs, if_pos rfl]
      exact iff_of_true rfl hruns
    · rw [happs, if_pos rfl] at hinfo'
      cases hinfo'
      rw [hchanged, hflag, hname]
      exact ⟨rfl, hown info hinfo hruns hheld⟩
  · have hnone := h.lookup_none hruns
    have heq : removeExemptionFlag scfg q uid flag s = s := by
      unfold removeExemptionFlag
      rw [hnone, ite_self]
    rw [heq]
    refine h.change uid hnamed (fun _ _ => rfl) (fun uid' _ => hruns' uid') hagrees ?_
      fun info' hinfo' => ?_
    · rw [hruns', h.tracked]
    · rw [hnone] at hinfo'
      cases hinfo'

/-- What is created for an app that the platform reports nothing of agrees. -/
theorem agreesAt_createdApp
    (h : w.reported (w.condition = .dayStandby) e uid &&& ~~~UNRESTRICTED = 0) :
    AgreesAt scfg w e uid (NetLimitedApps.createdApp scfg (w.queries e) uid
      (w.bundleOf uid)).appExemptionFlag := by
  have hflag : w.reported (w.condition = .dayStandby) e uid =
      flagIf ((w.queries e).isSystemAppByUid uid = true) UNRESTRICTED := by
    rw [World.reported_eq_of_unrestricted h]
    exact flagIf_congr _ decide_eq_true_iff.symm
  rw [NetLimitedApps.createdApp, ← hflag, World.appOf_queries]
  exact agreesAt_netApp

/-- A process that is created and meets its condition leaves the record settled. -/
theorem Settled.processCreated (h : Settled scfg w (s, e)) {pid : Int} {name : String}
    (hnamed : w.describes (.processStateChanged uid pid name true) = true)
    (hok : KeepsDecisions scfg w (s, e) (.processStateChanged uid pid name true)) :
    Settled scfg w (report scfg w (s, e) (.processStateChanged uid pid name true)) := by
  obtain ⟨e', he'⟩ : ∃ e', e' = e.update (.processStateChanged uid pid name true) := ⟨_, rfl⟩
  have hruns : ∀ uid', e'.Runs uid' ↔ uid' = uid ∨ e.Runs uid' := fun uid' => by
    rw [he', External.runs_created]
  have hallow : ∀ name, name ∈ w.allowNames e' .network ↔ name ∈ w.allowNames e .network :=
    fun name => by rw [he', World.allowNames_created]
  have hreported : ∀ uid', w.reported (w.condition = .dayStandby) e' uid' =
      w.reported (w.condition = .dayStandby) e uid' := fun uid' => by
    rw [he', World.reported_created]
  obtain rfl : name = w.bundleOf uid := of_decide_eq_true hnamed
  obtain ⟨trustlist, hframe⟩ :=
    processCreated_frame scfg (w.queries e') uid (w.bundleOf uid) h.enabled
  have hreport : report scfg w (s, e) (.processStateChanged uid pid (w.bundleOf uid) true) =
      (handleProcessStatusChanged scfg (w.queries e') uid (w.bundleOf uid) true s, e') := by
    rw [he']
    rfl
  rw [hreport, hframe]
  have hlookup : ∀ uid', (NetLimitedApps.getAndCreateAppInfo scfg (w.queries e') uid
      (w.bundleOf uid) s.netLimitedAppInfo).lookup uid' = if uid' = uid then
        some ((s.netLimitedAppInfo.lookup uid).getD (NetLimitedApps.createdApp scfg (w.queries e')
          uid (w.bundleOf uid)))
      else s.netLimitedAppInfo.lookup uid' :=
    NetLimitedApps.getAndCreateAppInfo_lookup (w.bundleOf uid)
  refine h.change uid (he' ▸ h.named.update hnamed)
    (fun uid' hk => by rw [hlookup, if_neg hk])
    (fun uid' hk => by rw [hruns]; exact or_iff_right hk)
    (fun uid' _ _ held hheld => hheld.congr (hallow _) (hreported uid')) ?_ fun info hinfo => ?_
  · rw [hruns, ← AList.lookup_isSome, hlookup, if_pos rfl]
    exact iff_of_true rfl (.inl rfl)
  · rw [hlookup, if_pos rfl] at hinfo
    cases hinfo
    by_cases hrun : e.Runs uid
    · obtain ⟨info, hinfo, hname, hheld⟩ := h.lookup hrun
      rw [hinfo, Option.getD_some]
      exact ⟨hname, hheld.congr (hallow _) (hreported uid)⟩
    · rw [h.lookup_none hrun, Option.getD_none]
      refine ⟨?_, agreesAt_createdApp ?_⟩
      · rw [NetLimitedApps.createdApp, NetLimitedApps.appOf_eq]
      · rw [hreported]
        exact hok hrun

/-- So does a process that dies. -/
theorem Settled.processDied (h : Settled scfg w (s, e)) {pid : Int} {name : String}
    (hnamed : w.describes (.processStateChanged uid pid name false) = true)
    (hok : KeepsDecisions scfg w (s, e) (.processStateChanged uid pid name false)) :
    Settled scfg w (report scfg w (s, e) (.processStateChanged uid pid name false)) := by
  obtain ⟨e', he'⟩ : ∃ e', e' = e.update (.processStateChanged uid pid name false) := ⟨_, rfl⟩
  have hruns : ∀ uid' ≠ uid, e'.Runs uid' ↔ e.Runs uid' := fun uid' hk => by
    rw [he', External.runs_died hk]
  have hruns' : e'.Runs uid → e.Runs uid := fun hrun => by
    rw [he'] at hrun
    exact External.runs_of_died hrun
  have hagrees : ∀ uid' held, AgreesAt scfg w e uid' held → AgreesAt scfg w e' uid' held := by
    intro uid' held hheld
    rw [he']
    exact hheld
  obtain rfl : name = w.bundleOf uid := of_decide_eq_true hnamed
  have hnamed' : w.Named e' := he' ▸ h.named.update hnamed
  have hreport : report scfg w (s, e) (.processStateChanged uid pid (w.bundleOf uid) false) =
      (handleProcessStatusChanged scfg (w.queries e') uid (w.bundleOf uid) false s, e') := by
    rw [he']
    rfl
  have hok : e.Runs uid → (∃ uid', e'.Runs uid' ∧ w.bundleOf uid' = w.bundleOf uid) →
      e'.Runs uid := by
    rw [he']
    exact hok
  obtain ⟨apps, trustlist, happs, hframe⟩ :=
    processDied_frame scfg (w.queries e') uid (w.bundleOf uid) h.enabled
  rw [hreport, hframe]
  have hothers : ∀ uid' ≠ uid, apps.lookup uid' = s.netLimitedAppInfo.lookup uid' :=
    fun uid' hk => by rw [happs, if_neg fun hc => hk hc.1]
  have hstate : (w.queries e').appRunningState (w.bundleOf uid) = some false ↔
      ¬ ∃ uid', e'.Runs uid' ∧ w.bundleOf uid' = w.bundleOf uid := by
    simp [World.queries, External.Runs]
  by_cases hgone : ∃ uid', e'.Runs uid' ∧ w.bundleOf uid' = w.bundleOf uid
  · -- the app has another process
    have hkept : apps.lookup uid = s.netLimitedAppInfo.lookup uid := by
      rw [happs, if_neg fun hc => hstate.1 hc.2 hgone]
    refine h.change uid hnamed' hothers hruns (fun uid' _ _ held => hagrees uid' held) ?_
      fun info hinfo => ?_
    · rw [← AList.lookup_isSome, hkept, AList.lookup_isSome, h.tracked uid]
      exact ⟨fun hrun => hok hrun hgone, hruns'⟩
    · rw [hkept] at hinfo
      obtain ⟨hname, hheld⟩ := h.agrees uid info hinfo
      exact ⟨hname, hagrees uid _ hheld⟩
  · have herased : apps.lookup uid = none := by
      rw [happs, if_pos ⟨rfl, hstate.2 hgone⟩]
    refine h.change uid hnamed' hothers hruns (fun uid' _ _ held => hagrees uid' held) ?_
      fun info hinfo => ?_
    · refine iff_of_false (fun hmem => ?_) fun hrun' => hgone ⟨uid, hrun', rfl⟩
      rw [← AList.lookup_isSome, herased] at hmem
      cases hmem
    · rw [herased] at hinfo
      cases hinfo

/-- So does a change of the allow list. -/
theorem Settled.allowListChanged (h : Settled scfg w (s, e)) {name : String}
    {allowType : BitVec 32} {added : Bool}
    (hnamed : w.describes (.allowListChanged uid name allowType added) = true)
    (hok : KeepsDecisions scfg w (s, e) (.allowListChanged uid name allowType added)) :
    Settled scfg w (report scfg w (s, e) (.allowListChanged uid name allowType added)) := by
  obtain ⟨e', he'⟩ : ∃ e', e' = e.update (.allowListChanged uid name allowType added) := ⟨_, rfl⟩
  have hprocesses : e'.processes = e.processes := by
    rw [he', External.update]
  have hruns : ∀ uid', e'.Runs uid' ↔ e.Runs uid' := fun uid' => by
    rw [External.Runs, hprocesses, External.Runs]
  have hreported : ∀ uid', w.reported (w.condition = .dayStandby) e' uid' =
      w.reported (w.condition = .dayStandby) e uid' := fun uid' => by
    rw [he']
    rfl
  have hnamed' : w.Named e' := he' ▸ h.named.update hnamed
  obtain rfl : name = w.bundleOf uid := of_decide_eq_true hnamed
  have hreport : report scfg w (s, e) (.allowListChanged uid (w.bundleOf uid) allowType added) =
      (updateExemptionList scfg (w.queries e') uid (w.bundleOf uid) allowType added s, e') := by
    rw [he']
    rfl
  rw [hreport]
  unfold updateExemptionList
  by_cases hmask : allowType &&& AllowType.network.mask = 0
  · rw [if_pos hmask]
    have hallow : ∀ name, name ∈ w.allowNames e' .network ↔ name ∈ w.allowNames e .network :=
      fun name => by rw [he', World.allowNames_of_mask hmask]
    refine h.change uid hnamed' (fun _ _ => rfl) (fun uid' _ => hruns uid')
      (fun uid' _ _ held hheld => hheld.congr (hallow _) (hreported uid')) ?_ fun info hinfo => ?_
    · exact (h.tracked uid).trans (hruns uid).symm
    · obtain ⟨hname, hheld⟩ := h.agrees uid info hinfo
      exact ⟨hname, hheld.congr (hallow _) (hreported uid)⟩
  · obtain ⟨hrun, hshared, hended⟩ := hok hmask
    rw [if_neg hmask, if_neg (by simpa using h.enabled)]
    have hagrees : ∀ uid' ≠ uid, e.Runs uid' → ∀ held, AgreesAt scfg w e uid' held →
        AgreesAt scfg w e' uid' held := by
      intro uid' hk hruns held hheld
      refine hheld.congr ?_ (hreported uid')
      rw [he']
      exact World.allowNames_shared hshared hk hruns
    cases added with
    | true =>
      rw [if_pos rfl]
      refine h.add _ hnamed' hprocesses (hrun rfl) .exemption hagrees fun held hheld => ?_
      unfold AgreesAt
      rw [hreported]
      refine hheld.grantExemption (World.isReported_reported _ _ _ _) ?_
      rw [he']
      exact World.mem_allowNames_added hmask
    | false =>
      rw [if_neg Bool.false_ne_true]
      refine h.remove _ hnamed' hprocesses hagrees fun info hinfo _ hheld => ?_
      obtain ⟨hnot, hlisted⟩ := hended rfl info hinfo
      unfold AgreesAt
      rw [hreported]
      rw [← he'] at hnot
      exact hheld.revokeExemption (World.isReported_reported _ _ _ _) hnot hlisted

/-- The name that a task is filed under is that of its bundle. -/
theorem taskName_eq {bundleName : String}
    (h : bundleName = "" ∨ bundleName = w.bundleOf uid) :
    (if bundleName = "" then (w.queries e).clientBundleName uid else bundleName) =
      w.bundleOf uid := by
  split_ifs with hempty
  · rfl
  · exact h.resolve_left hempty

/-- Outside the night sleep mode only continuous tasks are skipped, and these by night: no type of
them is exempted then. -/
theorem skipsStartedTask_iff (q : Queries) (type : String) (typeId : Int)
    (hnightSleep : s.isNightSleepMode = false) :
    skipsStartedTask q type typeId s = true ↔
      q.condition = .nightStandby ∧ type = "continuous_task" := by
  simp [skipsStartedTask, hnightSleep, nightExemptionTaskType]

/-- What is held of another app agrees after a report about a task as before. -/
theorem AgreesAt.taskMoved {type : String} {uid' : Int} {held : ExemptionFlag}
    (h : AgreesAt scfg w e uid' held) (hmoved : w.TaskMoved type uid e e') (hk : uid' ≠ uid) :
    AgreesAt scfg w e' uid' held :=
  h.congr (by rw [hmoved.allowNames]) (hmoved.reported_of_ne hk)

/-- A task that does not count leaves the record settled. -/
theorem Settled.taskIgnored (h : Settled scfg w (s, e)) {type : String}
    (hmoved : w.TaskMoved type uid e e') (hnamed : w.Named e')
    (hself : w.reported (w.condition = .dayStandby) e' uid =
      w.reported (w.condition = .dayStandby) e uid) : Settled scfg w (s, e') := by
  refine h.change uid hnamed (fun _ _ => rfl) (fun uid' _ => hmoved.runs uid')
    (fun uid' hk _ held hheld => hheld.taskMoved hmoved hk) ?_ fun info hinfo => ?_
  · rw [hmoved.runs, h.tracked]
  · obtain ⟨hname, hheld⟩ := h.agrees uid info hinfo
    exact ⟨hname, hheld.congr (by rw [hmoved.allowNames]) hself⟩

/-- The start of a task that counts sets its flag. -/
theorem Settled.taskStarted (h : Settled scfg w (s, e)) {type : String} {flag : ExemptionFlag}
    (hmoved : w.TaskMoved type uid e e') (hnamed : w.Named e')
    (hflag : bgtaskExemptionFlagMap type = some flag)
    (hcounted : type = "continuous_task" → w.condition = .dayStandby)
    (hself : e'.HasTask type uid) (hruns : e.Runs uid)
    (hlists : ¬ (w.bundleOf uid ∈ scfg.conditionalRestrictNetApp ∧
      w.Restricts e .network (w.bundleOf uid))) :
    Settled scfg w
      (addExemptionFlag scfg (w.queries e') uid (w.bundleOf uid) flag s, e') := by
  refine h.add _ hnamed hmoved.processes hruns (isGrant_of_bgtask hflag)
    (fun uid' hk _ held hheld => hheld.taskMoved hmoved hk) fun held hheld => ?_
  unfold AgreesAt
  rw [hmoved.reported_start hflag hcounted hself, hmoved.allowNames]
  exact hheld.grantTask (isTaskFlag_of_bgtask hflag) (World.isReported_reported _ _ _ _) hlists

/-- The stop of the last task of a type takes its flag. -/
theorem Settled.taskStopped (h : Settled scfg w (s, e)) {type : String} {flag : ExemptionFlag}
    (hmoved : w.TaskMoved type uid e e') (hnamed : w.Named e')
    (hflag : bgtaskExemptionFlagMap type = some flag)
    (hlast : e.Runs uid → w.reported (w.condition = .dayStandby) e' uid &&& flag = 0) :
    Settled scfg w (removeExemptionFlag scfg (w.queries e') uid flag s, e') := by
  refine h.remove _ hnamed hmoved.processes
    (fun uid' hk _ held hheld => hheld.taskMoved hmoved hk) fun info _ hruns hheld => ?_
  unfold AgreesAt
  rw [hmoved.reported_stop hflag (hlast hruns), hmoved.allowNames]
  exact hheld.revokeTask (isTaskFlag_of_bgtask hflag)

/-- A report about a task that meets its condition leaves the record settled. -/
theorem Settled.bgTaskStatusChange (h : Settled scfg w (s, e)) {type bundleName : String}
    {started : Bool} {typeId : Int}
    (hnamed : w.describes (.bgTaskStatusChange type started uid bundleName typeId) = true)
    (hok : KeepsDecisions scfg w (s, e) (.bgTaskStatusChange type started uid bundleName typeId)) :
    Settled scfg w (report scfg w (s, e)
      (.bgTaskStatusChange type started uid bundleName typeId)) := by
  have hmoved := w.taskMoved_update e type bundleName started uid typeId
  have hnamed' : w.Named (e.update (.bgTaskStatusChange type started uid bundleName typeId)) :=
    h.named.update hnamed
  have hname : bundleName = "" ∨ bundleName = w.bundleOf uid := of_decide_eq_true hnamed
  have hreport : report scfg w (s, e) (.bgTaskStatusChange type started uid bundleName typeId) =
      (updateBgTaskAppStatus scfg
          (w.queries (e.update (.bgTaskStatusChange type started uid bundleName typeId)))
          type started uid bundleName typeId s,
        e.update (.bgTaskStatusChange type started uid bundleName typeId)) := rfl
  rw [hreport]
  unfold updateBgTaskAppStatus
  rw [if_neg (by simpa using h.enabled), taskName_eq hname]
  cases hflag : bgtaskExemptionFlagMap type with
  | none =>
    refine h.taskIgnored hmoved hnamed' (hmoved.reported_of_uncounted (fun flag hflag' => ?_) uid)
    rw [hflag] at hflag'
    cases hflag'
  | some flag =>
    dsimp only
    cases started with
    | true =>
      by_cases hskip : skipsStartedTask (w.queries (e.update
          (.bgTaskStatusChange type true uid bundleName typeId))) type typeId s = true
      · rw [if_pos ⟨rfl, hskip⟩]
        obtain ⟨hnight, hcontinuous⟩ := (skipsStartedTask_iff _ _ _ h.nightSleep).1 hskip
        refine h.taskIgnored hmoved hnamed'
          (hmoved.reported_of_uncounted (fun _ _ hcounted => ?_) uid)
        have hnight : w.condition = .nightStandby := hnight
        rw [hcounted hcontinuous] at hnight
        cases hnight
      · have hcounted : type = "continuous_task" → w.condition = .dayStandby := by
          intro hcontinuous
          cases hcondition : w.condition with
          | dayStandby => rfl
          | nightStandby =>
            exact absurd ((skipsStartedTask_iff _ _ _ h.nightSleep).2 ⟨hcondition, hcontinuous⟩)
              hskip
        have hskip : skipsStartedTask (w.queries (e.update
          (.bgTaskStatusChange type true uid bundleName typeId))) type typeId s = false := by
          simpa using hskip
        rw [if_neg (by simp [hskip]), if_pos rfl]
        obtain ⟨hruns, hlists⟩ := hok flag hflag hskip
        exact h.taskStarted hmoved hnamed' hflag hcounted
          ((External.hasTask_start _ _).2 (.inl ⟨rfl, rfl⟩)) hruns hlists
    | false =>
      rw [if_neg (by simp), if_neg Bool.false_ne_true]
      exact h.taskStopped hmoved hnamed' hflag (hok flag hflag)

/-- What a message must avoid suffices. -/
theorem Settled.report {s : NetworkStrategy × External} (h : Settled scfg w s)
    {message : StandbyMessage} (hnamed : w.describes message = true)
    (hok : KeepsDecisions scfg w s message) : Settled scfg w (report scfg w s message) := by
  obtain ⟨s, e⟩ := s
  cases message with
  | allowListChanged => exact h.allowListChanged hnamed hok
  | bgTaskStatusChange => exact h.bgTaskStatusChange hnamed hok
  | processStateChanged uid pid name isCreated =>
    cases isCreated with
    | true => exact h.processCreated hnamed hok
    | false => exact h.processDied hnamed hok
  | _ => cases hnamed

/-! ### Every run -/

/-- The strategy follows messages about the apps of the world. -/
def reportSystem (scfg : StrategyConfig) (w : World) (s : NetworkStrategy × External) :
    Lts.System (NetworkStrategy × External) StandbyMessage where
  init := s
  step s message := if w.describes message then some (report scfg w s message) else none

/-- The phase that enables the firewall builds the record from what is reported then. -/
def enabled (scfg : StrategyConfig) (w : World) (e : External) (s : NetworkStrategy) :
    NetworkStrategy :=
  handleEvent scfg (w.queries e) (.phaseTransit .sleep 0 SleepStatePhase.APP_RES_DEEP) s

/-- What enabling the firewall leaves. -/
theorem enabled_eq (scfg : StrategyConfig) (w : World) (e : External)
    (hdisabled : s.isFirewallEnabled = false) : ∃ posted, enabled scfg w e s =
      { s with
        isFirewallEnabled := true
        isIdleMaintence := false
        netLimitedAppInfo := w.netApps scfg e
        policy := true
        trustlist := s.trustlist ∪ NetLimitedApps.exemptedUids w.condition (w.netApps scfg e)
        posted := posted } := by
  obtain ⟨posted, hon⟩ := setFirewallStatus_true (q := w.queries e)
    { s with netLimitedAppInfo := w.netApps scfg e }
  have heq : enabled scfg w e s =
      { setFirewallStatus (w.queries e) true { s with netLimitedAppInfo := w.netApps scfg e } with
        isFirewallEnabled := true, isIdleMaintence := false } := by
    unfold enabled handleEvent startNetLimit enableNetworkFirewall
    dsimp only
    rw [if_neg (by simp), if_neg (by simp [hdisabled])]
    rfl
  exact ⟨posted, by rw [heq, hon]; rfl⟩

/-- The strategy starts settled. -/
theorem settled_enabled (scfg : StrategyConfig) (hdisabled : s.isFirewallEnabled = false)
    (hnightSleep : s.isNightSleepMode = false) (hnamed : w.Named e) :
    Settled scfg w (enabled scfg w e s, e) := by
  obtain ⟨posted, heq⟩ := enabled_eq scfg w e hdisabled
  rw [heq]
  refine ⟨rfl, hnightSleep, hnamed, fun uid => ?_, fun uid info hinfo => ?_⟩
  · dsimp only
    rw [← AList.lookup_isSome, lookup_netApps_of_named scfg hnamed]
    split_ifs with hruns
    · exact iff_of_true rfl hruns
    · exact iff_of_false (by simp) hruns
  · dsimp only at hinfo
    rw [lookup_netApps_of_named scfg hnamed] at hinfo
    split_ifs at hinfo
    cases hinfo
    exact ⟨rfl, agreesAt_netApp⟩

/-- It stays settled over every run whose messages meet their condition. -/
theorem settled_reachable {start s : NetworkStrategy × External} (hstart : Settled scfg w start)
    (h : Lts.ReachableUnder (reportSystem scfg w start) (KeepsDecisions scfg w) s) :
    Settled scfg w s := by
  refine h.invariant hstart fun {s t message} _ hok hs hi => ?_
  simp only [reportSystem, Option.ite_none_right_eq_some, Option.some.injEq] at hs
  obtain ⟨hnamed, rfl⟩ := hs
  exact hi.report hnamed hok

/-- A test that suffices for what a message must avoid. -/
def keepsDecisionsTest (scfg : StrategyConfig) (w : World) (s : NetworkStrategy × External)
    (message : StandbyMessage) : Bool :=
  match message with
  | .allowListChanged uid name _ added =>
    (∀ info ∈ s.2.processes, w.bundleOf info.uid = name → info.uid = uid) ∧
      if added then s.2.Runs uid
      else name ∉ w.allowNames (s.2.update message) .network ∧ name ∉ w.restricted .network
  | .bgTaskStatusChange _ true uid _ _ =>
    s.2.Runs uid ∧ w.bundleOf uid ∉ scfg.conditionalRestrictNetApp
  | .bgTaskStatusChange type false uid _ _ =>
    match bgtaskExemptionFlagMap type with
    | none => true
    | some flag => w.reported (w.condition = .dayStandby) (s.2.update message) uid &&& flag = 0
  | .processStateChanged uid _ _ true =>
    w.reported (w.condition = .dayStandby) s.2 uid &&& ~~~UNRESTRICTED = 0
  | _ => false

/-- The test suffices. -/
theorem keepsDecisions_of_test (scfg : StrategyConfig) (w : World) (s : NetworkStrategy × External)
    (message : StandbyMessage) (h : keepsDecisionsTest scfg w s message = true) :
    KeepsDecisions scfg w s message := by
  cases message with
  | allowListChanged uid name allowType added =>
    obtain ⟨hshared, h⟩ := of_decide_eq_true h
    refine fun _ => ⟨?_, .inr ?_, ?_⟩
    · rintro rfl
      exact h
    · rintro uid' ⟨info, hmem, rfl⟩ hbundle
      exact hshared info hmem hbundle
    · rintro rfl info -
      exact ⟨h.1, fun hlisted => absurd hlisted h.2⟩
  | bgTaskStatusChange type started uid bundleName typeId =>
    cases started with
    | true =>
      obtain ⟨hruns, hnot⟩ := of_decide_eq_true h
      exact fun _ _ _ => ⟨hruns, fun hlists => hnot hlists.1⟩
    | false =>
      intro flag hflag _
      unfold keepsDecisionsTest at h
      dsimp only at h
      rw [hflag] at h
      exact of_decide_eq_true h
  | processStateChanged uid pid name isCreated =>
    cases isCreated with
    | true => exact fun _ => of_decide_eq_true h
    | false => cases h
  | _ => cases h

end NetworkStrategy

end DeviceStandby
