import DeviceStandby.Strategy.Decisions

/-!
# Background tasks that are outstanding

One bit stands for all tasks of a type that an app has. Here both strategies follow reports of
background tasks by day, each stop preceded by its start, and a ghost counts the tasks that were
started and not stopped (`taskSystem`). While an app has one, the app keeps the flag of its type,
and is on the trust list and not proxied unless the restrict list names it, in every run that avoids
what the two `KeepsTasks` name: above all no stop of a task while another of its type is
outstanding.
-/

namespace DeviceStandby

open ExemptionTypeFlag AssocMap

/-! ## Flags -/

section
variable {flag task : ExemptionFlag} {type type' : String}

/-- Every type of task has its own flag. -/
theorem bgtaskExemptionFlagMap_inj (h : bgtaskExemptionFlagMap type = some flag)
    (h' : bgtaskExemptionFlagMap type' = some flag) : type = type' := by
  unfold bgtaskExemptionFlagMap at h h'
  split_ifs at h h' <;> subst_vars <;> first | rfl | (cases h; cases h')

/-- What setting a task flag does to the task flags and to RESTRICTED. -/
theorem granted_bits (htask : IsTaskFlag task) : ∀ held : ExemptionFlag,
    (held ||| task) &&& task ≠ 0 ∧ (held ||| task) &&& ~~~RESTRICTED &&& task ≠ 0 ∧
    (held ||| task) &&& RESTRICTED = held &&& RESTRICTED ∧
    (held ||| task) &&& ~~~RESTRICTED &&& RESTRICTED = 0 := by
  cases htask <;> decide

/-- The start of a task keeps the flags of the others. -/
theorem granted_keeps (hflag : IsTaskFlag flag) (htask : IsTaskFlag task) : ∀ held : ExemptionFlag,
    held &&& flag ≠ 0 →
      (held ||| task) &&& flag ≠ 0 ∧ (held ||| task) &&& ~~~RESTRICTED &&& flag ≠ 0 := by
  cases hflag <;> cases htask <;> decide

/-- What taking a task flag does to the others and to RESTRICTED. -/
theorem revoked_keeps (hflag : IsTaskFlag flag) (htask : IsTaskFlag task) (hne : flag ≠ task) :
    ∀ held : ExemptionFlag, held &&& flag ≠ 0 →
      held &&& ~~~task &&& flag ≠ 0 ∧ held &&& ~~~task &&& ~~~UNRESTRICTED ≠ 0 := by
  cases hflag <;> cases htask <;> first | exact absurd rfl hne | decide

/-- The stop of a task keeps the restriction as it was. -/
theorem revoked_bits (htask : IsTaskFlag task) : ∀ held : ExemptionFlag,
    held &&& ~~~task &&& RESTRICTED = held &&& RESTRICTED := by
  cases htask <;> decide

/-- What the platform reports does not restrict. -/
theorem reported_restricted : ∀ flag : ExemptionFlag, IsReported flag →
    flag &&& RESTRICTED = 0 ∧ (flag ||| EXEMPTION) &&& RESTRICTED = 0 := by
  decide

/-- RESTRICTED comes from one of the two lists. -/
theorem configured_restricted {allowed restricted conditional : Prop} [Decidable allowed]
    [Decidable restricted] [Decidable conditional] (hreported : IsReported flag)
    (h : configuredFlag allowed restricted conditional flag &&& RESTRICTED ≠ 0) :
    restricted ∨ conditional := by
  obtain ⟨hplain, hallowed⟩ := reported_restricted flag hreported
  have hzero : ∀ flag : ExemptionFlag, flag ||| 0 = flag := fun _ => BitVec.or_zero
  by_contra hnot
  obtain ⟨hrestricted, hconditional⟩ := not_or.1 hnot
  apply h
  unfold configuredFlag flagIf
  rw [if_neg hrestricted, hzero, if_neg fun hc => hconditional hc.1]
  split_ifs
  · exact hallowed
  · rw [hzero]
    exact hplain

/-- A task exempts an app that is not restricted. -/
theorem isExempted_of_task (h : flag &&& task ≠ 0) (hrestricted : flag &&& RESTRICTED = 0) :
    isExempted flag = true := by
  refine isExempted_iff.2 (.inr ⟨hrestricted, fun hzero => h ?_⟩)
  rw [hzero]
  exact BitVec.zero_and

end

/-! ## The reports -/

/-- Reports of background tasks, each stop preceded by its start, and the tasks that are
outstanding. -/
def taskSystem {σ : Type} (w : World) (report : σ × External → StandbyMessage → σ × External)
    (s : σ × External) : Lts.System ((σ × External) × List (String × Int)) StandbyMessage where
  init := (s, [])
  step s message :=
    match message with
    | .bgTaskStatusChange type started uid bundleName typeId =>
      if w.describes message ∧ (-2 ^ 31 ≤ uid ∧ uid < 2 ^ 31) ∧
          (started = false → (type, uid) ∈ s.2) then
        some (report s.1 (.bgTaskStatusChange type started uid bundleName typeId),
          if started then (type, uid) :: s.2 else s.2.erase (type, uid))
      else none
    | _ => none

/-- A report of a type without a flag adds no task that has one. -/
theorem mem_of_unflagged {outstanding : List (String × Int)} {type type' : String} {uid uid' : Int}
    {flag : ExemptionFlag} {started : Bool} (hnone : bgtaskExemptionFlagMap type = none)
    (hflag : bgtaskExemptionFlagMap type' = some flag)
    (hmem : (type', uid') ∈
      if started then (type, uid) :: outstanding else outstanding.erase (type, uid)) :
    (type', uid') ∈ outstanding := by
  cases started with
  | true =>
    refine (List.mem_cons.1 hmem).resolve_left fun heq => ?_
    rw [(Prod.mk.inj heq).1, hnone] at hflag
    cases hflag
  | false => exact List.mem_of_mem_erase hmem

/-! ## The network strategy -/

namespace NetworkStrategy
variable {scfg : StrategyConfig} {w : World} {s : NetworkStrategy} {e : External} {q : Queries}
  {outstanding outstanding' : List (String × Int)} {uid : Int} {type : String}
  {flag : ExemptionFlag}

/-- What a report must avoid. -/
def KeepsTasks (scfg : StrategyConfig) (w : World)
    (s : (NetworkStrategy × External) × List (String × Int)) : StandbyMessage → Prop
  /- A stopped task is the last of its type. -/
  | .bgTaskStatusChange type false uid _ _ => (type, uid) ∉ s.2.erase (type, uid)
  /- An app that gets recorded is not exempted before, or is on the trust list. -/
  | .bgTaskStatusChange _ true uid _ _ =>
    uid ∈ s.1.1.netLimitedAppInfo ∨ toUInt32 uid ∈ s.1.1.trustlist ∨
      isFlagExempted w.condition (NetLimitedApps.createdApp scfg (w.queries s.1.2) uid
        (w.bundleOf uid)).appExemptionFlag = false
  | _ => True

/-- The apps with outstanding tasks have their flags, and who is exempted is on the trust list. An
app is restricted by the restrict list, or by the conditional list, which a task outweighs. -/
structure ServesTasks (scfg : StrategyConfig) (w : World) (s : NetworkStrategy)
    (outstanding : List (String × Int)) : Prop where
  enabled : s.isFirewallEnabled = true
  nightSleep : s.isNightSleepMode = false
  typed : s.netLimitedAppInfo.Typed
  names : ∀ uid info, s.netLimitedAppInfo.lookup uid = some info →
    info.name ∈ scfg.conditionalRestrictNetApp → w.bundleOf uid ∈ scfg.conditionalRestrictNetApp
  restricted : ∀ uid info, s.netLimitedAppInfo.lookup uid = some info →
    info.appExemptionFlag &&& RESTRICTED ≠ 0 → info.name ∈ w.restricted .network ∨
      w.bundleOf uid ∈ scfg.conditionalRestrictNetApp
  tasks : ∀ type uid flag, (type, uid) ∈ outstanding → bgtaskExemptionFlagMap type = some flag →
    ∃ info, s.netLimitedAppInfo.lookup uid = some info ∧ info.appExemptionFlag &&& flag ≠ 0 ∧
      (info.appExemptionFlag &&& RESTRICTED ≠ 0 → info.name ∈ w.restricted .network)
  trusted : ∀ uid, s.netLimitedAppInfo.Exempts .dayStandby uid → toUInt32 uid ∈ s.trustlist

/-- By day an app with an outstanding task is on the trust list, unless the restrict list names
it. -/
theorem ServesTasks.serves (h : ServesTasks scfg w s outstanding) (hmem : (type, uid) ∈ outstanding)
    (hflag : bgtaskExemptionFlagMap type = some flag) :
    ∃ info, s.netLimitedAppInfo.lookup uid = some info ∧ info.appExemptionFlag &&& flag ≠ 0 ∧
      (toUInt32 uid ∈ s.trustlist ∨ info.name ∈ w.restricted .network) := by
  obtain ⟨info, hinfo, hbit, hrestricted⟩ := h.tasks type uid flag hmem hflag
  refine ⟨info, hinfo, hbit, ?_⟩
  by_cases hres : info.appExemptionFlag &&& RESTRICTED = 0
  · refine .inl (h.trusted uid ⟨info, hinfo, ?_⟩)
    rw [isFlagExempted_eq, countedFlag, if_neg (by decide)]
    exact isExempted_of_task hbit hres
  · exact .inr (hrestricted hres)

/-- One app changes. -/
theorem ServesTasks.change (h : ServesTasks scfg w s outstanding) (huid : IsInt32 uid)
    {apps : NetLimitedApps} {trustlist : Finset Int} {changed : NetLimtedAppInfo}
    (happs : ∀ uid', apps.lookup uid' =
      if uid' = uid then some changed else s.netLimitedAppInfo.lookup uid')
    (hname : changed.name ∈ scfg.conditionalRestrictNetApp →
      w.bundleOf uid ∈ scfg.conditionalRestrictNetApp)
    (hrestricted : changed.appExemptionFlag &&& RESTRICTED ≠ 0 →
      changed.name ∈ w.restricted .network ∨ w.bundleOf uid ∈ scfg.conditionalRestrictNetApp)
    (hothers : ∀ type' uid', uid' ≠ uid → (type', uid') ∈ outstanding' →
      (type', uid') ∈ outstanding)
    (hown : ∀ type' flag', (type', uid) ∈ outstanding' → bgtaskExemptionFlagMap type' = some flag' →
      changed.appExemptionFlag &&& flag' ≠ 0 ∧
        (changed.appExemptionFlag &&& RESTRICTED ≠ 0 → changed.name ∈ w.restricted .network))
    (htrust : ∀ u ≠ toUInt32 uid, u ∈ s.trustlist → u ∈ trustlist)
    (htrusted : isFlagExempted .dayStandby changed.appExemptionFlag = true →
      toUInt32 uid ∈ trustlist) :
    ServesTasks scfg w { s with netLimitedAppInfo := apps, trustlist := trustlist }
      outstanding' where
  enabled := h.enabled
  nightSleep := h.nightSleep
  typed uid' info hinfo := by
    rw [happs] at hinfo
    split_ifs at hinfo with hk
    · rw [hk]
      exact huid
    · exact h.typed uid' info hinfo
  names uid' info hinfo := by
    dsimp only at hinfo
    rw [happs] at hinfo
    split_ifs at hinfo with hk
    · cases hinfo
      rw [hk]
      exact hname
    · exact h.names uid' info hinfo
  restricted uid' info hinfo := by
    dsimp only at hinfo
    rw [happs] at hinfo
    split_ifs at hinfo with hk
    · cases hinfo
      rw [hk]
      exact hrestricted
    · exact h.restricted uid' info hinfo
  tasks type' uid' flag' hmem hflag' := by
    dsimp only
    rw [happs]
    split_ifs with hk
    · rw [hk] at hmem
      exact ⟨changed, rfl, hown type' flag' hmem hflag'⟩
    · exact h.tasks type' uid' flag' (hothers type' uid' hk hmem) hflag'
  trusted uid' := by
    rintro ⟨info, hinfo, hex⟩
    dsimp only at hinfo ⊢
    rw [happs] at hinfo
    split_ifs at hinfo with hk
    · cases hinfo
      rw [hk]
      exact htrusted hex
    · refine htrust _ (fun heq => hk ?_) (h.trusted uid' ⟨info, hinfo, hex⟩)
      exact toUInt32_inj (h.typed uid' info hinfo) huid heq

/-- What is known of an app, as it is recorded or as it is created. -/
theorem ServesTasks.app (h : ServesTasks scfg w s outstanding)
    (hrestrict : ∀ name, name ∈ q.restrictSet .network → name ∈ w.restricted .network)
    (hok : uid ∈ s.netLimitedAppInfo ∨ toUInt32 uid ∈ s.trustlist ∨
      isFlagExempted .dayStandby (NetLimitedApps.createdApp scfg q uid
        (w.bundleOf uid)).appExemptionFlag = false) :
    let info := (s.netLimitedAppInfo.lookup uid).getD
      (NetLimitedApps.createdApp scfg q uid (w.bundleOf uid))
    (info.name ∈ scfg.conditionalRestrictNetApp →
      w.bundleOf uid ∈ scfg.conditionalRestrictNetApp) ∧
    (info.appExemptionFlag &&& RESTRICTED ≠ 0 → info.name ∈ w.restricted .network ∨
      w.bundleOf uid ∈ scfg.conditionalRestrictNetApp) ∧
    (isFlagExempted .dayStandby info.appExemptionFlag = true → toUInt32 uid ∈ s.trustlist) := by
  cases hlookup : s.netLimitedAppInfo.lookup uid with
  | some info =>
    exact ⟨h.names uid info hlookup, h.restricted uid info hlookup,
      fun hex => h.trusted uid ⟨info, hlookup, hex⟩⟩
  | none =>
    dsimp only [Option.getD_none]
    refine ⟨?_, fun hres => ?_, fun hex => ?_⟩
    · rw [NetLimitedApps.createdApp, NetLimitedApps.appOf_eq]
      exact id
    · rw [NetLimitedApps.createdApp, NetLimitedApps.appOf_eq] at hres ⊢
      refine (configured_restricted ?_ hres).imp_left (hrestrict _)
      unfold flagIf
      split_ifs <;> decide
    · rcases hok with hmem | htrust | hnot
      · rw [← AList.lookup_isSome, hlookup] at hmem
        cases hmem
      · exact htrust
      · rw [hex] at hnot
        cases hnot

/-- A task starts. -/
theorem ServesTasks.start (h : ServesTasks scfg w s outstanding) (huid : IsInt32 uid)
    (hday : q.condition = .dayStandby) (hrestrict : ∀ name, name ∈ q.restrictSet .network →
      name ∈ w.restricted .network)
    (hflag : bgtaskExemptionFlagMap type = some flag)
    (hok : uid ∈ s.netLimitedAppInfo ∨ toUInt32 uid ∈ s.trustlist ∨
      isFlagExempted .dayStandby (NetLimitedApps.createdApp scfg q uid
        (w.bundleOf uid)).appExemptionFlag = false) :
    ServesTasks scfg w (addExemptionFlag scfg q uid (w.bundleOf uid) flag s)
      ((type, uid) :: outstanding) := by
  have htask := isTaskFlag_of_bgtask hflag
  have hgrant := isGrant_of_bgtask hflag
  obtain ⟨info, changed, hinfo, hchangedFlag, hchangedName, apps, trustlist, happs, hmem, hframe⟩ :=
    addExemptionFlag_eq scfg q uid (w.bundleOf uid) h.enabled hgrant
  rw [hday] at hmem
  obtain ⟨hname, hrestricted, htrusted⟩ := h.app hrestrict hok
  rw [← hinfo] at hname hrestricted htrusted
  obtain ⟨hset, hsetClear, hsame, hclear⟩ := granted_bits htask info.appExemptionFlag
  rw [hframe]
  refine h.change huid happs ?_ ?_ ?_ ?_ (fun u _ hu => (hmem u).2 (.inl hu)) fun hex => ?_
  · rw [hchangedName]
    exact hname
  · rw [hchangedFlag, hchangedName, grantedFlag]
    split_ifs with hconditional
    · exact fun _ => .inr hconditional
    · rw [hsame]
      exact hrestricted
  · intro type' uid' hne hmem
    rcases List.mem_cons.1 hmem with heq | hmem
    · cases heq
      exact absurd rfl hne
    · exact hmem
  · intro type' flag' hmem hflag'
    rw [hchangedFlag, hchangedName, grantedFlag]
    constructor
    · rcases List.mem_cons.1 hmem with heq | hmem
      · cases heq
        obtain rfl : flag' = flag := Option.some.inj (hflag'.symm.trans hflag)
        split_ifs
        · exact hsetClear
        · exact hset
      · obtain ⟨info', hinfo', hbit, -⟩ := h.tasks type' uid flag' hmem hflag'
        rw [hinfo', Option.getD_some] at hinfo
        subst hinfo
        obtain ⟨hkept, hkeptClear⟩ := granted_keeps (isTaskFlag_of_bgtask hflag') htask _ hbit
        split_ifs
        · exact hkeptClear
        · exact hkept
    · split_ifs with hconditional
      · exact fun hres => absurd hclear hres
      · rw [hsame]
        exact fun hres => (hrestricted hres).resolve_right hconditional
  · cases hheld : isFlagExempted .dayStandby info.appExemptionFlag with
    | true => exact (hmem _).2 (.inl (htrusted hheld))
    | false =>
      refine (hmem _).2 (.inr ⟨rfl, ?_⟩)
      rw [getExemptedFlag_eq, hheld, isExempted_of_isFlagExempted hex]
      rfl

/-- A task stops, the last of its type. -/
theorem ServesTasks.stop (h : ServesTasks scfg w s outstanding)
    (hday : q.condition = .dayStandby) (huid : IsInt32 uid)
    (hflag : bgtaskExemptionFlagMap type = some flag)
    (hlast : (type, uid) ∉ outstanding') (hsub : ∀ task ∈ outstanding', task ∈ outstanding) :
    ServesTasks scfg w (removeExemptionFlag scfg q uid flag s) outstanding' := by
  have htask := isTaskFlag_of_bgtask hflag
  cases hinfo : s.netLimitedAppInfo.lookup uid with
  | none =>
    have heq : removeExemptionFlag scfg q uid flag s = s := by
      unfold removeExemptionFlag
      rw [hinfo, ite_self]
    rw [heq]
    exact { h with tasks := fun type' uid' flag' hmem => h.tasks type' uid' flag' (hsub _ hmem) }
  | some info =>
    obtain ⟨changed, hchangedFlag, hchangedName, apps, trustlist, happs, hmem, hframe⟩ :=
      removeExemptionFlag_eq scfg q h.enabled hinfo flag
    rw [hday] at hmem
    have hrevoked : isFlagExempted .dayStandby changed.appExemptionFlag = true →
        isFlagExempted .dayStandby info.appExemptionFlag = true := by
      rw [hchangedFlag]
      exact isFlagExempted_revoked (isGrant_of_bgtask hflag) _
    rw [hframe]
    refine h.change huid happs ?_ ?_ (fun type' uid' _ hmem => hsub _ hmem) ?_
      (fun u hne hu => (hmem u).2 ⟨hu, fun _ heq => absurd heq hne⟩) fun hex => ?_
    · rw [hchangedName]
      exact h.names uid info hinfo
    · rw [hchangedFlag, hchangedName, revokedFlag]
      split_ifs with hconditional
      · exact fun _ => .inr (h.names uid info hinfo hconditional.1)
      · rw [revoked_bits htask]
        exact h.restricted uid info hinfo
    · intro type' flag' hmem hflag'
      obtain ⟨info', hinfo', hbit, hrestricted⟩ := h.tasks type' uid flag' (hsub _ hmem) hflag'
      obtain rfl := Option.some.inj (hinfo.symm.trans hinfo')
      have hne : flag' ≠ flag := by
        rintro rfl
        rw [bgtaskExemptionFlagMap_inj hflag' hflag] at hmem
        exact hlast hmem
      obtain ⟨hkept, hnonzero⟩ := revoked_keeps (isTaskFlag_of_bgtask hflag') htask hne _ hbit
      -- the conditional list does not restrict an app that has another task
      rw [hchangedFlag, hchangedName, revokedFlag, if_neg fun hc => hnonzero hc.2,
        revoked_bits htask]
      exact ⟨hkept, hrestricted⟩
    · refine (hmem _).2 ⟨h.trusted uid ⟨info, hinfo, hrevoked hex⟩, fun _ _ => ?_⟩
      rw [getExemptedFlag_eq, hex]
      rfl

/-- What a report must avoid suffices. -/
theorem ServesTasks.step {start : NetworkStrategy × External}
    {s t : (NetworkStrategy × External) × List (String × Int)} {message : StandbyMessage}
    (hday : w.condition = .dayStandby)
    (h : ServesTasks scfg w s.1.1 s.2)
    (hok : KeepsTasks scfg w s message)
    (hs : (taskSystem w (report scfg w) start).step s message = some t) :
    ServesTasks scfg w t.1.1 t.2 := by
  obtain ⟨⟨s, e⟩, outstanding⟩ := s
  cases message with
  | bgTaskStatusChange type started uid bundleName typeId =>
    simp only [taskSystem, Option.ite_none_right_eq_some, Option.some.injEq] at hs
    obtain ⟨⟨hnamed, huid, hpreceded⟩, rfl⟩ := hs
    obtain ⟨q, hq⟩ : ∃ q, q = w.queries (e.update
      (.bgTaskStatusChange type started uid bundleName typeId)) := ⟨_, rfl⟩
    have hqday : q.condition = .dayStandby := by
      rw [hq]
      exact hday
    have hname : bundleName = "" ∨ bundleName = w.bundleOf uid := of_decide_eq_true hnamed
    have hskip : skipsStartedTask q type typeId s = false := by
      simp [skipsStartedTask, show s.isNightSleepMode = false from h.nightSleep, hqday]
    show ServesTasks scfg w (handleEvent scfg (w.queries (e.update
      (.bgTaskStatusChange type started uid bundleName typeId)))
        (.bgTaskStatusChange type started uid bundleName typeId) s) _
    rw [← hq]
    unfold handleEvent updateBgTaskAppStatus
    dsimp only
    rw [if_neg (by simpa using h.enabled)]
    cases hflag : bgtaskExemptionFlagMap type with
    | none =>
      refine { h with tasks := fun type' uid' flag' hmem hflag' => ?_ }
      exact h.tasks type' uid' flag' (mem_of_unflagged hflag hflag' hmem) hflag'
    | some flag =>
      dsimp only
      rw [if_neg (by simp [hskip]), hq, taskName_eq hname, ← hq]
      cases started with
      | true =>
        rw [if_pos rfl, if_pos rfl]
        refine h.start huid hqday (fun name hmem => ?_) hflag ?_
        · rw [hq, World.mem_restrictSet] at hmem
          exact hmem.1
        · rw [hq, ← hday]
          exact hok
      | false =>
        rw [if_neg Bool.false_ne_true, if_neg Bool.false_ne_true]
        exact h.stop hqday huid hflag hok fun task hmem => List.mem_of_mem_erase hmem
  | _ => cases hs

/-- When the firewall is enabled no task is outstanding. -/
theorem servesTasks_enabled (scfg : StrategyConfig) (hday : w.condition = .dayStandby)
    (htyped : ∀ info ∈ e.processes, IsInt32 info.uid)
    (hnames : ∀ info ∈ e.processes, info.processName ∈ scfg.conditionalRestrictNetApp →
      w.bundleOf info.uid ∈ scfg.conditionalRestrictNetApp)
    (hdisabled : s.isFirewallEnabled = false) (hnightSleep : s.isNightSleepMode = false) :
    ServesTasks scfg w (enabled scfg w e s) [] := by
  obtain ⟨posted, heq⟩ := enabled_eq scfg w e hdisabled
  have hinfo : ∀ uid info, (w.netApps scfg e).lookup uid = some info → ∃ process ∈ e.processes,
      process.uid = uid ∧ info = w.netApp scfg e uid process.processName := by
    intro uid info hinfo
    rw [World.lookup_netApps] at hinfo
    obtain ⟨process, hfind, rfl⟩ := Option.map_eq_some_iff.1 hinfo
    exact ⟨process, List.mem_of_find?_eq_some hfind, by simpa using List.find?_some hfind, rfl⟩
  rw [heq]
  refine ⟨rfl, hnightSleep, fun uid info hlookup => ?_, fun uid info hlookup hname => ?_,
    fun uid info hlookup hres => ?_, fun type uid flag hmem => ?_, fun uid hex => ?_⟩
  · obtain ⟨process, hmem, rfl, -⟩ := hinfo uid info hlookup
    exact htyped process hmem
  · obtain ⟨process, hmem, rfl, rfl⟩ := hinfo uid info hlookup
    exact hnames process hmem hname
  · obtain ⟨process, hmem, rfl, rfl⟩ := hinfo uid info hlookup
    rcases configured_restricted (World.isReported_reported _ _ _ _) hres with hlist | hlist
    · exact .inl hlist.1
    · exact .inr (hnames process hmem hlist)
  · cases hmem
  · refine Finset.mem_union_right _ (NetLimitedApps.mem_exemptedUids.2 ⟨uid, ?_, rfl⟩)
    rw [hday]
    exact hex

end NetworkStrategy

/-! ## The running lock strategy -/

namespace RunningLockStrategy
variable {scfg : StrategyConfig} {w : World} {s : RunningLockStrategy} {e : External}
  {outstanding outstanding' : List (String × Int)} {uid : Int} {type : String}
  {flag : ExemptionFlag}

/-- What a report must avoid: a stopped task of a recorded app is the last of its type. -/
def KeepsTasks (w : World) (s : (RunningLockStrategy × External) × List (String × Int)) :
    StandbyMessage → Prop
  | .bgTaskStatusChange type false uid _ _ =>
    keyAt w uid ∈ s.1.1.record.proxiedAppInfo → (type, uid) ∉ s.2.erase (type, uid)
  | _ => True

/-- The recorded apps with outstanding tasks have their flags, and what is proxied belongs to apps
that are restricted. An app is restricted by the restrict list alone. -/
structure ServesTasks (w : World) (s : RunningLockStrategy) (outstanding : List (String × Int)) :
    Prop where
  held : s.Held
  proxied : s.isProxied = true
  apps : ∀ key info, s.record.proxiedAppInfo.lookup key = some info → ∃ uid, key = keyAt w uid ∧
    (info.appExemptionFlag &&& RESTRICTED ≠ 0 → w.bundleOf uid ∈ w.restricted .runningLock)
  tasks : ∀ type uid flag, (type, uid) ∈ outstanding → bgtaskExemptionFlagMap type = some flag →
    ∀ info, s.record.proxiedAppInfo.lookup (keyAt w uid) = some info →
      info.appExemptionFlag &&& flag ≠ 0

/-- An app with an outstanding task is not proxied, unless the restrict list names it. -/
theorem ServesTasks.serves (h : ServesTasks w s outstanding) (hmem : (type, uid) ∈ outstanding)
    (hflag : bgtaskExemptionFlagMap type = some flag) :
    (∀ info, s.record.proxiedAppInfo.lookup (keyAt w uid) = some info →
      info.appExemptionFlag &&& flag ≠ 0) ∧
    ∀ lock ∈ s.proxied, lock.2 = uid → w.bundleOf uid ∈ w.restricted .runningLock := by
  refine ⟨h.tasks type uid flag hmem hflag, fun lock hlock huid => ?_⟩
  obtain ⟨key, info, hinfo, hres, hlist⟩ :=
    ProxyRecord.mem_proxiedAppList.1 (h.held.locks lock hlock).2.2
  obtain ⟨uid', rfl, hlisted⟩ := h.apps key info hinfo
  obtain rfl : uid' = uid := by
    rw [← huid, (ProxyRecord.mem_proxiedAppList_app.1 hlist).2, h.held.keyed.uid hinfo]
  refine hlisted fun hzero => ?_
  have hex := isExempted_of_task (h.tasks type uid' flag hmem hflag info hinfo) hzero
  rw [ProxiedProcInfo.restricted, hex] at hres
  cases hres

/-- The flags of one app are edited. -/
theorem ServesTasks.edit (h : ServesTasks w s outstanding) (f : ProxiedProcInfo → ProxiedProcInfo)
    {t : RunningLockStrategy} (hheld : t.Held)
    (hrestricted : ∀ info, (f info).appExemptionFlag &&& RESTRICTED =
      info.appExemptionFlag &&& RESTRICTED)
    (hothers : ∀ type' uid', uid' ≠ uid → (type', uid') ∈ outstanding' →
      (type', uid') ∈ outstanding)
    (hown : ∀ type' flag', (type', uid) ∈ outstanding' → bgtaskExemptionFlagMap type' = some flag' →
      ∀ info, s.record.proxiedAppInfo.lookup (keyAt w uid) = some info →
        (f info).appExemptionFlag &&& flag' ≠ 0)
    (ht : ∃ proxied, t = { s.modifyApp (keyAt w uid) f with proxied := proxied }) :
    ServesTasks w t outstanding' := by
  obtain ⟨proxied, rfl⟩ := ht
  refine ⟨hheld, h.proxied, fun key info hinfo => ?_,
    fun type' uid' flag' hmem hflag' info hinfo => ?_⟩
  · dsimp only [RunningLockStrategy.modifyApp] at hinfo
    rw [Map.lookup_modify] at hinfo
    split_ifs at hinfo with hk
    · obtain ⟨info', hinfo', rfl⟩ := Option.map_eq_some_iff.1 hinfo
      rw [hrestricted]
      exact h.apps key info' hinfo'
    · exact h.apps key info hinfo
  · dsimp only [RunningLockStrategy.modifyApp] at hinfo
    rw [Map.lookup_modify] at hinfo
    split_ifs at hinfo with hk
    · obtain ⟨info', hinfo', rfl⟩ := Option.map_eq_some_iff.1 hinfo
      obtain rfl := keyAt_inj.1 hk
      exact hown type' flag' hmem hflag' info' hinfo'
    · refine h.tasks type' uid' flag' (hothers type' uid' (fun heq => hk ?_) hmem) hflag' info hinfo
      rw [heq]

/-- What a report must avoid suffices. -/
theorem ServesTasks.step {start : RunningLockStrategy × External}
    {s t : (RunningLockStrategy × External) × List (String × Int)} {message : StandbyMessage}
    (h : ServesTasks w s.1.1 s.2) (hok : KeepsTasks w s message)
    (hs : (taskSystem w (report scfg w) start).step s message = some t) :
    ServesTasks w t.1.1 t.2 := by
  obtain ⟨⟨s, e⟩, outstanding⟩ := s
  cases message with
  | bgTaskStatusChange type started uid bundleName typeId =>
    simp only [taskSystem, Option.ite_none_right_eq_some, Option.some.injEq] at hs
    obtain ⟨⟨hnamed, -, hpreceded⟩, rfl⟩ := hs
    have hname : bundleName = "" ∨ bundleName = w.bundleOf uid := of_decide_eq_true hnamed
    have hproxied : s.isProxied = true := h.proxied
    show ServesTasks w (updateBgTaskAppStatus (w.queries (e.update
      (.bgTaskStatusChange type started uid bundleName typeId))) type started uid bundleName s) _
    unfold updateBgTaskAppStatus
    rw [NetworkStrategy.taskName_eq hname]
    cases hflag : bgtaskExemptionFlagMap type with
    | none =>
      refine { h with tasks := fun type' uid' flag' hmem hflag' => ?_ }
      exact h.tasks type' uid' flag' (mem_of_unflagged hflag hflag' hmem) hflag'
    | some flag =>
      dsimp only
      have htask := isTaskFlag_of_bgtask hflag
      cases started with
      | true =>
        rw [if_pos rfl, if_pos rfl]
        refine h.edit (·.addFlag flag) (h.held.addExemptionFlag uid _ flag)
          (fun info => (granted_bits htask _).2.2.1) (fun type' uid' hne hmem => ?_)
          (fun type' flag' hmem hflag' info hinfo => ?_)
          (addExemptionFlag_frame_of_proxied hproxied _ _ _)
        · refine (List.mem_cons.1 hmem).resolve_left fun heq => hne (Prod.mk.inj heq).2
        · rcases List.mem_cons.1 hmem with heq | hmem
          · rw [(Prod.mk.inj heq).1, hflag] at hflag'
            cases hflag'
            exact (granted_bits htask _).1
          · exact (granted_keeps (isTaskFlag_of_bgtask hflag') htask _
              (h.tasks type' uid flag' hmem hflag' info hinfo)).1
      | false =>
        rw [if_neg Bool.false_ne_true, if_neg Bool.false_ne_true]
        refine h.edit (·.removeFlag flag)
          (h.held.removeExemptionFlag (bgtaskExemptionFlagMap_restricted hflag) (.inl hproxied))
          (fun info => revoked_bits htask _) (fun _ _ _ hmem => List.mem_of_mem_erase hmem)
          (fun type' flag' hmem hflag' info hinfo => ?_) (removeExemptionFlag_frame s _ _ _)
        have hne : flag' ≠ flag := by
          rintro rfl
          rw [bgtaskExemptionFlagMap_inj hflag' hflag] at hmem
          exact hok (AList.lookup_isSome.1 (by rw [hinfo]; rfl)) hmem
        exact (revoked_keeps (isTaskFlag_of_bgtask hflag') htask hne _
          (h.tasks type' uid flag' (List.mem_of_mem_erase hmem) hflag' info hinfo)).1
  | _ => cases hs

/-- When the proxy starts no task is outstanding. -/
theorem servesTasks_started (scfg : StrategyConfig) (w : World) (e : External)
    (hproxied : s.isProxied = false) (hempty : s.proxied = ∅) :
    ServesTasks w (started scfg w e s) [] := by
  obtain ⟨proxied, heq⟩ := started_eq scfg w e hproxied
  have hheld : (started scfg w e s).Held := by
    unfold started handleEvent startProxy
    dsimp only
    rw [if_neg (by simp [hproxied]), if_neg (by simp)]
    rcases startProxyInner_spec (w.queries e) hempty with
      ⟨hnone, -⟩ | ⟨record, proxied, -, hkeyed, hlocks, hstart⟩
    · rw [World.lockApps_ok] at hnone
      cases hnone
    · rw [hstart]
      exact ⟨hkeyed, fun lock hmem => ⟨rfl, rfl, ((hlocks lock).1 hmem).2⟩⟩
  refine ⟨hheld, by rw [heq], fun key info hinfo => ?_, fun type uid flag hmem => ?_⟩
  · rw [heq] at hinfo
    obtain ⟨uid, hinstalled, rfl⟩ := key_of_lockApps hinfo
    rw [World.lookup_lockApps] at hinfo
    split_ifs at hinfo
    cases hinfo
    refine ⟨uid, rfl, fun hres => ?_⟩
    exact ((configured_restricted (World.isReported_reported _ _ _ _) hres).resolve_right id).1
  · cases hmem

end RunningLockStrategy

/-- In every run of task reports by day that avoid the defects: while an app has a task that was
started and not stopped, its entry has the flag of the task's type, it is on the trust list unless
the restrict list names it, and none of its running locks is proxied unless the restrict list names
its bundle. -/
theorem outstanding_task_exempts (scfg : StrategyConfig) (w : World) (e : External)
    (hday : w.condition = .dayStandby) (htyped : ∀ info ∈ e.processes, IsInt32 info.uid)
    (hnames : ∀ info ∈ e.processes, info.processName ∈ scfg.conditionalRestrictNetApp →
      w.bundleOf info.uid ∈ scfg.conditionalRestrictNetApp)
    (n : NetworkStrategy) (hdisabled : n.isFirewallEnabled = false)
    (hnightSleep : n.isNightSleepMode = false) (r : RunningLockStrategy)
    (hproxied : r.isProxied = false) (hempty : r.proxied = ∅) :
    (∀ s, Lts.ReachableUnder
        (taskSystem w (NetworkStrategy.report scfg w) (n.enabled scfg w e, e))
        (NetworkStrategy.KeepsTasks scfg w) s →
      ∀ type uid flag, (type, uid) ∈ s.2 → bgtaskExemptionFlagMap type = some flag →
        ∃ info, s.1.1.netLimitedAppInfo.lookup uid = some info ∧
          info.appExemptionFlag &&& flag ≠ 0 ∧
          (toUInt32 uid ∈ s.1.1.trustlist ∨ info.name ∈ w.restricted .network)) ∧
    (∀ s, Lts.ReachableUnder
        (taskSystem w (RunningLockStrategy.report scfg w) (r.started scfg w e, e))
        (RunningLockStrategy.KeepsTasks w) s →
      ∀ type uid flag, (type, uid) ∈ s.2 → bgtaskExemptionFlagMap type = some flag →
        (∀ info, s.1.1.record.proxiedAppInfo.lookup (mapKey uid (w.bundleOf uid)) = some info →
          info.appExemptionFlag &&& flag ≠ 0) ∧
        ∀ lock ∈ s.1.1.proxied, lock.2 = uid → w.bundleOf uid ∈ w.restricted .runningLock) := by
  constructor
  · intro s h type uid flag hmem hflag
    have hstart := NetworkStrategy.servesTasks_enabled scfg hday htyped hnames hdisabled hnightSleep
    have hserves : NetworkStrategy.ServesTasks scfg w s.1.1 s.2 :=
      h.invariant (I := fun s => NetworkStrategy.ServesTasks scfg w s.1.1 s.2) hstart
        fun _ hok hs hi => hi.step hday hok hs
    exact hserves.serves hmem hflag
  · intro s h type uid flag hmem hflag
    have hstart := RunningLockStrategy.servesTasks_started scfg w e hproxied hempty
    have hserves : RunningLockStrategy.ServesTasks w s.1.1 s.2 :=
      h.invariant (I := fun s => RunningLockStrategy.ServesTasks w s.1.1 s.2) hstart
        fun _ hok hs hi => hi.step hok hs
    exact hserves.serves hmem hflag

/-- A test that suffices for what a report must avoid. -/
def keepsTasksTest (s : (NetworkStrategy × External) × List (String × Int)) :
    StandbyMessage → Bool
  | .bgTaskStatusChange type false uid _ _ => (type, uid) ∉ s.2.erase (type, uid)
  | .bgTaskStatusChange _ true uid _ _ => uid ∈ s.1.1.netLimitedAppInfo
  | _ => true

/-- The test suffices. -/
theorem keepsTasks_of_test (scfg : StrategyConfig) (w : World)
    (s : (NetworkStrategy × External) × List (String × Int)) (message : StandbyMessage)
    (h : keepsTasksTest s message = true) : NetworkStrategy.KeepsTasks scfg w s message := by
  cases message with
  | bgTaskStatusChange type started uid bundleName typeId =>
    cases started with
    | true => exact .inl (of_decide_eq_true h)
    | false =>
      have hlast : (type, uid) ∉ s.2.erase (type, uid) := of_decide_eq_true h
      exact hlast
  | _ => trivial

/-- An app starts a task of each of two types and stops one of them. -/
def sampleReports : List StandbyMessage :=
  [.bgTaskStatusChange "transient_task" true 10 "app" 0,
    .bgTaskStatusChange "continuous_task" true 10 "" 1,
    .bgTaskStatusChange "transient_task" false 10 "app" 0]

/-- The other task is outstanding, and exempts the app. -/
theorem outstanding_task_of_sampleReports :
    (∃ s, Lts.Reachable (taskSystem sampleWorld
        (NetworkStrategy.report sampleStrategies sampleWorld)
        (NetworkStrategy.enabled sampleStrategies sampleWorld sampleExternal {},
          sampleExternal)) s ∧
      s.2 = [("continuous_task", 10)] ∧ 10 ∈ s.1.1.trustlist) ∧
    ∃ s, Lts.Reachable (taskSystem sampleWorld
        (RunningLockStrategy.report sampleStrategies sampleWorld)
        (RunningLockStrategy.started sampleStrategies sampleWorld sampleExternal {},
          sampleExternal)) s ∧
      s.2 = [("continuous_task", 10)] ∧ ∀ lock ∈ s.1.1.proxied, lock.2 ≠ 10 := by
  obtain ⟨hnet, hlock⟩ := outstanding_task_exempts sampleStrategies sampleWorld sampleExternal rfl
    (by unfold IsInt32; decide) (by decide) {} rfl rfl {} rfl rfl
  constructor
  · obtain ⟨s, hr, hs⟩ := (taskSystem sampleWorld
      (NetworkStrategy.report sampleStrategies sampleWorld)
      (NetworkStrategy.enabled sampleStrategies sampleWorld sampleExternal {},
        sampleExternal)).exists_check (NetworkStrategy.KeepsTasks sampleStrategies sampleWorld)
      keepsTasksTest (keepsTasks_of_test sampleStrategies sampleWorld)
      (fun s => s.2 = [("continuous_task", 10)]) sampleReports (by decide)
    have hs : s.2 = [("continuous_task", 10)] := of_decide_eq_true hs
    obtain ⟨info, -, -, htrust⟩ := hnet s hr "continuous_task" 10 CONTINUOUS_TASK
      (by rw [hs]; exact List.mem_singleton_self _) rfl
    exact ⟨s, hr.reachable, hs, htrust.resolve_right List.not_mem_nil⟩
  · obtain ⟨s, hr, hs⟩ := (taskSystem sampleWorld
      (RunningLockStrategy.report sampleStrategies sampleWorld)
      (RunningLockStrategy.started sampleStrategies sampleWorld sampleExternal {},
        sampleExternal)).exists_check (RunningLockStrategy.KeepsTasks sampleWorld)
      (fun s message => match message with
        | .bgTaskStatusChange type false uid _ _ => (type, uid) ∉ s.2.erase (type, uid)
        | _ => true)
      (fun s message h => by
        cases message with
        | bgTaskStatusChange type started uid bundleName typeId =>
          cases started with
          | true => trivial
          | false => exact fun _ => of_decide_eq_true h
        | _ => trivial)
      (fun s => s.2 = [("continuous_task", 10)]) sampleReports (by decide)
    have hs : s.2 = [("continuous_task", 10)] := of_decide_eq_true hs
    obtain ⟨-, hnone⟩ := hlock s hr "continuous_task" 10 CONTINUOUS_TASK
      (by rw [hs]; exact List.mem_singleton_self _) rfl
    exact ⟨s, hr.reachable, hs, fun lock hmem huid => List.not_mem_nil (hnone lock hmem huid)⟩

/-- Not in every run, for neither strategy: an app that starts two tasks of a type and stops one has
no flag for the other. -/
theorem not_always_outstanding_task_exempts :
    (¬ ∀ (scfg : StrategyConfig) (w : World) (e : External), w.condition = .dayStandby → ∀ s,
      Lts.Reachable (taskSystem w (NetworkStrategy.report scfg w)
        (NetworkStrategy.enabled scfg w e {}, e)) s →
      ∀ type uid flag, (type, uid) ∈ s.2 → bgtaskExemptionFlagMap type = some flag →
        ∃ info, s.1.1.netLimitedAppInfo.lookup uid = some info ∧
          info.appExemptionFlag &&& flag ≠ 0 ∧
          (toUInt32 uid ∈ s.1.1.trustlist ∨ info.name ∈ w.restricted .network)) ∧
    ¬ ∀ (scfg : StrategyConfig) (w : World) (e : External), w.condition = .dayStandby → ∀ s,
      Lts.Reachable (taskSystem w (RunningLockStrategy.report scfg w)
        (RunningLockStrategy.started scfg w e {}, e)) s →
      ∀ type uid flag, (type, uid) ∈ s.2 → bgtaskExemptionFlagMap type = some flag →
        (∀ info, s.1.1.record.proxiedAppInfo.lookup (mapKey uid (w.bundleOf uid)) = some info →
          info.appExemptionFlag &&& flag ≠ 0) ∧
        ∀ lock ∈ s.1.1.proxied, lock.2 = uid → w.bundleOf uid ∈ w.restricted .runningLock := by
  constructor
  · intro h
    obtain ⟨s, hr, hs, hinfo⟩ := (taskSystem sampleWorld
      (NetworkStrategy.report sampleStrategies sampleWorld)
      (NetworkStrategy.enabled sampleStrategies sampleWorld sampleExternal {},
        sampleExternal)).exists_run
      [.bgTaskStatusChange "transient_task" true 10 "app" 0,
        .bgTaskStatusChange "transient_task" true 10 "app" 0,
        .bgTaskStatusChange "transient_task" false 10 "app" 0]
      (Lts.System.runMeets_of_forall (fun _ _ => True) fun _ _ _ => trivial)
      (fun s => s.2 = [("transient_task", 10)] ∧
        s.1.1.netLimitedAppInfo.lookup 10 = some ⟨"app", 0⟩) (by decide)
    obtain ⟨info, hinfo', hbit, -⟩ := h _ _ _ rfl s hr "transient_task" 10 TRANSIENT_TASK
      (by rw [hs]; exact List.mem_singleton_self _) rfl
    rw [hinfo] at hinfo'
    cases hinfo'
    revert hbit
    decide
  · intro h
    obtain ⟨s, hr, hs, hproxied⟩ := (taskSystem sampleWorld
      (RunningLockStrategy.report sampleStrategies sampleWorld)
      (RunningLockStrategy.started sampleStrategies sampleWorld sampleExternal {},
        sampleExternal)).exists_run
      [.bgTaskStatusChange "transient_task" true 10 "app" 0,
        .bgTaskStatusChange "transient_task" true 10 "app" 0,
        .bgTaskStatusChange "transient_task" false 10 "app" 0]
      (Lts.System.runMeets_of_forall (fun _ _ => True) fun _ _ _ => trivial)
      (fun s => s.2 = [("transient_task", 10)] ∧ (7, 10) ∈ s.1.1.proxied) (by decide)
    have hlisted := (h _ _ _ rfl s hr "transient_task" 10 TRANSIENT_TASK
      (by rw [hs]; exact List.mem_singleton_self _) rfl).2 (7, 10) hproxied rfl
    cases hlisted

end DeviceStandby
