import DeviceStandby.Allow.Query
import DeviceStandby.Allow.Reload

/-!
# Whether a request becomes visible

A request that is accepted lasts until its end, over releases, other requests and restarts, unless
its app is unapplied or removed (`Lasting.step`). Whether queries for its reason code report it is
another matter: the record of an app keeps the reason code of the request that created it, and
queries skip records of another one (`visible_iff`).
-/

open AssocMap BitMask Json

namespace DeviceStandby

/-- A step unapplies types of an app, whichever they are, or removes the app. -/
def AllowAction.Removes (uid : Int) (name : String) : AllowAction → Prop
  | .unapply uid' name' _ true => uid' = uid ∧ name' = name
  | .removeApp uid' bundleName _ => uid' = uid ∧ bundleName = name
  | _ => False

/-- The step does not unapply or remove an app, nor reload without its process. -/
def AllowAction.Spares (uid : Int) (name : String) (s : AllowService) (a : AllowAction) : Prop :=
  ¬ a.Removes uid name ∧
    match a with
    | .reload processes _ | .restart processes _ =>
      ∀ record, s.allowInfoMap.lookup (mapKey uid name) = some record →
        record.isRunning processes.getPidAndProcName = true
    | _ => True

/-- An app is allowed a type until a deadline, under a reason code, in a list that the file holds as
well. -/
structure Lasting (uid : Int) (name : String) (k : Nat) (deadline : Int) (reasonCode : Nat)
    (s : AllowService) : Prop where
  synced : s.file = some s.allowInfoMap.parseToJson
  reason : ∀ record, s.allowInfoMap.lookup (mapKey uid name) = some record →
    record.reasonCode = reasonCode
  until_deadline : ∃ e, s.endTime? (mapKey uid name) k = some e ∧ deadline ≤ e

section
variable {resourceConfig : ResourceConfigMap} {s t : AllowService} {a : AllowAction} {uid : Int}
  {name : String} {k reasonCode : Nat} {deadline : Int}

/-- A release does not change reason codes. -/
theorem reasonCode_unapplyAllowResInner {uid' : Int} {name' : String} {allowType : BitVec 32}
    {removeAll : Bool} (hkept : s.allowInfoMap.WellKept)
    (h : ∀ record, s.allowInfoMap.lookup (mapKey uid name) = some record →
      record.reasonCode = reasonCode) :
    ∀ record, (s.unapplyAllowResInner uid' name' allowType removeAll).allowInfoMap.lookup
      (mapKey uid name) = some record → record.reasonCode = reasonCode := by
  obtain ⟨heq, -⟩ | ⟨old, hold, hreleased⟩ :=
    AllowService.unapplyAllowResInner_cases uid' name' allowType removeAll hkept
  · rwa [heq]
  · intro record hlookup
    rw [hreleased.lookup] at hlookup
    split_ifs at hlookup with hkey hzero
    · cases hlookup
      exact h old (hkey ▸ hold)
    · exact h record hlookup

/-- A release keeps the file what the list is. -/
theorem synced_unapplyAllowResInner {uid' : Int} {name' : String} {allowType : BitVec 32}
    {removeAll : Bool} (hkept : s.allowInfoMap.WellKept)
    (h : s.file = some s.allowInfoMap.parseToJson) :
    (s.unapplyAllowResInner uid' name' allowType removeAll).file =
      some (s.unapplyAllowResInner uid' name' allowType removeAll).allowInfoMap.parseToJson := by
  obtain ⟨heq, -⟩ | ⟨old, -, hreleased⟩ :=
    AllowService.unapplyAllowResInner_cases uid' name' allowType removeAll hkept
  · rwa [heq]
  · exact hreleased.file

/-- A request keeps the reason code of the record that it finds. -/
theorem reasonCode_applied {request : ResourceRequest} {pid : Int} {condition : BitVec 32} :
    (s.applied resourceConfig condition request pid).1.reasonCode =
      ((s.allowInfoMap.lookup (mapKey request.uid request.name)).map AllowRecord.reasonCode).getD
        request.reasonCode := by
  obtain ⟨-, -, -, hcode⟩ := updateRecord_fields s.bootTime s.handlerTime
    (s.recordFor request pid).1 resourceConfig condition request
  rw [AllowService.applied, hcode, AllowService.recordFor]
  cases s.allowInfoMap.lookup (mapKey request.uid request.name) <;> rfl

/-- A reload keeps an app that runs. -/
theorem Lasting.parsePersistentData {processes : Processes} {monotonicTime : Int}
    {u : AllowService} (h : Lasting uid name k deadline reasonCode s) (hfits : s.allowInfoMap.Sound)
    (hfile : u.file = s.file) (hmap : u.allowInfoMap = s.allowInfoMap ∨ u.allowInfoMap = ∅)
    (hrunning : ∀ record, s.allowInfoMap.lookup (mapKey uid name) = some record →
      record.isRunning processes.getPidAndProcName = true) :
    Lasting uid name k deadline reasonCode (u.parsePersistentData processes monotonicTime) := by
  obtain ⟨e, he, hdeadline⟩ := h.until_deadline
  obtain ⟨record, hlookup, he⟩ := Option.bind_eq_some_iff.1 he
  have hrun := hrunning record hlookup
  have hprocesses : processes.getPidAndProcName.entries ≠ [] := by
    intro hnil
    rw [AllowRecord.isRunning, AList.lookup, hnil] at hrun
    cases hrun
  have hentries : s.allowInfoMap.entries ≠ [] := by
    intro hnil
    rw [AList.lookup, hnil] at hlookup
    cases hlookup
  have hfile' : u.file = some s.allowInfoMap.parseToJson := hfile.trans h.synced
  have hfound : (u.parsePersistentData processes monotonicTime).allowInfoMap.lookup
      (mapKey uid name) = some record := by
    rw [lookup_parsePersistentData_parseToJson hfile' hfits.fits hprocesses hentries, hlookup]
    rcases hmap with hmap | hmap
    · rw [hmap, hlookup, Option.some_or, Option.filter_some, if_pos hrun]
    · rw [hmap, AList.lookup_empty, Option.none_or, Option.filter_some, if_pos hrun]
  refine ⟨?_, fun record' hlookup' => ?_, e, ?_, hdeadline⟩
  · have hroot : u.file.bind Json.asObject? =
        some (s.allowInfoMap.entries.map fun entry => (entry.1, entry.2.parseToJson)) := by
      rw [hfile', AllowInfoMap.parseToJson, if_neg (by rwa [List.isEmpty_iff])]
      rfl
    simp only [AllowService.parsePersistentData, List.isEmpty_iff, if_neg hprocesses, hroot]
    rfl
  · rw [hfound] at hlookup'
    cases hlookup'
    exact h.reason record hlookup
  · rw [AllowService.endTime?, hfound]
    exact he

/-- A removal that is not asked for takes what is over only. -/
theorem le_of_takes {removal : Removal} {bootTime e : Int} (hremoval : a.removal? s = some removal)
    (htakes : removal.Takes bootTime uid name k [e]) (hspares : ¬ a.Removes uid name) :
    e ≤ bootTime := by
  obtain ⟨⟨huid, hname, -⟩, hall | hover⟩ := htakes
  · refine absurd ?_ hspares
    cases a with
    | unapply uid' name' allowType removeAll =>
      cases hremoval
      cases hall
      exact ⟨huid, hname⟩
    | removeApp uid' bundleName resetAll =>
      obtain ⟨-, hremoval⟩ := Option.ite_none_right_eq_some.1 hremoval
      cases hremoval
      exact ⟨huid, hname⟩
    | release i =>
      obtain ⟨task, -, rfl⟩ := Option.map_eq_some_iff.1 hremoval
      cases hall
    | _ => cases hremoval
  · exact hover e List.mem_cons_self

/-- Until its deadline, an allowance lasts over every step that spares its app. -/
theorem Lasting.step (hsound : s.Sound) (h : Lasting uid name k deadline reasonCode s)
    (hstep : s.step resourceConfig a = some t) (hspares : a.Spares uid name s)
    (hclock : s.bootTime < deadline) : Lasting uid name k deadline reasonCode t := by
  have hkept := hsound.list.wellKept
  have hend : a.isReload = false →
      ∃ e, t.endTime? (mapKey uid name) k = some e ∧ deadline ≤ e := by
    intro hreload
    obtain ⟨e, he, hdeadline⟩ := h.until_deadline
    obtain ⟨hgrant, hkeep⟩ := endTime?_step hkept hstep hreload uid name k
    cases hg : a.grant? resourceConfig s uid name k with
    | some g =>
      refine ⟨_, hgrant g hg, ?_⟩
      rw [he]
      exact hdeadline.trans (le_max_left e g)
    | none =>
      rcases hkeep hg with hsame | ⟨-, e', removal, he', hremoval, htakes⟩
      · exact ⟨e, hsame.trans he, hdeadline⟩
      · -- it is not over, and the step does not remove it
        rw [he] at he'
        cases he'
        have hover := le_of_takes hremoval htakes hspares.1
        omega
  cases a with
  | advance boot handler =>
    obtain ⟨-, ht⟩ := Option.ite_none_right_eq_some.1 hstep
    cases ht
    exact ⟨h.synced, h.reason, hend rfl⟩
  | apply request pid condition =>
    cases hstep
    refine ⟨rfl, fun record hlookup => ?_, hend rfl⟩
    rw [AllowService.lookup_applyAllowResInner] at hlookup
    split_ifs at hlookup with hkey hzero
    · cases hlookup
      obtain ⟨e, he, -⟩ := h.until_deadline
      obtain ⟨old, hold, -⟩ := Option.bind_eq_some_iff.1 he
      rw [reasonCode_applied, ← hkey, hold]
      exact h.reason old hold
    · exact h.reason record hlookup
  | unapply uid' name' allowType removeAll =>
    cases hstep
    exact ⟨synced_unapplyAllowResInner hkept h.synced,
      reasonCode_unapplyAllowResInner hkept h.reason, hend rfl⟩
  | release i =>
    obtain ⟨task, -, -, rfl⟩ := AllowService.step_release hstep
    have hkept' : AllowInfoMap.WellKept
      { s with tasks := s.tasks.eraseIdx i }.allowInfoMap := hkept
    exact ⟨synced_unapplyAllowResInner hkept' h.synced,
      reasonCode_unapplyAllowResInner hkept' h.reason, hend rfl⟩
  | removeApp uid' bundleName resetAll =>
    cases hstep
    have hlast := hend rfl
    unfold AllowService.removeAppAllowRecord at hlast ⊢
    by_cases hready : s.isServiceReady = true
    · rw [if_neg (not_not_intro hready)] at hlast ⊢
      exact ⟨synced_unapplyAllowResInner hkept h.synced,
        reasonCode_unapplyAllowResInner hkept h.reason, hlast⟩
    · rw [if_pos hready]
      exact h
  | reload processes monotonicTime =>
    obtain ⟨-, ht⟩ := Option.ite_none_right_eq_some.1 hstep
    cases ht
    exact h.parsePersistentData hsound.list rfl (.inl rfl) hspares.2
  | restart processes monotonicTime =>
    obtain ⟨-, ht⟩ := Option.ite_none_right_eq_some.1 hstep
    cases ht
    exact h.parsePersistentData hsound.list rfl (.inr rfl) hspares.2

/-- A query reports a name for a type whatever the record of the app holds: the configuration always
allows it, or the record of another app of that name does. -/
def AllowService.ListsOtherwise (resourceConfig : ResourceConfigMap) (uid : Int) (name : String)
    (k reasonCode : Nat) (condition : BitVec 32) (s : AllowService) : Prop :=
  name ∈ resourceConfig.getEligiblePersistAllowConfig (allowTypeName.getD k "") condition true
    (reasonCode == REASON_APP_API) ∨
  ∃ uid' e record, uid' ≠ uid ∧ s.allowInfoMap.lookup (mapKey uid' name) = some record ∧
    record.reasonCode = reasonCode ∧ record.endTime? k = some e ∧ s.bootTime < e

/-- The clock of a run does not go back. -/
theorem bootTime_le_step (hstep : s.step resourceConfig a = some t) :
    s.bootTime ≤ t.bootTime := by
  cases a with
  | advance boot handler =>
    obtain ⟨-, ht⟩ := Option.ite_none_right_eq_some.1 hstep
    cases ht
    dsimp only
    omega
  | apply request pid condition =>
    cases hstep
    exact le_refl _
  | unapply uid' name' allowType removeAll =>
    cases hstep
    exact (AllowService.tasks_unapplyAllowResInner uid' name' allowType removeAll s).2.1.ge
  | release i =>
    obtain ⟨task, -, -, rfl⟩ := AllowService.step_release hstep
    exact (AllowService.tasks_unapplyAllowResInner task.uid task.name task.allowType false
      { s with tasks := s.tasks.eraseIdx i }).2.1.ge
  | removeApp uid' bundleName resetAll =>
    cases hstep
    unfold AllowService.removeAppAllowRecord
    split
    · exact le_refl _
    · exact (AllowService.tasks_unapplyAllowResInner uid' bundleName _ true s).2.1.ge
  | reload processes monotonicTime =>
    obtain ⟨-, ht⟩ := Option.ite_none_right_eq_some.1 hstep
    cases ht
    exact (bootTime_parsePersistentData s).ge
  | restart processes monotonicTime =>
    obtain ⟨-, ht⟩ := Option.ite_none_right_eq_some.1 hstep
    cases ht
    exact (bootTime_parsePersistentData { s with allowInfoMap := ∅, tasks := [] }).ge

/-- Until its deadline, an allowance lasts over every run that spares its app. -/
theorem Lasting.run {S : Lts.System AllowService AllowAction}
    (hS : S.step = AllowService.step resourceConfig) (hsound : S.init.Sound)
    (hinit : Lasting uid name k deadline reasonCode S.init)
    (h : Lts.ReachableUnder S (fun s a => a.Fits s ∧ a.Spares uid name s) s) :
    s.Sound ∧ (s.bootTime < deadline → Lasting uid name k deadline reasonCode s) := by
  refine h.invariant (I := fun s => s.Sound ∧
    (s.bootTime < deadline → Lasting uid name k deadline reasonCode s))
    ⟨hsound, fun _ => hinit⟩ ?_
  rintro s t a - ⟨hfits, hspares⟩ hstep ⟨hs, hlast⟩
  rw [hS] at hstep
  refine ⟨hs.step hstep hfits, fun hclock => ?_⟩
  have hbefore := lt_of_le_of_lt (bootTime_le_step hstep) hclock
  exact (hlast hbefore).step hs hstep hspares hbefore

/-- A request leaves its allowance, under the reason code of the record that it has found. -/
theorem lasting_applyAllowResInner {request : ResourceRequest} (pid : Int) {condition : BitVec 32}
    (hkept : s.allowInfoMap.WellKept) (hk : k < MAX_ALLOW_TYPE_NUM)
    (hbit : request.allowType.getLsbD k = true)
    (hpos : 0 < effectiveDuration resourceConfig condition request k) :
    Lasting request.uid request.name k
      (s.bootTime + 1000 * effectiveDuration resourceConfig condition request k)
      (((s.allowInfoMap.lookup (mapKey request.uid request.name)).map
        AllowRecord.reasonCode).getD request.reasonCode)
      (s.applyAllowResInner resourceConfig request pid condition) where
  synced := rfl
  reason record hlookup := by
    rw [AllowService.lookup_applyAllowResInner, if_pos rfl] at hlookup
    split_ifs at hlookup
    cases hlookup
    exact reasonCode_applied
  until_deadline := by
    have hend := AllowService.endTime?_applyAllowResInner resourceConfig request pid condition hkept
      (mapKey request.uid request.name) k
    rw [if_pos ⟨rfl, hk, (granted_iff hk).2 ⟨hbit, hpos⟩⟩, maxDuration_eq hk] at hend
    refine ⟨_, hend, ?_⟩
    cases s.endTime? (mapKey request.uid request.name) k with
    | none => exact le_refl _
    | some e => exact le_max_right _ _

/-- What a query for one type reports. -/
theorem exists_mem_getAllowListInner (uid : Int) (hkept : s.allowInfoMap.WellKept)
    (hk : k < MAX_ALLOW_TYPE_NUM) {condition : BitVec 32} :
    (∃ info ∈ s.getAllowListInner resourceConfig (BitVec.twoPow 32 k) reasonCode condition,
      info.name = name) ↔
    (∃ e record, s.allowInfoMap.lookup (mapKey uid name) = some record ∧
      record.reasonCode = reasonCode ∧ record.endTime? k = some e ∧ s.bootTime < e) ∨
    s.ListsOtherwise resourceConfig uid name k reasonCode condition := by
  have htype : ∀ j, (BitVec.twoPow 32 k).getLsbD j = true ↔ j = k := by
    intro j
    rw [BitVec.getLsbD_twoPow, Bool.and_eq_true, decide_eq_true_eq, decide_eq_true_eq]
    exact ⟨fun h => h.2.symm, fun h => ⟨lt_trans hk (by decide), h.symm⟩⟩
  have hall : (∃ info ∈ s.getAllowListInner resourceConfig (BitVec.twoPow 32 k) reasonCode
      condition, info.name = name) ↔
      ∃ info ∈ allowancesOf resourceConfig k reasonCode condition s, info.name = name := by
    rw [getAllowListInner_eq hkept]
    simp only [List.mem_map, mem_requestedAllowances, htype]
    constructor
    · rintro ⟨-, ⟨info, ⟨j, -, rfl, hinfo⟩, rfl⟩, hname⟩
      exact ⟨info, hinfo, hname⟩
    · rintro ⟨info, hinfo, hname⟩
      exact ⟨_, ⟨info, ⟨k, hk, rfl, hinfo⟩, rfl⟩, hname⟩
  rw [hall]
  constructor
  · rintro ⟨info, hinfo, rfl⟩
    rcases mem_allowancesOf.1 hinfo with
      ⟨key, record, e, hlookup, hreason, he, hlive, rfl⟩ | ⟨name, hname, rfl⟩
    · have hkey := (hkept key record hlookup).key
      subst hkey
      by_cases huid : record.uid = uid
      · subst huid
        exact .inl ⟨e, record, hlookup, hreason, he, hlive⟩
      · exact .inr (.inr ⟨record.uid, e, record, huid, hlookup, hreason, he, hlive⟩)
    · exact .inr (.inl hname)
  · have hrecord : ∀ uid' e record, s.allowInfoMap.lookup (mapKey uid' name) = some record →
        record.reasonCode = reasonCode → record.endTime? k = some e → s.bootTime < e →
        ∃ info ∈ allowancesOf resourceConfig k reasonCode condition s, info.name = name := by
      intro uid' e record hlookup hreason he hlive
      have hname : record.name = name := (mapKey_inj (hkept _ record hlookup).key).2.symm
      exact ⟨⟨BitVec.twoPow 32 k, record.name, e - s.bootTime⟩,
        mem_allowancesOf.2 (.inl ⟨_, record, e, hlookup, hreason, he, hlive, rfl⟩), hname⟩
    rintro (⟨e, record, hlookup, hreason, he, hlive⟩ | hpersist | ⟨uid', e, record, -, hlookup,
      hreason, he, hlive⟩)
    · exact hrecord uid e record hlookup hreason he hlive
    · exact ⟨_, mem_allowancesOf.2 (.inr ⟨name, hpersist, rfl⟩), rfl⟩
    · exact hrecord uid' e record hlookup hreason he hlive

/-- The types that pass the check have names. -/
theorem lt_of_checkAllowTypeInfo {allowType : BitVec 32} (h : checkAllowTypeInfo allowType = true)
    (hbit : allowType.getLsbD k = true) : k < MAX_ALLOW_TYPE_NUM := by
  rw [checkAllowTypeInfo, Bool.and_eq_true, decide_eq_true_eq, decide_eq_true_eq] at h
  by_contra hk
  have hlt : allowType.toNat < 2 ^ k :=
    lt_of_le_of_lt h.2 (lt_of_lt_of_le (by decide : MAX_ALLOW_TYPE_NUMBER.toNat < 2 ^ 7)
      (Nat.pow_le_pow_right (by decide) (not_lt.1 hk)))
  rw [BitVec.getLsbD, Nat.testBit_lt_two_pow hlt] at hbit
  cases hbit

/-- A request that is accepted is for types that have names. -/
theorem applyAllowResource_eq_ok {caller : Caller} {request : ResourceRequest}
    {condition : BitVec 32}
    (h : s.applyAllowResource resourceConfig caller request condition = .ok t) :
    checkAllowTypeInfo (caller.requestedType request.allowType) = true ∧
      t = s.applyAllowResInner resourceConfig
        { request with allowType := caller.requestedType request.allowType } caller.pid
        condition := by
  unfold AllowService.applyAllowResource at h
  by_cases hready : s.isServiceReady = true
  · cases hcheck : caller.checkCallerPermission request.reasonCode with
    | error e =>
      simp only [hready, hcheck] at h
      cases h
    | ok u =>
      by_cases hbad : ¬ checkAllowTypeInfo (caller.requestedType request.allowType) = true ∨
          request.uid < 0
      · simp only [hready, hcheck, if_pos hbad] at h
        cases h
      · by_cases hduration : request.duration < 0
        · simp only [hready, hcheck, if_neg hbad, if_pos hduration] at h
          cases h
        · simp only [hready, hcheck, if_neg hbad, if_neg hduration] at h
          cases h
          exact ⟨not_not.1 (not_or.1 hbad).1, rfl⟩
  · simp only [hready] at h
    cases h

/-- A query that is answered gives the list. -/
theorem getAllowList_eq_ok {caller : Caller} {allowType condition : BitVec 32}
    {list : List AllowInfo}
    (h : s.getAllowList resourceConfig caller allowType reasonCode condition = .ok list) :
    list = s.getAllowListInner resourceConfig allowType reasonCode condition := by
  unfold AllowService.getAllowList at h
  by_cases hready : s.isServiceReady = true
  · cases hcheck : caller.checkCallerPermission reasonCode with
    | error e =>
      simp only [hready, hcheck] at h
      cases h
    | ok u =>
      by_cases htype : ¬ checkAllowTypeInfo allowType = true
      · simp only [hready, hcheck, if_pos htype] at h
        cases h
      · simp only [hready, hcheck, if_neg htype] at h
        cases h
        rfl
  · simp only [hready] at h
    cases h

end

/-- After a request for a type that is allowed for a positive time, and until that time is over, a
query for its reason code reports the name exactly when the request has found no record of the app,
or one of the same reason code, or when the query reports that name otherwise. The runs in between
may do anything that does not unapply or remove the app. -/
theorem visible_iff (resourceConfig : ResourceConfigMap) {s₀ s₁ s₂ : AllowService}
    {caller caller' : Caller} {request : ResourceRequest} {condition condition' : BitVec 32}
    {k : Nat} {list : List AllowInfo}
    (h : Lts.ReachableUnder (allowSystem resourceConfig) (fun s a => a.Fits s) s₀)
    (hfits : (AllowAction.apply request caller.pid condition).Fits s₀)
    (happly : s₀.applyAllowResource resourceConfig caller request condition = .ok s₁)
    (hbit : (caller.requestedType request.allowType).getLsbD k = true)
    (hpos : 0 < effectiveDuration resourceConfig condition request k)
    (hlater : Lts.ReachableUnder { allowSystem resourceConfig with init := s₁ }
      (fun s a => a.Fits s ∧ a.Spares request.uid request.name s) s₂)
    (hclock :
      s₂.bootTime < s₀.bootTime + 1000 * effectiveDuration resourceConfig condition request k)
    (hquery : s₂.getAllowList resourceConfig caller' (BitVec.twoPow 32 k) request.reasonCode
      condition' = .ok list) :
    (∃ info ∈ list, info.name = request.name) ↔
      (∀ record, s₀.allowInfoMap.lookup (mapKey request.uid request.name) = some record →
        record.reasonCode = request.reasonCode) ∨
      s₂.ListsOtherwise resourceConfig request.uid request.name k request.reasonCode
        condition' := by
  have hsound₀ := sound_run id h
  obtain ⟨hcheck, rfl⟩ := applyAllowResource_eq_ok happly
  have hk := lt_of_checkAllowTypeInfo hcheck hbit
  have hpos' : 0 < effectiveDuration resourceConfig condition { request with
      allowType := caller.requestedType request.allowType } k := hpos
  have hlast := lasting_applyAllowResInner caller.pid hsound₀.list.wellKept hk hbit hpos'
  have hsound₁ : (s₀.applyAllowResInner resourceConfig { request with
      allowType := caller.requestedType request.allowType } caller.pid condition).Sound :=
    hsound₀.apply hfits
  obtain ⟨hsound₂, hlast₂⟩ := hlast.run rfl hsound₁ hlater
  obtain ⟨-, hcode, e, hend, hdeadline⟩ := hlast₂ hclock
  obtain ⟨record, hlookup, hend⟩ := Option.bind_eq_some_iff.1 hend
  rw [getAllowList_eq_ok hquery,
    exists_mem_getAllowListInner request.uid hsound₂.list.wellKept hk]
  refine or_congr_left ?_
  have hreported : (∃ e record, s₂.allowInfoMap.lookup (mapKey request.uid request.name) =
      some record ∧ record.reasonCode = request.reasonCode ∧ record.endTime? k = some e ∧
        s₂.bootTime < e) ↔ record.reasonCode = request.reasonCode := by
    constructor
    · rintro ⟨-, record', hlookup', hreason, -⟩
      rw [hlookup] at hlookup'
      cases hlookup'
      exact hreason
    · exact fun hreason => ⟨e, record, hlookup, hreason, hend, lt_of_lt_of_le hclock hdeadline⟩
  rw [hreported, hcode record hlookup]
  cases s₀.allowInfoMap.lookup (mapKey request.uid request.name) with
  | none => exact ⟨fun _ => nofun, fun _ => rfl⟩
  | some record => simp

/-- The caller of the samples, a native process. -/
def sampleCaller : Caller where
  pid := 100

/-- A request and a query a minute later. -/
theorem visible_iff_sample :
    ∃ s₁ s₂ list,
      ({} : AllowService).applyAllowResource sampleResourceConfig sampleCaller sampleRequest 1 =
        .ok s₁ ∧
      s₁.step sampleResourceConfig (.advance 60000 60000) = some s₂ ∧
      s₂.getAllowList sampleResourceConfig sampleCaller (BitVec.twoPow 32 3) 0 1 = .ok list ∧
      ∃ info ∈ list, info.name = "proc" := by
  have hinit : Lts.ReachableUnder (allowSystem sampleResourceConfig) (fun s a => a.Fits s) {} :=
    .init
  have hfits : (AllowAction.apply sampleRequest sampleCaller.pid 1).Fits {} :=
    ⟨by decide, by decide, by decide, by decide⟩
  have happly : ({} : AllowService).applyAllowResource sampleResourceConfig sampleCaller
      sampleRequest 1 = .ok _ := rfl
  have hpos : 0 < effectiveDuration sampleResourceConfig 1 sampleRequest 3 := by decide
  obtain ⟨s₂, hstep, hquery⟩ : ∃ s₂, (AllowService.applyAllowResInner sampleResourceConfig
      sampleRequest 100 1 {}).step sampleResourceConfig (.advance 60000 60000) = some s₂ ∧
      s₂.getAllowList sampleResourceConfig sampleCaller (BitVec.twoPow 32 3) 0 1 = .ok
        (s₂.getAllowListInner sampleResourceConfig (BitVec.twoPow 32 3) 0 1) ∧
      s₂.bootTime = 60000 := ⟨_, rfl, rfl, rfl⟩
  have hlater : Lts.ReachableUnder { allowSystem sampleResourceConfig with
      init := AllowService.applyAllowResInner sampleResourceConfig sampleRequest 100 1 {} }
      (fun s a => a.Fits s ∧ a.Spares 7 "proc" s) s₂ :=
    Lts.ReachableUnder.init.step (a := AllowAction.advance 60000 60000) ⟨trivial, id, trivial⟩ hstep
  have hclock : s₂.bootTime <
      0 + 1000 * effectiveDuration sampleResourceConfig 1 sampleRequest 3 := by
    rw [hquery.2]
    decide
  exact ⟨_, s₂, _, happly, hstep, hquery.1, (visible_iff sampleResourceConfig hinit hfits happly
    (by decide) hpos hlater hclock hquery.1).2 (.inl nofun)⟩

/-- The second of two requests of one app, under different reason codes, is not reported. -/
theorem visible_not_always :
    ¬ ∀ (resourceConfig : ResourceConfigMap) (s₀ s₁ s₂ : AllowService) (caller caller' : Caller)
      (request : ResourceRequest) (condition condition' : BitVec 32) (k : Nat)
      (list : List AllowInfo),
      Lts.ReachableUnder (allowSystem resourceConfig) (fun s a => a.Fits s) s₀ →
      (AllowAction.apply request caller.pid condition).Fits s₀ →
      s₀.applyAllowResource resourceConfig caller request condition = .ok s₁ →
      (caller.requestedType request.allowType).getLsbD k = true →
      0 < effectiveDuration resourceConfig condition request k →
      Lts.ReachableUnder { allowSystem resourceConfig with init := s₁ }
        (fun s a => a.Fits s ∧ a.Spares request.uid request.name s) s₂ →
      s₂.bootTime < s₀.bootTime + 1000 * effectiveDuration resourceConfig condition request k →
      s₂.getAllowList resourceConfig caller' (BitVec.twoPow 32 k) request.reasonCode condition' =
        .ok list →
      ∃ info ∈ list, info.name = request.name := by
  intro h
  have hinit : Lts.ReachableUnder (allowSystem sampleResourceConfig) (fun s a => a.Fits s)
      (AllowService.applyAllowResInner sampleResourceConfig sampleRequest 100 1 {}) :=
    Lts.ReachableUnder.init.step (a := .apply sampleRequest 100 1)
      ⟨by decide, by decide, by decide, by decide⟩ rfl
  have hempty : ((AllowService.applyAllowResInner sampleResourceConfig
      { sampleRequest with reasonCode := REASON_APP_API } 100 1
      (AllowService.applyAllowResInner sampleResourceConfig sampleRequest 100 1
        {})).getAllowListInner sampleResourceConfig (BitVec.twoPow 32 3) REASON_APP_API 1) =
        [] := by
    decide +kernel
  obtain ⟨info, hinfo, -⟩ := h sampleResourceConfig _ _ _ sampleCaller sampleCaller
    { sampleRequest with reasonCode := REASON_APP_API } 1 1 3 [] hinit
    ⟨by decide, by decide, by decide, by decide⟩ rfl (by decide) (by decide) .init
    (by decide +kernel) (congrArg Except.ok hempty)
  cases hinfo

end DeviceStandby
