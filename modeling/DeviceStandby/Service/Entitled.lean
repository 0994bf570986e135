import DeviceStandby.Allow.Exempted
import DeviceStandby.Allow.Isolation
import DeviceStandby.Service.Interface

/-!
# Where allowances come from

Whatever is allowed was asked for by a process that may have it allowed: one that is not an app, or
a system app with the permission whose application info declares the type (`allowances_entitled`).
What its running processes use does not count. The entries of the list and of its file are followed
over every step of the service, a restart among them (`EntriesMeet.step`), so that only an
application makes an entry that was not there before.
-/

open AssocMap BitMask Json Lts

namespace DeviceStandby

/-! ## The entries of the list and of its file -/

/-- What the keys and the types of all entries have in common. -/
def AllowInfoMap.EntriesMeet (B : String → Nat → Prop) (allowInfoMap : AllowInfoMap) : Prop :=
  allowInfoMap.All fun key record => ∀ k ∈ timeIndices record.allowTimeList, B key k

/-- The entries of the list, and of the list that the file was written with. -/
structure AllowService.EntriesMeet (B : String → Nat → Prop) (s : AllowService) : Prop where
  list : s.allowInfoMap.EntriesMeet B
  file : ∃ filed : AllowInfoMap, s.file.getD .null = filed.parseToJson ∧ filed.EntriesMeet B

section
variable {B B' : String → Nat → Prop} {s t : AllowService} {resourceConfig : ResourceConfigMap}
  {request : ResourceRequest} {pid uid monotonicTime : Int} {condition allowType : BitVec 32}
  {name key : String} {removeAll : Bool} {record reread' : AllowRecord} {processes : Processes}
  {allowInfoMap : AllowInfoMap} {a : AllowAction} {k : Nat}

/-- What meets a bound meets a weaker one. -/
theorem AllowInfoMap.EntriesMeet.mono (hle : ∀ key k, B key k → B' key k)
    (h : allowInfoMap.EntriesMeet B) : allowInfoMap.EntriesMeet B' :=
  fun key record hlookup k hk => hle key k (h key record hlookup k hk)

namespace AllowService

/-- What meets a bound meets a weaker one. -/
theorem EntriesMeet.mono (hle : ∀ key k, B key k → B' key k) (h : s.EntriesMeet B) :
    s.EntriesMeet B' := by
  obtain ⟨filed, hfile, hfiled⟩ := h.file
  exact ⟨h.list.mono hle, filed, hfile, hfiled.mono hle⟩

/-- A list that has been written. -/
theorem EntriesMeet.of_file (hlist : s.allowInfoMap.EntriesMeet B)
    (hfile : s.file = some s.allowInfoMap.parseToJson) : s.EntriesMeet B :=
  ⟨hlist, s.allowInfoMap, by rw [hfile, Option.getD_some], hlist⟩

/-- An update makes entries of granted types only. -/
theorem mem_timeIndices_updateRecord (bootTime handlerTime : Int)
    (h : k ∈ timeIndices (updateRecord resourceConfig condition bootTime handlerTime request
      record).1.allowTimeList) :
    k ∈ timeIndices record.allowTimeList ∨
      k < MAX_ALLOW_TYPE_NUM ∧ Granted resourceConfig condition request k := by
  revert h
  refine updateRecord_induction (fun acc => k ∈ timeIndices acc.1.allowTimeList →
    k ∈ timeIndices record.allowTimeList ∨
      k < MAX_ALLOW_TYPE_NUM ∧ Granted resourceConfig condition request k) .inl ?_
  intro acc i hi hgranted ih hmem
  rw [updateType_of_granted hgranted] at hmem
  dsimp only at hmem
  rw [timeIndices_extendTime] at hmem
  split_ifs at hmem
  · exact ih hmem
  · rcases List.mem_append.1 hmem with hmem | hmem
    · exact ih hmem
    · obtain rfl := List.mem_singleton.1 hmem
      exact .inr ⟨hi, hgranted⟩

/-- A request is about the entries of its app. -/
theorem mem_timeIndices_recordFor (h : k ∈ timeIndices (s.recordFor request pid).1.allowTimeList) :
    ∃ record, s.allowInfoMap.lookup (mapKey request.uid request.name) = some record ∧
      k ∈ timeIndices record.allowTimeList := by
  unfold recordFor at h
  cases hlookup : s.allowInfoMap.lookup (mapKey request.uid request.name) with
  | none =>
    rw [hlookup] at h
    cases h
  | some record =>
    rw [hlookup] at h
    exact ⟨record, rfl, h⟩

/-- A request that may make its entries. -/
theorem EntriesMeet.apply (h : s.EntriesMeet B)
    (hgrants : ∀ k, k < MAX_ALLOW_TYPE_NUM → Granted resourceConfig condition request k →
      B (mapKey request.uid request.name) k) :
    (s.applyAllowResInner resourceConfig request pid condition).EntriesMeet B := by
  refine .of_file ?_ rfl
  intro key record hlookup k hk
  rw [lookup_applyAllowResInner] at hlookup
  split_ifs at hlookup with hkey
  · cases hlookup
    subst hkey
    obtain hold | ⟨hlt, hgranted⟩ := mem_timeIndices_updateRecord _ _ hk
    · obtain ⟨record, hfound, hk⟩ := mem_timeIndices_recordFor hold
      exact h.list _ record hfound k hk
    · exact hgrants k hlt hgranted
  · exact h.list key record hlookup k hk

/-- A release makes no entries. -/
theorem EntriesMeet.unapply (h : s.EntriesMeet B) :
    (s.unapplyAllowResInner uid name allowType removeAll).EntriesMeet B := by
  cases hlookup : s.allowInfoMap.lookup (mapKey uid name) with
  | none =>
    simp only [unapplyAllowResInner, hlookup]
    exact h
  | some record =>
    by_cases hnone : allowType &&& record.allowType = 0
    · simp only [unapplyAllowResInner, hlookup, if_pos hnone]
      exact h
    by_cases hzero : (releaseTimes allowType removeAll s.bootTime record.allowTimeList).2 = 0
    · simp only [unapplyAllowResInner, hlookup, if_neg hnone, if_pos hzero]
      exact h
    have hreleased : Released uid name allowType removeAll record s _ :=
      released_unapplyAllowResInner hlookup hnone hzero
    refine .of_file ?_ hreleased.file
    intro key found hfound k hk
    rw [hreleased.lookup] at hfound
    split_ifs at hfound with hkey
    · cases hfound
      subst hkey
      rw [releasedRecord, releaseTimes_eq] at hk
      obtain ⟨time, htime, rfl⟩ := List.mem_map.1 hk
      exact h.list _ record hlookup _ (List.mem_map_of_mem (List.mem_filter.1 htime).1)
    · exact h.list key found hfound k hk

/-- What describes the entries of a list has a value for each of them. -/
theorem exists_describing {values : List Json} {times : List AllowTime} {time : AllowTime}
    (h : List.Forall₂ AllowTime.DescribedBy values times) (htime : time ∈ times) :
    ∃ value ∈ values, time.DescribedBy value := by
  induction h with
  | nil => cases htime
  | cons hdescribed _ ih =>
    rcases List.mem_cons.1 htime with rfl | htime
    · exact ⟨_, List.mem_cons_self, hdescribed⟩
    · obtain ⟨value, hvalue, hdescribed⟩ := ih htime
      exact ⟨value, List.mem_cons_of_mem _ hvalue, hdescribed⟩

/-- An entry that is read back has been written, when its type fits the field. -/
theorem mem_timeIndices_reread (hfits : ∀ k ∈ timeIndices record.allowTimeList, k < 2 ^ 32)
    (hreread : reread record = some reread') (hk : k ∈ timeIndices reread'.allowTimeList) :
    k ∈ timeIndices record.allowTimeList := by
  have htimes := (parseFromJson_eq_some_iff.1 hreread).times
  rw [array?_parseToJson] at htimes
  obtain ⟨time, htime, rfl⟩ := List.mem_map.1 hk
  obtain ⟨value, hvalue, ⟨n, hn, hindex⟩, -, -⟩ := exists_describing htimes htime
  have hwritten : value ∈ record.allowTimeList.map AllowTime.parseToJson := by
    split_ifs at hvalue
    · cases hvalue
    · rw [Option.map_some, Option.getD_some] at hvalue
      exact List.mem_of_mem_take hvalue
  obtain ⟨written, hmem, rfl⟩ := List.mem_map.1 hwritten
  have hwrote : written.parseToJson.integer? "allowTypeIndex" =
      some (written.allowTypeIndex : Int) := rfl
  rw [hwrote] at hn
  cases hn
  have hwritten : written.allowTypeIndex ∈ timeIndices record.allowTimeList :=
    List.mem_map_of_mem hmem
  have hlt := hfits _ hwritten
  rwa [hindex, toUInt32_natCast hlt]

/-- A reload reads what was written, or keeps what is there. -/
theorem EntriesMeet.parsePersistentData (h : s.EntriesMeet B)
    (hfits : ∀ key k, B key k → k < 2 ^ 32) :
    (s.parsePersistentData processes monotonicTime).EntriesMeet B := by
  by_cases hprocesses : processes.getPidAndProcName.entries = []
  · rw [parsePersistentData_eq_self (.inl hprocesses)]
    exact h
  cases hroot : s.file.bind Json.asObject? with
  | none =>
    rw [parsePersistentData_eq_self (.inr hroot)]
    exact h
  | some root =>
    obtain ⟨filed, hfile, hfiled⟩ := h.file
    refine .of_file ?_ ?_
    · intro key record hlookup k hk
      rw [lookup_parsePersistentData hprocesses hroot] at hlookup
      rw [asObject?_file hfile] at hroot
      split_ifs at hroot
      cases hroot
      rw [findSome?_parseToJson] at hlookup
      obtain hlist | ⟨-, hread⟩ := Option.or_eq_some_iff.1 (Option.filter_eq_some_iff.1 hlookup).1
      · exact h.list key record hlist k hk
      · obtain ⟨written, hwritten, hreread⟩ := Option.bind_eq_some_iff.1 hread
        have hmeets := hfiled key written hwritten
        exact hmeets k (mem_timeIndices_reread (fun k hk => hfits key k (hmeets k hk)) hreread hk)
    · simp only [AllowService.parsePersistentData, List.isEmpty_iff, if_neg hprocesses, hroot]
      rfl

/-- A step of the allow list that is not a request makes no entries. -/
theorem EntriesMeet.step (h : s.EntriesMeet B) (hfits : ∀ key k, B key k → k < 2 ^ 32)
    (hown : a.isOwn = true) (hs : s.step resourceConfig a = some t) : t.EntriesMeet B := by
  cases a with
  | advance boot handler =>
    obtain ⟨-, hs⟩ := Option.ite_none_right_eq_some.1 hs
    cases hs
    exact ⟨h.list, h.file⟩
  | apply request pid condition => cases hown
  | unapply uid name allowType removeAll =>
    cases hs
    exact h.unapply
  | release i =>
    obtain ⟨task, -, -, rfl⟩ := step_release hs
    exact EntriesMeet.unapply ⟨h.list, h.file⟩
  | removeApp uid bundleName resetAll =>
    cases hs
    unfold removeAppAllowRecord
    split_ifs
    · exact h.unapply
    · exact h
  | reload processes monotonicTime =>
    obtain ⟨-, hs⟩ := Option.ite_none_right_eq_some.1 hs
    cases hs
    exact h.parsePersistentData hfits
  | restart processes monotonicTime =>
    obtain ⟨-, hs⟩ := Option.ite_none_right_eq_some.1 hs
    cases hs
    exact EntriesMeet.parsePersistentData ⟨Map.All.empty, h.file⟩ hfits

end AllowService

end

/-! ## Who asked for them -/

/-- A request by which a process may have a type allowed under a key: an app must be a system app
with the permission and use the API, and its application info must declare the number of the type,
or of all types. -/
structure MayAllow (p : Process) (request : ResourceRequest) (key : String) (k : Nat) : Prop where
  key : mapKey request.uid request.name = key
  type : k < MAX_ALLOW_TYPE_NUM
  requested : request.allowType.getLsbD k = true
  permitted : p.mayUse request.reasonCode = true
  declared : p.isHap = true →
    100 ∈ p.resourcesApply ∨ ∃ number ∈ p.resourcesApply, number.toInt = 101 + k

/-- The requests that were accepted, with the processes that made them. -/
abbrev Applications := List (Process × ResourceRequest)

/-- Some accepted request may have made an entry. -/
def Applications.Explain (applications : Applications) (key : String) (k : Nat) : Prop :=
  ∃ application ∈ applications, MayAllow application.1 application.2 key k

/-- The requests after a step. -/
def Applications.after {β : Type} (cfg : ServiceConfig) (s : StandbyService) :
    ServiceAction β → StandbyService → Applications → Applications
  | .call p o (.applyAllowResource request), _, applications =>
    if (s.applyAllowResource cfg p o request).isOk then applications ++ [(p, request)]
    else applications
  | _, _, applications => applications

section
variable {β : Type} (cfg : ServiceConfig) (others : β → StandbyService → Option StandbyService)
  (deathRecipient : Bool) (createdAt : Int)

/-- The service with the requests that it has accepted. -/
def applicationSystem : System (StandbyService × Applications) (ServiceAction β) :=
  (serviceMachine cfg others deathRecipient createdAt).system.withGhost [] (Applications.after cfg)

variable {cfg others deathRecipient createdAt} {s t : StandbyService} {p : Process} {o : Occasion}
  {c : ServiceCall} {answer : Except CallError CallReply} {request : ResourceRequest}
  {applications : Applications} {k : Nat} {key : String}

/-! ### Applying -/

/-- The types that are kept of a request are asked for, and an app declares them. -/
theorem declared_of_requestedType
    (hbit : (p.requestedType request.allowType).getLsbD k = true) :
    request.allowType.getLsbD k = true ∧ (p.isHap = true →
      100 ∈ p.resourcesApply ∨ ∃ number ∈ p.resourcesApply, number.toInt = 101 + k) := by
  unfold Caller.requestedType at hbit
  by_cases hhap : p.isHap = true
  · rw [if_pos hhap] at hbit
    by_cases hall : 100 ∈ p.resourcesApply
    · rw [getExemptedResourceType_of_all hall] at hbit
      exact ⟨hbit, fun _ => .inl hall⟩
    · obtain ⟨⟨number, hmem, hnumber, -⟩, hbit⟩ := (getLsbD_getExemptedResourceType hall).1 hbit
      exact ⟨hbit, fun _ => .inr ⟨number, hmem, hnumber⟩⟩
  · rw [if_neg hhap] at hbit
    exact ⟨hbit, fun h => absurd h hhap⟩

/-- A request that is accepted makes entries that its process may have made. -/
theorem applyAllowResource_entries {next : StandbyService × CallReply}
    (h : s.applyAllowResource cfg p o request = .ok next) :
    ∃ request', next.1.allow =
        s.allow.applyAllowResInner cfg.resourceConfig request' p.pid o.condition ∧
      ∀ k, k < MAX_ALLOW_TYPE_NUM → Granted cfg.resourceConfig o.condition request' k →
        MayAllow p request (mapKey request'.uid request'.name) k := by
  unfold StandbyService.applyAllowResource StandbyService.checkRunning at h
  cases hrunning : s.running with
  | false =>
    rw [hrunning] at h
    cases h
  | true =>
    rw [hrunning] at h
    cases happly : s.allow.applyAllowResource cfg.resourceConfig p.toCaller request
        o.condition with
    | error error =>
      rw [happly] at h
      cases h
    | ok allow =>
      rw [happly] at h
      cases h
      obtain ⟨-, rfl⟩ := applyAllowResource_eq_ok happly
      refine ⟨_, rfl, fun k hk hgranted => ?_⟩
      obtain ⟨hrequested, hdeclared⟩ := declared_of_requestedType hgranted.1
      have hpermitted : p.mayUse request.reasonCode = true := by
        by_contra hlacks
        obtain ⟨error, herror, -⟩ :=
          checkCallerPermission_of_not_mayUse (Bool.not_eq_true _ ▸ hlacks)
        rw [(allowResource_of_refused s.allow herror _ _).1] at happly
        cases happly
      exact ⟨rfl, hk, hrequested, hpermitted, hdeclared⟩

/-- A release that is accepted. -/
theorem unapplyAllowResource_eq_ok {caller : Caller} {allow allow' : AllowService}
    (h : allow.unapplyAllowResource caller request = .ok allow') :
    allow' = allow.unapplyAllowResInner request.uid request.name
      (caller.requestedType request.allowType) true := by
  unfold AllowService.unapplyAllowResource at h
  by_cases hready : allow.isServiceReady = true
  · cases hcheck : caller.checkCallerPermission request.reasonCode with
    | error error =>
      simp only [hready, hcheck] at h
      cases h
    | ok u =>
      by_cases hbad : ¬ checkAllowTypeInfo (caller.requestedType request.allowType) = true ∨
          request.uid < 0
      · simp only [hready, hcheck, if_pos hbad] at h
        cases h
      · simp only [hready, hcheck, if_neg hbad] at h
        cases h
        rfl
  · simp only [hready] at h
    cases h

/-- A request that is revoked. -/
theorem unapplyAllowResource_entries {next : StandbyService × CallReply}
    {B : String → Nat → Prop} (h : s.unapplyAllowResource p request = .ok next)
    (hs : s.allow.EntriesMeet B) : next.1.allow.EntriesMeet B := by
  unfold StandbyService.unapplyAllowResource StandbyService.checkRunning at h
  cases hrunning : s.running with
  | false =>
    rw [hrunning] at h
    cases h
  | true =>
    rw [hrunning] at h
    cases hunapply : s.allow.unapplyAllowResource p.toCaller request with
    | error error =>
      rw [hunapply] at h
      cases h
    | ok allow =>
      rw [hunapply] at h
      cases h
      obtain rfl := unapplyAllowResource_eq_ok hunapply
      exact hs.unapply

/-! ### The other calls -/

/-- A computation that leaves the allow list alone. -/
def Leaves (s : StandbyService) (result : Except CallError (StandbyService × CallReply)) : Prop :=
  ∀ next, result = .ok next → next.1.allow = s.allow

/-- A call leaves the allow list when each of its parts does. -/
theorem Leaves.bind {α : Type} {x : Except CallError α}
    {f : α → Except CallError (StandbyService × CallReply)} (hf : ∀ a, Leaves s (f a)) :
    Leaves s (x >>= f) := by
  cases x with
  | error error => exact fun next h => by cases h
  | ok a => exact hf a

/-- An answer over an allow list that is unchanged leaves it. -/
theorem leaves_ok {reply : CallReply} (h : t.allow = s.allow) : Leaves s (.ok (t, reply)) := by
  intro next heq
  cases heq
  exact h

/-- An error leaves everything. -/
theorem leaves_error {error : CallError} : Leaves s (.error error) :=
  fun next h => by cases h

/-- A call that leaves the allow list has left it when it is settled. -/
theorem Leaves.settle {result : Except CallError (StandbyService × CallReply)}
    (hcall : some (s.settle result) = some (t, answer)) (h : Leaves s result) :
    t.allow = s.allow := by
  cases result with
  | error error =>
    cases hcall
    rfl
  | ok next =>
    cases hcall
    exact h next rfl

/-- A message changes nothing in the list. -/
theorem allow_dispatchEvent (message : ServiceMessage) (want : List (String × WantParam)) :
    (s.dispatchEvent message want).allow = s.allow := by
  unfold StandbyService.dispatchEvent
  split_ifs <;> rfl

/-- Neither do the effects of an event. -/
theorem allow_foldl_perform (effects : List EventEffect) :
    (effects.foldl StandbyService.perform s).allow = s.allow := by
  induction effects generalizing s with
  | nil => rfl
  | cons effect effects ih =>
    rw [List.foldl_cons, ih]
    unfold StandbyService.perform
    cases effect with
    | commonEvent | message =>
      dsimp only
      split_ifs <;> rfl
    | _ => rfl

/-- Whether a call is about the allow list. -/
def ServiceCall.editsAllowList : ServiceCall → Bool
  | .applyAllowResource _ | .unapplyAllowResource _ => true
  | _ => false

/-- The other calls leave it alone, unless a shell may use the service. -/
theorem allow_call (hshell : cfg.engMode = 0) (hc : c.editsAllowList = false)
    (hcall : s.call cfg p o c = some (t, answer)) : t.allow = s.allow := by
  cases c with
  | applyAllowResource | unapplyAllowResource => cases hc
  | subscribeStandbyCallback | unsubscribeStandbyCallback =>
    cases hcall
    rfl
  | getAllowList =>
    exact Leaves.settle hcall (.bind fun _ => .bind fun _ => leaves_ok rfl)
  | getRestrictList =>
    refine Leaves.settle hcall (.bind fun _ => .bind fun _ => .bind fun _ => ?_)
    dsimp only [bind, Except.bind]
    split_ifs
    · exact leaves_ok rfl
    · exact leaves_error
  | reportDeviceStateChanged =>
    refine Leaves.settle hcall (.bind fun _ => .bind fun _ => .bind fun _ => ?_)
    dsimp only
    split_ifs
    · exact leaves_ok (allow_dispatchEvent _ _)
    · exact leaves_ok rfl
  | isStrategyEnabled | isDeviceInStandby =>
    exact Leaves.settle hcall (.bind fun _ => .bind fun _ => .bind fun _ => leaves_ok rfl)
  | reportPowerOverused =>
    exact Leaves.settle hcall (.bind fun _ => .bind fun _ => leaves_ok rfl)
  | reportWorkSchedulerStatus | reportSceneInfo | heartBeatValueChanged =>
    exact Leaves.settle hcall
      (.bind fun _ => .bind fun _ => .bind fun _ => leaves_ok (allow_dispatchEvent _ _))
  | pushProxyStateChanged =>
    exact Leaves.settle hcall (.bind fun _ => .bind fun _ => leaves_ok (allow_dispatchEvent _ _))
  | setNatInterval | delayHeartBeat =>
    exact Leaves.settle hcall (.bind fun _ => leaves_ok (allow_dispatchEvent _ _))
  | handleEvent resType value sceneInfo =>
    simp only [StandbyService.call, StandbyService.handleEvent] at hcall
    split at hcall
    · cases hcall
      rfl
    · split at hcall
      · cases hcall
      · cases hcall
        exact allow_foldl_perform _
  | dump args =>
    rw [StandbyService.call, StandbyService.dump, if_pos (.inl hshell)] at hcall
    cases hcall
    rfl

/-! ### Runs -/

/-- What explains an entry goes on to explain it. -/
theorem explain_append (h : applications.Explain key k) (application : Process × ResourceRequest) :
    (applications ++ [application]).Explain key k := by
  obtain ⟨former, hmem, hmay⟩ := h
  exact ⟨former, List.mem_append_left _ hmem, hmay⟩

/-- The types that are explained fit their field. -/
theorem Applications.Explain.lt (h : applications.Explain key k) : k < 2 ^ 32 := by
  obtain ⟨application, -, hmay⟩ := h
  exact lt_trans hmay.type (by decide)

/-- An application explains the entries that it makes. -/
theorem entriesMeet_apply (h : s.allow.EntriesMeet applications.Explain)
    (hcall : s.call cfg p o (.applyAllowResource request) = some (t, answer)) :
    t.allow.EntriesMeet
      (applications.after cfg s (.call p o (.applyAllowResource request) : ServiceAction β)
        t).Explain := by
  have hcall : s.settle (s.applyAllowResource cfg p o request) = (t, answer) :=
    Option.some.inj hcall
  rw [Applications.after]
  cases happly : s.applyAllowResource cfg p o request with
  | error error =>
    rw [happly] at hcall
    cases hcall
    exact h
  | ok next =>
    rw [happly] at hcall
    cases hcall
    obtain ⟨request', hallow, hmay⟩ := applyAllowResource_entries happly
    rw [hallow]
    refine .apply (.mono (fun key k hk => explain_append hk _) h) fun k hk hgranted => ?_
    exact ⟨(p, request), List.mem_append_right _ (List.mem_singleton_self _), hmay k hk hgranted⟩

/-- A revocation makes none. -/
theorem entriesMeet_unapply {B : String → Nat → Prop} (h : s.allow.EntriesMeet B)
    (hcall : s.call cfg p o (.unapplyAllowResource request) = some (t, answer)) :
    t.allow.EntriesMeet B := by
  have hcall : s.settle (s.unapplyAllowResource p request) = (t, answer) := Option.some.inj hcall
  cases hunapply : s.unapplyAllowResource p request with
  | error error =>
    rw [hunapply] at hcall
    cases hcall
    exact h
  | ok next =>
    rw [hunapply] at hcall
    cases hcall
    exact unapplyAllowResource_entries hunapply h

/-- No step but an application makes an entry that was not there. -/
theorem entriesMeet_step {a : ServiceAction β} {reply : Option (Except CallError CallReply)}
    (hshell : cfg.engMode = 0) (h : s.allow.EntriesMeet applications.Explain)
    (hstep : s.step cfg others a = some (t, reply)) :
    t.allow.EntriesMeet (applications.after cfg s a t).Explain := by
  cases a with
  | call p o c =>
    obtain ⟨⟨next, answer⟩, hcall, heq⟩ := Option.map_eq_some_iff.1 hstep
    obtain ⟨rfl, -⟩ := Prod.mk.inj heq
    cases hc : c.editsAllowList with
    | false =>
      rw [allow_call hshell hc hcall]
      cases c with
      | applyAllowResource => cases hc
      | _ => exact h
    | true =>
      cases c with
      | applyAllowResource request => exact entriesMeet_apply h hcall
      | unapplyAllowResource request => exact entriesMeet_unapply h hcall
      | _ => cases hc
  | allow a =>
    obtain ⟨hown, hstep⟩ := Option.ite_none_right_eq_some.1 hstep
    obtain ⟨allow, hallow, heq⟩ := Option.map_eq_some_iff.1 hstep
    obtain ⟨rfl, -⟩ := Prod.mk.inj heq
    exact h.step (fun key k hk => hk.lt) hown hallow
  | setReady isServiceReady =>
    cases hstep
    exact ⟨h.list, h.file⟩
  | other b =>
    obtain ⟨next, -, heq⟩ := Option.map_eq_some_iff.1 hstep
    obtain ⟨rfl, -⟩ := Prod.mk.inj heq
    exact h

/-- No service has entries before it runs. -/
theorem entriesMeet_init (B : String → Nat → Prop) (notifier : Notifier) :
    ({ notifier } : StandbyService).allow.EntriesMeet B where
  list := Map.All.empty
  file := ⟨{}, rfl, Map.All.empty⟩

/-- Whatever is allowed on a device whose shell is closed has been asked for, and by a process that
may have it allowed. -/
theorem allowances_entitled (hshell : cfg.engMode = 0)
    (h : Reachable (applicationSystem cfg others deathRecipient createdAt) (s, applications))
    (hallowed : (s.allow.endTime? key k).isSome) :
    ∃ application ∈ applications, MayAllow application.1 application.2 key k := by
  have hmeets : s.allow.EntriesMeet applications.Explain := by
    refine h.invariant (I := fun s => s.1.allow.EntriesMeet s.2.Explain)
      (entriesMeet_init _ _) ?_
    intro s t a _ _ hstep hs
    obtain ⟨hstep, hafter⟩ := System.withGhost_step_iff.1 hstep
    obtain ⟨reply, hstep⟩ := Machine.system_step_iff.1 hstep
    rw [hafter]
    exact entriesMeet_step hshell hs hstep
  obtain ⟨e, he⟩ := Option.isSome_iff_exists.1 hallowed
  obtain ⟨record, hlookup, he⟩ := Option.bind_eq_some_iff.1 he
  exact hmeets.list key record hlookup k (endTimeOf?_isSome.1 (Option.isSome_iff_exists.2 ⟨e, he⟩))

/-- A system app has a work scheduler allowed. -/
theorem allowances_entitled_sample : ∃ applications : Applications,
    ∃ application ∈ applications, MayAllow application.1 application.2 (mapKey 7 "proc") 3 := by
  obtain ⟨⟨s, applications⟩, hs, hallowed⟩ := System.exists_run
    (applicationSystem sampleServiceConfig
      (fun (_ : Unit) s => some { s with running := true }) true 0)
    (startService ++ [.call systemApp ⟨1, 0, true⟩ (.applyAllowResource appRequest)])
    (System.runMeets_of_forall _ fun _ _ _ => trivial)
    (fun s => (s.1.allow.endTime? (mapKey 7 "proc") 3).isSome) (by decide +kernel)
  exact ⟨applications, allowances_entitled rfl hs hallowed⟩

end

end DeviceStandby
