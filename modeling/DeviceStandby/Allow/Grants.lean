import DeviceStandby.Allow.Changes

/-!
# End times from the history of requests

The abstract view of one allowance is the list of its grants: the times that the requests since its
last removal have allowed it until. It is made of what is asked for and of the clock, and reads no
entry: a removal takes the grants of its types, and one that is posted for an end only those that
are all over. The allow list refines it: an entry exists exactly when there is a grant, and ends at
the latest of them (`endTime?_eq_max_grants`). A release that is late for one grant and early for
another therefore finds the later end.
-/

open AssocMap

namespace DeviceStandby

/-- How long a request allows a type, in seconds. -/
def effectiveDuration (resourceConfig : ResourceConfigMap) (condition : BitVec 32)
    (request : ResourceRequest) (k : Nat) : Int :=
  if k = AllowType.workScheduler.index then request.duration
  else min request.duration (resourceConfig.getMaxDuration request.name
    (allowTypeName.getD k "") condition (request.reasonCode == REASON_APP_API))

/-- The time until which a step allows a type of an app: that of a request of the app that includes
the type, when it is for a positive duration. -/
def AllowAction.grant? (resourceConfig : ResourceConfigMap) (s : AllowService) (uid : Int)
    (name : String) (k : Nat) : AllowAction → Option Int
  | .apply request _ condition =>
    if request.uid = uid ∧ request.name = name ∧ k < MAX_ALLOW_TYPE_NUM ∧
        request.allowType.getLsbD k = true ∧
        0 < effectiveDuration resourceConfig condition request k then
      some (s.bootTime + 1000 * effectiveDuration resourceConfig condition request k)
    else none
  | _ => none

/-- What `UnapplyAllowResInner` is called with. -/
structure Removal where
  uid : Int
  name : String
  allowType : BitVec 32
  removeAll : Bool

/-- The removal that a step makes: one that is asked for, that of a task that the handler runs, or
that of an app, which a service that is not ready does not make. -/
def AllowAction.removal? (s : AllowService) : AllowAction → Option Removal
  | .unapply uid name allowType removeAll => some ⟨uid, name, allowType, removeAll⟩
  | .release i =>
    s.tasks[i]?.map fun task => ⟨task.uid, task.name, task.allowType, false⟩
  | .removeApp uid bundleName resetAll =>
    if s.isServiceReady then some ⟨uid, bundleName, AllowService.removedTypes resetAll, true⟩
    else none
  | _ => none

/-- The grants of every type of every app since its last removal. -/
abbrev Grants := Int → String → Nat → List Int

/-- A removal takes the grants of a type of its app, or those only that are all over. -/
def Removal.Takes (removal : Removal) (bootTime : Int) (uid : Int) (name : String) (k : Nat)
    (grants : List Int) : Prop :=
  (removal.uid = uid ∧ removal.name = name ∧ removal.allowType.getLsbD k = true) ∧
    (removal.removeAll = true ∨ ∀ g ∈ grants, g ≤ bootTime)

instance (removal : Removal) (bootTime uid : Int) (name : String) (k : Nat) (grants : List Int) :
    Decidable (removal.Takes bootTime uid name k grants) :=
  inferInstanceAs (Decidable (_ ∧ _))

/-- A step forgets the grants that it takes, and adds its own. -/
def Grants.after (resourceConfig : ResourceConfigMap) (s : AllowService) (a : AllowAction)
    (grants : Grants) : Grants := fun uid name k =>
  match a.removal? s with
  | some removal =>
    if removal.Takes s.bootTime uid name k (grants uid name k) then [] else grants uid name k
  | none => grants uid name k ++ (a.grant? resourceConfig s uid name k).toList

/-- The allow list together with the grants. -/
def grantSystem (resourceConfig : ResourceConfigMap) :
    Lts.System (AllowService × Grants) AllowAction :=
  (allowSystem resourceConfig).withGhost (fun _ _ _ => []) fun s a _ grants =>
    grants.after resourceConfig s a

section
variable {resourceConfig : ResourceConfigMap} {condition : BitVec 32} {request : ResourceRequest}
  {s t : AllowService} {a : AllowAction} {grants : Grants} {k : Nat} {e : Int}

/-- `maxDuration` is in milliseconds. -/
theorem maxDuration_eq (hk : k < MAX_ALLOW_TYPE_NUM) :
    maxDuration resourceConfig condition request k =
      1000 * effectiveDuration resourceConfig condition request k := by
  have hall : ∀ k < MAX_ALLOW_TYPE_NUM,
      (BitVec.twoPow 32 k ≠ AllowType.workScheduler.mask ↔ k ≠ AllowType.workScheduler.index) := by
    decide
  rw [maxDuration, effectiveDuration]
  simp only [hall k hk, isAppRequest]
  split_ifs <;> omega

/-- A type is granted when it was asked for and has a duration. -/
theorem granted_iff (hk : k < MAX_ALLOW_TYPE_NUM) :
    Granted resourceConfig condition request k ↔ request.allowType.getLsbD k = true ∧
      0 < effectiveDuration resourceConfig condition request k := by
  rw [Granted, maxDuration_eq hk]
  constructor
  · exact fun h => ⟨h.1, by have := h.2; omega⟩
  · exact fun h => ⟨h.1, by have := h.2; omega⟩

/-- The latest end with one grant more is the later of the two. -/
theorem max?_append_singleton (ends : List Int) (e : Int) :
    (ends ++ [e]).max? = some (laterEnd ends.max? e) := by
  cases ends with
  | nil => rfl
  | cons head ends =>
    rw [List.cons_append, List.max?_cons', List.max?_cons', List.foldl_append]
    rfl

/-- Grants are all over when the latest is. -/
theorem forall_le_iff_max? {ends : List Int} {b : Int} :
    (∀ g ∈ ends, g ≤ b) ↔ ∀ e, ends.max? = some e → e ≤ b := by
  constructor
  · intro hall e he
    exact hall e (List.max?_eq_some_iff.1 he).1
  · intro hlatest g hg
    cases he : ends.max? with
    | none =>
      rw [List.max?_eq_none_iff.1 he] at hg
      cases hg
    | some e => exact ((List.max?_eq_some_iff.1 he).2 g hg).trans (hlatest e he)

/-- A removal takes the entry of a type whose grants it takes, and no other. -/
theorem endTime?_removal {u : AllowService} (hkept : u.allowInfoMap.WellKept) (removal : Removal)
    (uid : Int) (name : String) (k : Nat) {ends : List Int}
    (hends : u.endTime? (mapKey uid name) k = ends.max?) :
    (u.unapplyAllowResInner removal.uid removal.name removal.allowType
        removal.removeAll).endTime? (mapKey uid name) k =
      (if removal.Takes u.bootTime uid name k ends then [] else ends).max? := by
  have hend := AllowService.endTime?_unapplyAllowResInner removal.uid removal.name
    removal.allowType removal.removeAll hkept (mapKey uid name) k
  rw [hend, hends]
  by_cases hkey : mapKey uid name = mapKey removal.uid removal.name
  · obtain ⟨huid, hname⟩ := mapKey_inj hkey
    rw [if_pos hkey]
    cases he : ends.max? with
    | none =>
      rw [List.max?_eq_none_iff.1 he, ite_self]
      rfl
    | some e =>
      have hover : (∀ g ∈ ends, g ≤ u.bootTime) ↔ e ≤ u.bootTime := by
        rw [forall_le_iff_max?, he]
        exact ⟨fun h => h e rfl, fun h e' he' => Option.some.inj he' ▸ h⟩
      have htakes : removal.Takes u.bootTime uid name k ends ↔
          isReleased removal.allowType removal.removeAll u.bootTime k e = true := by
        rw [Removal.Takes, hover, isReleased, Bool.and_eq_true, Bool.or_eq_true, decide_eq_true_eq]
        exact and_congr_left fun _ => ⟨fun h => h.2.2, fun h => ⟨huid.symm, hname.symm, h⟩⟩
      rw [Option.filter_some]
      split_ifs with hkeep htaken htaken
      · rw [htakes.1 htaken] at hkeep
        cases hkeep
      · exact he.symm
      · rfl
      · have hstays : isReleased removal.allowType removal.removeAll u.bootTime k e = false :=
          Bool.eq_false_iff.2 (mt htakes.2 htaken)
        rw [hstays] at hkeep
        exact absurd rfl hkeep
  · rw [if_neg hkey, if_neg fun h => hkey (by rw [h.1.1, h.1.2.1])]

/-- A step that makes a removal does nothing else to the end times. -/
theorem endTime?_of_removal? {removal : Removal} (hstep : s.step resourceConfig a = some t)
    (hremoval : a.removal? s = some removal) :
    ∃ u : AllowService, u.allowInfoMap = s.allowInfoMap ∧ u.bootTime = s.bootTime ∧
      t = u.unapplyAllowResInner removal.uid removal.name removal.allowType removal.removeAll := by
  cases a with
  | unapply uid name allowType removeAll =>
    cases hstep
    cases hremoval
    exact ⟨s, rfl, rfl, rfl⟩
  | release i =>
    obtain ⟨task, htask, -, rfl⟩ := AllowService.step_release hstep
    rw [AllowAction.removal?, htask] at hremoval
    cases hremoval
    exact ⟨{ s with tasks := s.tasks.eraseIdx i }, rfl, rfl, rfl⟩
  | removeApp uid bundleName resetAll =>
    cases hstep
    obtain ⟨hready, hremoval⟩ := Option.ite_none_right_eq_some.1 hremoval
    cases hremoval
    refine ⟨s, rfl, rfl, ?_⟩
    rw [AllowService.removeAppAllowRecord, if_neg (not_not_intro hready)]
  | advance | apply | reload | restart => cases hremoval

/-- Any other step makes its grant, if it has one, and nothing else. -/
theorem endTime?_of_no_removal (hkept : s.allowInfoMap.WellKept)
    (hstep : s.step resourceConfig a = some t) (hreload : a.isReload = false)
    (hnone : a.removal? s = none) (uid : Int) (name : String) (k : Nat) :
    t.endTime? (mapKey uid name) k =
      (a.grant? resourceConfig s uid name k).elim (s.endTime? (mapKey uid name) k) fun g =>
        some (laterEnd (s.endTime? (mapKey uid name) k) g) := by
  cases a with
  | advance boot handler =>
    obtain ⟨-, ht⟩ := Option.ite_none_right_eq_some.1 hstep
    cases ht
    rfl
  | apply request pid condition =>
    cases hstep
    have hend := AllowService.endTime?_applyAllowResInner resourceConfig request pid condition
      hkept (mapKey uid name) k
    have hiff : (mapKey uid name = mapKey request.uid request.name ∧ k < MAX_ALLOW_TYPE_NUM ∧
        Granted resourceConfig condition request k) ↔
        request.uid = uid ∧ request.name = name ∧ k < MAX_ALLOW_TYPE_NUM ∧
          request.allowType.getLsbD k = true ∧
          0 < effectiveDuration resourceConfig condition request k := by
      constructor
      · rintro ⟨hkey, hk, hgranted⟩
        obtain ⟨rfl, rfl⟩ := mapKey_inj hkey
        exact ⟨rfl, rfl, hk, (granted_iff hk).1 hgranted⟩
      · rintro ⟨rfl, rfl, hk, hgranted⟩
        exact ⟨rfl, hk, (granted_iff hk).2 hgranted⟩
    rw [hend]
    simp only [hiff, AllowAction.grant?]
    split_ifs with hgranted
    · rw [maxDuration_eq hgranted.2.2.1]
      rfl
    · rfl
  | unapply => cases hnone
  | release i =>
    obtain ⟨task, htask, -, -⟩ := AllowService.step_release hstep
    rw [AllowAction.removal?, htask] at hnone
    cases hnone
  | removeApp uid' bundleName resetAll =>
    cases hstep
    have hready : ¬ s.isServiceReady = true := fun h => by
      rw [AllowAction.removal?, if_pos h] at hnone
      cases hnone
    rw [AllowService.removeAppAllowRecord, if_pos hready]
    rfl
  | reload => cases hreload
  | restart => cases hreload

/-- What a step does to an end time: its grant makes it later, and otherwise it stays, unless a
removal takes it. -/
theorem endTime?_step (hkept : s.allowInfoMap.WellKept) (hstep : s.step resourceConfig a = some t)
    (hreload : a.isReload = false) (uid : Int) (name : String) (k : Nat) :
    (∀ g, a.grant? resourceConfig s uid name k = some g →
      t.endTime? (mapKey uid name) k = some (laterEnd (s.endTime? (mapKey uid name) k) g)) ∧
    (a.grant? resourceConfig s uid name k = none →
      t.endTime? (mapKey uid name) k = s.endTime? (mapKey uid name) k ∨
      t.endTime? (mapKey uid name) k = none ∧ ∃ e removal,
        s.endTime? (mapKey uid name) k = some e ∧ a.removal? s = some removal ∧
          removal.Takes s.bootTime uid name k [e]) := by
  cases hremoval : a.removal? s with
  | none =>
    have hend := endTime?_of_no_removal hkept hstep hreload hremoval uid name k
    refine ⟨fun g hg => ?_, fun hg => .inl ?_⟩
    · rw [hend, hg]
      rfl
    · rw [hend, hg]
      rfl
  | some removal =>
    refine ⟨fun g hg => ?_, fun _ => ?_⟩
    · cases a with
      | apply => cases hremoval
      | _ => cases hg
    obtain ⟨u, hmap, hboot, rfl⟩ := endTime?_of_removal? hstep hremoval
    have hends : u.endTime? (mapKey uid name) k = s.endTime? (mapKey uid name) k := by
      rw [AllowService.endTime?, hmap, AllowService.endTime?]
    cases he : s.endTime? (mapKey uid name) k with
    | none =>
      left
      have hnil : u.endTime? (mapKey uid name) k = ([] : List Int).max? := hends.trans he
      rw [endTime?_removal (hmap ▸ hkept) removal uid name k hnil, ite_self]
      rfl
    | some e =>
      have hone : u.endTime? (mapKey uid name) k = [e].max? := hends.trans he
      rw [endTime?_removal (hmap ▸ hkept) removal uid name k hone, hboot]
      split_ifs with htakes
      · exact .inr ⟨rfl, e, removal, rfl, rfl, htakes⟩
      · exact .inl rfl

/-- The grants keep account of the end times. -/
theorem endTime?_run {state : AllowService × Grants}
    (h : Lts.ReachableUnder (grantSystem resourceConfig) (fun _ a => a.isReload = false) state) :
    state.1.allowInfoMap.WellKept ∧
      ∀ uid name k, state.1.endTime? (mapKey uid name) k = (state.2 uid name k).max? := by
  refine h.invariant (I := fun state => state.1.allowInfoMap.WellKept ∧
    ∀ uid name k, state.1.endTime? (mapKey uid name) k = (state.2 uid name k).max?)
    ⟨Map.All.empty, fun _ _ _ => rfl⟩ ?_
  rintro ⟨s, grants⟩ ⟨t, grants'⟩ a _ hreload hstep ⟨hkept, hend⟩
  obtain ⟨ht, hgrants⟩ := Lts.System.withGhost_step_iff.1 hstep
  dsimp only at ht hgrants hend
  refine ⟨(edit_step hkept ht hreload).1, fun uid name k => ?_⟩
  dsimp only
  rw [hgrants, Grants.after]
  cases hremoval : a.removal? s with
  | none =>
    rw [endTime?_of_no_removal hkept ht hreload hremoval uid name k, hend]
    cases a.grant? resourceConfig s uid name k with
    | none => rw [Option.toList_none, List.append_nil]; rfl
    | some g => rw [Option.toList_some, max?_append_singleton]; rfl
  | some removal =>
    obtain ⟨u, hmap, hboot, rfl⟩ := endTime?_of_removal? ht hremoval
    have hends : u.endTime? (mapKey uid name) k = (grants uid name k).max? := by
      rw [AllowService.endTime?, hmap]
      exact hend uid name k
    rw [endTime?_removal (hmap ▸ hkept) removal uid name k hends, hboot]

end

/-- In every state of a run, an allowance exists exactly when a request since its last removal was
for a positive effective duration, and ends at the latest of the times that these requests have
granted. So a request never makes it shorter, and a step that removes it either unapplies its type
or finds that all these times are over. -/
theorem endTime?_eq_max_grants (resourceConfig : ResourceConfigMap) {s : AllowService}
    {grants : Grants}
    (h : Lts.ReachableUnder (grantSystem resourceConfig) (fun _ a => a.isReload = false)
      (s, grants)) :
    (∀ uid name k, s.endTime? (mapKey uid name) k = (grants uid name k).max?) ∧
    ∀ a t, a.isReload = false → s.step resourceConfig a = some t → ∀ uid name k e,
      s.endTime? (mapKey uid name) k = some e →
      ((∃ request pid condition, a = .apply request pid condition) →
        ∃ e', e ≤ e' ∧ t.endTime? (mapKey uid name) k = some e') ∧
      (t.endTime? (mapKey uid name) k = none → ∃ removal, a.removal? s = some removal ∧
        removal.Takes s.bootTime uid name k (grants uid name k)) := by
  obtain ⟨hkept, hend⟩ := endTime?_run h
  refine ⟨hend, fun a t hreload hstep uid name k e he => ⟨?_, fun hnone => ?_⟩⟩
  · rintro ⟨request, pid, condition, rfl⟩
    cases hstep
    rw [AllowService.endTime?_applyAllowResInner _ _ _ _ hkept, he]
    split_ifs
    · exact ⟨_, le_max_left _ _, rfl⟩
    · exact ⟨e, le_refl e, rfl⟩
  · obtain ⟨hgrant, hkeep⟩ := endTime?_step hkept hstep hreload uid name k
    cases hgrants : a.grant? resourceConfig s uid name k with
    | some g' =>
      rw [hgrant g' hgrants] at hnone
      cases hnone
    | none =>
      rcases hkeep hgrants with hsame | ⟨-, e', removal, he', hremoval, happ, hcause⟩
      · rw [hsame, he] at hnone
        cases hnone
      · refine ⟨removal, hremoval, happ, hcause.imp id fun hover g hg => ?_⟩
        have hlatest : g ≤ e' :=
          (List.max?_eq_some_iff.1 ((hend uid name k).symm.trans he')).2 g hg
        exact hlatest.trans (hover e' List.mem_cons_self)

/-- Two requests and the release of the first one: the later end stands. An unapply of one type
takes the grants of that type only. -/
theorem endTime?_eq_max_grants_sample :
    ∃ s grants, Lts.ReachableUnder (grantSystem sampleResourceConfig)
        (fun _ a => a.isReload = false) (s, grants) ∧
      s.endTime? (mapKey 7 "proc") 2 = some 90000 ∧
      grants 7 "proc" 2 = [60000, 90000] ∧ grants 7 "proc" 3 = [] ∧
      ∀ k, s.endTime? (mapKey 7 "proc") k = (grants 7 "proc" k).max? := by
  obtain ⟨⟨s, grants⟩, hs, hend, hgrants, hother⟩ := Lts.System.exists_run
    (grantSystem sampleResourceConfig)
    [.apply sampleRequest 100 1, .advance 30000 30000, .apply sampleRequest 100 1,
      .advance 30000 30000, .release 0, .unapply 7 "proc" AllowType.workScheduler.mask true]
    (Lts.System.runMeets_of_forall (fun _ a => a.isReload = false) (by simp [AllowAction.isReload]))
    (fun state => state.1.endTime? (mapKey 7 "proc") 2 = some 90000 ∧
      state.2 7 "proc" 2 = [60000, 90000] ∧ state.2 7 "proc" 3 = []) (by decide +kernel)
  exact ⟨s, grants, hs, hend, hgrants, hother,
    fun k => (endTime?_eq_max_grants sampleResourceConfig hs).1 7 "proc" k⟩

end DeviceStandby
