import DeviceStandby.Allow.Edits

/-!
# The allow list over a run

Every step but a reload edits the record of one app (`edit_step`). Over a run this keeps every
record well formed and under its key, and makes the ALLOW_LIST_CHANGED messages a faithful account
of it: who follows them for an app holds exactly the types of its record.
-/

open AssocMap BitMask

namespace DeviceStandby

/-- The app that a step edits the record of. -/
def AllowAction.target (s : AllowService) : AllowAction → Option (Int × String)
  | .apply request _ _ => some (request.uid, request.name)
  | .unapply uid name _ _ => some (uid, name)
  | .release i => s.tasks[i]?.map fun task => (task.uid, task.name)
  | .removeApp uid bundleName _ => some (uid, bundleName)
  | .advance .. | .reload .. | .restart .. => none

/-- The step reads the record file. -/
def AllowAction.isReload : AllowAction → Bool
  | .reload .. | .restart .. => true
  | _ => false

/-- What the ALLOW_LIST_CHANGED messages say of an app. -/
def changesOf (uid : Int) (name : String) (messages : List StandbyMessage) : List (Change 32) :=
  messages.filterMap fun
    | .allowListChanged uid' name' allowType added =>
      if uid' = uid ∧ name' = name then some ⟨allowType, added⟩ else none
    | _ => none

section
variable {resourceConfig : ResourceConfigMap} {s t : AllowService} {a : AllowAction}
  {uid uid' : Int} {name name' : String}

/-- The changes of an app are told in the order of the messages. -/
theorem changesOf_append {messages messages' : List StandbyMessage} :
    changesOf uid name (messages ++ messages') =
      changesOf uid name messages ++ changesOf uid name messages' :=
  List.filterMap_append

/-- What is announced of an app is told of it. -/
theorem changesOf_announcements (log : List (Change 32)) :
    changesOf uid name (announcements uid name log) = log := by
  rw [changesOf, announcements, List.filterMap_map]
  simp

/-- What is announced of another app is not. -/
theorem changesOf_announcements_of_ne (h : ¬ (uid = uid' ∧ name = name'))
    (log : List (Change 32)) : changesOf uid' name' (announcements uid name log) = [] := by
  rw [changesOf, announcements, List.filterMap_map]
  simp [h]

/-- Every step but a reload is an edit of the app it is about. -/
theorem edit_step (h : s.allowInfoMap.WellKept) (hstep : s.step resourceConfig a = some t)
    (hreload : a.isReload = false) :
    t.allowInfoMap.WellKept ∧
      ∃ uid name, Edit uid name s t ∧ ∀ app, a.target s = some app → app = (uid, name) := by
  cases a with
  | advance boot handler =>
    obtain ⟨-, ht⟩ := Option.ite_none_right_eq_some.1 hstep
    cases ht
    exact ⟨h, 0, "", ⟨fun _ _ => rfl, [], (List.append_nil _).symm, rfl⟩, nofun⟩
  | apply request pid condition =>
    cases hstep
    exact ⟨AllowService.wellKept_applyAllowResInner h, _, _, AllowService.edit_applyAllowResInner,
      fun app happ => (Option.some.inj happ).symm⟩
  | unapply uid name allowType removeAll =>
    cases hstep
    exact ⟨AllowService.wellKept_unapplyAllowResInner h, _, _,
      AllowService.edit_unapplyAllowResInner _ _ _ _ h, fun app happ => (Option.some.inj happ).symm⟩
  | release i =>
    obtain ⟨task, htask, -, rfl⟩ := AllowService.step_release hstep
    have hedit := AllowService.edit_unapplyAllowResInner task.uid task.name task.allowType false
      (s := { s with tasks := s.tasks.eraseIdx i }) h
    refine ⟨AllowService.wellKept_unapplyAllowResInner (s := { s with
      tasks := s.tasks.eraseIdx i }) h, _, _, ⟨hedit.others, hedit.announced⟩, fun app happ => ?_⟩
    rw [AllowAction.target, htask] at happ
    exact (Option.some.inj happ).symm
  | removeApp uid bundleName resetAll =>
    cases hstep
    unfold AllowService.removeAppAllowRecord
    split
    · exact ⟨h, _, _, .refl, fun app happ => (Option.some.inj happ).symm⟩
    · exact ⟨AllowService.wellKept_unapplyAllowResInner h, _, _,
        AllowService.edit_unapplyAllowResInner _ _ _ _ h,
        fun app happ => (Option.some.inj happ).symm⟩
  | reload => cases hreload
  | restart => cases hreload

/-- The messages so far lead to the types of every app. -/
def Announced (s : AllowService) : Prop :=
  ∀ uid name, follow 0 (changesOf uid name s.messages) = some (s.allowTypeOf uid name)

/-- An edit of an app whose changes are announced announces its own. -/
theorem Edit.announced_of (h : Edit uid name s t) (hs : Announced s) : Announced t := by
  intro uid' name'
  obtain ⟨log, hmessages, hfollow⟩ := h.announced
  rw [hmessages, changesOf_append, follow_append (hs uid' name')]
  by_cases happ : uid = uid' ∧ name = name'
  · obtain ⟨rfl, rfl⟩ := happ
    rw [changesOf_announcements]
    exact hfollow
  · have hkey : mapKey uid' name' ≠ mapKey uid name := fun heq =>
      happ ((mapKey_inj heq).imp Eq.symm Eq.symm)
    rw [changesOf_announcements_of_ne happ, AllowService.allowTypeOf, AllowService.allowTypeOf,
      h.others _ hkey]
    rfl

/-- The allow list over a run without reloads. -/
theorem wellKept_run
    (h : Lts.ReachableUnder (allowSystem resourceConfig) (fun _ a => a.isReload = false) s) :
    s.allowInfoMap.WellKept ∧ Announced s := by
  refine h.invariant (I := fun s => s.allowInfoMap.WellKept ∧ Announced s)
    ⟨Map.All.empty, fun _ _ => rfl⟩ ?_
  intro s t a _ hreload hstep ⟨hkept, hannounced⟩
  obtain ⟨hkept', uid, name, hedit, -⟩ := edit_step hkept hstep hreload
  exact ⟨hkept', hedit.announced_of hannounced⟩

end

/-- In every state of a run from an empty list, the records are well formed and under their keys,
the announced changes of an app never set a set type nor clear a clear one and lead to the types of
its record, and a step for one app leaves the records of the others alone. -/
theorem allow_list_consistent (resourceConfig : ResourceConfigMap) {s : AllowService}
    (h : Lts.ReachableUnder (allowSystem resourceConfig) (fun _ a => a.isReload = false) s) :
    (∀ key record, s.allowInfoMap.lookup key = some record →
      key = mapKey record.uid record.name ∧
      (record.allowTimeList.map AllowTime.allowTypeIndex).Nodup ∧
      (∀ time ∈ record.allowTimeList, time.allowTypeIndex < 7) ∧
      record.allowType ≠ 0 ∧
      record.allowType = maskOf 32 (record.allowTimeList.map AllowTime.allowTypeIndex)) ∧
    (∀ uid name, follow 0 (changesOf uid name s.messages) = some (s.allowTypeOf uid name)) ∧
    ∀ a t, a.isReload = false → s.step resourceConfig a = some t →
      ∀ app, a.target s = some app → ∀ uid name, (uid, name) ≠ app →
        t.allowInfoMap.lookup (mapKey uid name) = s.allowInfoMap.lookup (mapKey uid name) := by
  obtain ⟨hkept, hannounced⟩ := wellKept_run h
  refine ⟨fun key record hlookup => ?_, hannounced,
    fun a t hreload hstep app happ uid name hne => ?_⟩
  · have hstored := hkept key record hlookup
    exact ⟨hstored.key, hstored.wellFormed.nodup,
      fun time htime => hstored.wellFormed.inRange _ (List.mem_map_of_mem htime),
      hstored.nonempty, hstored.wellFormed.mask⟩
  · obtain ⟨-, uid', name', hedit, htarget⟩ := edit_step hkept hstep hreload
    refine hedit.others _ fun heq => hne ?_
    obtain ⟨rfl, rfl⟩ := mapKey_inj heq
    exact (htarget app happ).symm

/-- A run in which the timer of a process has been released and its work scheduler has not. -/
theorem allow_list_consistent_sample :
    ∃ s, Lts.ReachableUnder (allowSystem sampleResourceConfig) (fun _ a => a.isReload = false) s ∧
      s.allowTypeOf 7 "proc" = AllowType.workScheduler.mask ∧
      follow 0 (changesOf 7 "proc" s.messages) = some (s.allowTypeOf 7 "proc") := by
  obtain ⟨s, hs, htype⟩ := Lts.System.exists_run (allowSystem sampleResourceConfig)
    [.apply sampleRequest 100 1, .advance 60000 60000, .release 0]
    (Lts.System.runMeets_of_forall (fun _ a => a.isReload = false) (by simp [AllowAction.isReload]))
    (fun s => s.allowTypeOf 7 "proc" = AllowType.workScheduler.mask) (by decide +kernel)
  exact ⟨s, hs, htype, (allow_list_consistent sampleResourceConfig hs).2.1 7 "proc"⟩

end DeviceStandby
