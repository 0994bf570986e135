import DeviceStandby.Allow.Reload

/-!
# Pending releases

A release that fires early does nothing, so every temporary allowance needs a pending one that fires
at its end or later (`Covered`). Requests post one with every extension; a release that is run
removes what it covers, or leaves another one behind. After a restart the releases are posted anew
from the time that remains, cut to an `int32_t`: from 2 ^ 31 milliseconds on it wraps and the
release fires at once, with the allowance left behind (`restart_uncovered`). Otherwise every
allowance is covered in every state of a run (`covered_run`).
-/

open AssocMap BitMask Json

namespace DeviceStandby

/-- The earliest time on the boot clock at which the handler runs a task: its own clock is no
faster. -/
def ReleaseTask.firesAt (s : AllowService) (task : ReleaseTask) : Int :=
  s.bootTime + max 0 (task.due - s.handlerTime)

/-- A task releases the type of an app, not before its end. -/
structure ReleaseTask.Covers (s : AllowService) (key : String) (k : Nat) (e : Int)
    (task : ReleaseTask) : Prop where
  key : key = mapKey task.uid task.name
  type : task.allowType.getLsbD k = true
  time : e ≤ task.firesAt s

/-- Every end time has a pending task that covers it. -/
def Covered (s : AllowService) : Prop :=
  ∀ key k e, s.endTime? key k = some e → ∃ task ∈ s.tasks, task.Covers s key k e

/-- Where an entry of the list may come from at a reload: the list itself, unless the process died,
and the members of the file. -/
def AllowService.Reloads (s : AllowService) (key : String) (record : AllowRecord) : Prop :=
  s.allowInfoMap.lookup key = some record ∨
    ∃ members value, s.file = some (.object members) ∧ (key, value) ∈ members ∧
      record.DescribedBy value

/-- The records of running processes that a reload finds end less than 2 ^ 31 milliseconds after the
monotonic time. -/
def AllowService.RemainsShort (processes : Processes) (monotonicTime : Int) (s : AllowService) :
    Prop :=
  ∀ key record, s.Reloads key record → record.isRunning processes.getPidAndProcName = true →
    ∀ time ∈ record.allowTimeList, time.endTime - monotonicTime < 2 ^ 31

/-- The same of the reload of a step. -/
def AllowAction.RemainsShort (s : AllowService) : AllowAction → Prop
  | .reload processes monotonicTime => s.RemainsShort processes monotonicTime
  | .restart processes monotonicTime =>
    AllowService.RemainsShort processes monotonicTime { s with allowInfoMap := ∅ }
  | _ => True

section
variable {resourceConfig : ResourceConfigMap} {s t : AllowService} {a : AllowAction}
  {task : ReleaseTask} {key : String} {k : Nat} {e : Int}

/-- A task that the clocks have not passed covers what it covered. -/
theorem ReleaseTask.Covers.of_clocks (h : task.Covers s key k e)
    (hclocks : t.handlerTime - s.handlerTime ≤ t.bootTime - s.bootTime)
    (hboot : s.bootTime ≤ t.bootTime) : task.Covers t key k e := by
  refine ⟨h.key, h.type, ?_⟩
  have htime := h.time
  unfold ReleaseTask.firesAt at htime ⊢
  omega

/-- Every type is in the mask of all types. -/
theorem getLsbD_max (hk : k < MAX_ALLOW_TYPE_NUM) : MAX_ALLOW_TYPE_NUMBER.getLsbD k = true := by
  have hall : ∀ k < MAX_ALLOW_TYPE_NUM, MAX_ALLOW_TYPE_NUMBER.getLsbD k = true := by decide
  exact hall k hk

/-- An application posts a release for everything that it grants. -/
theorem Covered.apply {request : ResourceRequest} {pid : Int} {condition : BitVec 32}
    (hkept : s.allowInfoMap.WellKept) (h : Covered s) :
    Covered (s.applyAllowResInner resourceConfig request pid condition) := by
  intro key k e he
  rw [AllowService.endTime?_applyAllowResInner _ _ _ _ hkept] at he
  rw [AllowService.tasks_applyAllowResInner]
  have hold : ∀ e', s.endTime? key k = some e' → e ≤ e' →
      ∃ task ∈ s.tasks ++ (s.applied resourceConfig condition request pid).2,
        task.Covers (s.applyAllowResInner resourceConfig request pid condition) key k e := by
    intro e' he' hle
    obtain ⟨task, htask, hcovers⟩ := h key k e' he'
    exact ⟨task, List.mem_append_left _ htask, hcovers.key, hcovers.type,
      hle.trans hcovers.time⟩
  split_ifs at he with hgranted
  · obtain ⟨hkey, hk, hgranted⟩ := hgranted
    -- the later of the old end, whose task is still there, and the new one, whose task is posted
    have hnew : e ≤ s.bootTime + maxDuration resourceConfig condition request k →
        ∃ task ∈ s.tasks ++ (s.applied resourceConfig condition request pid).2,
          task.Covers (s.applyAllowResInner resourceConfig request pid condition) key k e := by
      intro hle
      refine ⟨_, List.mem_append_right _ (mem_updateRecord_tasks hk hgranted), hkey, hgranted.1, ?_⟩
      change e ≤ s.bootTime + max 0 (s.handlerTime +
        maxDuration resourceConfig condition request k - s.handlerTime)
      omega
    cases hend : s.endTime? key k with
    | none =>
      rw [hend] at he
      cases he
      exact hnew (le_refl _)
    | some e' =>
      rw [hend] at he
      cases he
      rcases le_total e' (s.bootTime + maxDuration resourceConfig condition request k)
        with hle | hle
      · exact hnew (max_le hle (le_refl _))
      · exact hold e' hend (max_le (le_refl _) hle)
  · exact hold e he (le_refl _)

/-- A removal leaves nothing without a release. -/
theorem Covered.unapply {uid : Int} {name : String} {allowType : BitVec 32} {removeAll : Bool}
    (hkept : s.allowInfoMap.WellKept) (h : Covered s) :
    Covered (s.unapplyAllowResInner uid name allowType removeAll) := by
  intro key k e he
  rw [AllowService.endTime?_unapplyAllowResInner _ _ _ _ hkept] at he
  obtain ⟨htasks, hboot, hhandler⟩ := AllowService.tasks_unapplyAllowResInner uid name allowType
    removeAll s
  have hend : s.endTime? key k = some e := by
    split_ifs at he
    · exact (Option.filter_eq_some_iff.1 he).1
    · exact he
  obtain ⟨task, htask, hcovers⟩ := h key k e hend
  exact ⟨task, htasks ▸ htask, hcovers.of_clocks (by omega) (by omega)⟩

/-- A task that is run releases whatever it alone covered. -/
theorem Covered.release {i : Nat} (hkept : s.allowInfoMap.WellKept) (h : Covered s)
    (htask : s.tasks[i]? = some task) (hdue : task.due ≤ s.handlerTime) :
    Covered ({ s with tasks := s.tasks.eraseIdx i }.unapplyAllowResInner task.uid task.name
      task.allowType false) := by
  intro key k e he
  rw [AllowService.endTime?_unapplyAllowResInner (s := { s with tasks := s.tasks.eraseIdx i })
    _ _ _ _ hkept] at he
  obtain ⟨htasks, hboot, hhandler⟩ := AllowService.tasks_unapplyAllowResInner task.uid task.name
    task.allowType false { s with tasks := s.tasks.eraseIdx i }
  dsimp only at hboot hhandler
  have hend : s.endTime? key k = some e := by
    split_ifs at he
    · exact (Option.filter_eq_some_iff.1 he).1
    · exact he
  obtain ⟨cover, hmem, hcovers⟩ := h key k e hend
  have hne : cover ≠ task := by
    rintro rfl
    -- it fires now, so the end is over and the type is in its mask
    have htime := hcovers.time
    rw [ReleaseTask.firesAt, max_eq_left (by omega)] at htime
    rw [if_pos hcovers.key] at he
    have hkeep := (Option.filter_eq_some_iff.1 he).2
    rw [isReleased, hcovers.type, Bool.false_or, Bool.true_and,
      decide_eq_true (by dsimp only; omega)] at hkeep
    cases hkeep
  have hmem' : cover ∈ s.tasks.eraseIdx i := by
    obtain ⟨j, hj⟩ := List.getElem?_of_mem hmem
    refine List.mem_eraseIdx_iff_getElem?.2 ⟨j, fun hij => hne ?_, hj⟩
    subst hij
    exact Option.some.inj (hj.symm.trans htask)
  exact ⟨cover, htasks ▸ hmem', hcovers.of_clocks (by omega) (by omega)⟩

/-- What is in the list after a reload was reloaded, and its process runs. -/
theorem reloads_of_lookup {processes : Processes} {monotonicTime : Int} {record : AllowRecord}
    {root : List (String × Json)} (hprocesses : processes.getPidAndProcName.entries ≠ [])
    (hroot : s.file.bind Json.asObject? = some root)
    (hlookup : (s.parsePersistentData processes monotonicTime).allowInfoMap.lookup key =
      some record) :
    s.Reloads key record ∧ record.isRunning processes.getPidAndProcName = true := by
  rw [lookup_parsePersistentData hprocesses hroot, Option.filter_eq_some_iff] at hlookup
  refine ⟨(Option.or_eq_some_iff.1 hlookup.1).imp id fun hfile => ?_, hlookup.2⟩
  obtain ⟨member, hmember, hparse⟩ := List.exists_of_findSome?_eq_some hfile.2
  split_ifs at hparse with hkey
  obtain ⟨document, hdocument, hobject⟩ := Option.bind_eq_some_iff.1 hroot
  cases document with
  | object members =>
    cases hobject
    exact ⟨_, member.2, hdocument, hkey ▸ hmember, parseFromJson_eq_some_iff.1 hparse⟩
  | null | boolean | integer | real | string | array => cases hobject

/-- The releases that a reload posts cover the list, when the times that remain are short. -/
theorem Covered.parsePersistentData {processes : Processes} {monotonicTime : Int}
    (h : Covered s) (hclock : monotonicTime ≤ s.bootTime)
    (hkept : (s.parsePersistentData processes monotonicTime).allowInfoMap.WellKept)
    (hshort : s.RemainsShort processes monotonicTime) :
    Covered (s.parsePersistentData processes monotonicTime) := by
  by_cases hskip : processes.getPidAndProcName.entries = [] ∨ s.file.bind Json.asObject? = none
  · rwa [parsePersistentData_eq_self hskip]
  · obtain ⟨hprocesses, hroot⟩ := not_or.1 hskip
    obtain ⟨root, hroot⟩ := Option.ne_none_iff_exists'.1 hroot
    have htasks : ∀ key record,
        (s.parsePersistentData processes monotonicTime).allowInfoMap.lookup key = some record →
        ∀ time ∈ record.allowTimeList,
          { uid := record.uid, name := record.name, allowType := MAX_ALLOW_TYPE_NUMBER,
            due := s.handlerTime + max 0 (toInt32 (time.endTime - monotonicTime)) } ∈
            (s.parsePersistentData processes monotonicTime).tasks := by
      intro key record hlookup time htime
      simp only [AllowService.parsePersistentData, List.isEmpty_iff, if_neg hprocesses, hroot,
        AllowService.recoverTimeLimitedTask, AllowService.dumpPersistantData] at hlookup ⊢
      exact List.mem_append_right _ (List.mem_flatMap.2
        ⟨record, Map.mem_values.2 ⟨key, hlookup⟩, List.mem_map.2 ⟨time, htime, rfl⟩⟩)
    have hclocks : (s.parsePersistentData processes monotonicTime).bootTime = s.bootTime ∧
        (s.parsePersistentData processes monotonicTime).handlerTime = s.handlerTime := by
      simp only [AllowService.parsePersistentData, List.isEmpty_iff, if_neg hprocesses, hroot]
      exact ⟨rfl, rfl⟩
    intro key k e he
    obtain ⟨record, hlookup, he⟩ := Option.bind_eq_some_iff.1 he
    obtain ⟨time, htime, rfl, rfl⟩ := exists_of_endTimeOf? he
    obtain ⟨hreloads, hrunning⟩ := reloads_of_lookup hprocesses hroot hlookup
    have hstored := hkept key record hlookup
    refine ⟨_, htasks key record hlookup time htime, hstored.key,
      getLsbD_max (hstored.wellFormed.inRange _ (List.mem_map_of_mem htime)), ?_⟩
    have hremains := hshort key record hreloads hrunning time htime
    rw [ReleaseTask.firesAt, hclocks.1, hclocks.2]
    dsimp only
    by_cases hpast : time.endTime - monotonicTime < -2 ^ 31
    · omega
    · rw [toInt32_of_fits (by omega) hremains]
      omega

/-- A step keeps every end time covered, when what it reloads remains for a short time. -/
theorem Covered.step (hs : s.Sound) (ht : t.Sound) (h : Covered s)
    (hstep : s.step resourceConfig a = some t) (ha : a.RemainsShort s) : Covered t := by
  have hkept := hs.list.wellKept
  cases a with
  | advance boot handler =>
    obtain ⟨hle, ht⟩ := Option.ite_none_right_eq_some.1 hstep
    cases ht
    intro key k e he
    obtain ⟨task, htask, hcovers⟩ := h key k e he
    exact ⟨task, htask, hcovers.of_clocks (by dsimp only; omega) (by dsimp only; omega)⟩
  | apply request pid condition =>
    cases hstep
    exact h.apply hkept
  | unapply uid name allowType removeAll =>
    cases hstep
    exact h.unapply hkept
  | release i =>
    obtain ⟨task, htask, hdue, rfl⟩ := AllowService.step_release hstep
    exact h.release hkept htask hdue
  | removeApp uid bundleName resetAll =>
    cases hstep
    unfold AllowService.removeAppAllowRecord
    split
    · exact h
    · exact h.unapply hkept
  | reload processes monotonicTime =>
    obtain ⟨hclock, heq⟩ := Option.ite_none_right_eq_some.1 hstep
    cases heq
    exact h.parsePersistentData hclock ht.list.wellKept ha
  | restart processes monotonicTime =>
    obtain ⟨hclock, heq⟩ := Option.ite_none_right_eq_some.1 hstep
    cases heq
    have hempty : Covered { s with allowInfoMap := ∅, tasks := [] } :=
      fun key k e he => nomatch he
    exact hempty.parsePersistentData hclock ht.list.wellKept ha

end

/-- In every state of a run in which no reload finds an entry that ends 2 ^ 31 milliseconds or more
after the monotonic time, every entry has a pending release of its app that includes its type and
fires at its end on the boot clock or later. -/
theorem covered_run (resourceConfig : ResourceConfigMap) {s : AllowService}
    (h : Lts.ReachableUnder (allowSystem resourceConfig)
      (fun s a => a.Fits s ∧ a.RemainsShort s) s) :
    ∀ key record, s.allowInfoMap.lookup key = some record → ∀ time ∈ record.allowTimeList,
      ∃ task ∈ s.tasks, task.uid = record.uid ∧ task.name = record.name ∧
        task.allowType.getLsbD time.allowTypeIndex = true ∧ time.endTime ≤ task.firesAt s := by
  have hinit : Covered {} := fun key k e he => nomatch he
  have hsound : ∀ {s}, Lts.ReachableUnder (allowSystem resourceConfig)
      (fun s a => a.Fits s ∧ a.RemainsShort s) s → s.Sound := fun h => sound_run And.left h
  have hcovered : Covered s := h.invariant (I := Covered) hinit
    fun hr ha hstep hs => hs.step (hsound hr) (hsound (hr.step ha hstep)) hstep ha.2
  intro key record hlookup time htime
  have hstored := (hsound h).list.wellKept key record hlookup
  have hend : s.endTime? key time.allowTypeIndex = some time.endTime := by
    rw [AllowService.endTime?, hlookup]
    exact endTimeOf?_of_mem hstored.wellFormed.nodup htime
  obtain ⟨task, htask, hcovers⟩ := hcovered key _ _ hend
  obtain ⟨huid, hname⟩ := mapKey_inj (hcovers.key.symm.trans hstored.key)
  exact ⟨task, htask, huid, hname, hcovers.type, hcovers.time⟩

/-- The sample record fits its types. -/
theorem sampleRecord_fits : sampleRecord.Fits := by
  refine ⟨by decide, by decide, by decide, by decide, by decide, by decide, fun time htime => ?_⟩
  simp only [sampleRecord, List.mem_cons, List.not_mem_nil, or_false] at htime
  rcases htime with rfl | rfl <;> exact ⟨by decide, by decide, by decide⟩

/-- A restart after which an entry is still covered. -/
theorem covered_run_sample :
    ∃ s, Lts.ReachableUnder (allowSystem sampleResourceConfig)
        (fun s a => a.Fits s ∧ a.RemainsShort s) s ∧
      ∃ task ∈ s.tasks, task.uid = 7 ∧ task.name = "proc" ∧
        task.allowType.getLsbD 3 = true ∧ 120000 ≤ task.firesAt s := by
  have hfits : (AllowAction.apply sampleRequest 100 1).Fits
      (allowSystem sampleResourceConfig).init :=
    ⟨by decide, by decide, by decide, by decide⟩
  have hshort : ∀ s, (allowSystem sampleResourceConfig).step
      (allowSystem sampleResourceConfig).init (.apply sampleRequest 100 1) = some s →
      (AllowAction.restart sampleProcesses 0).RemainsShort s := by
    rintro s ⟨⟩ key record (hlive | ⟨members, value, hfile, hmem, hdescribed⟩) - time htime
    · cases hlive
    · have hentries : (AllowService.applyAllowResInner sampleResourceConfig sampleRequest 100 1
          {}).allowInfoMap.entries = [⟨mapKey 7 "proc", sampleRecord⟩] := by decide +kernel
      have hobject : AllowInfoMap.parseToJson (AllowService.applyAllowResInner sampleResourceConfig
          sampleRequest 100 1 {}).allowInfoMap = .object members := Option.some.inj hfile
      rw [AllowInfoMap.parseToJson, hentries] at hobject
      cases hobject
      rw [List.map_singleton, List.mem_singleton] at hmem
      cases hmem
      have hparse := parseFromJson_eq_some_iff.2 hdescribed
      rw [parseFromJson_parseToJson sampleRecord_fits] at hparse
      cases hparse
      revert time
      decide
  obtain ⟨s, hs, hlookup⟩ := Lts.System.exists_run (allowSystem sampleResourceConfig)
    [.apply sampleRequest 100 1, .restart sampleProcesses 0]
    (show Lts.System.RunMeets (allowSystem sampleResourceConfig)
      (fun s a => a.Fits s ∧ a.RemainsShort s) _ _ from
        ⟨⟨hfits, trivial⟩, fun s hs => ⟨⟨trivial, hshort s hs⟩, fun _ _ => trivial⟩⟩)
    (fun s => s.allowInfoMap.lookup (mapKey 7 "proc") = some sampleRecord) (by decide +kernel)
  obtain ⟨task, htask, hcovers⟩ := covered_run sampleResourceConfig hs _ _ hlookup
    { allowTypeIndex := 3, endTime := 120000 } (by decide)
  exact ⟨s, hs, task, htask, hcovers⟩

/-- After a restart, an entry can be without a release for ever: its remaining time does not fit an
`int32_t`, so the release that is posted for it fires at once. -/
theorem restart_uncovered :
    ¬ ∀ (resourceConfig : ResourceConfigMap) (s : AllowService),
      Lts.ReachableUnder (allowSystem resourceConfig) (fun s a => a.Fits s) s →
      ∀ key record, s.allowInfoMap.lookup key = some record → ∀ time ∈ record.allowTimeList,
        ∃ task ∈ s.tasks, task.uid = record.uid ∧ task.name = record.name ∧
          task.allowType.getLsbD time.allowTypeIndex = true ∧ time.endTime ≤ task.firesAt s := by
  intro h
  have hfits : (AllowAction.apply longRequest 100 1).Fits (allowSystem sampleResourceConfig).init :=
    ⟨by decide, by decide, by decide, by decide⟩
  obtain ⟨s, hs, htasks, hend⟩ := Lts.System.exists_run (allowSystem sampleResourceConfig)
    [.apply longRequest 100 1, .restart sampleProcesses 0, .release 0]
    ⟨hfits, fun _ _ => ⟨trivial, fun _ _ => ⟨trivial, fun _ _ => trivial⟩⟩⟩
    (fun s => s.tasks = [] ∧ (s.endTime? (mapKey 7 "proc") 3).isSome = true) (by decide +kernel)
  obtain ⟨e, he⟩ := Option.isSome_iff_exists.1 hend
  obtain ⟨record, hlookup, he⟩ := Option.bind_eq_some_iff.1 he
  obtain ⟨time, htime, -⟩ := exists_of_endTimeOf? he
  obtain ⟨task, htask, -⟩ := h sampleResourceConfig s hs _ record hlookup time htime
  rw [htasks] at htask
  cases htask

end DeviceStandby
