import DeviceStandby.Allow.Grants
import DeviceStandby.Allow.Isolation

/-!
# Apps that end

`AppStateObserver` is told by the app manager of processes and apps. When an app has ended it posts
a task to take from the app what it was allowed, all but timers and the work scheduler, and for a
process that comes or goes it posts a message to the strategies. `appSystem` runs these tasks
between the steps of the allow list. `departed_app_keeps` says that an app which has ended and has
not applied since keeps nothing else, once its tasks have run and none of them has come to nothing:
a service that is not ready refuses them, and a process that dies loses them.
-/

open BitMask

namespace DeviceStandby

/-- `AppExecFwk::ApplicationState`, as far as the observer reads it. -/
inductive ApplicationState where
  | APP_STATE_TERMINATED
  | APP_STATE_END
  | other
  deriving DecidableEq

/-- `AppExecFwk::ProcessData`. -/
structure ProcessData where
  uid : Int
  pid : Int
  bundleName : String

/-- `AppExecFwk::AppStateData`, as a notice of a change has it. -/
structure AppStateNotice where
  uid : Int
  bundleName : String
  state : ApplicationState

/-- The tasks that the observer posts. -/
inductive AppTask where
  | removeAppAllowRecord (uid : Int) (bundleName : String)
  | onProcessStatusChanged (uid pid : Int) (bundleName : String) (isCreated : Bool)
  deriving DecidableEq

/-- `AppStateObserver::CheckAlivedApp`: the answer of the app manager, `none` when it cannot be
reached. -/
def checkAlivedApp (isRunning : Option Bool) : Bool :=
  isRunning.getD true

/-- `AppStateObserver::OnProcessDied`. -/
def onProcessDied (isRunning : Option Bool) (processData : ProcessData) : List AppTask :=
  (if ¬ checkAlivedApp isRunning then
    [.removeAppAllowRecord processData.uid processData.bundleName] else []) ++
  [.onProcessStatusChanged processData.uid processData.pid processData.bundleName false]

/-- `AppStateObserver::OnProcessCreated`. -/
def onProcessCreated (processData : ProcessData) : List AppTask :=
  [.onProcessStatusChanged processData.uid processData.pid processData.bundleName true]

/-- `AppStateObserver::OnApplicationStateChanged`. -/
def onApplicationStateChanged (appStateData : AppStateNotice) : List AppTask :=
  if ¬ (appStateData.uid > 0 ∧ appStateData.bundleName.length > 0) then []
  else if appStateData.state = .APP_STATE_TERMINATED ∨ appStateData.state = .APP_STATE_END then
    [.removeAppAllowRecord appStateData.uid appStateData.bundleName]
  else []

/-- `StandbyServiceImpl::OnProcessStatusChanged`. -/
def AllowService.onProcessStatusChanged (uid pid : Int) (bundleName : String) (isCreated : Bool)
    (s : AllowService) : AllowService :=
  if ¬ s.isServiceReady then s
  else { s with messages := s.messages ++ [.processStateChanged uid pid bundleName isCreated] }

/-- Run a task. -/
def AppTask.run (s : AllowService) : AppTask → AllowService
  | .removeAppAllowRecord uid bundleName => s.removeAppAllowRecord uid bundleName false
  | .onProcessStatusChanged uid pid bundleName isCreated =>
    s.onProcessStatusChanged uid pid bundleName isCreated

/-! ## Runs -/

/-- The allow list, and the tasks of the observer that the handler has not run. -/
structure AppService where
  allow : AllowService := {}
  appTasks : List AppTask := []

/-- What happens: a step of the allow list, a notice of the app manager, a change of
`isServiceReady_`, or the handler runs the first task. -/
inductive AppAction where
  | allow (a : AllowAction)
  | processDied (isRunning : Option Bool) (processData : ProcessData)
  | processCreated (processData : ProcessData)
  | applicationStateChanged (appStateData : AppStateNotice)
  | ready (isServiceReady : Bool)
  | runTask

/-- The tasks that a notice posts. -/
def AppAction.posts : AppAction → List AppTask
  | .processDied isRunning processData => onProcessDied isRunning processData
  | .processCreated processData => onProcessCreated processData
  | .applicationStateChanged appStateData => onApplicationStateChanged appStateData
  | .allow _ | .ready _ | .runTask => []

/-- The tasks that a step of the allow list leaves: none when the process has died. -/
def AllowAction.leaves (appTasks : List AppTask) : AllowAction → List AppTask
  | .restart .. => []
  | _ => appTasks

/-- One step. -/
def AppService.step (resourceConfig : ResourceConfigMap) (s : AppService) :
    AppAction → Option AppService
  | .allow a =>
    (s.allow.step resourceConfig a).map fun allow => { allow, appTasks := a.leaves s.appTasks }
  | .ready isServiceReady => some { s with allow.isServiceReady := isServiceReady }
  | .runTask =>
    match s.appTasks with
    | [] => none
    | task :: appTasks => some { allow := task.run s.allow, appTasks }
  | notice => some { s with appTasks := s.appTasks ++ notice.posts }

/-- A request that a step applies for an app. -/
def AppAction.applies (uid : Int) (name : String) : AppAction → Bool
  | .allow (.apply request _ _) => decide (request.uid = uid ∧ request.name = name)
  | _ => false

/-- A notice that an app has ended: a process of it has died and it does not run any more, or its
state is a last one. A state is of no app when its uid is not positive or its name is empty. -/
def AppAction.ends (uid : Int) (name : String) : AppAction → Bool
  | .processDied isRunning processData =>
    decide (isRunning = some false ∧ processData.uid = uid ∧ processData.bundleName = name)
  | .applicationStateChanged appStateData =>
    decide ((appStateData.state = .APP_STATE_TERMINATED ∨ appStateData.state = .APP_STATE_END) ∧
      (0 < uid ∧ 0 < name.length) ∧ appStateData.uid = uid ∧ appStateData.bundleName = name)
  | _ => false

/-- A removal task of an app comes to nothing: the service is not ready when it runs, or the process
dies before it has run. -/
def AppAction.misses (s : AppService) (uid : Int) (name : String) : AppAction → Bool
  | .allow (.restart ..) => decide (AppTask.removeAppAllowRecord uid name ∈ s.appTasks)
  | .runTask =>
    decide (s.appTasks.head? = some (.removeAppAllowRecord uid name)) && !s.allow.isServiceReady
  | _ => false

/-- What is known of an app since it last applied: whether it has ended, and whether since the last
notice of it a removal task of the app has come to nothing. -/
structure AppEnd where
  ended : Bool := false
  missed : Bool := false
  deriving DecidableEq

abbrev AppEnds := Int → String → AppEnd

/-- What a step adds to it. -/
def AppEnds.after (s : AppService) (a : AppAction) (ends : AppEnds) : AppEnds := fun uid name =>
  if a.applies uid name then {}
  else if a.ends uid name then { ended := true }
  else { ends uid name with missed := (ends uid name).missed || a.misses s uid name }

/-- The service, with what is known of the apps. -/
def appSystem (resourceConfig : ResourceConfigMap) : Lts.System (AppService × AppEnds) AppAction :=
  Lts.System.withGhost { init := {}, step := AppService.step resourceConfig } (fun _ _ => {})
    fun s a _ ends => ends.after s a

/-- The numbers of a request fit, and a restart reads the process table, unless there is no record:
otherwise the file keeps records which the list does not have. -/
def AppAction.Orderly (s : AppService × AppEnds) : AppAction → Prop
  | .allow a => a.Fits s.1.allow ∧ ∀ u, s.1.allow.KeepsRecords u a
  | _ => True

section
variable {resourceConfig : ResourceConfigMap} {s t : AllowService} {a : AllowAction} {u uid : Int}
  {name : String} {k : Nat}

/-! ## The allow list and its file -/

/-- The file keeps the records that the list has. -/
theorem AllowService.FiledFor.step (h : s.FiledFor u) (hstep : s.step resourceConfig a = some t)
    (hkeeps : s.KeepsRecords u a) : t.FiledFor u := by
  cases a with
  | advance boot handler =>
    obtain ⟨-, ht⟩ := Option.ite_none_right_eq_some.1 hstep
    cases ht
    exact h
  | apply request pid condition =>
    cases hstep
    exact AllowService.filedFor_applyAllowResInner
  | unapply uid name allowType removeAll =>
    cases hstep
    exact h.unapply
  | release i =>
    obtain ⟨task, -, -, rfl⟩ := AllowService.step_release hstep
    exact AllowService.FiledFor.unapply (s := { s with tasks := s.tasks.eraseIdx i }) h
  | removeApp uid bundleName resetAll =>
    cases hstep
    unfold AllowService.removeAppAllowRecord
    split
    · exact h
    · exact h.unapply
  | reload processes monotonicTime =>
    obtain ⟨-, ht⟩ := Option.ite_none_right_eq_some.1 hstep
    cases ht
    exact h.reload
  | restart processes monotonicTime =>
    obtain ⟨-, ht⟩ := Option.ite_none_right_eq_some.1 hstep
    cases ht
    exact h.restart hkeeps

/-- An app is allowed a type only by a request for it. -/
theorem endTime?_none_step (hsound : s.Sound) (hfiled : s.FiledFor uid)
    (hstep : s.step resourceConfig a = some t)
    (happlies : (AppAction.allow a).applies uid name = false)
    (hnone : s.endTime? (mapKey uid name) k = none) : t.endTime? (mapKey uid name) k = none := by
  cases hreload : a.isReload with
  | false =>
    have hgrant : a.grant? resourceConfig s uid name k = none := by
      cases a with
      | apply request pid condition =>
        exact if_neg fun h => of_decide_eq_false happlies ⟨h.1, h.2.1⟩
      | _ => rfl
    obtain hsame | ⟨hgone, -⟩ :=
      (endTime?_step hsound.list.wellKept hstep hreload uid name k).2 hgrant
    · exact hsame.trans hnone
    · exact hgone
  | true =>
    cases a with
    | reload processes monotonicTime =>
      obtain ⟨-, ht⟩ := Option.ite_none_right_eq_some.1 hstep
      cases ht
      by_cases hprocesses : processes.getPidAndProcName.entries = []
      · rwa [parsePersistentData_eq_self (.inl hprocesses)]
      · rw [AllowService.endTime?, hfiled.lookup_reload hprocesses]
        rw [AllowService.endTime?] at hnone
        cases hlookup : s.allowInfoMap.lookup (mapKey uid name) with
        | none => rfl
        | some record =>
          rw [hlookup, Option.bind_some] at hnone
          rw [Option.filter_some]
          split_ifs
          · exact hnone
          · rfl
    | restart processes monotonicTime =>
      obtain ⟨-, ht⟩ := Option.ite_none_right_eq_some.1 hstep
      cases ht
      by_cases hprocesses : processes.getPidAndProcName.entries = []
      · rw [parsePersistentData_eq_self (.inl hprocesses)]
        rfl
      · rw [AllowService.endTime?]
        have hlookup' : (s.died.parsePersistentData processes monotonicTime).allowInfoMap.lookup
            (mapKey uid name) = _ := hfiled.lookup_restart hprocesses name
        rw [AllowService.died] at hlookup'
        rw [hlookup']
        rw [AllowService.endTime?] at hnone
        cases hlookup : s.allowInfoMap.lookup (mapKey uid name) with
        | none => rfl
        | some record =>
          have hreread : AllowService.reread record = some record :=
            parseFromJson_parseToJson (hsound.list.fits _ _ hlookup)
          rw [hlookup, Option.bind_some] at hnone
          rw [Option.bind_some, hreread, Option.filter_some]
          split_ifs
          · exact hnone
          · rfl
    | _ => cases hreload

/-- What a ready service leaves of the end times when it removes an app. -/
theorem endTime?_removeAppAllowRecord (hsound : s.Sound) (bundleName key : String) :
    (s.removeAppAllowRecord uid bundleName false).endTime? key k =
      if s.isServiceReady ∧ key = mapKey uid bundleName ∧
          (AllowService.removedTypes false).getLsbD k = true then none
      else s.endTime? key k := by
  unfold AllowService.removeAppAllowRecord
  cases s.isServiceReady with
  | false => rfl
  | true =>
    simp only [not_true_eq_false, if_false, true_and]
    rw [AllowService.endTime?_unapplyAllowResInner _ _ _ _ hsound.list.wellKept]
    by_cases hkey : key = mapKey uid bundleName
    · rw [if_pos hkey]
      cases hbit : (AllowService.removedTypes false).getLsbD k with
      | false =>
        rw [if_neg fun h => Bool.false_ne_true h.2]
        cases s.endTime? key k with
        | none => rfl
        | some e =>
          rw [Option.filter_some, isReleased, hbit, Bool.false_and, Bool.not_false, if_pos rfl]
      | true =>
        rw [if_pos ⟨hkey, rfl⟩]
        cases s.endTime? key k with
        | none => rfl
        | some e =>
          rw [Option.filter_some, isReleased, hbit, Bool.true_or, Bool.true_and, Bool.not_true]
          rfl
    · rw [if_neg hkey, if_neg fun h => hkey h.1]

end

/-! ## Apps that have ended -/

/-- The types that the end of an app takes from it. -/
theorem getLsbD_removedTypes {allowType : AllowType} :
    (AllowService.removedTypes false).getLsbD allowType.index = true ↔
      allowType ≠ .timer ∧ allowType ≠ .workScheduler := by
  cases allowType <;> decide

/-- The app holds none of the types that its end takes from it. -/
def AllowService.Cleared (uid : Int) (name : String) (s : AllowService) : Prop :=
  ∀ k, (AllowService.removedTypes false).getLsbD k = true → s.endTime? (mapKey uid name) k = none

/-- What holds throughout a run: an app that has ended holds nothing else, or its task is still
posted or has come to nothing. -/
structure AppService.Settling (s : AppService × AppEnds) : Prop where
  sound : s.1.allow.Sound
  filed : ∀ u, s.1.allow.FiledFor u
  departed : ∀ uid name, s.2 uid name = { ended := true } →
    AppTask.removeAppAllowRecord uid name ∈ s.1.appTasks ∨ s.1.allow.Cleared uid name

section
variable {resourceConfig : ResourceConfigMap} {s t : AppService × AppEnds} {a : AppAction}
  {task : AppTask} {uid : Int} {name : String}

/-- The observer posts a task for every app that it is told has ended. -/
theorem mem_posts_of_ends (h : a.ends uid name = true) :
    AppTask.removeAppAllowRecord uid name ∈ a.posts := by
  cases a with
  | processDied isRunning processData =>
    obtain ⟨rfl, rfl, rfl⟩ := of_decide_eq_true h
    exact List.mem_append_left _ List.mem_cons_self
  | applicationStateChanged appStateData =>
    obtain ⟨hstate, hvalid, rfl, rfl⟩ := of_decide_eq_true h
    rw [AppAction.posts, onApplicationStateChanged, if_neg (not_not_intro hvalid), if_pos hstate]
    exact List.mem_cons_self
  | _ => cases h

/-- An app that has ended after a step has not applied in it. Either it has ended in it, or before
it and the step does not miss its task. -/
theorem ends_after {s : AppService} {ends : AppEnds}
    (h : ends.after s a uid name = { ended := true }) :
    a.applies uid name = false ∧ (a.ends uid name = true ∨
      ends uid name = { ended := true } ∧ a.misses s uid name = false) := by
  unfold AppEnds.after at h
  cases happlies : a.applies uid name with
  | true =>
    rw [happlies] at h
    cases h
  | false =>
    refine ⟨rfl, ?_⟩
    cases hends : a.ends uid name with
    | true => exact .inl rfl
    | false =>
      rw [happlies, hends, if_neg Bool.false_ne_true, if_neg Bool.false_ne_true] at h
      obtain ⟨hended, hmissed⟩ := AppEnd.mk.inj h
      obtain ⟨hbefore, hmisses⟩ := Bool.or_eq_false_iff.1 hmissed
      refine .inr ⟨?_, hmisses⟩
      rw [← hended, ← hbefore]

/-- A step of the allow list. -/
theorem AppService.Settling.allow (h : Settling s) {a : AllowAction} {allow : AllowService}
    (hstep : s.1.allow.step resourceConfig a = some allow) (hok : (AppAction.allow a).Orderly s) :
    Settling ({ allow, appTasks := a.leaves s.1.appTasks }, s.2.after s.1 (.allow a)) := by
  refine ⟨h.sound.step hstep hok.1, fun u => (h.filed u).step hstep (hok.2 u),
    fun uid name hafter => ?_⟩
  obtain ⟨happlies, hends | ⟨hended, hmisses⟩⟩ := ends_after hafter
  · cases hends
  have hkept := (h.departed uid name hended).imp_right fun hcleared k hk =>
    endTime?_none_step h.sound (h.filed uid) hstep happlies (hcleared k hk)
  cases a with
  | restart processes monotonicTime =>
    exact .inr (hkept.resolve_left (of_decide_eq_false hmisses))
  | _ => exact hkept

/-- A notice posts the tasks of the apps that it says have ended. -/
theorem AppService.Settling.notice (h : Settling s) :
    Settling ({ s.1 with appTasks := s.1.appTasks ++ a.posts }, s.2.after s.1 a) := by
  refine ⟨h.sound, h.filed, fun uid name hafter => ?_⟩
  obtain ⟨-, hends | ⟨hended, -⟩⟩ := ends_after hafter
  · exact .inl (List.mem_append_right s.1.appTasks (mem_posts_of_ends hends))
  · exact (h.departed uid name hended).imp_left (List.mem_append_left a.posts)

/-- A message leaves the allow list as it is. -/
theorem AllowService.onProcessStatusChanged_spec (uid pid : Int) (bundleName : String)
    (isCreated : Bool) (s : AllowService) :
    ∃ messages, s.onProcessStatusChanged uid pid bundleName isCreated = { s with messages } := by
  unfold onProcessStatusChanged
  split
  · exact ⟨s.messages, rfl⟩
  · exact ⟨_, rfl⟩

/-- The first task runs. -/
theorem AppService.Settling.runTask (h : Settling s) {appTasks : List AppTask}
    (htasks : s.1.appTasks = task :: appTasks) :
    Settling ({ allow := task.run s.1.allow, appTasks }, s.2.after s.1 .runTask) := by
  cases task with
  | removeAppAllowRecord uid name =>
    have hstep : s.1.allow.step (fun _ => none) (.removeApp uid name false) =
        some (s.1.allow.removeAppAllowRecord uid name false) := rfl
    refine ⟨h.sound.step hstep trivial, fun u => (h.filed u).step hstep trivial,
      fun uid' name' (hafter : s.2.after s.1 .runTask uid' name' = _) => ?_⟩
    obtain ⟨-, hends | ⟨hended, hmisses⟩⟩ := ends_after hafter
    · cases hends
    have hkept : ∀ k, s.1.allow.endTime? (mapKey uid' name') k = none →
        (s.1.allow.removeAppAllowRecord uid name false).endTime? (mapKey uid' name') k = none :=
      fun k => endTime?_none_step h.sound (h.filed uid') hstep rfl
    obtain hmem | hcleared := h.departed uid' name' hended
    · rw [htasks] at hmem
      obtain heq | hmem := List.mem_cons.1 hmem
      · -- it is the task of this app, and the service is ready
        cases heq
        right
        intro k hk
        have hready : s.1.allow.isServiceReady = true := by
          rw [AppAction.misses, htasks, List.head?_cons, decide_eq_true rfl, Bool.true_and,
            Bool.not_eq_false'] at hmisses
          exact hmisses
        rw [AppTask.run, endTime?_removeAppAllowRecord h.sound, if_pos ⟨hready, rfl, hk⟩]
      · exact .inl hmem
    · exact .inr fun k hk => hkept k (hcleared k hk)
  | onProcessStatusChanged uid pid bundleName isCreated =>
    obtain ⟨messages, hrun⟩ :=
      s.1.allow.onProcessStatusChanged_spec uid pid bundleName isCreated
    rw [AppTask.run, hrun]
    refine ⟨⟨h.sound.list, h.sound.file, h.sound.clock⟩, h.filed,
      fun uid' name' (hafter : s.2.after s.1 .runTask uid' name' = _) => ?_⟩
    obtain ⟨-, hends | ⟨hended, -⟩⟩ := ends_after hafter
    · cases hends
    obtain hmem | hcleared := h.departed uid' name' hended
    · rw [htasks] at hmem
      exact .inl ((List.mem_cons.1 hmem).resolve_left nofun)
    · exact .inr hcleared

/-- A step keeps the apps that have ended from what they have lost. -/
theorem AppService.Settling.step (h : Settling s)
    (hs : (appSystem resourceConfig).step s a = some t) (hok : a.Orderly s) : Settling t := by
  rw [appSystem, Lts.System.withGhost_step_iff] at hs
  obtain ⟨hs, hends⟩ := hs
  obtain ⟨t, ends⟩ := t
  dsimp only at hs hends
  subst hends
  cases a with
  | allow a =>
    obtain ⟨allow, hstep, rfl⟩ := Option.map_eq_some_iff.1 hs
    exact h.allow hstep hok
  | processDied | processCreated | applicationStateChanged =>
    cases hs
    exact h.notice
  | ready isServiceReady =>
    cases hs
    refine ⟨⟨h.sound.list, h.sound.file, h.sound.clock⟩, h.filed,
      fun uid name (hafter : s.2.after s.1 (.ready isServiceReady) uid name = _) => ?_⟩
    obtain ⟨-, hends | ⟨hended, -⟩⟩ := ends_after hafter
    · cases hends
    · exact h.departed uid name hended
  | runTask =>
    dsimp only [AppService.step] at hs
    split at hs
    · cases hs
    · rename_i task appTasks htasks
      cases hs
      exact h.runTask htasks

/-- Over every run, an app that has ended and has not applied since holds no type but a timer and
the work scheduler, as soon as none of its removal tasks is left and if none has come to nothing
since; and a task takes nothing else, from no other app. -/
theorem departed_app_keeps (resourceConfig : ResourceConfigMap) {s : AppService × AppEnds}
    (h : Lts.ReachableUnder (appSystem resourceConfig) (fun s a => a.Orderly s) s) :
    (∀ uid name, (s.2 uid name).ended = true → (s.2 uid name).missed = false →
      AppTask.removeAppAllowRecord uid name ∉ s.1.appTasks →
      ∀ allowType : AllowType, allowType ≠ .timer → allowType ≠ .workScheduler →
        s.1.allow.endTime? (mapKey uid name) allowType.index = none) ∧
    ∀ t uid name, s.1.appTasks.head? = some (.removeAppAllowRecord uid name) →
      (appSystem resourceConfig).step s .runTask = some t →
      ∀ uid' name', ∀ allowType : AllowType,
        (uid', name') ≠ (uid, name) ∨ allowType = .timer ∨ allowType = .workScheduler →
          t.1.allow.endTime? (mapKey uid' name') allowType.index =
            s.1.allow.endTime? (mapKey uid' name') allowType.index := by
  have hinit : AppService.Settling (appSystem resourceConfig).init :=
    ⟨⟨AssocMap.Map.All.empty, .inl rfl, le_refl _⟩, fun u => ⟨∅, rfl, fun _ => rfl⟩, nofun⟩
  have hsettling : AppService.Settling s :=
    h.invariant hinit fun _ hok hs hsettling => hsettling.step hs hok
  constructor
  · intro uid name hended hmissed hnone allowType htimer hwork
    have hgone : s.2 uid name = { ended := true } := by
      rw [← hended, ← hmissed]
    exact (hsettling.departed uid name hgone).resolve_left hnone _
      (getLsbD_removedTypes.2 ⟨htimer, hwork⟩)
  · intro t uid name hhead hs uid' name' allowType hother
    obtain ⟨appTasks, htasks⟩ := List.head?_eq_some_iff.1 hhead
    rw [appSystem, Lts.System.withGhost_step_iff] at hs
    have hrun := hs.1
    dsimp only [AppService.step] at hrun
    rw [htasks] at hrun
    rw [← Option.some.inj hrun, AppTask.run, endTime?_removeAppAllowRecord hsettling.sound, if_neg]
    rintro ⟨-, hkey, hbit⟩
    obtain ⟨rfl, rfl⟩ := mapKey_inj hkey
    obtain ⟨htimer, hwork⟩ := getLsbD_removedTypes.1 hbit
    obtain hne | htype | htype := hother
    · exact hne rfl
    · exact htimer htype
    · exact hwork htype

end

/-- A configuration in which one process may have everything for a minute. -/
def generousConfig : ResourceConfigMap := fun _ =>
  some [{ conditions := [1], timeLtdProcesses := [{ name := "proc", maxDurationLim := 60 }] }]

/-- A request of that process for the network and a timer. -/
def networkRequest : ResourceRequest where
  allowType := AllowType.network.mask ||| AllowType.timer.mask
  uid := 7
  name := "proc"
  duration := 60

/-- The process is allowed both and dies: the timer is left. -/
theorem departed_app_keeps_sample :
    ∃ s, Lts.ReachableUnder (appSystem generousConfig) (fun s a => a.Orderly s) s ∧
      s.1.allow.endTime? (mapKey 7 "proc") AllowType.timer.index = some 60000 ∧
      s.1.allow.endTime? (mapKey 7 "proc") AllowType.network.index = none := by
  have hfits : (AllowAction.apply networkRequest 100 1).Fits {} :=
    ⟨by decide, by decide, by decide, by decide⟩
  have hmeets : (appSystem generousConfig).RunMeets (fun s a => a.Orderly s)
      (appSystem generousConfig).init
      [.allow (.apply networkRequest 100 1), .processDied (some false) ⟨7, 100, "proc"⟩,
        .runTask] :=
    ⟨⟨hfits, fun _ => trivial⟩, fun _ _ => ⟨trivial, fun _ _ => ⟨trivial, fun _ _ => trivial⟩⟩⟩
  obtain ⟨s, hs, ⟨hended, hmissed⟩, hnone, htimer⟩ := Lts.System.exists_run _ _ hmeets
    (fun s => ((s.2 7 "proc").ended = true ∧ (s.2 7 "proc").missed = false) ∧
      AppTask.removeAppAllowRecord 7 "proc" ∉ s.1.appTasks ∧
      s.1.allow.endTime? (mapKey 7 "proc") AllowType.timer.index = some 60000) (by decide +kernel)
  exact ⟨s, hs, htimer, (departed_app_keeps generousConfig hs).1 7 "proc" hended hmissed hnone
    .network (by decide) (by decide)⟩

end DeviceStandby
